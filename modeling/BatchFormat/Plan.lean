import BatchFormat.CommandLine.Help
import BatchFormat.Profile
import BatchFormat.Walk

/-!
# Plans

Everything a run needs, found and checked before the first file is touched; then the run itself,
with the exit status it earns.
-/
namespace BatchFormat

/-- A run that is ready to start. -/
structure Plan where
  invocation : Invocation
  walker : Walker

namespace Plan

def flagWord (flag : Bool) : String := if flag then "True" else "False"

/-- What is asked for, as the first records tell it. -/
def heading (host : Host) (i : Invocation) : List Record :=
  [.debug s!"Eclipse Formatter CLI v{CommandLine.versionText}",
    .debug s!"Target: {host.shown i.target}",
    .debug s!"Config: {host.shown i.profile}",
    .debug s!"Dry run: {flagWord i.dryRun}",
    .debug s!"Recursive: {flagWord i.recursive}"]

def options (i : Invocation) : Options :=
  let given : Option String → OptionValue
    | some text => .text text
    | none => .none
  if i.provider = Eclipse.name then
    [("executable", given i.eclipse?), ("timeout", .number i.limit)]
  else if i.provider = Command.name then
    [("command", given i.formatterCommand?), ("timeout", .number i.limit)]
  else []

/-- Makes the engine that is asked for and checks that it can work. -/
def engine (registry : Registry) (host : Host) (i : Invocation) (w : World) :
    Except Failure Engine := do
  let provider ← registry.get host.environment i.provider (options i)
  let engine := provider.engine host
  engine.check w
  return engine

/-- Shows a rejection, where details are wanted. -/
def sink (host : Host) : Sink := fun r w =>
  w.say host (.warning s!"Formatting error: {r.message}")

/-- Whether target and profile are there. -/
def checkPaths (host : Host) (i : Invocation) (t : Tree) : Except Failure Unit := do
  let hasTarget ← (t.pathExists host.cwd i.target).mapError Failure.system
  if !hasTarget then throw (.noTarget (host.shown i.target))
  let hasProfile ← (t.pathExists host.cwd i.profile).mapError Failure.system
  if !hasProfile then throw (.noProfile (host.shown i.profile) true)

def prepare (registry : Registry) (host : Host) (i : Invocation) (w : World) :
    Except Failure Plan × World :=
  let w := (heading host i).foldl (fun w r => w.say host r) w
  match checkPaths host i w.tree with
  | .error e => (.error e, w)
  | .ok () =>
    match Profile.load host i.profile w with
    | (.error e, w) => (.error e, w)
    | (.ok settings, w) =>
      match engine registry host i w with
      | .error e => (.error e, w)
      | .ok engine =>
        let w := w.say host (.debug s!"Provider: {engine.name}")
        let gateway : Gateway := ⟨engine, settings, if i.isVerbose then some (sink host) else none⟩
        match Eligibility.ofExtension i.extension with
        | .error e => (.error e, w)
        | .ok eligible => (.ok ⟨i, ⟨gateway, eligible⟩⟩, w)

/-- The records after a run on a directory. -/
def closing (i : Invocation) (s : Summary) : List Record :=
  let files := s!"Formatted {s.changed} files" ++ if i.dryRun then " (dry run)" else ""
  if i.dryRun && s.changed == 0 && s.failed == 0 then
    [.info "[DRY RUN] No files would be formatted", .debug files]
  else [.debug files]

/-- The record that ends every run. -/
def totals (i : Invocation) (s : Summary) : Record :=
  .debug ("Summary: " ++ Summary.line s.processed s.changed s.failed i.dryRun)

def tell (host : Host) (i : Invocation) (s : Summary) (w : World) : Except Failure Unit × World :=
  match w.tree.isDir host.cwd i.target with
  | .error e => (.error (.system e), w)
  | .ok isDir =>
    let records := (if isDir then closing i s else []) ++ [totals i s]
    (.ok (), records.foldl (fun w r => w.say host r) w)

/-- Runs a plan. The status is one if a file or a listing failed, else zero. -/
def execute (plan : Plan) (host : Host) (w : World) : Except Failure Nat × World :=
  let i := plan.invocation
  let report := plan.walker.run host i.target i.recursive i.dryRun w
  let finish (status : Nat) (w : World) : Except Failure Nat × World :=
    let (outcome, w) := tell host i report.run.summary w
    (outcome.map fun () => status, w)
  match report.failure? with
  | none => finish 0 report.run.world
  | some (.partialFailure s) =>
    finish 1 (report.run.world.say host (.error s!"Encountered {s.failed} errors"))
  | some e => (.error e, report.run.world)

end Plan
end BatchFormat
