import BatchFormat.Extension
import BatchFormat.Gateway
import BatchFormat.Traverse
import BatchFormat.Tree.Read

/-!
# Formatting a tree

Sends every eligible file below a root through the gateway and replaces those that change. A file
that fails is counted and reported, and the others are processed all the same.
-/
namespace BatchFormat

structure Walker where
  gateway : Gateway
  eligible : Eligibility

/-- The world during a walk, and the totals so far. -/
structure Run where
  world : World
  summary : Summary

/-- A finished walk: what it left, and why it ended if not with success. -/
structure Report where
  run : Run
  failure? : Option Failure

namespace Walker

/-- Reads a file, formats it and puts the result in its place unless the run is a dry one. -/
def attempt (w : Walker) (host : Host) (dryRun : Bool) (p : Path) (world : World) :
    Except Failure Transformed × World :=
  match world.tree.readText host.faults host.cwd p with
  | .error e => (.error e, world)
  | .ok text =>
    match w.gateway.apply text world with
    | (.error e, world) => (.error e, world)
    | (.ok result, world) =>
      if result.changed && !dryRun then
        match world.replaceFile host p result.content with
        | (.error e, world) => (.error (.system e), world)
        | (.ok (), world) => (.ok result, world)
      else (.ok result, world)

/-- The record about a file that did not fail. -/
def verdict (dryRun changed : Bool) (shown : String) : Record :=
  match changed, dryRun with
  | true, true => .info s!"[DRY RUN] Would format: {shown}"
  | true, false => .info s!"Formatted: {shown}"
  | false, true => .debug s!"[DRY RUN] No changes needed: {shown}"
  | false, false => .debug s!"No changes needed: {shown}"

def processFile (w : Walker) (host : Host) (dryRun : Bool) (p : Path) (run : Run) : Run :=
  let shown := host.shown p
  let summary := run.summary.recordProcessed
  match w.attempt host dryRun p (run.world.say host (.debug s!"Formatting file: {shown}")) with
  | (.error e, world) =>
    ⟨world.say host (.error s!"Error formatting {shown}: {e.message}"),
      summary.recordError p e.message⟩
  | (.ok result, world) =>
    ⟨world.say host (verdict dryRun result.changed shown),
      if result.changed then summary.recordChanged p else summary⟩

/-- Takes a candidate: directories are passed over, and so are files that are not eligible. -/
def meet (w : Walker) (host : Host) (dryRun : Bool) (c : Candidate) (run : Run) : Run :=
  if !c.isFile then run
  else if w.eligible c.path then w.processFile host dryRun c.path run
  else
    { run with
      world := run.world.say host (.debug s!"Skipping non-matching file: {host.shown c.path}") }

def missListing (host : Host) (p : Path) (e : SystemError) (run : Run) : Run :=
  ⟨run.world.say host (.error s!"Error reading directory {host.shown p}: {e.message}"),
    run.summary.recordError p e.message⟩

def visitor (w : Walker) (host : Host) (dryRun : Bool) : Visitor Run where
  tree := fun run => run.world.tree
  visit := w.meet host dryRun
  unlisted? := some (missListing host)

/-- Notes that a directory is about to be formatted. -/
def announce (host : Host) (root : Path) (isDir : Bool) (world : World) : World :=
  if isDir then world.say host (.debug s!"Formatting directory: {host.shown root}") else world

/-- What a traversal that came to its end, or was stopped, means for the walk. -/
def conclude (progress : Progress Run) : Report :=
  let run := progress.state
  match progress.stopped with
  | some e => ⟨run, some (.system e)⟩
  | none => ⟨run, if run.summary.ok then none else some (.partialFailure run.summary)⟩

/-- Processes every eligible file at or below a root. -/
def run (w : Walker) (host : Host) (root : Path) (recursive dryRun : Bool) (world : World) :
    Report :=
  let still (e : Failure) : Report := ⟨⟨world, .empty⟩, some e⟩
  match world.tree.pathExists host.cwd root with
  | .error e => still (.system e)
  | .ok false => still (.noTarget (host.shown root))
  | .ok true =>
    match world.tree.isDir host.cwd root with
    | .error e => still (.system e)
    | .ok isDir =>
      conclude ((w.visitor host dryRun).run host.faults host.cwd recursive root
        ⟨announce host root isDir world, .empty⟩)

end Walker
end BatchFormat
