import BatchFormat.Engine.Home
import BatchFormat.Journal
import BatchFormat.Plan
import BatchFormat.Tree.Directories

/-!
# Sessions

One or more calls of the command line, one after the other. The journal goes on from call to call:
a log file that one call opened gets the records of the next as well.
-/
namespace BatchFormat

structure Session where
  registry : Registry
  journal : Journal
  tree : Tree

/-- What a call prints beside the records: the time in front of lines in log files, and what is
told of a failure to those who want to know everything. -/
structure Wording where
  stamp : String
  trace : Failure → String

/-- How a call ends: with a status, or with an error that nobody expected; and the texts that it
printed. -/
structure Call where
  ending : Except SystemError Nat
  output : String
  errors : String

namespace Session

/-- A session in which nothing was called yet. -/
def start (registry : Registry) (t : Tree) : Session := ⟨registry, .start, t⟩

def makeRoom (host : Host) (logFile? : Option String) (t : Tree) :
    Except SystemError Unit × Tree :=
  match logFile? with
  | none => (.ok (), t)
  | some name =>
    if name = "" then (.ok (), t)
    else
      match host.expandHome (Path.ofString name) >>= t.resolve host.cwd with
      | .error e => (.error e, t)
      | .ok place => t.makeDirectories place.dropLast

/-- The host of a call, whose records go to the log files. -/
def hostOf (host : Host) (wording : Wording) (j : Journal) : Host :=
  { host with echo := j.echo wording.stamp }

/-- Prepares and executes what is asked for. -/
def work (registry : Registry) (host : Host) (i : Invocation) (w : World) :
    Except Failure Nat × World :=
  match Plan.prepare registry host i w with
  | (.error e, w) => (.error e, w)
  | (.ok plan, w) => plan.execute host w

/-- Does the work and reports a failure of it; the status is one then. -/
def guarded (registry : Registry) (host : Host) (wording : Wording) (i : Invocation) (w : World) :
    Nat × World :=
  match work registry host i w with
  | (.ok status, w) => (status, w)
  | (.error e, w) =>
    let w := w.say host (.error e.message)
    (1, if i.isVerbose then w.say host (.error (wording.trace e)) else w)

/-- Runs what is asked for, once the journal is set up. -/
def run (s : Session) (host : Host) (wording : Wording) (i : Invocation) : Call × Session :=
  match makeRoom host i.logFile? s.tree with
  | (.error e, t) => (⟨.error e, "", ""⟩, { s with tree := t })
  | (.ok (), t) =>
    match s.journal.setUp host.cwd i.debug i.logFile? i.verbosity t with
    | (.error e, j, t) => (⟨.error e, "", ""⟩, { s with journal := j, tree := t })
    | (.ok (), j, t) =>
      let host := hostOf host wording j
      let (status, w) := guarded s.registry host wording i (World.ofTree t)
      (⟨.ok status, "", j.transcript w.log⟩,
        { s with journal := j.detach w.replaced.contains, tree := w.tree })

def call (s : Session) (host : Host) (wording : Wording) (arguments : List String) :
    Call × Session :=
  match CommandLine.gather s.registry arguments with
  | .listed output => (⟨.ok 0, output, ""⟩, s)
  | .ended status output errors => (⟨.ok status, output, errors⟩, s)
  | .run i => s.run host wording i

end Session
end BatchFormat
