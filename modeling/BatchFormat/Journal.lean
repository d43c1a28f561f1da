import BatchFormat.Tree.Real
import BatchFormat.World

/-!
# The journal

Where the records of a run are shown: on the console, and in the log files that were opened so far.
Setting up again changes how much the console shows, and adds a log file if one is asked for; it
never closes one.
-/
namespace BatchFormat

/-- What the console shows: records from a level on, with or without their levels. -/
structure Console where
  level : Level
  labelled : Bool
  deriving DecidableEq, Repr

/-- How much is shown for a level of detail: everything with its level from two on, else what a
person wants to know. -/
def Console.ofDetail (detail : Int) : Console :=
  if detail ≥ 2 then ⟨.debug, true⟩ else ⟨.info, false⟩

def Console.line (c : Console) (r : Record) : String :=
  (if c.labelled then r.labelled else r.message) ++ "\n"

/-- A log file by the place where it was opened. A file that was moved or removed since is not
reached through that place any more. -/
structure LogFile where
  place : Location
  isReached : Bool
  deriving DecidableEq, Repr

/-- Records below `level` go nowhere. -/
structure Journal where
  level : Level
  console? : Option Console
  files : List LogFile
  deriving DecidableEq, Repr

namespace Journal

/-- The journal before it is set up. -/
def start : Journal := ⟨.warning, none, []⟩

def fileLevel : Level := .debug

/-- The level that is shown where nothing was set up. -/
def lastResort : Level := .warning

/-- What the console shows of a record. Before the first set-up, warnings appear as they are. -/
def shown (j : Journal) (r : Record) : String :=
  if !r.level.reaches j.level then ""
  else
    match j.console? with
    | some c => if r.level.reaches c.level then c.line r else ""
    | none => if r.level.reaches lastResort then r.message ++ "\n" else ""

/-- The text in the console after some records. -/
def transcript (j : Journal) (records : List Record) : String :=
  String.join (records.map j.shown)

def fileLine (stamp : String) (r : Record) : String :=
  s!"{stamp} | {r.level.name} | {r.message}\n"

/-- Adds text at the end of a file. -/
def append (text : String) (place : Location) (t : Tree) : Tree :=
  match t.get? place with
  | some (.file bytes mode) => t.put place (.file (bytes ++ Text.encode text) mode)
  | _ => t

/-- Copies records to the log files. -/
def echo (j : Journal) (stamp : String) : Echo := fun replaced r t =>
  if r.level.reaches j.level && r.level.reaches fileLevel then
    j.files.foldl (fun t f =>
      if f.isReached && !replaced.contains f.place then append (fileLine stamp r) f.place t
      else t) t
  else t

/-- Notes that the files at some places are not what they were. -/
def detach (j : Journal) (isLost : Location → Bool) : Journal :=
  { j with files := j.files.map fun f => ⟨f.place, f.isReached && !isLost f.place⟩ }

def setDetail (j : Journal) (detail : Int) : Journal :=
  let c := Console.ofDetail detail
  { j with level := c.level, console? := some c }

/-- Adds a log file; then nothing is held back from it. -/
def addFile (j : Journal) (place : Location) : Journal :=
  { j with level := fileLevel, files := j.files ++ [⟨place, true⟩] }

/-- The path of a log file: from the top, with double dots taken away by name. -/
def filePath (cwd : Location) (name : String) : Path :=
  let p := (Path.ofString name).absolute cwd
  { p with parts := Tree.fold p.parts }

def fileMode : Nat := 0o644

/-- Opens a log file, which is made if it is missing. -/
def openFile (t : Tree) (p : Path) : Except SystemError (Location × Tree) :=
  if Path.holdsNul p.text then .error .nulInPath
  else if p.text.utf8ByteSize ≤ Tree.pathLimit ∧ t.asksForDirectory Tree.linkLimit [] p.parts then
    .error (.refused .isDirectory p.text)
  else
    match t.locate [] true p with
    | .ok (.found _ (.dir _)) => .error (.refused .isDirectory p.text)
    | .ok (.found place _) => .ok (place, t)
    | .ok (.vacant place) => .ok (place, t.put place (.file [] fileMode))
    | .error cause => .error (.refused cause p.text)

/-- Sets the journal up. A log file that cannot be opened is an error, but the console is set
already then. -/
def setUp (j : Journal) (cwd : Location) (debug : Bool) (logFile? : Option String) (detail : Int)
    (t : Tree) : Except SystemError Unit × Journal × Tree :=
  let j := j.setDetail (if debug then 2 else detail)
  match logFile? with
  | none => (.ok (), j, t)
  | some name =>
    if name = "" then (.ok (), j, t)
    else
      match openFile t (filePath cwd name) with
      | .error e => (.error e, j, t)
      | .ok (place, t) => (.ok (), j.addFile place, t)

end Journal
end BatchFormat
