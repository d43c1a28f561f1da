import BatchFormat.Engine.Rules
import BatchFormat.Session
import BatchFormat.Shell.Launch
import Std.Time

/-!
# The program

Reads the files below the current directory, answers the command line, and writes back what has
changed.
-/
namespace BatchFormat.Program

/-- The names that lead to a path from the top. -/
def placeOf (path : String) : Location := Tree.fold (Path.ofString path).parts

/-- The mode of what is read; the modes on the disk are left as they are. -/
def assumedMode : Nat := 0o755

/-- Where a link leads. One that leads nowhere is taken as one that leads to itself. -/
def targetOf (path : String) : IO String := do
  try
    return (← IO.FS.realPath path).toString
  catch _ => return path

/-- Reads everything below a directory. Links are kept as links and not entered. -/
partial def load (path : String) (t : Tree) : IO Tree := do
  let dir ← IO.FS.realPath path
  let mut t := t
  for e in ← dir.readDir do
    let below := e.path.toString
    match (← e.path.symlinkMetadata).type with
    | .dir => t ← load below (t.put (placeOf below) (.dir assumedMode))
    | .file =>
      let bytes ← IO.FS.readBinFile below
      t := t.put (placeOf below) (.file bytes.toList assumedMode)
    | .symlink => t := t.put (placeOf below) (.link (← targetOf below))
    | .other => t := t.put (placeOf below) (.fifo assumedMode)
  return t

/-- Writes back what differs between two trees. -/
def save (before after : Tree) : IO Unit := do
  for (place, entry) in after.entries do
    if before.get? place ≠ some entry then
      match entry with
      | .dir _ => IO.FS.createDirAll (Path.ofNames place).text
      | .file bytes _ => IO.FS.writeBinFile (Path.ofNames place).text (ByteArray.mk bytes.toArray)
      | .link _ | .fifo _ => pure ()
  for (place, entry) in before.entries do
    if (after.get? place).isNone ∧ entry.isFile then IO.FS.removeFile (Path.ofNames place).text

/-- The variables that a call looks at, as far as they are set. -/
def surroundings : IO Environment := do
  let names := [Lookup.searchVariable, Host.homeVariable, eclipseVariable]
  let found ← names.mapM fun name => return (name, ← IO.getEnv name)
  return found.filterMap fun (name, value?) => value?.map (name, ·)

def marks : IO (List String) := do
  (List.range 16).mapM fun _ => return toString (10000000 + (← IO.rand 0 89999999))

def stamp : IO String := do
  let now ← Std.Time.PlainDateTime.now
  return now.format "uuuu-MM-dd HH:mm:ss"

def answer (arguments : List String) : IO UInt32 := do
  let here := (← IO.FS.realPath ".").toString
  let environment ← surroundings
  let marks ← marks
  let scratch := placeOf ("/tmp/eclipseformat-" ++ marks.headD "")
  let start := (Shell.Known.install .empty).putParents (placeOf here ++ ["."])
  let before ← load here start
  let host : Host :=
    { cwd := placeOf here
      environment := environment
      faults := Faults.none
      marks := marks.filter fun mark => mark.utf8ByteSize = 8
      marks_size := by simp
      scratch := scratch
      launch := Shell.Launch.launcher (placeOf here) environment
      echo := Echo.silent }
  let wording : Wording := ⟨← stamp, fun e => s!"The run ended early: {e.message}"⟩
  let (call, session) := (Session.start .builtIn before).call host wording arguments
  save before session.tree
  IO.print call.output
  IO.eprint call.errors
  match call.ending with
  | .ok status => return status.toUInt32
  | .error e =>
    IO.eprintln e.message
    return 1

end BatchFormat.Program

def main (arguments : List String) : IO UInt32 := BatchFormat.Program.answer arguments
