import BatchFormat.Failure
import BatchFormat.Tree.Faults
import BatchFormat.Tree.Locate

/-!
# Reading text
-/
namespace BatchFormat.Tree

/-- The bytes of the file that a path leads to. A pipe that nobody writes to has none. -/
def readBytes (t : Tree) (faults : Faults) (cwd : Location) (p : Path) :
    Except SystemError Bytes :=
  if faults.read p then .error (.refused .denied p.text)
  else
    match t.entryAt? cwd true p with
    | .error e => .error e
    | .ok (_, .file bytes _) => .ok bytes
    | .ok (_, .dir _) => .error (.refused .isDirectory p.text)
    | .ok (_, _) => .ok []

/-- The text of a file, with its line ends as they are. -/
def readText (t : Tree) (faults : Faults) (cwd : Location) (p : Path) : Except Failure String :=
  match t.readBytes faults cwd p with
  | .error e => .error (.system e)
  | .ok bytes =>
    match Text.decode bytes with
    | .error flaw => .error (.notUtf8 flaw)
    | .ok text => .ok text

end BatchFormat.Tree
