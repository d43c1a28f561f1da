import BatchFormat.Path
import BatchFormat.Tree.Cause

/-!
# Failing devices

Which requests fail although the tree would allow them. Each request is chosen by the path that it
is made for: listing a directory and reading a file by the path that a traversal comes to, the four
requests that replace a file by the real path of the file.
-/
namespace BatchFormat

/-- The directories that cannot be listed, the files that cannot be read, and those for which one
of the four requests fails that replace a file, in the order in which they are made. Writing fails
after some of the bytes. -/
structure Faults where
  list : Path → Bool
  read : Path → Bool
  create : Path → Bool
  write : Path → Option Nat
  mode : Path → Bool
  replace : Path → Bool

/-- A device on which nothing fails. -/
def Faults.none : Faults :=
  let never : Path → Bool := fun _ => false
  ⟨never, never, never, fun _ => .none, never, never⟩

end BatchFormat
