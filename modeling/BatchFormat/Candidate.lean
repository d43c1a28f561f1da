import BatchFormat.Failure

/-!
# Candidates

What a traversal meets: a path together with whether it is a file or a directory.
-/
namespace BatchFormat

inductive Kind where
  | file | directory
  deriving DecidableEq, Repr

namespace Kind

def text : Kind → String
  | file => "file"
  | directory => "directory"

def ofString (s : String) : Except Failure Kind :=
  if s = file.text then .ok file
  else if s = directory.text then .ok directory
  else .error (.badKind s)

end Kind

structure Candidate where
  path : Path
  kind : Kind
  deriving DecidableEq, Repr

def Candidate.isFile (c : Candidate) : Bool := c.kind == .file

end BatchFormat
