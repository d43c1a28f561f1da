import BatchFormat.Path

/-!
# Totals of a run

Counts what a run did with the files it met, and keeps which of them changed and which failed.
-/
namespace BatchFormat

/-- `errors` has one message for each path, the latest one, in the order of the first failures. -/
structure Summary where
  processed : Nat
  changed : Nat
  failed : Nat
  changedFiles : List Path
  errors : List (Path × String)
  deriving DecidableEq, Repr

namespace Summary

def empty : Summary := ⟨0, 0, 0, [], []⟩

def recordProcessed (s : Summary) : Summary := { s with processed := s.processed + 1 }

def recordChanged (s : Summary) (p : Path) : Summary :=
  { s with changed := s.changed + 1, changedFiles := s.changedFiles ++ [p] }

/-- Sets the message of a path, in its old position if it had one. -/
def setMessage (p : Path) (message : String) : List (Path × String) → List (Path × String)
  | [] => [(p, message)]
  | (q, old) :: rest =>
    if q = p then (p, message) :: rest else (q, old) :: setMessage p message rest

def recordError (s : Summary) (p : Path) (message : String) : Summary :=
  { s with failed := s.failed + 1, errors := setMessage p message s.errors }

def ok (s : Summary) : Bool := s.failed == 0

/-- The totals in one line, as they end a run. -/
def line (processed changed failed : Int) (dryRun : Bool) : String :=
  let verb := if dryRun then "would change" else "changed"
  let parts := [s!"{processed} processed", s!"{changed} {verb}"]
  String.intercalate ", " (if failed = 0 then parts else parts ++ [s!"{failed} failed"])

def failureMessage (s : Summary) : String :=
  s!"{s.failed} file(s) failed ({s.processed} processed, {s.changed} changed)"

end Summary
end BatchFormat
