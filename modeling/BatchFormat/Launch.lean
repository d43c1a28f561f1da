import BatchFormat.Failure
import BatchFormat.Tree.Basic

/-!
# Starting programs

What is asked of the system when a program is started, and what can come of it.
-/
namespace BatchFormat

/-- The words of a command line, the bytes the program can read, and the seconds it may take. -/
structure Request where
  words : List String
  input : Bytes
  limit : Binary
  deriving DecidableEq, Repr

inductive Outcome where
  | notStarted (cause : SystemError)
  /-- The program was started, but the limit is no time that can be waited for. -/
  | badLimit (flaw : ClockFlaw)
  | overtime
  /-- Zero means success; death by a signal is the negative of its number. -/
  | ended (status : Int) (output errors : Bytes)
  deriving DecidableEq, Repr

/-- How programs are started; a program may change files. -/
abbrev Launcher := Request → Tree → Outcome × Tree

end BatchFormat
