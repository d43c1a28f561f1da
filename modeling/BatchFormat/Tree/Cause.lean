import BatchFormat.Text.Quoted

/-!
# Refusals of the file system

The causes for which a request on a tree is refused, and the errors built from them.
-/
namespace BatchFormat

inductive Cause where
  | noEntry | badFormat | denied | busy | present | notDirectory | isDirectory | nameTooLong
  | tooManyLinks
  /-- Any other cause, with its number and what it means. -/
  | other (number : Nat) (meaning : String)
  /-- The system as a whole is short of something: no path is to blame. -/
  | shortage (number : Nat) (meaning : String)
  deriving DecidableEq, Repr

namespace Cause

def number : Cause → Nat
  | noEntry => 2
  | badFormat => 8
  | denied => 13
  | busy => 16
  | present => 17
  | notDirectory => 20
  | isDirectory => 21
  | nameTooLong => 36
  | tooManyLinks => 40
  | other number _ | shortage number _ => number

def description : Cause → String
  | noEntry => "No such file or directory"
  | badFormat => "Exec format error"
  | denied => "Permission denied"
  | busy => "Device or resource busy"
  | present => "File exists"
  | notDirectory => "Not a directory"
  | isDirectory => "Is a directory"
  | nameTooLong => "File name too long"
  | tooManyLinks => "Too many levels of symbolic links"
  | other _ meaning | shortage _ meaning => meaning

/-- The causes that mean "nothing is there", for which an existence test answers no. -/
def isAbsence : Cause → Bool
  | noEntry | notDirectory | tooManyLinks => true
  | _ => false

/-- Whether a refusal for this cause names the path that was asked for. -/
def namesPath : Cause → Bool
  | shortage .. => false
  | _ => true

end Cause

/-- What a request on the file system can end with instead of an answer. -/
inductive SystemError where
  | refused (cause : Cause) (path : String)
  | moveRefused (cause : Cause) (source target : String)
  /-- The device gave up while a file was moved into place. -/
  | diskFull
  | noFreeName
  | nulInPath
  | linkLoop (path : String)
  | noHome
  deriving DecidableEq, Repr

namespace SystemError

def describe (cause : Cause) : String := s!"[Errno {cause.number}] {cause.description}"

def message : SystemError → String
  | refused cause path =>
    if cause.namesPath then s!"{describe cause}: {Text.quoted path}" else describe cause
  | moveRefused cause source target =>
    s!"{describe cause}: {Text.quoted source} -> {Text.quoted target}"
  | diskFull => "disk full"
  | noFreeName => "[Errno 17] No usable temporary file name found"
  | nulInPath => "embedded null byte"
  | linkLoop path => s!"Symlink loop from {Text.quoted path}"
  | noHome => "Could not determine home directory."

/-- Whether the system itself refused, in contrast to a path that was never passed to it. -/
def isRefusal : SystemError → Bool
  | refused .. | moveRefused .. | diskFull | noFreeName => true
  | nulInPath | linkLoop _ | noHome => false

end SystemError
end BatchFormat
