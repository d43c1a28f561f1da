import BatchFormat.Rejection
import BatchFormat.Summary

/-!
# Failures

Everything that can end an operation of the formatter, each cause with the message it is reported
by.
-/
namespace BatchFormat

inductive WordsFlaw where
  | openQuotation | openEscape
  deriving DecidableEq, Repr

/-- Waiting times that no clock can measure, the last one because it is too great for a number. -/
inductive ClockFlaw where
  | undefined | endless | tooLong | beyondRange | beyondNumbers
  deriving DecidableEq, Repr

inductive Failure where
  | system (cause : SystemError)
  | notUtf8 (flaw : Text.Flaw)
  | noTarget (path : String)
  /-- The hint is given where a person asked for the profile. -/
  | noProfile (path : String) (hint : Bool)
  | badProfile (detail : String)
  | noProgram (word : String)
  | noEclipse (executable : String)
  | noCommandGiven
  | badWords (flaw : WordsFlaw)
  | unknownProvider (name : String) (known : List String)
  | nameless (origin : String)
  | unexpectedOption (origin option : String)
  | blankExtension
  | badKind (text : String)
  | clock (flaw : ClockFlaw)
  /-- An engine broke down with a message of its own. -/
  | crashed (message : String)
  | rejected (cause : Rejection)
  | partialFailure (summary : Summary)
  deriving DecidableEq, Repr

def WordsFlaw.message : WordsFlaw → String
  | openQuotation => "No closing quotation"
  | openEscape => "No escaped character"

def ClockFlaw.message : ClockFlaw → String
  | undefined => "cannot convert float NaN to integer"
  | endless => "cannot convert float infinity to integer"
  | tooLong => "timeout is too large"
  | beyondRange => "timestamp too large to convert to C _PyTime_t"
  | beyondNumbers => "int too large to convert to float"

def eclipseVariable : String := "ECLIPSE_FORMATTER_EXECUTABLE"

namespace Failure

def profileHint : String :=
  ". Please create an Eclipse formatter configuration file or specify one with -c"

def message : Failure → String
  | system cause => cause.message
  | notUtf8 flaw => flaw.message
  | noTarget path => s!"Target does not exist: {path}"
  | noProfile path hint => s!"Config file not found: {path}" ++ if hint then profileHint else ""
  | badProfile detail => s!"Failed to parse Eclipse formatter configuration: {detail}"
  | noProgram word => s!"Formatter command not found: {word}"
  | noEclipse executable =>
    s!"Eclipse executable not found: {executable} (use --eclipse or set {eclipseVariable})"
  | noCommandGiven => "The command provider requires --formatter-command"
  | badWords flaw => flaw.message
  | unknownProvider name known =>
    s!"Unknown provider: {name} (available: " ++ String.intercalate ", " known ++ ")"
  | nameless origin => s!"{origin} does not define NAME"
  | unexpectedOption origin option =>
    s!"{origin}.__init__() got an unexpected keyword argument '{option}'"
  | blankExtension => "Extension must not be empty"
  | badKind text => s!"{Text.quoted text} is not a valid PathKind"
  | clock flaw => flaw.message
  | crashed message => message
  | rejected cause => cause.message
  | partialFailure summary => summary.failureMessage

end Failure
end BatchFormat
