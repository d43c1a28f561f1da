import BatchFormat.Text.Quoted

/-!
# Switches

The switches of the command line: how each is written, whether it takes a value, and what can be
wrong in their use.
-/
namespace BatchFormat.CommandLine

inductive Switch where
  | help | config | dryRun | recursive | verbose | extension | provider | eclipse
  | formatterCommand | timeout | debug | logFile | list | version
  deriving DecidableEq, Repr

/-- All spellings, in the order in which they are listed. -/
def spellings : List (String × Switch) :=
  [("-h", .help), ("--help", .help), ("-c", .config), ("--config", .config), ("-d", .dryRun),
    ("--dry-run", .dryRun), ("-r", .recursive), ("--recursive", .recursive), ("-v", .verbose),
    ("--verbose", .verbose), ("--extension", .extension), ("--provider", .provider),
    ("--eclipse", .eclipse), ("--formatter-command", .formatterCommand), ("--timeout", .timeout),
    ("--debug", .debug), ("--log-file", .logFile), ("--list", .list), ("--version", .version)]

namespace Switch

def takesValue : Switch → Bool
  | config | extension | provider | eclipse | formatterCommand | timeout | logFile | list => true
  | help | dryRun | recursive | verbose | debug | version => false

/-- All spellings of a switch, as messages show them. -/
def label (s : Switch) : String :=
  String.intercalate "/" ((spellings.filter fun e => e.2 == s).map Prod.fst)

end Switch

/-- What can be wrong with a command line. -/
inductive Misuse where
  | ambiguous (written : String) (matching : List String)
  | valueMissing (s : Switch)
  | valueIgnored (s : Switch) (value : String)
  | notANumber (s : Switch) (value : String)
  | notAChoice (s : Switch) (value : String) (choices : List String)
  | unrecognized (arguments : List String)
  | targetMissing
  deriving DecidableEq, Repr

namespace Misuse

def about (s : Switch) (text : String) : String := s!"argument {s.label}: {text}"

def message : Misuse → String
  | ambiguous written matching =>
    s!"ambiguous option: {written} could match " ++ String.intercalate ", " matching
  | valueMissing s => about s "expected one argument"
  | valueIgnored s value => about s s!"ignored explicit argument {Text.quoted value}"
  | notANumber s value => about s s!"invalid float value: {Text.quoted value}"
  | notAChoice s value choices =>
    let listed := String.intercalate ", " (choices.map Text.quoted)
    about s s!"invalid choice: {Text.quoted value} (choose from {listed})"
  | unrecognized arguments => "unrecognized arguments: " ++ String.intercalate " " arguments
  | targetMissing => "the following arguments are required: TARGET"

end Misuse
end BatchFormat.CommandLine
