import BatchFormat.CommandLine.Parse

/-!
# Help, and answers to the command line
-/
namespace BatchFormat.CommandLine

def programName : String := "eclipse-format"

def versionText : String := "0.1.0"

/-- How the program is called, in lines. -/
def usageLines : List String :=
  ["usage: eclipse-format [-h] [-c CONFIG] [-d] [-r] [-v] [--extension EXTENSION]",
    "                      [--provider PROVIDER] [--eclipse PATH]",
    "                      [--formatter-command CMD] [--timeout TIMEOUT] [--debug]",
    "                      [--log-file LOG_FILE] [--list \x7bproviders\x7d] [--version]",
    "                      [TARGET]"]

def helpLines : List String :=
  ["",
    "Eclipse Code Formatter CLI Tool",
    "",
    "positional arguments:",
    "  TARGET                File or directory to format",
    "",
    "options:",
    "  -h, --help            show this help message and exit",
    "  -c CONFIG, --config CONFIG",
    "                        Path to Eclipse formatter configuration file (default:",
    "                        eclipse-format.xml)",
    "  -d, --dry-run         Show what would be formatted without making changes",
    "  -r, --recursive       Format files recursively",
    "  -v, --verbose         Verbose output",
    "  --extension EXTENSION",
    "                        File extension to format, case-insensitive (default:",
    "                        .java)",
    "  --provider PROVIDER   Formatting engine to use (default: eclipse). See",
    "                        --list providers",
    "  --eclipse PATH        Eclipse executable for the eclipse provider (default:",
    "                        $ECLIPSE_FORMATTER_EXECUTABLE or 'eclipse' on PATH)",
    "  --formatter-command CMD",
    "                        Command for the command provider; reads source on",
    "                        stdin, writes stdout",
    "  --timeout TIMEOUT     Seconds to wait for the formatter per file (default:",
    "                        120)",
    "  --debug               Verbose logs + stack traces on failure.",
    "  --log-file LOG_FILE   Optional path to a log file. If set, all output is",
    "                        also written there.",
    "  --list \x7bproviders\x7d    List available components and exit",
    "  --version             show program's version number and exit",
    "",
    "Examples:",
    "  Format every Java file under src/ recursively:",
    "    eclipse-format -c config.xml -r src/",
    "",
    "  Show what would change in a single file, with details:",
    "    eclipse-format -d -v MyClass.java",
    "",
    "  Use google-java-format instead of Eclipse:",
    "    eclipse-format --provider command \\",
    "      --formatter-command \"google-java-format -\" -r src/"]

def textOf (lines : List String) : String := String.join (lines.map (· ++ "\n"))

def usage : String := textOf usageLines

def help : String := textOf (usageLines ++ helpLines)

/-- The answer to a command line: a run to start, or texts to print, with a status to end with if
nothing but the texts was asked for. -/
inductive Answer where
  | run (i : Invocation)
  | listed (output : String)
  | ended (status : Nat) (output errors : String)
  deriving DecidableEq, Repr

/-- A name filled up with spaces to ten characters. -/
def column (name : String) : String :=
  name ++ String.ofList (List.replicate (10 - name.length) ' ')

/-- The registered engines with what they are for. -/
def listing (r : Registry) : String :=
  textOf ("Available Providers:" :: r.describe.map fun (name, description) =>
    s!"  {column name} {description}")

def Stop.answer : Stop → Answer
  | help => .ended 0 CommandLine.help ""
  | version => .ended 0 s!"{programName} {versionText}\n" ""
  | misuse m => .ended 2 "" (usage ++ s!"{programName}: error: {m.message}\n")

/-- Reads a command line and answers it as far as it goes without a run. -/
def gather (r : Registry) (arguments : List String) : Answer :=
  match parse arguments with
  | .run i => .run i
  | .listing _ => .listed (listing r)
  | .stop s => s.answer

end BatchFormat.CommandLine
