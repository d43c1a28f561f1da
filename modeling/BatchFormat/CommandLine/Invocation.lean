import BatchFormat.Engine.Registry
import BatchFormat.Extension

/-!
# What a person asks for
-/
namespace BatchFormat

/-- A run as it is asked for on the command line. -/
structure Invocation where
  target : Path
  profile : Path
  dryRun : Bool
  recursive : Bool
  extension : String
  provider : String
  eclipse? : Option String
  formatterCommand? : Option String
  limit : Binary
  verbose : Bool
  debug : Bool
  logFile? : Option String
  deriving DecidableEq, Repr

namespace Invocation

def standardProfile : String := "eclipse-format.xml"

def ofTarget (target : Path) : Invocation where
  target := target
  profile := .ofString standardProfile
  dryRun := false
  recursive := false
  extension := defaultExtension
  provider := Eclipse.name
  eclipse? := none
  formatterCommand? := none
  limit := Command.standardLimit
  verbose := false
  debug := false
  logFile? := none

/-- Whether decisions about single files are to be shown. -/
def isVerbose (i : Invocation) : Bool := i.verbose || i.debug

/-- The level of detail by number: one for actions only, two for everything. -/
def verbosity (i : Invocation) : Int := if i.isVerbose then 2 else 1

end Invocation
end BatchFormat
