import BatchFormat.Number.Shortest
import BatchFormat.Text.Utf8
import BatchFormat.Tree.Cause

/-!
# Rejections

The ways in which a formatting engine declines a text. A rejected text stays as it is, and the run
goes on.
-/
namespace BatchFormat

/-- The engines that start a program. -/
inductive Tool where
  | command | eclipse
  deriving DecidableEq, Repr

def Tool.title : Tool → String
  | command => "Formatter command"
  | eclipse => "Eclipse formatter"

/-- A tool's title inside a sentence. -/
def Tool.phrase : Tool → String
  | command => "formatter command"
  | eclipse => "Eclipse formatter"

inductive Rejection where
  | noCommand
  | failed (tool : Tool) (detail : String)
  | overtime (tool : Tool) (limit : Binary)
  | notStarted (tool : Tool) (cause : SystemError)
  | garbled (flaw : Text.Flaw)
  | badToken (token : String)
  deriving DecidableEq, Repr

/-- What is wrong with bytes that are not UTF-8, and where. -/
def Text.Flaw.message (flaw : Text.Flaw) : String :=
  let place :=
    if flaw.length = 1 then
      s!"byte 0x{String.ofList (Text.hexDigits 2 flaw.byte.toNat)} in position {flaw.offset}"
    else s!"bytes in position {flaw.offset}-{flaw.offset + flaw.length - 1}"
  s!"'utf-8' codec can't decode {place}: {flaw.kind.message}"

def Rejection.message : Rejection → String
  | noCommand => "No formatter command configured"
  | failed tool detail => s!"{tool.title} failed: {detail}"
  | overtime tool limit => s!"{tool.title} timed out after {limit.brief}s"
  | notStarted tool cause => s!"Could not launch {tool.phrase}: {cause.message}"
  | garbled flaw => s!"Formatter command produced invalid UTF-8: {flaw.message}"
  | badToken token => s!"Syntax error on token '{token}'"

end BatchFormat
