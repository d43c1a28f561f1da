import BatchFormat.Engine.Lookup
import BatchFormat.Engine.Words
import BatchFormat.Gateway

/-!
# The engine that pipes text through a command

The command reads the text and writes the formatted one. Whatever becomes of the command, the text
is either formatted or rejected.
-/
namespace BatchFormat

/-- A command line in words, and the seconds it may take for one text. -/
structure Command where
  words : List String
  limit : Binary
  deriving DecidableEq, Repr

namespace Command

def name : String := "command"

def standardLimit : Binary := Binary.ofInt 120

/-- Whether the command can be found. -/
def check (c : Command) (host : Host) (w : World) : Except Failure Unit :=
  match c.words with
  | [] => .error .noCommandGiven
  | word :: _ =>
    if (Lookup.program? host w.tree word).isSome then .ok () else .error (.noProgram word)

/-- What a failed command says about its failure. -/
def complaint (status : Int) (errors : Bytes) : String :=
  let said := Text.trim (Text.decodeLenient errors)
  if said = "" then s!"exit status {status}" else said

/-- The answer of a command that was started, or the reason why there is none. -/
def answer (limit : Binary) : Outcome → Except Failure String
  | .notStarted cause =>
    if cause.isRefusal then .error (.rejected (.notStarted .command cause))
    else .error (.system cause)
  | .badLimit flaw => .error (.clock flaw)
  | .overtime => .error (.rejected (.overtime .command limit))
  | .ended status output errors =>
    if status ≠ 0 then .error (.rejected (.failed .command (complaint status errors)))
    else
      match Text.decode output with
      | .ok text => .ok text
      | .error flaw => .error (.rejected (.garbled flaw))

def transform (c : Command) (host : Host) (content : String) (w : World) :
    Except Failure String × World :=
  if c.words = [] then (.error (.rejected .noCommand), w)
  else
    let line := String.intercalate " " c.words
    let w := w.say host (.debug s!"Executing formatter command: {line}")
    let (outcome, t) := host.launch ⟨c.words, Text.encode content, c.limit⟩ w.tree
    (answer c.limit outcome, { w with tree := t })

def engine (c : Command) (host : Host) : Engine where
  name := name
  check := c.check host
  transform := fun _ => c.transform host

end Command
end BatchFormat
