import BatchFormat.Settings
import BatchFormat.Text.Blank
import BatchFormat.World

/-!
# The gateway to a formatting engine

A text goes to an engine only if there is something in it to format. If the engine rejects it, the
text stays as it is; any other failure of the engine is passed on.
-/
namespace BatchFormat

/-- A formatting engine: its name, whether it can work here, and how it formats a text. -/
structure Engine where
  name : String
  check : World → Except Failure Unit
  transform : Settings → String → World → Except Failure String × World

/-- A text that went through the gateway, and whether it differs from what came in. -/
structure Transformed where
  content : String
  changed : Bool
  deriving DecidableEq, Repr

namespace Transformed

def compare (before content : String) : Transformed := ⟨content, content != before⟩

def unchanged (before : String) : Transformed := ⟨before, false⟩

end Transformed

abbrev Sink := Rejection → World → World

structure Gateway where
  engine : Engine
  settings : Settings
  sink? : Option Sink

namespace Gateway

/-- Passes a rejection to the sink, if there is one. -/
def report (g : Gateway) (r : Rejection) (w : World) : World :=
  match g.sink? with
  | some sink => sink r w
  | none => w

/-- Asks the engine, and notes that it was asked. -/
def ask (g : Gateway) (content : String) (w : World) : Except Failure String × World :=
  g.engine.transform g.settings content { w with asked := w.asked ++ [content] }

def apply (g : Gateway) (content : String) (w : World) : Except Failure Transformed × World :=
  if Text.isBlank content then (.ok (.unchanged content), w)
  else
    match g.ask content w with
    | (.ok answer, w) => (.ok (.compare content answer), w)
    | (.error (.rejected r), w) => (.ok (.unchanged content), g.report r w)
    | (.error e, w) => (.error e, w)

end Gateway
end BatchFormat
