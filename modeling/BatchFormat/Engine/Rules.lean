import BatchFormat.Gateway

/-!
# The engine that follows written rules

An engine without any program behind it: it replaces one text by another, and can be told to reject
texts or to break down. It serves to try out a run, for which requests that fail can also be told
by the last name of a path alone.
-/
namespace BatchFormat

instance : Coe (String → Bool) (Path → Bool) := ⟨fun named p => named p.name⟩

/-- What the engine does to a text, in this order: break down, reject it, answer with a constant,
replace, put a text in front, put the value of a setting behind. -/
structure Rules where
  crash : String
  reject : String
  constant? : Option String
  source : String
  target : String
  before : String
  setting? : Option String
  deriving DecidableEq, Repr

namespace Rules

def occursIn (needle : List Char) : List Char → Bool
  | [] => needle.isEmpty
  | c :: rest => needle.isPrefixOf (c :: rest) || occursIn needle rest

def occurs (needle text : String) : Bool := needle != "" && occursIn needle.toList text.toList

/-- Replaces occurrences from left to right; `skip` characters belong to one just replaced. -/
def replaceFrom (source target : List Char) : (skip : Nat) → List Char → List Char
  | _, [] => []
  | skip + 1, _ :: rest => replaceFrom source target skip rest
  | 0, c :: rest =>
    if source.isPrefixOf (c :: rest) then
      target ++ replaceFrom source target (source.length - 1) rest
    else c :: replaceFrom source target 0 rest

def replaceAll (source target text : String) : String :=
  if source = "" then text
  else String.ofList (replaceFrom source.toList target.toList 0 text.toList)

/-- The value that stands for a setting that is not given. -/
def unsetText : String := "<unset>"

def transform (r : Rules) (settings : Settings) (content : String) : Except Failure String :=
  if occurs r.crash content then .error (.crashed s!"engine crashed on {r.crash}")
  else if occurs r.reject content then .error (.rejected (.badToken r.reject))
  else
    match r.constant? with
    | some text => .ok text
    | none =>
      let text := r.before ++ replaceAll r.source r.target content
      match r.setting? with
      | some key => .ok (text ++ (settings.get? key).getD unsetText)
      | none => .ok text

def engine (r : Rules) (name : String) : Engine where
  name := name
  check := fun _ => .ok ()
  transform := fun settings content w => (r.transform settings content, w)

end Rules
end BatchFormat
