import BatchFormat.CommandLine.Switch
import BatchFormat.Text.Digit

/-!
# Arguments by their look

What an argument is, told by its text alone: a switch, perhaps with a value joined to it, the mark
after which nothing is a switch, or plain text. Long switches may be cut short as long as only one
fits.
-/
namespace BatchFormat.CommandLine

/-- A switch in an argument. The value joined to it is what follows the equals sign or, after a
single dash, whatever follows the letter. -/
inductive Token where
  | plain (text : String)
  | marker
  | switch (s : Switch) (isLong : Bool) (joined? : Option String)
  | unknown (text : String)
  deriving DecidableEq, Repr

namespace Token

def markerText : String := "--"

/-- The text before the first equals sign and, if there is one, the text after it. -/
def divide (text : String) : String × Option String :=
  match text.toList.span (· != '=') with
  | (front, _ :: back) => (String.ofList front, some (String.ofList back))
  | (_, []) => (text, none)

def isLongText (text : String) : Bool := "--".toList.isPrefixOf text.toList

/-- Whether a text looks like a negative number: digits of any script, at most one point and, at
most, a line end behind them. -/
def isNegativeNumber (text : String) : Bool :=
  let isDigit (c : Char) : Bool := (Text.digitValue? c).isSome
  match text.toList with
  | '-' :: rest =>
    let rest := if rest.getLast? = some '\n' then rest.dropLast else rest
    match rest.span isDigit with
    | (whole, []) => whole != []
    | (_, '.' :: fraction) => fraction != [] && fraction.all isDigit
    | _ => false
  | _ => false

/-- The switches that a text with two dashes may stand for. -/
def longMatches (text : String) : List (String × Token) :=
  let (front, joined) := divide text
  (spellings.filter fun e => front.toList.isPrefixOf e.1.toList).map fun e =>
    (e.1, switch e.2 true joined)

/-- The switches that a text with one dash may stand for: its first letter, with the rest joined
to it. -/
def shortMatches (text : String) : List (String × Token) :=
  let letter := String.ofList (text.toList.take 2)
  let rest := String.ofList (text.toList.drop 2)
  (spellings.filter fun e => e.1 = letter).map fun e => (e.1, switch e.2 false (some rest))

/-- What an argument is if it fits no spelling at all. -/
def unmatched (text : String) : Token :=
  if isNegativeNumber text || text.toList.contains ' ' then plain text else unknown text

/-- An argument that is written like a spelling, with or without a joined value. -/
def spelled? (text : String) : Option Token :=
  match spellings.lookup text with
  | some s => some (switch s (isLongText text) none)
  | none =>
    match divide text with
    | (front, some back) =>
      (spellings.lookup front).map fun s => switch s (isLongText text) (some back)
    | (_, none) => none

def ofText (text : String) : Except Misuse Token :=
  match text.toList with
  | [] | ['-'] => .ok (plain text)
  | '-' :: _ =>
    match spelled? text with
    | some token => .ok token
    | none =>
      match if isLongText text then longMatches text else shortMatches text with
      | [] => .ok (unmatched text)
      | [(_, token)] => .ok token
      | several => .error (.ambiguous text (several.map Prod.fst))
  | _ => .ok (plain text)

/-- What all arguments are; behind the marker, all are plain. -/
def ofArguments : List String → Except Misuse (List Token)
  | [] => .ok []
  | text :: rest =>
    if text = markerText then .ok (marker :: rest.map plain)
    else do
      let token ← ofText text
      return token :: (← ofArguments rest)

end Token
end BatchFormat.CommandLine
