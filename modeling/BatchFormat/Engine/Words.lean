import BatchFormat.Failure

/-!
# Words of a command line

Splits a command line into words at blanks. Quotes keep blanks inside a word; single quotes keep
everything, double quotes let a backslash protect a double quote or a backslash, and outside quotes
a backslash protects any character.
-/
namespace BatchFormat.Words

/-- Where the reader stands. An escape inside double quotes returns to them. -/
inductive Stand where
  | between | word | quoted (mark : Char) | escape (quoted : Bool)
  deriving DecidableEq, Repr

def isSeparator (c : Char) : Bool := c = ' ' || c = '\t' || c = '\r' || c = '\n'

/-- The finished words and the current one, both last character first. The current word counts as
one even if it is empty once a quote was met. -/
structure State where
  stand : Stand
  current : List Char
  wasQuoted : Bool
  words : List String
  deriving DecidableEq, Repr

def start : State := ⟨.between, [], false, []⟩

/-- Ends the current word, if there is one. -/
def State.close (s : State) : State :=
  if s.current = [] ∧ !s.wasQuoted then { s with stand := .between }
  else ⟨.between, [], false, String.ofList s.current.reverse :: s.words⟩

def State.add (s : State) (stand : Stand) (cs : List Char) : State :=
  { s with stand := stand, current := cs ++ s.current }

/-- Reads one character between or inside words, outside quotes. -/
def State.plain (s : State) (c : Char) : State :=
  if isSeparator c then s.close
  else if c = '\\' then { s with stand := .escape false }
  else if c = '"' ∨ c = '\'' then { s with stand := .quoted c, wasQuoted := true }
  else s.add .word [c]

def State.read (s : State) (c : Char) : State :=
  match s.stand with
  | .between | .word => s.plain c
  | .quoted mark =>
    if c = mark then { s with stand := .word }
    else if c = '\\' ∧ mark = '"' then { s with stand := .escape true }
    else s.add (.quoted mark) [c]
  | .escape false => s.add .word [c]
  | .escape true =>
    if c = '\\' ∨ c = '"' then s.add (.quoted '"') [c] else s.add (.quoted '"') [c, '\\']

/-- The words of a command line. -/
def split (s : String) : Except WordsFlaw (List String) :=
  let last := s.toList.foldl State.read start
  match last.stand with
  | .quoted _ => .error .openQuotation
  | .escape _ => .error .openEscape
  | .between | .word => .ok last.close.words.reverse

end BatchFormat.Words
