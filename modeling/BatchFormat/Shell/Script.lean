import BatchFormat.Text.Octets

/-!
# Scripts

What a script is made of once it is read: words with their substitutions, redirections and
commands.
-/
namespace BatchFormat.Shell

/-- What is done with the file of a redirection. -/
inductive Direction where
  | read
  | write
  /-- Writes even where files are protected. -/
  | overwrite
  | append
  | both
  deriving DecidableEq, Repr

mutual

/-- A part of a word. Quoted parts are never split. -/
inductive Part where
  | plain (text : Octets) (quoted : Bool)
  | parameter (name : Octets) (change : Change) (quoted : Bool)
  | output (script : List Command) (quoted : Bool)
  | number (expression : List Part) (quoted : Bool)

/-- What becomes of the value of a parameter. With `orEmpty`, an empty one counts as unset. -/
inductive Change where
  | keep
  | length
  | ifUnset (orEmpty : Bool) (word : List Part)
  | assignUnset (orEmpty : Bool) (word : List Part)
  | failUnset (orEmpty : Bool) (word : List Part)
  | ifSet (orEmpty : Bool) (word : List Part)
  | cut (atEnd longest : Bool) (pattern : List Part)
  /-- A sign that stands for no change; it is found out when the word is used. -/
  | senseless

/-- A redirection of a descriptor to a file, to another descriptor or to a text. -/
inductive Redirection where
  | file (descriptor : Nat) (direction : Direction) (target : List Part)
  | copy (descriptor : Nat) (target : List Part)
  | text (descriptor : Nat) (content : List Part)

/-- A command. `line` is where it stands. -/
inductive Command where
  | simple (line : Nat) (assignments : List (Octets × List Part)) (words : List (List Part))
    (redirections : List Redirection)
  | redirected (line : Nat) (command : Command) (redirections : List Redirection)
  | pipe (stages : List Command)
  | negated (command : Command)
  | both (first second : Command)
  | either (first second : Command)
  | group (body : List Command)
  | apart (line : Nat) (body : List Command) (redirections : List Redirection)
  | aside (line : Nat) (command : Command)
  | choice (condition body other : List Command)
  | loop (untilTrue : Bool) (condition body : List Command)
  | each (line : Nat) (name : Octets) (words : List (List Part)) (body : List Command)
  | select (line : Nat) (word : List Part) (arms : List (List (List Part) × List Command))
  | define (name : Octets) (body : Command)

end

instance : Inhabited Command := ⟨.group []⟩

abbrev Word := List Part

namespace Word

/-- A character that a name can begin with. -/
def isNameStart (c : Char) : Bool := c.isAlpha || c = '_'

/-- A character that a name can have in it. -/
def isNamePart (c : Char) : Bool := c.isAlphanum || c = '_'

def isName (cs : Octets) : Bool := cs.head?.any isNameStart && cs.all isNamePart

/-- Puts plain text in front of parts. -/
def cons (text : Octets) (quoted : Bool) : Word → Word
  | .plain more q :: parts =>
    if q = quoted then .plain (text ++ more) q :: parts
    else .plain text quoted :: .plain more q :: parts
  | parts => .plain text quoted :: parts

/-- The text of a word that is plain and not quoted. -/
def bare? : Word → Option Octets
  | [.plain text false] => some text
  | _ => none

def plainText (w : Word) : Octets :=
  w.flatMap fun part =>
    match part with
    | .plain text _ => text
    | _ => []

def isQuoted (w : Word) : Bool :=
  w.any fun part =>
    match part with
    | .plain _ quoted => quoted
    | _ => false

/-- The name and the value in a word that begins with a name and an equals sign. -/
def assignment? : Word → Option (Octets × Word)
  | .plain text false :: parts =>
    match text.span isNamePart with
    | (name, '=' :: value) =>
      if isName name then
        some (name, if value = [] then parts else .plain value false :: parts)
      else none
    | _ => none
  | _ => none

end Word
end BatchFormat.Shell
