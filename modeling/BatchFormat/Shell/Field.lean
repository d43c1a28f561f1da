import BatchFormat.Shell.Pattern

/-!
# Fields

How an expanded word falls into fields at the characters between them, and how a line of the input
does.
-/
namespace BatchFormat.Shell

/-- A character of an expanded word, or a place in it. Only soft characters may lie between fields;
a quotation makes a field even if it is empty. -/
inductive Mark where
  | char (c : Char) (quoted : Bool)
  | soft (c : Char)
  /-- Begins a stretch in which fields may end; in a hard one, only its gaps end them. -/
  | edge (isHard : Bool)
  /-- Lies between two arguments. -/
  | gap
  | quotation
  deriving DecidableEq, Repr

namespace Mark

def quotedText (cs : Octets) : List Mark := .quotation :: cs.map (.char · true)

/-- The marks of a value, which may be quoted. -/
def ofValue (isQuoted : Bool) (cs : Octets) : List Mark :=
  if isQuoted then quotedText cs else .edge false :: cs.map .soft

/-- The characters of a word that is not split. -/
def marked (ms : List Mark) : List Marked :=
  ms.filterMap fun m =>
    match m with
    | char c quoted => some (c, quoted)
    | soft c => some (c, false)
    | _ => none

def text (ms : List Mark) : Octets := (marked ms).map Prod.fst

end Mark

/-- The characters between fields. Blanks count as one separator, together with one of the other
characters. -/
abbrev Separators := Octets

namespace Separators

def standard : Separators := [' ', '\t', '\n']

def isBlank (fs : Separators) (c : Char) : Bool := standard.contains c && fs.contains c

end Separators

structure Division where
  /-- How many more fields there may be; any number of them if it is not told. -/
  left? : Option Nat
  /-- The current field, last character first, and whether there is anything of it. -/
  current : List Marked
  isStarted : Bool
  /-- Whether blanks have just ended a field. -/
  isClosed : Bool
  /-- Whether the current stretch is hard, and whether the one before it was. -/
  isHard : Bool
  afterHard : Bool
  /-- The last of the fields, without the separators behind it. -/
  trimmed? : Option (List Marked)
  /-- The fields that have ended, the latest first. -/
  fields : List (List Marked)

namespace Division

def begin (left? : Option Nat) : Division := ⟨left?, [], false, false, false, false, none, []⟩

def add (d : Division) (c : Char) (quoted : Bool) : Division :=
  { d with current := (c, quoted) :: d.current, isStarted := true }

def cut (d : Division) : Division :=
  { d with fields := d.current.reverse :: d.fields, current := [], isStarted := false }

/-- Passes a character that may lie between fields, or not, in the last field there may be. -/
def addLast (d : Division) (isMark isBlank : Bool) (c : Char) : Division :=
  if isBlank then { d.add c false with trimmed? := d.trimmed? <|> some d.current }
  else
    let trimmed? := if isMark && d.isClosed then d.trimmed? else none
    { d.add c false with trimmed? := trimmed?, isClosed := false }

def separate (d : Division) (isBlank : Bool) (c : Char) : Division :=
  if d.isClosed then if isBlank then d else { d with isClosed := false }
  else
    let isClosing := isBlank && !d.isHard && !d.afterHard
    if !d.isStarted && isClosing then d
    else if d.left? = some 1 then
      { d.add c false with left? := some 0, trimmed? := some d.current, isClosed := isClosing }
    else { d.cut with left? := d.left?.map (· - 1), isClosed := isClosing }

def pass (fs : Separators) (d : Division) (c : Char) : Division :=
  let isBlank := fs.isBlank c
  if d.left? = some 0 then d.addLast (fs.contains c) isBlank c
  else if fs.contains c then d.separate isBlank c
  else { d.add c false with isClosed := false }

def step (fs : Separators) (d : Division) : Mark → Division
  | .char c quoted => d.add c quoted
  | .soft c => if d.isHard then d.add c true else d.pass fs c
  | .edge isHard => { d with isClosed := false, afterHard := d.isHard, isHard := isHard }
  | .gap => if d.isHard then d.cut else d.separate true ' '
  | .quotation => { d with isStarted := true }

/-- The fields at the end of a word. -/
def result (d : Division) : List (List Marked) :=
  let last := (d.trimmed?.getD d.current).reverse
  (if d.isHard || d.isStarted then last :: d.fields else d.fields).reverse

end Division

namespace Separators

/-- The fields of an expanded word. -/
def split (fs : Separators) (ms : List Mark) : List (List Marked) :=
  (ms.foldl (Division.step fs) (Division.begin none)).result

/-- The fields of a line for a number of names; the last one takes what is left. -/
def divide (fs : Separators) (count : Nat) (ms : List Mark) : List Octets :=
  ((ms.foldl (Division.step fs) (Division.begin (some count))).result).map fun field =>
    field.map Prod.fst

end Separators

/-- A line of the input, and what follows its end if it has one. Unless it is read as it is, a
backslash protects the character behind it and joins lines. -/
def inputLine (isRaw : Bool) : Octets → List Mark × Option Octets
  | [] => ([], none)
  | '\n' :: rest => ([], some rest)
  | ['\\'] => if isRaw then ([.soft '\\'], none) else ([], none)
  | '\\' :: c :: rest =>
    if isRaw then
      let (line, rest) := inputLine isRaw (c :: rest)
      (.soft '\\' :: line, rest)
    else
      let (line, rest) := inputLine isRaw rest
      let line := .edge false :: line
      (if c = '\n' ∨ c = '\x00' then line else .char c true :: line, rest)
  | c :: rest =>
    let (line, rest) := inputLine isRaw rest
    (if c = '\x00' then line else .soft c :: line, rest)

end BatchFormat.Shell
