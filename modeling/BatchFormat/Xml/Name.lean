import BatchFormat.Text.Point

/-!
# Characters and names of XML

The characters that a document may hold, the names made of them, and the small readers that the
rest of the grammar is built from. A reader returns what it read and what follows, or nothing where
the document is not well-formed.
-/
namespace BatchFormat.Xml

open Text (Ranges)

def charRanges : Ranges :=
  [(0x9, 0xa), (0xd, 0xd), (0x20, 0xd7ff), (0xe000, 0xfffd), (0x10000, 0x10ffff)]

def isDocumentCode (n : Nat) : Bool := charRanges.contains n

/-- The characters that can begin a name, the colon apart. -/
def nameStartRanges : Ranges :=
  [(0x41, 0x5a), (0x5f, 0x5f), (0x61, 0x7a), (0xc0, 0xd6), (0xd8, 0xf6), (0xf8, 0x2ff),
    (0x370, 0x37d), (0x37f, 0x1fff), (0x200c, 0x200d), (0x2070, 0x218f), (0x2c00, 0x2fef),
    (0x3001, 0xd7ff), (0xf900, 0xfdcf), (0xfdf0, 0xfffd), (0x10000, 0xeffff)]

/-- The characters that can only stand further inside a name. -/
def nameRestRanges : Ranges :=
  [(0x2d, 0x2e), (0x30, 0x39), (0xb7, 0xb7), (0x300, 0x36f), (0x203f, 0x2040)]

def isNameStart (c : Char) : Bool := nameStartRanges.contains c.toNat

def isNamePart (c : Char) : Bool := isNameStart c || nameRestRanges.contains c.toNat

def isBlank (c : Char) : Bool := c = ' ' || c = '\t' || c = '\n' || c = '\r'

def dropBlanks (cs : List Char) : List Char := cs.dropWhile isBlank

/-- Drops blanks, of which there must be at least one. -/
def needBlanks : List Char → Option (List Char)
  | c :: rest => if isBlank c then some (dropBlanks rest) else none
  | [] => none

def after? : (expected : List Char) → List Char → Option (List Char)
  | [], cs => some cs
  | _ :: _, [] => none
  | e :: expected, c :: cs => if e = c then after? expected cs else none

def expect (text : String) (cs : List Char) : Option (List Char) := after? text.toList cs

def startsWith (text : String) (cs : List Char) : Bool := text.toList.isPrefixOf cs

def nameLimit : Nat := 50000

def byteLength (cs : List Char) : Nat := cs.foldl (fun n c => n + c.utf8Size) 0

/-- A run of characters that is not too long for a name. -/
def finishName (name rest : List Char) : Option (String × List Char) :=
  if byteLength name ≤ nameLimit then some (String.ofList name, rest) else none

/-- A name in which no colon stands. -/
def readPlainName : List Char → Option (String × List Char)
  | c :: rest =>
    if isNameStart c then
      let (more, rest) := rest.span isNamePart
      finishName (c :: more) rest
    else none
  | [] => none

def readName : List Char → Option (String × List Char)
  | c :: rest =>
    if isNameStart c || c = ':' then
      let (more, rest) := rest.span fun c => isNamePart c || c = ':'
      finishName (c :: more) rest
    else none
  | [] => none

/-- A token, which may begin like the inside of a name. -/
def readToken (cs : List Char) : Option (String × List Char) :=
  let (token, rest) := cs.span fun c => isNamePart c || c = ':'
  if token = [] then none else finishName token rest

/-- Whether a text is a name, where `part` also admits a colon if names may hold them. -/
def isNameOf (withColons : Bool) : List Char → Bool
  | c :: rest =>
    (isNameStart c || (withColons && c = ':'))
      && rest.all fun c => isNamePart c || (withColons && c = ':')
  | [] => false

def isToken (cs : List Char) : Bool :=
  !cs.isEmpty && cs.all fun c => isNamePart c || c = ':'

/-- A name as it is written: an optional qualifier, empty if there is none, and the name itself. -/
structure Written where
  qualifier : String
  base : String
  deriving DecidableEq, Repr

/-- The name with the qualifier in front. -/
def Written.text (w : Written) : String :=
  if w.qualifier = "" then w.base else w.qualifier ++ ":" ++ w.base

/-- A name as it is written, and whether its colons divide it well: at most one, between two
names. A name whose colons stand elsewhere is divided at the first one that has a name before it
and another after it, and is kept whole if there is no such colon. -/
def readWritten (cs : List Char) : Option ((Written × Bool) × List Char) :=
  match readPlainName cs, cs with
  | none, ':' :: _ => (readName cs).map fun (name, rest) => ((⟨"", name⟩, false), rest)
  | none, _ => none
  | some (first, ':' :: rest), _ =>
    match readPlainName rest with
    | none =>
      let (token, rest) := (readToken rest).getD ("", rest)
      some ((⟨"", first ++ ":" ++ token⟩, false), rest)
    | some (second, ':' :: rest) =>
      let (third, rest) := (readName rest).getD ("", rest)
      some ((⟨first, second ++ ":" ++ third⟩, false), rest)
    | some (second, rest) => some ((⟨first, second⟩, true), rest)
  | some (first, rest), _ => some ((⟨"", first⟩, true), rest)

def Written.ofName (name : String) : Written :=
  let (first, rest) := name.toList.span (· != ':')
  match rest with
  | ':' :: base =>
    if first = [] then ⟨"", name⟩ else ⟨String.ofList first, String.ofList base⟩
  | _ => ⟨"", name⟩

/-- What stands before a mark, and what follows it. -/
def readUntil (mark : String) (cs : List Char) : Option (List Char × List Char) :=
  go mark.toList [] cs
where
  /-- Collects what stands before the mark, the last character first. -/
  go (mark before : List Char) : List Char → Option (List Char × List Char)
    | [] => none
    | c :: rest =>
      match after? mark (c :: rest) with
      | some after => some (before.reverse, after)
      | none => go mark (c :: before) rest

/-- A text between two equal quotes, of either kind. -/
def readQuoted : List Char → Option (List Char × List Char)
  | c :: rest =>
    if c = '"' || c = '\'' then
      let (text, rest) := rest.span (· != c)
      match rest with
      | _ :: rest => some (text, rest)
      | [] => none
    else none
  | [] => none

def digitsValue (base : Nat) (cs : List Char) : Nat :=
  cs.foldl (fun n c =>
    let digit :=
      if c.isDigit then c.toNat - '0'.toNat
      else if 'a' ≤ c then c.toNat - 'a'.toNat + 10
      else c.toNat - 'A'.toNat + 10
    base * n + digit) 0

def isHexDigit (c : Char) : Bool :=
  c.isDigit || ('a' ≤ c && c ≤ 'f') || ('A' ≤ c && c ≤ 'F')

/-- The character that a number stands for, if a document may hold it. -/
def charOfNumber? (n : Nat) : Option Char :=
  if isDocumentCode n then some (Char.ofNat n) else none

/-- A character given by number, after the mark that introduces it. -/
def readCharNumber : List Char → Option (Char × List Char)
  | 'x' :: rest => finish 16 (rest.span isHexDigit)
  | cs => finish 10 (cs.span Char.isDigit)
where
  /-- Digits in a base, at least one, and a semicolon. -/
  finish (base : Nat) : List Char × List Char → Option (Char × List Char)
    | ([], _) => none
    | (digits, ';' :: rest) => (charOfNumber? (digitsValue base digits)).map (·, rest)
    | _ => none

inductive Reference where
  | char (c : Char)
  | entity (name : String)
  deriving DecidableEq, Repr

def readReference : List Char → Option (Reference × List Char)
  | '#' :: rest => (readCharNumber rest).map fun (c, rest) => (.char c, rest)
  | cs => do
    let (name, rest) ← readName cs
    some (.entity name, ← expect ";" rest)

/-- The entities that every document has, with their characters. -/
def predefined : List (String × Char) :=
  [("lt", '<'), ("gt", '>'), ("amp", '&'), ("apos", '\''), ("quot", '"')]

/-- A comment after its opening mark; no two hyphens stand together before its end. -/
def skipComment (cs : List Char) : Option (List Char) := do
  let (_, rest) ← readUntil "--" cs
  expect ">" rest

end BatchFormat.Xml
