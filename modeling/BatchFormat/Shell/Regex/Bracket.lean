import BatchFormat.Text.Letter
import BatchFormat.Text.Sign

/-!
# Sets between brackets

A set such as `[a-z[:digit:]_]` lists characters, ranges of them, and classes by name. With letters
of either case, all members are compared as capitals.
-/
namespace BatchFormat.Shell.Bracket

/-- What is wrong with a set. -/
inductive Fault where
  | isOpen | className | collation | range | looksLikeClass
  deriving DecidableEq, Repr

def Fault.message : Fault → String
  | isOpen => "Unmatched [, [^, [:, [., or [="
  | className => "Invalid character class name"
  | collation => "Invalid collation character"
  | range => "Invalid range end"
  | looksLikeClass => "character class syntax is [[:space:]], not [:space:]"

def classOf? (name : String) : Option (Char → Bool) :=
  match name with
  | "alpha" => some Text.Letter.isAlpha
  | "digit" => some Char.isDigit
  | "alnum" => some Text.Letter.isAlphanumeric
  | "upper" => some Text.Letter.isUpper
  | "lower" => some Text.Letter.isLower
  | "space" => some Text.Letter.isSpace
  | "blank" => some Text.Letter.isBlank
  | "punct" => some Text.Letter.isPunct
  | "print" => some Text.Letter.isPrint
  | "graph" => some Text.Letter.isGraph
  | "cntrl" => some Text.Letter.isControl
  | "xdigit" => some fun c => c.isDigit || "abcdefABCDEF".toList.contains c
  | _ => none

/-- How signs are compared: as they are, or as capitals. -/
def fold (anyCase : Bool) (s : Sign) : Sign := if anyCase then s.map Text.toUpper else s

/-- An element of a set: a sign that may begin a range, or a test. -/
inductive Element where
  | sign (s : Sign)
  | test (accept : Char → Bool)

/-- The signs up to the delimiter with a closing bracket behind it, and what follows. -/
def named (delimiter : Char) : List Sign → Option (List Sign × List Sign)
  | s :: t :: rest =>
    if s = .char delimiter ∧ t = .char ']' then some ([], rest)
    else (named delimiter (t :: rest)).map fun (name, rest) => (s :: name, rest)
  | _ => none

/-- The element at the head of a set. A minus that neither begins nor ends a set stands for a range
where `allowsMinus` does not say otherwise. -/
def element (anyCase allowsMinus : Bool) (s : Sign) (rest : List Sign) :
    Except Fault (Element × List Sign) :=
  let delimited (delimiter : Char) (rest : List Sign) : Except Fault (Element × List Sign) :=
    match named delimiter rest with
    | none => .error .isOpen
    | some (name, rest) =>
      if delimiter = ':' then
        let text := String.ofList (Sign.write name)
        let text := if anyCase ∧ (text = "upper" ∨ text = "lower") then "alpha" else text
        match classOf? text with
        | some accept => .ok (.test accept, rest)
        | none => .error .className
      else
        match name with
        | [.char c] =>
          if c.toNat ≥ 0x80 then .error .collation
          else if delimiter = '=' then
            .ok (.test fun d => Sign.char d == fold anyCase (.char c), rest)
          else .ok (.sign (.char c), rest)
        | _ => .error .collation
  match s, rest with
  | .char '[', .char d :: more =>
    if d = ':' ∨ d = '.' ∨ d = '=' then delimited d more else .ok (.sign s, rest)
  | .char '-', .char '-' :: .char '-' :: more => .ok (.sign s, more)
  | .char '-', next :: _ =>
    if !allowsMinus && next != .char ']' then .error .range else .ok (.sign s, rest)
  | _, _ => .ok (.sign s, rest)

/-- What has been seen of a set that a class may have been meant by: a colon in front, members other
than colons, neither ranges nor classes, and whether the latest member is a colon; and whether it
only lists characters of ASCII. -/
structure Look where
  startsWithColon : Bool
  hasOther : Bool
  isPlain : Bool
  endsWithColon : Bool
  isNarrow : Bool

def Look.isSuspicious (l : Look) : Bool :=
  l.startsWithColon && l.hasOther && l.isPlain && l.endsWithColon

def Look.add (l : Look) (s : Sign) : Look :=
  { l with hasOther := l.hasOther || s != .char ':', endsWithColon := s == .char ':'
           isNarrow := l.isNarrow && s.fits fun c => c.toNat < 0x80 }

/-- Notes a range or a class. -/
def Look.addWide (l : Look) : Look := { l with isPlain := false, isNarrow := false }

/-- The place of a sign in the order of characters, which only ASCII has here. -/
def rank? (anyCase : Bool) (s : Sign) : Option Nat :=
  if s.fits fun c => c.toNat ≥ 0x80 then none else some (fold anyCase s).rank

/-- Reads the members of a set up to the bracket that closes it, as a test. -/
def members (anyCase : Bool) : Nat → (isFirst : Bool) → Look → (Sign → Bool) → List Sign →
    Except Fault ((Sign → Bool) × Look × List Sign)
  | 0, _, _, _, _ | _, _, _, _, [] => .error .isOpen
  | n + 1, isFirst, look, accept, s :: rest => do
    if s = .char ']' ∧ !isFirst then return (accept, look, rest)
    let (low, rest) ← element anyCase isFirst s rest
    match low, rest with
    | .sign a, .char '-' :: next :: more =>
      if next = .char ']' then
        members anyCase n false (look.add a) (fun t => accept t || t == fold anyCase a) rest
      else
        match ← element anyCase true next more with
        | (.sign b, rest) =>
          match rank? anyCase a, rank? anyCase b with
          | some a, some b =>
            if a > b then .error .range
            members anyCase n false look.addWide
              (fun t => accept t || (a ≤ t.rank && t.rank ≤ b)) rest
          | _, _ => .error .collation
        | (.test _, _) => .error .range
    | .sign a, rest =>
      members anyCase n false (look.add a) (fun t => accept t || t == fold anyCase a) rest
    | .test test, rest =>
      members anyCase n false look.addWide (fun t => accept t || t.fits test) rest

/-- Reads a set behind its opening bracket. Stray bytes are in no set, and `lines` keeps the ends of
lines out of sets that are given by what they lack. -/
def read (anyCase lines : Bool) (cs : List Sign) :
    Except Fault ((Sign → Bool) × Look × List Sign) := do
  let isCharacter (s : Sign) : Bool := s.fits fun _ => true
  let look (cs : List Sign) : Look := ⟨cs.head? == some (.char ':'), false, true, false, true⟩
  match cs with
  | .char '^' :: rest =>
    let (accept, look, rest) ← members anyCase (rest.length + 1) true (look rest)
      (fun _ => false) rest
    return (fun s => isCharacter s && !accept (fold anyCase s) && !(lines && s.isNewline),
      { look with isNarrow := false }, rest)
  | _ =>
    let (accept, look, rest) ← members anyCase (cs.length + 1) true (look cs) (fun _ => false) cs
    return (fun s => accept (fold anyCase s), look, rest)

end BatchFormat.Shell.Bracket
