import BatchFormat.Number.Binary
import BatchFormat.Text.Blank
import BatchFormat.Text.Digit

/-!
# Numbers typed by a person

Reads the text of a number: blanks around it, digits of any script, single underscores between
digits, a fraction, an exponent, and the words for infinity and for "not a number".
-/
namespace BatchFormat.Binary

open Text

/-- A character as it counts in a number: a digit of another script becomes the plain digit, a
blank of another script a space, and any other foreign character is none. -/
def plainChar? (c : Char) : Option Char :=
  if c.toNat < 0x7f then some c
  else if isBlankChar c then some ' '
  else (digitValue? c).map Nat.digitChar

/-- The blanks that may stand around a number once it is in plain characters. -/
def isPlainBlank (c : Char) : Bool := c = ' ' || (0x9 ≤ c.toNat && c.toNat ≤ 0xd)

def isPlainDigit (c : Char) : Bool := '0' ≤ c && c ≤ '9'

/-- Removes underscores that stand between two digits; any other underscore spoils the number. -/
def withoutUnderscores? : (afterDigit : Bool) → List Char → Option (List Char)
  | _, [] => some []
  | true, '_' :: c :: rest =>
    if isPlainDigit c then (withoutUnderscores? true rest).map (c :: ·) else none
  | _, c :: rest =>
    if c = '_' then none else (withoutUnderscores? (isPlainDigit c) rest).map (c :: ·)

/-- A sign at the head, and what follows. -/
def takeSign : List Char → Bool × List Char
  | '-' :: rest => (true, rest)
  | '+' :: rest => (false, rest)
  | cs => (false, cs)

def digitsValue (cs : List Char) : Nat :=
  cs.foldl (fun n c => 10 * n + (c.toNat - '0'.toNat)) 0

/-- The exponent after the mantissa: nothing, or a mark, a sign and at least one digit. -/
def exponent? : List Char → Option Int
  | [] => some 0
  | mark :: rest =>
    let (negative, digits) := takeSign rest
    if (mark = 'e' || mark = 'E') && digits != [] && digits.all isPlainDigit then
      some (if negative then -digitsValue digits else digitsValue digits)
    else none

/-- The fraction after the whole part: its digits, and what follows. -/
def takeFraction : List Char → List Char × List Char
  | '.' :: rest => rest.span isPlainDigit
  | cs => ([], cs)

/-- The word for an infinite number or for none, in any case. -/
def word? (negative : Bool) (cs : List Char) : Option Binary :=
  let word := String.ofList (cs.map Char.toLower)
  if word = "inf" ∨ word = "infinity" then some (infinite negative)
  else if word = "nan" then some nan
  else none

/-- Reads a number without blanks and underscores. -/
def ofPlain? (cs : List Char) : Option Binary :=
  let (negative, cs) := takeSign cs
  match word? negative cs with
  | some b => some b
  | none =>
    let (whole, rest) := cs.span isPlainDigit
    let (fraction, rest) := takeFraction rest
    if whole = [] ∧ fraction = [] then none
    else
      (exponent? rest).map fun e =>
        ofDecimal negative (digitsValue (whole ++ fraction)) (e - fraction.length)

/-- Reads the text of a number, or nothing if it is none. -/
def ofString? (s : String) : Option Binary := do
  let cs ← s.toList.mapM plainChar?
  let cs := dropRightWhile isPlainBlank (cs.dropWhile isPlainBlank)
  ofPlain? (← withoutUnderscores? false cs)

end BatchFormat.Binary
