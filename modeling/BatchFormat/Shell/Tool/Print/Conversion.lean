import BatchFormat.Text.Sign
import BatchFormat.Number.Figures
import BatchFormat.Shell.Tool.Print.Escape

/-!
# Conversions

How a format writes whole numbers and others: the flags, the width and the precision, and the numbers
that words stand for.
-/
namespace BatchFormat.Shell.Print

/-- The flags, the width and the precision of a conversion. -/
structure Shape where
  left : Bool
  zeros : Bool
  plus : Bool
  space : Bool
  alternative : Bool
  width : Nat
  precision? : Option Nat

namespace Shape

/-- Fills up a text to the width, on the side that the flags ask for. -/
def fill (s : Shape) (cs : Octets) : Octets :=
  let missing := List.replicate (s.width - cs.length) ' '
  if s.left then cs ++ missing else missing ++ cs

def text (s : Shape) (cs : Octets) : Octets := s.fill (cs.take (s.precision?.getD cs.length))

def sign (s : Shape) (negative : Bool) : Octets :=
  if negative then ['-'] else if s.plus then ['+'] else if s.space then [' '] else []

/-- Digits behind a sign and a mark for their base, with zeros in between if they are to fill the
width. -/
def behind (s : Shape) (front digits : Octets) (fills : Bool) : Octets :=
  let zeros := if fills && s.zeros && !s.left then s.width - front.length - digits.length else 0
  s.fill (front ++ List.replicate zeros '0' ++ digits)

/-- The digits of a whole number, as many as the precision asks for. -/
def digits (s : Shape) (base n : Nat) : Octets :=
  let ds := if n = 0 ∧ s.precision? = some 0 then [] else Nat.toDigits base n
  List.replicate (s.precision?.getD 0 - ds.length) '0' ++ ds

def signed (s : Shape) (n : Int) : Octets :=
  s.behind (s.sign (n < 0)) (s.digits 10 n.natAbs) s.precision?.isNone

def natural (s : Shape) (base : Nat) (isUpper : Bool) (n : Nat) : Octets :=
  let ds := s.digits base n
  let ds := if base = 8 ∧ s.alternative ∧ ds.head? ≠ some '0' then '0' :: ds else ds
  let front : Octets := if base = 16 ∧ s.alternative ∧ n ≠ 0 then ['0', 'x'] else []
  let cs := s.behind front ds s.precision?.isNone
  if isUpper then cs.map Char.toUpper else cs

/-- A binary number in the notation of a letter. -/
def real (s : Shape) (g : Binary.Grid) (negative? : Option Bool) (letter : Char) (b : Binary) :
    Octets :=
  let word (negative : Bool) (text : String) : Octets :=
    s.behind (s.sign (negative?.getD negative)) text.toList false
  let cs : Octets :=
    match b with
    | .nan => word false "nan"
    | .infinite negative => word negative "inf"
    | .finite negative mantissa exponent =>
      let (num, den) := Binary.ratio mantissa exponent
      let places := s.precision?.getD 6
      let front := s.sign negative
      let (front, f) : Octets × Figures :=
        match letter.toLower with
        | 'f' => (front, .fixed places num den)
        | 'e' => (front, .exponential places num den)
        | 'g' => (front, .general s.alternative places num den)
        | _ => (front ++ ['0', 'x'], .hexadecimal g s.precision? mantissa exponent)
      s.behind front (f.text s.alternative) true
  if letter.isUpper then cs.map Char.toUpper else cs

end Shape

inductive NumberFlaw where
  | noNumber
  | rest
  | beyond
  /-- More than one character behind a quotation mark. -/
  | more (cs : Octets)
  deriving DecidableEq, Repr

/-- The remark on a word that is no number, in the words of one of the two forms. -/
def NumberFlaw.remark (form : Form) (word : Octets) : NumberFlaw → String
  | noNumber =>
    match form with
    | .inner => s!"{word.text}: expected numeric value"
    | .outer => s!"{inCurlyQuotes word}: expected a numeric value"
  | rest =>
    match form with
    | .inner => s!"{word.text}: not completely converted"
    | .outer => s!"{inCurlyQuotes word}: value not completely converted"
  | beyond =>
    match form with
    | .inner => s!"{word.text}: Numerical result out of range"
    | .outer => s!"{inCurlyQuotes word}: Numerical result out of range"
  | more cs =>
    s!"warning: {cs.text}: character(s) following character constant have been ignored"

def NumberFlaw.isMild : NumberFlaw → Bool
  | more _ => true
  | _ => false

def quoted? (form : Form) (word : Octets) : Option (Nat × Option NumberFlaw) :=
  match word, form with
  | mark :: rest, .inner =>
    if mark = '\'' ∨ mark = '"' then some ((rest.head?.map Char.toNat).getD 0, none) else none
  | mark :: c :: rest, .outer =>
    if mark = '\'' ∨ mark = '"' then
      let (n, rest) : Nat × Octets :=
        match Sign.ofOctets (c :: rest) with
        | .char d :: signs => (d.toNat, Sign.write signs)
        | _ => (c.toNat, rest)
      some (n, if rest = [] then none else some (.more rest))
    else none
  | _, _ => none

/-- A sign at the head of a number, behind white space. -/
def takeSign (cs : Octets) : Bool × Octets :=
  match cs.dropWhile Octets.isSpace with
  | '-' :: ds => (true, ds)
  | '+' :: ds => (false, ds)
  | ds => (false, ds)

/-- What is wrong with a number: `rest` follows it, and `found` tells whether there is one. -/
def flawOf (found isBeyond : Bool) (word rest : Octets) : Option NumberFlaw :=
  if isBeyond then some .beyond
  else if rest = [] ∨ word = [] then none
  else if !found then some .noNumber
  else some .rest

/-- The digits at the head of a text in the base that they show, with their value, and what
follows. -/
def wholeDigits? (cs : Octets) : Option (Nat × Octets) :=
  match cs with
  | '0' :: x :: d :: ds =>
    if (x = 'x' ∨ x = 'X') ∧ isHex d then
      let (hex, rest) := (d :: ds).span isHex
      some (hexOf hex, rest)
    else
      let (octal, rest) := (x :: d :: ds).span isOctal
      some (octalValue octal, rest)
  | _ =>
    match cs.span Char.isDigit with
    | ([], _) => none
    | ('0' :: ds, rest) =>
      let (octal, others) := ds.span isOctal
      some (octalValue octal, others ++ rest)
    | (ds, rest) => some ((String.ofList ds).toNat?.getD 0, rest)

/-- The whole number of sixty-four bits that a word stands for, with a sign or without, and what is
wrong with it. -/
def wholeOf (form : Form) (isSigned : Bool) (word : Octets) : Int × Option NumberFlaw :=
  match quoted? form word with
  | some (n, flaw?) => (n, flaw?)
  | none =>
    let (negative, ds) := takeSign word
    let (n, rest, found) :=
      match wholeDigits? ds with
      | some (n, rest) => (n, rest, true)
      | none => (0, word, false)
    let value : Int := if negative then -n else n
    let (value, isBeyond) : Int × Bool :=
      if isSigned then
        (max (-twoTo 63) (min (twoTo 63 - 1) value), value < -twoTo 63 || value ≥ twoTo 63)
      else if n ≥ twoTo 64 then (twoTo 64 - 1, true)
      else (value % twoTo 64, false)
    (value, flawOf found isBeyond word rest)

/-- A number that was read: a magnitude as a ratio, or a word for one; and what follows it. -/
inductive Magnitude where
  | ratio (num den : Nat)
  | scaled (digits : Nat) (exponent : Int)
  | infinite
  | nan

/-- An exponent behind its mark, if it is there, and what follows. -/
def takeExponent (mark : Char) (cs : Octets) : Int × Octets :=
  match cs with
  | c :: rest =>
    let (negative, ds) : Bool × Octets :=
      match rest with
      | '-' :: ds => (true, ds)
      | '+' :: ds => (false, ds)
      | ds => (false, ds)
    match ds.span Char.isDigit with
    | ([], _) => (0, cs)
    | (ds, after) =>
      if c.toLower ≠ mark then (0, cs)
      else
        let e : Int := min ((String.ofList ds).toNat?.getD 0) 100000
        (if negative then -e else e, after)
  | [] => (0, [])

/-- Digits with a point among them: all digits, how many of them are behind the point, and what
follows. -/
def takePointed (isDigit : Char → Bool) (cs : Octets) : Octets × Nat × Octets :=
  let (whole, rest) := cs.span isDigit
  match rest with
  | '.' :: after =>
    let (fraction, after) := after.span isDigit
    if whole = [] ∧ fraction = [] then ([], 0, rest) else (whole ++ fraction, fraction.length, after)
  | _ => (whole, 0, rest)

/-- The magnitude at the head of a text, and what follows. -/
def magnitude? (cs : Octets) : Option (Magnitude × Octets) :=
  let begins (word : String) : Bool := ((cs.take word.length).map Char.toLower) = word.toList
  let hexadecimal : Option (Magnitude × Octets) :=
    match cs with
    | '0' :: x :: rest =>
      if x = 'x' ∨ x = 'X' then
        match takePointed isHex rest with
        | ([], _, _) => none
        | (ds, places, rest) =>
          let (e, rest) := takeExponent 'p' rest
          let e := e - 4 * places
          some (.ratio (hexOf ds * twoTo e.toNat) (twoTo (-e).toNat), rest)
      else none
    | _ => none
  if begins "infinity" then some (.infinite, cs.drop 8)
  else if begins "inf" then some (.infinite, cs.drop 3)
  else if begins "nan" then
    match cs.drop 3 with
    | '(' :: rest =>
      match rest.span fun c => c.isAlphanum || c = '_' with
      | (_, ')' :: rest) => some (.nan, rest)
      | _ => some (.nan, '(' :: rest)
    | rest => some (.nan, rest)
  else
    hexadecimal <|>
      match takePointed Char.isDigit cs with
      | ([], _, _) => none
      | (ds, places, rest) =>
        let (e, rest) := takeExponent 'e' rest
        some (.scaled ((String.ofList ds).toNat?.getD 0) (e - places), rest)

/-- The power of ten beyond which all magnitudes count as infinite, and below whose opposite as
nothing. -/
def decimalBound : Int := 6000

/-- The number of a grid nearest to a magnitude, and whether it is beyond what the grid can tell
apart. -/
def Magnitude.nearest (g : Binary.Grid) (negative : Bool) : Magnitude → Binary × Bool
  | infinite => (.infinite negative, false)
  | nan => (.nan, false)
  | ratio num den => near num den
  | scaled digits exponent =>
    let size : Int := (Nat.toDigits 10 digits).length
    if digits = 0 then near 0 1
    else if size + exponent > decimalBound then (.infinite negative, true)
    else if size + exponent < -decimalBound then (.finite negative 0 g.least, true)
    else near (digits * tenTo exponent.toNat) (tenTo (-exponent).toNat)
where
  near (num den : Nat) : Binary × Bool :=
    match g.ofRatio negative num den with
    | .finite negative mantissa exponent =>
      let (n, d) := Binary.ratio mantissa exponent
      let isTiny := mantissa < twoTo (g.bits - 1) && n * den != num * d
      (.finite negative mantissa exponent, isTiny)
    | b => (b, true)

/-- The numbers in which a form counts. -/
def Form.grid : Form → Binary.Grid
  | inner => Binary.double
  | outer => Binary.extended

/-- The number that a word stands for, whether it has a minus, and what is wrong with it. -/
def realOf (form : Form) (word : Octets) : Binary × Bool × Option NumberFlaw :=
  match quoted? form word with
  | some (n, flaw?) => (form.grid.ofRatio false n 1, false, flaw?)
  | none =>
    let (negative, ds) := takeSign word
    match magnitude? ds with
    | none => (.finite false 0 form.grid.least, false, flawOf false false word word)
    | some (m, rest) =>
      let (b, isBeyond) := m.nearest form.grid negative
      (b, negative, flawOf true isBeyond word rest)

end BatchFormat.Shell.Print
