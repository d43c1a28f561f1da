import BatchFormat.Number.Binary

/-!
# Decimal text of binary numbers

Two ways to write a number: with the fewest digits that read back as the same number, and rounded
to six digits. Both write small and large magnitudes with an exponent.
-/
namespace BatchFormat.Binary

/-- Significant digits with the place of the point: the value is `0.digits * 10 ^ point`. -/
structure Decimal where
  digits : List Char
  point : Int
  deriving DecidableEq, Repr

def decimalDigits (n : Nat) : List Char := Nat.toDigits 10 n

/-- The digits of `n * 10 ^ exponent` without zeros at the end. -/
def Decimal.ofScaled (n : Nat) (exponent : Int) : Decimal :=
  let digits := decimalDigits n
  let kept := (digits.reverse.dropWhile (· = '0')).reverse
  ⟨if kept = [] then ['0'] else kept, digits.length + exponent⟩

/-- The scale at which a positive ratio, cut to whole units, has `count` digits or one more. -/
def decimalScale (count num den : Nat) : Int :=
  let size : Int := (decimalDigits num).length - (decimalDigits den).length
  let shift := size - count
  if num * tenTo (-shift).toNat < den * tenTo (shift.toNat + count) then shift else shift + 1

/-- A positive ratio in units of `10 ^ scale`, as a ratio. -/
def scaled (num den : Nat) (scale : Int) : Nat × Nat :=
  (num * tenTo (-scale).toNat, den * tenTo scale.toNat)

/-- A positive magnitude rounded to `count` digits; a half goes to the even neighbour. -/
def rounded (count num den : Nat) : Decimal :=
  let (n, d) := scaled num den (decimalScale count num den)
  let (n, d, scale) :=
    if n < d * tenTo (count - 1) then
      let scale := decimalScale count num den - 1
      let (n, d) := scaled num den scale
      (n, d, scale)
    else (n, d, decimalScale count num den)
  .ofScaled (roundDiv n d) scale

/-- The neighbours of a magnitude among the decimals with `count` digits that read back as the
magnitude, the nearer one first. -/
def readBack? (count mantissa : Nat) (exponent : Int) : Option Decimal :=
  let (num, den) := ratio mantissa exponent
  let scale := decimalScale count num den
  let (n, d) := scaled num den scale
  let low := n / d
  let near := roundDiv n d
  let far := if near = low then low + 1 else low
  let reads (k : Nat) : Bool := ofDecimal false k scale == finite false mantissa exponent
  if reads near then some (.ofScaled near scale)
  else if reads far then some (.ofScaled far scale)
  else none

def digitLimit : Nat := 17

def shortest (mantissa : Nat) (exponent : Int) : Decimal :=
  let (num, den) := ratio mantissa exponent
  ((List.range digitLimit).findSome? fun i => readBack? (i + 1) mantissa exponent).getD
    (rounded digitLimit num den)

/-- How a number is written: positionally while the point stands in `1 - zeros ..= places`, and
with or without a fraction of zero. -/
structure Style where
  places : Int
  keepsZeroFraction : Bool
  deriving DecidableEq, Repr

/-- Digits without a point between them get the point at `point`. -/
def positional (style : Style) (d : Decimal) : List Char :=
  if d.point ≤ 0 then '0' :: '.' :: List.replicate (-d.point).toNat '0' ++ d.digits
  else
    let whole := d.point.toNat
    if d.digits.length ≤ whole then
      d.digits ++ List.replicate (whole - d.digits.length) '0'
        ++ (if style.keepsZeroFraction then ['.', '0'] else [])
    else d.digits.take whole ++ '.' :: d.digits.drop whole

/-- At least two digits of an exponent, after its sign. -/
def exponentText (e : Int) : List Char :=
  let digits := decimalDigits e.natAbs
  (if e < 0 then '-' else '+') :: (if digits.length < 2 then '0' :: digits else digits)

def scientific (d : Decimal) : List Char :=
  let fraction := d.digits.drop 1
  d.digits.take 1 ++ (if fraction = [] then [] else '.' :: fraction)
    ++ 'e' :: exponentText (d.point - 1)

/-- Writes digits; four zeros after the point are the most that stand before a digit. -/
def Style.write (style : Style) (d : Decimal) : List Char :=
  if -4 < d.point ∧ d.point ≤ style.places then positional style d else scientific d

def signText (negative : Bool) : String := if negative then "-" else ""

/-- Writes a number with the digits that `pick` chooses for a positive magnitude. -/
def textWith (style : Style) (pick : Nat → Int → Decimal) : Binary → String
  | nan => "nan"
  | infinite negative => signText negative ++ "inf"
  | finite negative mantissa exponent =>
    let d := if mantissa = 0 then ⟨['0'], 1⟩ else pick mantissa exponent
    signText negative ++ String.ofList (style.write d)

/-- The shortest text that reads back; whole numbers keep a zero fraction. -/
def text : Binary → String := textWith ⟨16, true⟩ shortest

/-- The text with six significant digits, as it appears in messages. -/
def brief : Binary → String :=
  textWith ⟨6, false⟩ fun mantissa exponent =>
    let (num, den) := ratio mantissa exponent
    rounded 6 num den

end BatchFormat.Binary
