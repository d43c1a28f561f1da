import BatchFormat.Number.Power

/-!
# Binary numbers

Numbers with a sign, a whole mantissa of so many bits and a power of two: those in which waiting
times are given have 53 bits. A number between two of them becomes the nearer one; halfway between,
the one with an even mantissa.
-/
namespace BatchFormat

/-- Division to the nearest whole number; a half goes to the even neighbour. -/
def roundDiv (num den : Nat) : Nat :=
  let low := num / den
  let twice := 2 * (num % den)
  if twice < den then low
  else if twice = den then low + low % 2
  else low + 1

/-- A finite number has the value `mantissa * 2 ^ exponent`. Built from a ratio, its mantissa has as
many bits as there are, or fewer if the exponent is the least one. -/
inductive Binary where
  | nan
  | infinite (negative : Bool)
  | finite (negative : Bool) (mantissa : Nat) (exponent : Int)
  deriving DecidableEq, Repr

namespace Binary

/-- The numbers that can be told apart: the bits of a mantissa and the ends of the exponents. -/
structure Grid where
  bits : Nat
  least : Int
  greatest : Int

def double : Grid := ⟨53, -1074, 971⟩

def extended : Grid := ⟨64, -16445, 16320⟩

/-- The power of two by which a positive ratio is scaled to get a mantissa. -/
def Grid.scaleOf (g : Grid) (num den : Nat) : Int :=
  let rough : Int := (num.log2 : Int) - den.log2 - g.bits
  let isLow := num * twoTo (-rough).toNat < den * twoTo (rough.toNat + g.bits)
  max g.least (if isLow then rough else rough + 1)

/-- The number of a grid nearest to `num / den`. -/
def Grid.ofRatio (g : Grid) (negative : Bool) (num den : Nat) : Binary :=
  if num = 0 then finite negative 0 g.least
  else
    let scale := g.scaleOf num den
    let mantissa := roundDiv (num * twoTo (-scale).toNat) (den * twoTo scale.toNat)
    let (mantissa, scale) :=
      if mantissa = twoTo g.bits then (twoTo (g.bits - 1), scale + 1) else (mantissa, scale)
    if scale > g.greatest then infinite negative else finite negative mantissa scale

/-- The number nearest to `num / den`. -/
def ofRatio (negative : Bool) (num den : Nat) : Binary := double.ofRatio negative num den

/-- A bound beyond which a decimal number is too large, and below its opposite too small, for any
finite number but zero. -/
def decimalBound : Int := 400

/-- The number nearest to `digits * 10 ^ exponent`. -/
def ofDecimal (negative : Bool) (digits : Nat) (exponent : Int) : Binary :=
  let size : Int := (Nat.toDigits 10 digits).length
  if digits = 0 ∨ size + exponent < -decimalBound then ofRatio negative 0 1
  else if size + exponent > decimalBound then infinite negative
  else ofRatio negative (digits * tenTo exponent.toNat) (tenTo (-exponent).toNat)

def ofInt (n : Int) : Binary := ofDecimal (n < 0) n.natAbs 0

/-- The numerator and denominator of a finite magnitude. -/
def ratio (mantissa : Nat) (exponent : Int) : Nat × Nat :=
  (mantissa * twoTo exponent.toNat, twoTo (-exponent).toNat)

end Binary
end BatchFormat
