import BatchFormat.Number.Binary

/-!
# Figures

A magnitude written with so many places behind the point, with or without an exponent, or in
hexadecimal digits. What does not fit into the places is rounded to the nearest figures; a half goes
to the even neighbour.
-/
namespace BatchFormat

/-- The figures before and behind the point, and the exponent with its mark if there is one. -/
structure Figures where
  whole : List Char
  fraction : List Char
  exponent : List Char
  deriving DecidableEq, Repr

namespace Figures

def digits (n : Nat) : List Char := Nat.toDigits 10 n

/-- Digits with zeros in front up to a length. -/
def padded (length : Nat) (ds : List Char) : List Char :=
  List.replicate (length - ds.length) '0' ++ ds

/-- An exponent with its sign and at least `least` digits. -/
def exponentText (mark : Char) (least : Nat) (e : Int) : List Char :=
  mark :: (if e < 0 then '-' else '+') :: padded least (digits e.natAbs)

/-- A magnitude with a number of places. -/
def fixed (places num den : Nat) : Figures :=
  let ds := padded (places + 1) (digits (roundDiv (num * tenTo places) den))
  ⟨ds.take (ds.length - places), ds.drop (ds.length - places), []⟩

/-- The power of ten at or below a magnitude; that of zero is zero. -/
def decimalExponent (num den : Nat) : Int :=
  if num = 0 then 0
  else
    let rough : Int := (digits num).length - (digits den).length
    if num * tenTo (-rough).toNat < den * tenTo rough.toNat then rough - 1 else rough

/-- A magnitude as one figure and some places, times a power of ten: its digits and the power. -/
def leading (places num den : Nat) : Nat × Int :=
  let e := decimalExponent num den
  let shift := (places : Int) - e
  let n := roundDiv (num * tenTo shift.toNat) (den * tenTo (-shift).toNat)
  if n = tenTo (places + 1) then (tenTo places, e + 1) else (n, e)

/-- A magnitude as one figure and some places, times a power of ten. -/
def exponential (places num den : Nat) : Figures :=
  let (n, e) := leading places num den
  let ds := padded (places + 1) (digits n)
  ⟨ds.take 1, ds.drop 1, exponentText 'e' 2 e⟩

def withoutZeros (cs : List Char) : List Char := (cs.reverse.dropWhile (· = '0')).reverse

/-- A magnitude with a number of figures, with an exponent if it is small or large. Zeros at the
end of the fraction are kept only if asked for. -/
def general (keepsZeros : Bool) (count num den : Nat) : Figures :=
  let count := max count 1
  let (_, e) := leading (count - 1) num den
  let f :=
    if -4 ≤ e ∧ e < count then fixed ((count : Int) - 1 - e).toNat num den
    else exponential (count - 1) num den
  if keepsZeros then f else { f with fraction := withoutZeros f.fraction }

/-- The bits of a mantissa that make up the first hexadecimal figure: four where all bits are
written down, one where the first of them goes without saying. -/
def firstBits (g : Binary.Grid) : Nat := if g.bits % 4 = 0 then 4 else 1

/-- A number in hexadecimal figures, as many as it needs or with a number of places. -/
def hexadecimal (g : Binary.Grid) (places? : Option Nat) (mantissa : Nat) (exponent : Int) :
    Figures :=
  let rest := g.bits - firstBits g
  let all := rest / 4
  if mantissa = 0 then ⟨['0'], List.replicate (places?.getD 0) '0', ['p', '+', '0']⟩
  else
    let isShort := exponent > g.least ∨ firstBits g = 1
    let shift := if isShort then 0 else g.bits - 1 - mantissa.log2
    let (mantissa, exponent) := (mantissa * twoTo shift, exponent - shift)
    let kept := min (places?.getD all) all
    let n := roundDiv mantissa (twoTo (4 * (all - kept)))
    let (first, e) : Nat × Int :=
      if n / twoTo (4 * kept) = 16 then (1, exponent + rest + 4)
      else (n / twoTo (4 * kept), exponent + rest)
    let fraction := padded kept (Nat.toDigits 16 (n % twoTo (4 * kept)))
    let fraction := if kept = 0 then [] else fraction
    ⟨[Nat.digitChar first],
      match places? with
      | none => withoutZeros fraction
      | some places => fraction ++ List.replicate (places - kept) '0',
      exponentText 'p' 1 e⟩

/-- The text of figures; the point is written where digits follow it, or always if asked for. -/
def text (keepsPoint : Bool) (f : Figures) : List Char :=
  f.whole ++ (if f.fraction = [] ∧ !keepsPoint then [] else '.' :: f.fraction) ++ f.exponent

end Figures
end BatchFormat
