/-!
# Code points

A text that is handed over as a sequence of code points can hold a surrogate that stands alone,
which is no character. Sets of characters are ranges of code points.
-/
namespace BatchFormat

abbrev Point := Fin 0x110000

namespace Point

def ofChar (c : Char) : Point :=
  ⟨c.toNat, c.valid.elim (fun h => Nat.lt_trans h (by decide)) And.right⟩

/-- The character of a code point, if it is one. -/
def char? (p : Point) : Option Char :=
  if h : p.val.isValidChar then some (Char.ofNatAux p.val h) else none

end Point

/-- The code points of a text, none of them a surrogate. -/
def points (s : String) : List Point := s.toList.map Point.ofChar

namespace Text

/-- Inclusive ranges of code points, disjoint and in increasing order. -/
abbrev Ranges := List (Nat × Nat)

/-- Membership; the search stops at the first range that begins above the number. -/
def Ranges.contains : Ranges → Nat → Bool
  | [], _ => false
  | (low, high) :: rest, n => low ≤ n && (n ≤ high || Ranges.contains rest n)

end Text
end BatchFormat
