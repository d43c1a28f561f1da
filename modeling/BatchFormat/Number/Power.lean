/-!
# Powers and totals

The powers in which magnitudes are scaled and amounts are counted, and the total of some amounts.
-/
namespace BatchFormat

def twoTo (n : Nat) : Nat := Nat.pow 2 n

def tenTo (n : Nat) : Nat := Nat.pow 10 n

/-- All numbers of a list taken together. -/
def total (ns : List Nat) : Nat := ns.foldl (fun sum n => sum + n) 0

end BatchFormat
