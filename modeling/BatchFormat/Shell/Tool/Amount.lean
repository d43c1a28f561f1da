import BatchFormat.Shell.Tool

/-!
# Written amounts

Numbers with a unit behind them, such as `5` and `2kB`.
-/
namespace BatchFormat.Shell

/-- What a written amount is: a number, too large a one, or none. -/
inductive Amount where
  | count (n : Nat)
  | tooLarge
  | malformed
  deriving DecidableEq, Repr

namespace Amount

def largest : Nat := twoTo 64 - 1

def powers : List (Char × Nat) :=
  [('k', 1), ('K', 1), ('m', 2), ('M', 2), ('G', 3), ('T', 4), ('P', 5), ('E', 6), ('Z', 7),
    ('Y', 8)]

/-- What a unit multiplies by, and what follows the unit. -/
def unit? : Octets → Option (Nat × Octets)
  | [] => some (1, [])
  | 'b' :: rest => some (512, rest)
  | letter :: rest =>
    (powers.lookup letter).map fun power =>
      match rest with
      | 'i' :: 'B' :: rest => (twoTo (10 * power), rest)
      | 'B' :: rest | 'D' :: rest => (tenTo (3 * power), rest)
      | rest => (twoTo (10 * power), rest)

/-- Reads an amount. A unit without a number counts once. -/
def read (cs : Octets) : Amount :=
  let ds :=
    match cs.dropWhile Octets.isSpace with
    | '+' :: ds => ds
    | ds => ds
  let (digits, rest) := ds.span Char.isDigit
  let (n, rest) := if digits = [] then (1, cs) else ((String.ofList digits).toNat?.getD 0, rest)
  match unit? rest with
  | some (factor, []) =>
    if digits = [] ∧ cs = [] then malformed
    else if n > largest ∨ n * factor > largest then tooLarge else count (n * factor)
  | _ => malformed

def remark (what : String) (written : Octets) (isTooLarge : Bool) : String :=
  let reason := if isTooLarge then ": Value too large for defined data type" else ""
  s!"invalid number of {what}: {inCurlyQuotes written}{reason}"

end Amount
end BatchFormat.Shell
