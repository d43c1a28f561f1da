import BatchFormat.Shell.Tool.Print.Conversion

/-!
# Delays

`sleep` lets time pass.
-/
namespace BatchFormat.Shell.Delay

def second : Nat := tenTo 9

def unit? : Octets → Option Nat
  | [] | ['s'] => some 1
  | ['m'] => some 60
  | ['h'] => some 3600
  | ['d'] => some 86400
  | _ => none

def timeOf? (cs : Octets) : Option Nat := do
  let (negative, ds) := Print.takeSign cs
  let (m, rest) ← Print.magnitude? ds
  let unit ← unit? rest
  let within (num den : Nat) : Option Nat :=
    if negative ∧ num ≠ 0 then none else some (num * second * unit / den)
  match m with
  | .nan => none
  | .infinite => if negative then none else some endless
  | .ratio num den => within num den
  | .scaled digits exponent =>
    let size : Int := (Nat.toDigits 10 digits).length
    if digits = 0 ∨ size + exponent < -Print.decimalBound then within 0 1
    else if size + exponent > Print.decimalBound then if negative then none else some endless
    else within (digits * tenTo exponent.toNat) (tenTo (-exponent).toNat)

def sleep : Tool := fun c =>
  c.withOptions ⟨"", "", "", [], 1, false⟩ fun _ times =>
    let wrong := times.filter fun time => (timeOf? time).isNone
    if c.arguments = [] then c.refuse "missing operand" 1
    else if wrong = [] then { c.idle with time := total (times.filterMap timeOf?) }
    else
      let remarks := wrong.map fun time => s!"invalid time interval {inCurlyQuotes time}"
      c.refuse (String.intercalate s!"\n{c.name.text}: " remarks) 1

end BatchFormat.Shell.Delay
