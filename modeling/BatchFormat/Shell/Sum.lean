import BatchFormat.Shell.Tool.Print

/-!
# Sums

Whole-number expressions with the usual signs and their usual order. Names stand for variables,
which an expression can also set. Numbers have sixty-four bits.
-/
namespace BatchFormat.Shell

inductive Sum where
  | number (n : Int)
  | name (x : Octets)
  | unary (sign : Char) (a : Sum)
  | binary (sign : String) (a b : Sum)
  | choice (test a b : Sum)
  /-- Sets a variable to a value, or to what a sign makes of its old value and another one. -/
  | assign (x : Octets) (sign : String) (a : Sum)

namespace Sum

/-- What is wrong with an expression. -/
inductive Flaw where
  | noOperand | trailing | noColon | noParenthesis | divisionByZero
  | notANumber (value : Octets)
  deriving DecidableEq, Repr

def Flaw.message (expression : Octets) (f : Flaw) : Octets :=
  let about (what : String) : Octets :=
    s!"arithmetic expression: {what}: \"".toList ++ expression ++ ['"']
  match f with
  | noOperand => about "expecting primary"
  | trailing => about "expecting EOF"
  | noColon => about "expecting ':'"
  | noParenthesis => about "expecting ')'"
  | divisionByZero => about "division by zero"
  | notANumber value => "Illegal number: ".toList ++ value

/-- The number of sixty-four bits that a whole number is cut down to. -/
def wrap (n : Int) : Int := n.bmod (twoTo 64)

def largest : Int := twoTo 63 - 1

/-- The signs between two operands, the longer ones first, with how tightly they bind. -/
def signs : List (String × Nat) :=
  [("||", 1), ("&&", 2), ("==", 6), ("!=", 6), ("<=", 7), (">=", 7), ("<<", 8), (">>", 8),
    ("|", 3), ("^", 4), ("&", 5), ("<", 7), (">", 7), ("+", 9), ("-", 9), ("*", 10), ("/", 10),
    ("%", 10)]

/-- The signs that may stand in front of the equals sign of an assignment. -/
def assignmentSigns : List String := ["", "<<", ">>", "+", "-", "*", "/", "%", "&", "^", "|"]

def ofBool (b : Bool) : Int := if b then 1 else 0

def onBits (join : Nat → Nat → Nat) (a b : Int) : Int :=
  wrap (join (a % twoTo 64).toNat (b % twoTo 64).toNat)

/-- The value of a sign between two operands. -/
def combine (sign : String) (a b : Int) : Except Flaw Int :=
  match sign with
  | "==" => .ok (ofBool (a == b))
  | "!=" => .ok (ofBool (a != b))
  | "<=" => .ok (ofBool (a ≤ b))
  | ">=" => .ok (ofBool (a ≥ b))
  | "<" => .ok (ofBool (a < b))
  | ">" => .ok (ofBool (a > b))
  | "<<" => .ok (wrap (a * twoTo (b % 64).toNat))
  | ">>" => .ok (a / twoTo (b % 64).toNat)
  | "|" => .ok (onBits (· ||| ·) a b)
  | "^" => .ok (onBits (· ^^^ ·) a b)
  | "&" => .ok (onBits (· &&& ·) a b)
  | "+" => .ok (wrap (a + b))
  | "-" => .ok (wrap (a - b))
  | "*" => .ok (wrap (a * b))
  | "/" => if b = 0 then .error .divisionByZero else .ok (wrap (a.tdiv b))
  | "%" => if b = 0 then .error .divisionByZero else .ok (wrap (a.tmod b))
  | _ => .ok b

def skip (cs : Octets) : Octets := cs.dropWhile Octets.isSpace

/-- The sign at the head of a text that binds at least as tightly as asked for. -/
def sign? (least : Nat) (cs : Octets) : Option (String × Nat × Octets) :=
  (signs.find? fun s => s.1.toList.isPrefixOf cs).bind fun s =>
    if s.2 ≥ least then some (s.1, s.2, cs.drop s.1.length) else none

def assignment? (cs : Octets) : Option (String × Octets) :=
  assignmentSigns.findSome? fun sign =>
    match cs.drop sign.length with
    | '=' :: rest =>
      if sign.toList.isPrefixOf cs ∧ rest.head? ≠ some '=' then some (sign, rest) else none
    | _ => none

def isNameChar (c : Char) : Bool := c.isAlphanum || c = '_'

/-- The number at the head of a text: hexadecimal, octal or decimal by its first digits. -/
def literal (cs : Octets) : Nat × Octets :=
  match cs with
  | '0' :: x :: d :: rest =>
    if (x = 'x' ∨ x = 'X') ∧ Print.isHex d then
      let (digits, rest) := (d :: rest).span Print.isHex
      (Print.hexOf digits, rest)
    else
      let (digits, rest) := (x :: d :: rest).span Print.isOctal
      (Print.octalValue digits, rest)
  | '0' :: rest =>
    let (digits, rest) := rest.span Print.isOctal
    (Print.octalValue digits, rest)
  | _ =>
    let (digits, rest) := cs.span Char.isDigit
    ((String.ofList digits).toNat?.getD 0, rest)

mutual

/-- An expression that may be an assignment. -/
def whole : Nat → Octets → Except Flaw (Sum × Octets)
  | 0, _ => .error .noOperand
  | n + 1, cs => do
    let (word, rest) := (skip cs).span isNameChar
    let isName := word.head?.any fun c => !c.isDigit
    match if isName then assignment? (skip rest) else none with
    | some (sign, rest) =>
      let (a, rest) ← whole n rest
      return (.assign word sign a, rest)
    | none =>
      let (test, rest) ← operation n 1 cs
      match skip rest with
      | '?' :: rest =>
        let (a, rest) ← whole n rest
        match skip rest with
        | ':' :: rest =>
          let (b, rest) ← whole n rest
          return (.choice test a b, rest)
        | _ => .error .noColon
      | _ => return (test, rest)

/-- An expression whose signs bind at least as tightly as asked for. -/
def operation : Nat → Nat → Octets → Except Flaw (Sum × Octets)
  | 0, _, _ => .error .noOperand
  | n + 1, least, cs => do
    let (a, rest) ← operand n cs
    further n least a rest

def further : Nat → Nat → Sum → Octets → Except Flaw (Sum × Octets)
  | 0, _, a, cs => .ok (a, cs)
  | n + 1, least, a, cs =>
    match sign? least (skip cs) with
    | none => .ok (a, cs)
    | some (sign, bind, rest) => do
      let (b, rest) ← operation n (bind + 1) rest
      further n least (.binary sign a b) rest

def operand : Nat → Octets → Except Flaw (Sum × Octets)
  | 0, _ => .error .noOperand
  | n + 1, cs =>
    match skip cs with
    | '(' :: rest => do
      let (a, rest) ← whole n rest
      match skip rest with
      | ')' :: rest => return (a, rest)
      | _ => .error .noParenthesis
    | c :: rest =>
      if "-+!~".toList.contains c then
        (operand n rest).map fun (a, rest) => (.unary c a, rest)
      else if c.isDigit then
        let (value, rest) := literal (c :: rest)
        .ok (.number (min value largest), rest)
      else
        let (word, rest) := (c :: rest).span isNameChar
        if word = [] then .error .noOperand else .ok (.name word, rest)
    | [] => .error .noOperand

end

def ofOctets (cs : Octets) : Except Flaw Sum := do
  let (a, rest) ← whole (4 * cs.length + 8) cs
  if skip rest = [] then return a else .error .trailing

/-- The number that the value of a variable stands for; an empty or blank value stands for
zero. -/
def ofValue (value : Octets) : Except Flaw Int :=
  let (negative, digits) :=
    match skip value with
    | '-' :: ds => (true, ds)
    | '+' :: ds => (false, ds)
    | ds => (false, ds)
  let (n, rest) := literal digits
  let isNumber := skip value = [] ∨ digits.head?.any Char.isDigit
  if !isNumber ∨ skip rest ≠ [] then .error (.notANumber value)
  else .ok (if negative then -(min (n : Int) (largest + 1)) else min (n : Int) largest)

/-- Variables that an expression has set, the latest first. -/
abbrev Assigned := List (Octets × Int)

/-- The value of an expression, with the variables that it sets. `value` tells what variables
hold. -/
def evaluate (value : Octets → Octets) : Sum → Assigned → Except Flaw (Int × Assigned)
  | .number n, set => .ok (n, set)
  | .name x, set =>
    match set.lookup x with
    | some n => .ok (n, set)
    | none => (ofValue (value x)).map fun n => (n, set)
  | .unary sign a, set => do
    let (n, set) ← evaluate value a set
    let m : Int :=
      match sign with
      | '-' => wrap (-n)
      | '!' => ofBool (n == 0)
      | '~' => wrap (-n - 1)
      | _ => n
    return (m, set)
  | .binary sign a b, set => do
    let (m, set) ← evaluate value a set
    if sign = "||" ∧ m ≠ 0 then return (1, set)
    else if sign = "&&" ∧ m = 0 then return (0, set)
    else
      let (n, set) ← evaluate value b set
      if sign = "||" ∨ sign = "&&" then return (ofBool (n != 0), set)
      else return (← combine sign m n, set)
  | .choice test a b, set => do
    let (n, set) ← evaluate value test set
    if n ≠ 0 then evaluate value a set else evaluate value b set
  | .assign x sign a, set => do
    let (m, set) ← evaluate value a set
    if sign = "" then return (m, (x, m) :: set)
    else
      let old ←
        match set.lookup x with
        | some n => .ok n
        | none => ofValue (value x)
      let n ← combine sign old m
      return (n, (x, n) :: set)

end Sum
end BatchFormat.Shell
