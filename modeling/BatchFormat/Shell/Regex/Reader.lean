import BatchFormat.Shell.Regex
import BatchFormat.Shell.Regex.Bracket

/-!
# Reading regular expressions

Expressions come in two forms. In the basic form parentheses, braces and bars are special behind a
backslash, in the extended form without one. A repetition with nothing to repeat is a plain sign in
the basic form and a fault in the extended one.
-/
namespace BatchFormat.Shell.Regex

/-- How expressions are written and what they compare: the extended form, only the signs of the
standard, letters of either case, line ends kept apart from other signs, and whether a text begins
and ends at each of its lines. -/
structure Dialect where
  isExtended : Bool
  isStrict : Bool
  anyCase : Bool
  lines : Bool
  breaks : Bool

/-- What is wrong with an expression. -/
inductive Fault where
  | backslash | reference | parenthesis | brace | braceContent | repetition | tooBig
  | closingParenthesis | noSet
  | set (f : Bracket.Fault)
  deriving DecidableEq, Repr

def Fault.message : Fault → String
  | backslash => "Trailing backslash"
  | reference => "Invalid back reference"
  | parenthesis => "Unmatched ( or \\("
  | brace => "Unmatched \\\x7b"
  | braceContent => "Invalid content of \\\x7b\\\x7d"
  | repetition => "Invalid preceding regular expression"
  | tooBig => "Regular expression too big"
  | closingParenthesis => "Unmatched ) or \\)"
  | noSet => "Invalid regular expression"
  | set f => f.message

/-- A token of a written expression. `sign` keeps what it is written as. -/
inductive Token where
  | sign (s : Sign)
  /-- A sign of some kind; `isWide` tells that the kind goes beyond single characters. -/
  | atom (r : Regex) (isWide : Bool)
  | place (p : Place)
  | reference (index : Nat)
  | times (s : Sign) (least : Nat) (most? : Option Nat)
  | openBrace (s : Sign)
  | closeBrace (s : Sign)
  | opened
  | closed (s : Sign)
  | bar
  | bracket
  | backslash
  | ending

/-- A letter that stands for a class or a place when it follows a backslash. -/
def lettered? (c : Char) : Option Token :=
  let space : Sign → Bool := Sign.fits Text.Letter.isSpace
  let isCharacter : Sign → Bool := Sign.fits fun _ => true
  match c with
  | 'w' => some (.atom (.one Sign.isWord) true)
  | 'W' => some (.atom (.one fun s => isCharacter s && !s.isWord) true)
  | 's' => some (.atom (.one space) true)
  | 'S' => some (.atom (.one fun s => isCharacter s && !space s) true)
  | 'b' => some (.place (.edge fun front back => front != back))
  | 'B' => some (.place (.edge fun front back => front == back))
  | '<' => some (.place (.edge fun front back => !front && back))
  | '>' => some (.place (.edge fun front back => front && !back))
  | '`' => some (.place .textStart)
  | '\'' => some (.place .textEnd)
  | _ => none

/-- The signs that are special in one form as they are, and in the other behind a backslash. -/
def grouping? (d : Dialect) (c : Char) : Option Token :=
  let s : Sign := .char c
  match c with
  | '(' => some .opened
  | ')' => some (.closed s)
  | '\x7b' => some (.openBrace s)
  | '\x7d' => some (.closeBrace s)
  | '|' => if d.isStrict && !d.isExtended then none else some .bar
  | '+' => if d.isStrict && !d.isExtended then none else some (.times s 1 none)
  | '?' => if d.isStrict && !d.isExtended then none else some (.times s 0 (some 1))
  | _ => none

/-- Whether a dollar sign with this behind it stands at an end in the basic form. -/
def isAtEnd (d : Dialect) : List Sign → Bool
  | [] => true
  | .char '\\' :: .char c :: _ => c = ')' || (c = '|' && !d.isStrict)
  | _ => false

/-- The token at the head of a written expression, and what follows it. `isStart` tells that the
expression, a group or an alternative begins here. -/
def token (d : Dialect) (isStart : Bool) : List Sign → Token × List Sign
  | [] => (.ending, [])
  | .char '\\' :: [] => (.backslash, [])
  | .char '\\' :: .char c :: rest =>
    let found :=
      if '1' ≤ c ∧ c ≤ '9' then some (.reference (c.toNat - '0'.toNat))
      else
        (if d.isExtended then none else grouping? d c)
          <|> (if d.isStrict then none else lettered? c)
    (found.getD (.sign (.char c)), rest)
  | .char '\\' :: s :: rest => (.sign s, rest)
  | .char c :: rest =>
    let s : Sign := .char c
    match c with
    | '*' => (.times s 0 none, rest)
    | '[' => (.bracket, rest)
    | '.' =>
      (.atom (.one fun s => s.fits (fun _ => true) && !(d.lines && s.isNewline)) false, rest)
    | '^' =>
      let start : Place := if d.breaks then .lineStart else .textStart
      (if isStart || d.isExtended then .place start else .sign s, rest)
    | '$' =>
      let stop : Place := if d.breaks then .lineEnd else .textEnd
      (if d.isExtended || isAtEnd d rest then .place stop else .sign s, rest)
    | _ => (if d.isExtended then (grouping? d c).getD (.sign s) else .sign s, rest)
  | s :: rest => (.sign s, rest)

def timesLimit : Nat := 0x7fff

/-- The number between braces up to a comma, the closing brace or the end, which is none if it is
faulty. The inner none stands for no number at all. -/
def boundNumber (d : Dialect) : Nat → Option (Option Nat) → List Sign →
    Option (Option Nat) × Token × List Sign
  | 0, number, cs => (number, .ending, cs)
  | n + 1, number, cs =>
    let (t, rest) := token d false cs
    match t with
    | .ending => (none, t, rest)
    | .closeBrace _ => (number, t, rest)
    | .sign (.char c) =>
      if c = ',' then (number, t, rest)
      else
        let digit := c.toNat - '0'.toNat
        let number := if c.isDigit then
            number.map fun m => some (min (timesLimit + 1) (m.getD 0 * 10 + digit))
          else none
        boundNumber d n number rest
    | _ => boundNumber d n none rest

def Token.isEnding : Token → Bool
  | ending => true
  | _ => false

def Token.isClosing : Token → Bool
  | closeBrace _ => true
  | _ => false

def bounds (d : Dialect) (cs : List Sign) : Except Fault (Nat × Option Nat × List Sign) := do
  let (low, t, rest) := boundNumber d (cs.length + 1) (some none) cs
  let flaw (t : Token) : Fault := if t.isEnding then .brace else .braceContent
  match low with
  | none => .error (flaw t)
  | some none => if t.isClosing then .error .braceContent
  | some (some _) => pure ()
  let least := (low.getD none).getD 0
  let (high, t, rest) :=
    if t.isClosing then (some (some least), t, rest)
    else boundNumber d (rest.length + 1) (some none) rest
  match high with
  | none => .error (flaw t)
  | some most? =>
    if most?.any (· < least) ∨ !t.isClosing then .error .braceContent
    else if most?.getD least > timesLimit then .error .tooBig
    else return (least, most?, rest)

/-- What is left to read, whether something begins here, the number of groups opened so far, the
groups that were closed, and whether anything looks at more of a text than its bytes. -/
structure Source where
  rest : List Sign
  isStart : Bool
  opened : Nat
  closed : List Nat
  isWide : Bool

abbrev Read := StateT Source (Except Fault)

def peek (d : Dialect) : Read (Token × List Sign) := do
  let s ← get
  return token d s.isStart s.rest

def goTo (isStart : Bool) (rest : List Sign) : Read Unit :=
  modify fun s => { s with rest := rest, isStart := isStart }

def widen (isWide : Bool) : Read Unit := modify fun s => { s with isWide := s.isWide || isWide }

/-- A sign that stands for itself. -/
def plain (d : Dialect) (s : Sign) : Regex :=
  .one fun t => Bracket.fold d.anyCase t == Bracket.fold d.anyCase s

/-- The repetitions behind an element. In the basic form, no star and no brace may follow another
repetition. -/
def repetitions (d : Dialect) : Nat → (isAgain : Bool) → Regex → Read Regex
  | 0, _, r => return r
  | n + 1, isAgain, r => do
    let bound (least : Nat) (most? : Option Nat) : Regex :=
      if most? = some 0 then .empty else .repeated r least most?
    let (t, rest) ← peek d
    match t with
    | .times s least most? =>
      if isAgain && !d.isExtended && s == .char '*' then throw .repetition
      goTo false rest
      repetitions d n true (bound least most?)
    | .openBrace _ =>
      if isAgain && !d.isExtended then throw .repetition
      let (least, most?, rest) ← bounds d rest
      goTo false rest
      repetitions d n true (bound least most?)
    | _ => return r

def bracketed (d : Dialect) (rest : List Sign) : Read Regex := do
  if rest = [] ∨ rest = [.char '^'] then throw .noSet
  match Bracket.read d.anyCase d.lines rest with
  | .error f => throw (.set f)
  | .ok (accept, look, rest) => do
    widen !look.isNarrow
    goTo false rest
    return .one accept

mutual

/-- The alternatives up to the end of a group, or of the whole expression where `depth` is zero. -/
def alternatives (d : Dialect) : Nat → (depth : Nat) → Read Regex
  | 0, _ => return .empty
  | n + 1, depth => do
    let before := (← get).closed
    let first ← branch d n depth .empty
    let (t, rest) ← peek d
    match t with
    | .bar =>
      let closed := (← get).closed
      modify fun s => { s with closed := before }
      goTo true rest
      let second ← alternatives d n depth
      modify fun s => { s with closed := closed ++ s.closed }
      return .either first second
    | _ => return first

/-- The elements of one alternative behind those already read. -/
def branch (d : Dialect) : Nat → (depth : Nat) → Regex → Read Regex
  | 0, _, before => return before
  | n + 1, depth, before => do
    let (t, rest) ← peek d
    let onward (s : Sign) : Read Regex := do
      goTo false rest
      branch d n depth (.joined before (← repetitions d n false (plain d s)))
    match t with
    | .ending | .bar => return before
    | .backslash => throw .backslash
    | .closed s =>
      if depth > 0 then return before
      else if d.isStrict then onward s
      else throw .closingParenthesis
    | .sign s | .closeBrace s => onward s
    | .atom r isWide =>
      widen isWide
      goTo false rest
      branch d n depth (.joined before (← repetitions d n false r))
    | .place p =>
      widen p.isEdge
      goTo false rest
      branch d n depth (.joined before (.place p))
    | .reference index =>
      if !(← get).closed.contains index then throw .reference
      goTo false rest
      let same (a b : Sign) : Bool := Bracket.fold d.anyCase a == Bracket.fold d.anyCase b
      branch d n depth (.joined before (← repetitions d n false (.reference index same)))
    | .times s _ _ => if d.isExtended then throw .repetition else onward s
    | .openBrace _ => throw .repetition
    | .bracket =>
      let r ← bracketed d rest
      branch d n depth (.joined before (← repetitions d n false r))
    | .opened =>
      let index := (← get).opened + 1
      modify fun s => { s with opened := index }
      goTo true rest
      let body ← alternatives d n (depth + 1)
      match ← peek d with
      | (.closed _, rest) =>
        modify fun s => { s with closed := index :: s.closed }
        goTo false rest
        branch d n depth (.joined before (← repetitions d n false (.group index body)))
      | _ => throw .parenthesis

end

/-- The expression that signs stand for, and whether empty matches of it are found inside of signs,
which is so where it looks at nothing but bytes. -/
def ofSigns (d : Dialect) (cs : List Sign) : Except Fault (Regex × Bool) := do
  let (r, s) ← (alternatives d (4 * cs.length + 4) 0).run ⟨cs, true, 0, [], d.anyCase⟩
  return (r, !s.isWide)

/-- Whether a set in an expression looks like the name of a class that lacks its own brackets. -/
def hasSuspiciousSet (d : Dialect) : Nat → List Sign → Bool
  | 0, _ => false
  | n + 1, cs =>
    match token d false cs with
    | (.ending, _) => false
    | (.bracket, rest) =>
      match Bracket.read d.anyCase d.lines rest with
      | .ok (_, look, rest) => look.isSuspicious || hasSuspiciousSet d n rest
      | .error _ => false
    | (_, rest) => hasSuspiciousSet d n rest

end BatchFormat.Shell.Regex
