import BatchFormat.Shell.Tool

/-!
# Conditions

`test` tells whether a condition holds: tests of files, texts and numbers, joined by signs for "and",
"or" and "not", and grouped by parentheses.
-/
namespace BatchFormat.Shell.Condition

/-- A word of a condition by its part in it. What could be an operand as well depends on the words
that follow. -/
inductive Token where
  | ends
  | operand
  | unary (letter : Char)
  | binary (sign : String)
  | negation
  | both
  | either
  | opening
  | closing
  deriving DecidableEq, Repr

namespace Token

/-- What a word stands for by itself, if it is more than an operand. -/
def named? (word : Octets) : Option Token :=
  match word with
  | ['!'] => some negation
  | ['('] => some opening
  | [')'] => some closing
  | ['-', 'a'] => some both
  | ['-', 'o'] => some either
  | ['-', letter] =>
    if "rwxefdcbpugkstznhOGLS".toList.contains letter then some (unary letter) else none
  | _ =>
    let sign := String.ofList word
    let signs := ["=", "!=", "<", ">", "-eq", "-ne", "-ge", "-gt", "-le", "-lt", "-nt", "-ot", "-ef"]
    if signs.contains sign then some (binary sign) else none

def isBinary : Token → Bool
  | binary _ => true
  | _ => false

/-- What the first of some words stands for. The test of an operand is an operand itself if none
follows, or if it is compared with something. -/
def first : List Octets → Token
  | [] => ends
  | word :: words =>
    match named? word, words with
    | none, _ => operand
    | some (unary _), [] => operand
    | some (unary letter), next :: _ :: _ =>
      if ((named? next).any isBinary) then operand else unary letter
    | some opening, [] => operand
    | some token, _ => token

end Token

/-- What is wrong with a condition. -/
inductive Flaw where
  | unexpected (word : Octets)
  | noArgument (word : Octets)
  | unclosed
  | noNumber (word : Octets)
  deriving DecidableEq, Repr

def Flaw.message : Flaw → String
  | unexpected word =>
    if word = [] then "unexpected operator" else s!"{word.text}: unexpected operator"
  | noArgument word => s!"{word.text}: argument expected"
  | unclosed => "closing paren expected"
  | noNumber word => s!"Illegal number: {word.text}"

/-- The whole number that a word stands for, with blanks around it. -/
def numberOf (word : Octets) : Except Flaw Int :=
  let (negative, ds) :=
    match word.dropWhile Octets.isSpace with
    | '+' :: ds => (false, ds)
    | '-' :: ds => (true, ds)
    | ds => (false, ds)
  let (digits, rest) := ds.span Char.isDigit
  let size := ((String.ofList digits).toNat?).getD 0
  let value : Int := if negative then -size else size
  let isSmall := -(twoTo 63) ≤ value ∧ value < twoTo 63
  if digits ≠ [] ∧ isSmall ∧ rest.all Octets.isSpace then .ok value else .error (.noNumber word)

/-- The entry that a word leads to, with its place. -/
def target? (c : Call) (word : Octets) : Option (Location × Entry) :=
  match Files.locate c.tree c.here word with
  | .ok (.found place entry) => some (place, entry)
  | _ => none

def isDevice (place : Location) (entry : Entry) : Bool :=
  match entry with
  | .fifo _ => place.head? == some "dev"
  | _ => false

/-- What a test of one operand says about it. -/
def holds (c : Call) (letter : Char) (operand : Octets) : Except Flaw Bool :=
  let found := target? c operand
  let suits (test : Location → Entry → Bool) : Except Flaw Bool :=
    .ok (found.any fun e => test e.1 e.2)
  match letter with
  | 'n' => .ok (operand != [])
  | 'z' => .ok (operand == [])
  | 't' => (numberOf operand).map fun _ => false
  | 'f' => suits fun _ e => e.isFile
  | 'd' => suits fun _ e => e.isDir
  | 'c' => suits isDevice
  | 'b' | 'S' => .ok false
  | 'p' => suits fun place e => !isDevice place e && !e.isFile && !e.isDir && !e.isLink
  | 'u' => suits fun _ e => e.mode &&& 0o4000 != 0
  | 'g' => suits fun _ e => e.mode &&& 0o2000 != 0
  | 'k' => suits fun _ e => e.mode &&& 0o1000 != 0
  | 'x' => suits fun _ e => e.isDir || Tree.isExecutableMode e.mode
  | 's' => suits fun _ e =>
    match e with
    | .file bytes _ => bytes != []
    | e => e.isDir
  | 'L' | 'h' =>
    match Files.locateSelf c.tree c.here operand with
    | .ok (.found _ e) => .ok e.isLink
    | _ => .ok false
  | _ => .ok found.isSome

/-- Whether the first of two files is the newer one: what was made later comes later in a tree. -/
def isNewer (t : Tree) (a b : Option (Location × Entry)) : Bool :=
  match a, b with
  | some (first, _), some (second, _) =>
    let rank (place : Location) : Nat := t.entries.findIdx fun e => e.1 = place
    rank first > rank second
  | _, _ => false

/-- What a test of two operands says about them. -/
def compares (c : Call) (sign : String) (a b : Octets) : Except Flaw Bool := do
  let order (test : Int → Int → Bool) : Except Flaw Bool := do
    return test (← numberOf a) (← numberOf b)
  match sign with
  | "=" => return a == b
  | "!=" => return a != b
  | "<" => return a < b
  | ">" => return b < a
  | "-eq" => order (· == ·)
  | "-ne" => order (· != ·)
  | "-lt" => order fun m n => m < n
  | "-le" => order fun m n => m ≤ n
  | "-gt" => order fun m n => m > n
  | "-ge" => order fun m n => m ≥ n
  | "-nt" => return isNewer c.tree (target? c a) (target? c b)
  | "-ot" => return isNewer c.tree (target? c b) (target? c a)
  | _ => return (target? c a).isSome && (target? c a).map Prod.fst == (target? c b).map Prod.fst

mutual

/-- Reads conditions joined by "or" from the first of some words on, which is `token`. The result
holds the words from the last one that was read on; none of them is left if that is missing. -/
def disjunction (c : Call) : Nat → Token → List Octets → Except Flaw (Bool × List Octets)
  | 0, _, words => .ok (false, words)
  | n + 1, token, words => do
    let (first, words) ← conjunction c n token words
    if Token.first (words.drop 1) ≠ .either then return (first, words)
    else
      let words := words.drop 2
      let (second, words) ← disjunction c n (Token.first words) words
      return (first || second, words)

def conjunction (c : Call) : Nat → Token → List Octets → Except Flaw (Bool × List Octets)
  | 0, _, words => .ok (false, words)
  | n + 1, token, words => do
    let (first, words) ← negated c n token words
    if Token.first (words.drop 1) ≠ .both then return (first, words)
    else
      let words := words.drop 2
      let (second, words) ← conjunction c n (Token.first words) words
      return (first && second, words)

def negated (c : Call) : Nat → Token → List Octets → Except Flaw (Bool × List Octets)
  | 0, _, words => .ok (false, words)
  | n + 1, token, words =>
    if token ≠ .negation then primary c n token words
    else do
      let next := Token.first (words.drop 1)
      let words := if next = .ends then words else words.drop 1
      let (value, words) ← negated c n next words
      return (!value, words)

/-- Reads a condition in parentheses, or a single test. -/
def primary (c : Call) : Nat → Token → List Octets → Except Flaw (Bool × List Octets)
  | 0, _, words => .ok (false, words)
  | n + 1, token, words =>
    match token, words with
    | .ends, _ | _, [] => .ok (false, words)
    | .opening, _ :: rest => do
      let next := Token.first rest
      if next = .closing then return (false, rest)
      else
        let (value, words) ← disjunction c n next rest
        let words := words.drop 1
        if Token.first words = .closing then return (value, words) else throw .unclosed
    | .unary letter, word :: rest =>
      match rest with
      | [] => .error (.noArgument word)
      | operand :: _ => do return (← holds c letter operand, rest)
    | _, word :: rest =>
      match Token.first rest, rest with
      | .binary sign, _ :: operand :: more => do
        return (← compares c sign word operand, operand :: more)
      | .binary _, [sign] => .error (.noArgument sign)
      | _, _ => .ok (word != [], words)

end

/-- Whether a condition holds. One of three words is a comparison if it can be; parentheses around
up to two words are dropped. -/
def evaluate (c : Call) : Nat → List Octets → Except Flaw Bool
  | 0, _ | _, [] => .ok false
  | n + 1, words =>
    let isComparison : Bool :=
      match words with
      | [_, sign, _] => (Token.named? sign).any Token.isBinary
      | _ => false
    let isEnclosed := (words.length = 3 || words.length = 4)
      && words.head? == some ['('] && words.getLast? == some [')']
    if isEnclosed && !isComparison then evaluate c n (words.drop 1).dropLast
    else do
      let token := if isComparison then .operand else Token.first words
      let (value, rest) ← disjunction c (4 * words.length + 8) token words
      match rest with
      | word :: _ :: _ => throw (.unexpected word)
      | _ => return value

/-- `test`, also written with brackets around the condition. `title` is what complaints begin
with. -/
def test (title : Octets) : Tool := fun c =>
  let isOpen := c.name = ['['] ∧ c.arguments.getLast? ≠ some [']']
  let words := if c.name = ['['] then c.arguments.dropLast else c.arguments
  let wanted := if title = c.name then inCurlyQuotes [']'] else "]"
  if isOpen then c.idle.complain title s!"missing {wanted}" 2
  else
    match evaluate c (words.length + 1) words with
    | .ok true => c.idle
    | .ok false => { c.idle with status := 1 }
    | .error flaw => c.idle.complain title flaw.message 2

end BatchFormat.Shell.Condition
