import BatchFormat.Text.Octets

/-!
# File name patterns

A star stands for any text, a question mark for any character, and brackets for one of several
characters. What is quoted stands for itself.
-/
namespace BatchFormat.Shell

/-- A character of a pattern, and whether it is quoted. -/
abbrev Marked := Char × Bool

namespace Pattern

def classes : List (String × (Char → Bool)) :=
  [("alnum", Char.isAlphanum), ("alpha", Char.isAlpha), ("blank", Octets.isBlank),
    ("cntrl", fun c => c < ' ' || c = '\x7f'), ("digit", Char.isDigit),
    ("graph", fun c => '!' ≤ c && c ≤ '~'), ("lower", Char.isLower),
    ("print", fun c => ' ' ≤ c && c ≤ '~'),
    ("punct", fun c => '!' ≤ c && c ≤ '~' && !c.isAlphanum), ("space", Octets.isSpace),
    ("upper", Char.isUpper),
    ("xdigit", fun c => c.isDigit || "abcdefABCDEF".toList.contains c)]

def classOf? (name : String) : Option (Char → Bool) := classes.lookup name

/-- Characters as they stand in a pattern. -/
def plain (text : String) : List Marked := text.toList.map (·, false)

/-- The class that is named behind an opening bracket, and how much of the pattern names it. -/
def classAt? (pattern : List Marked) : Option ((Char → Bool) × Nat) :=
  classes.findSome? fun (name, test) =>
    let written := plain s!":{name}:]"
    if written.isPrefixOf pattern then some (test, written.length) else none

/-- A character that a backslash in front of it protects counts as quoted, and so does a backslash
at the end. -/
def unescape : List Marked → List Marked
  | [] => []
  | [('\\', false)] => [('\\', true)]
  | ('\\', false) :: (c, false) :: rest => (c, true) :: unescape rest
  | m :: rest => m :: unescape rest

/-- The octet of a character as a number that may be negative. -/
def order (c : Char) : Int := if c.toNat < 128 then c.toNat else (c.toNat : Int) - 256

/-- The members of a set between brackets as a test, with what follows the bracket that closes it. A
closing bracket in the first place is a member, and so is a dash in the last. `skip` characters have
been read already. -/
def members (accept : Char → Bool) : (isFirst : Bool) → (skip : Nat) → List Marked →
    Option ((Char → Bool) × List Marked)
  | _, _, [] => none
  | isFirst, skip + 1, _ :: rest => members accept isFirst skip rest
  | isFirst, 0, (c, quoted) :: rest =>
    if c = ']' ∧ !quoted ∧ !isFirst then some (accept, rest)
    else
      match if c = '[' ∧ !quoted then classAt? rest else none with
      | some (test, size) => members (fun d => accept d || test d) false size rest
      | none =>
        match rest with
        | ('-', false) :: (high, isHighQuoted) :: _ =>
          if high = ']' ∧ !isHighQuoted then members (fun d => accept d || d == c) false 0 rest
          else
            members (fun d => accept d || (order c ≤ order d && order d ≤ order high)) false 2 rest
        | _ => members (fun d => accept d || d == c) false 0 rest

/-- A set behind its opening bracket, and what follows it. -/
def set? (pattern : List Marked) : Option ((Char → Bool) × List Marked) :=
  match pattern with
  | ('!', false) :: rest =>
    (members (fun _ => false) true 0 rest).map fun (accept, rest) => (fun c => !accept c, rest)
  | _ => members (fun _ => false) true 0 pattern

inductive Element where
  | any
  | one (accept : Char → Bool)

/-- The elements that characters stand for; `skip` characters belong to a set already read. -/
def elements : (skip : Nat) → List Marked → List Element
  | _, [] => []
  | skip + 1, _ :: rest => elements skip rest
  | 0, (c, quoted) :: rest =>
    if quoted then .one (· == c) :: elements 0 rest
    else if c = '*' then .any :: elements 0 rest
    else if c = '?' then .one (fun _ => true) :: elements 0 rest
    else if c = '[' then
      match set? rest with
      | some (accept, after) => .one accept :: elements (rest.length - after.length) rest
      | none => .one (· == c) :: elements 0 rest
    else .one (· == c) :: elements 0 rest

/-- Whether elements match the whole of a text. -/
def accepts : List Element → List Char → Bool
  | [], cs => cs.isEmpty
  | .any :: es, [] => accepts es []
  | .any :: es, c :: cs => accepts es (c :: cs) || accepts (.any :: es) cs
  | .one _ :: _, [] => false
  | .one test :: es, c :: cs => test c && accepts es cs
termination_by es cs => es.length + cs.length

/-- Whether a pattern matches the whole of a text. -/
def fits (pattern : List Marked) (cs : List Char) : Bool := accepts (elements 0 (unescape pattern)) cs

def isActive (pattern : List Marked) : Bool :=
  (unescape pattern).any fun m => !m.2 && (m.1 = '*' || m.1 = '?' || m.1 = '[')

end Pattern
end BatchFormat.Shell
