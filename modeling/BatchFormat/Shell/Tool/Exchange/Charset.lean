import BatchFormat.Shell.Pattern
import BatchFormat.Shell.Tool.Print.Escape

/-!
# Sets of characters

How sets of characters are written: as characters, ranges, classes such as `[:digit:]`, and
repetitions such as `[x*5]`.
-/
namespace BatchFormat.Shell.Exchange

/-- A part of a written set. A repetition without a count fills the set up. -/
inductive Part where
  | one (c : Char)
  | range (low high : Char)
  | named (name : String) (members : Octets)
  | like (c : Char)
  | repeated (c : Char) (count : Nat)

/-- A character of a written set, and whether a backslash protects it. -/
abbrev Written := Char × Bool

def octalText (c : Char) : Octets :=
  let digit (n : Nat) : Char := Char.ofNat ('0'.toNat + n % 8)
  ['\\', digit (c.toNat / 64), digit (c.toNat / 8), digit c.toNat]

def shown (c : Char) : Octets := if ' ' ≤ c ∧ c ≤ '~' then [c] else octalText c

/-- A text as remarks show it, with the usual escapes. -/
def shownText (cs : Octets) : Octets :=
  cs.flatMap fun c =>
    if c = '\\' then ['\\', '\\']
    else
      match Quotation.letters.lookup c with
      | some letter => ['\\', letter]
      | none => shown c

/-- The warning about three octal digits that stand for more than a character. -/
def ambiguity (digits : Octets) : String :=
  let all := String.ofList digits
  let first := String.ofList (digits.take 2)
  let last := String.ofList (digits.drop 2)
  s!"warning: the ambiguous octal escape \\{all} is being\n\tinterpreted as the 2-byte sequence " ++
    s!"\\0{first}, {last}"

/-- The characters of a written set, and warnings. -/
def characters : Nat → Octets → List Written × List String
  | 0, _ | _, [] => ([], [])
  | _, ['\\'] =>
    ([('\\', false)], ["warning: an unescaped backslash at end of string is not portable"])
  | n + 1, '\\' :: c :: rest =>
    if Print.isOctal c then
      let digits := ((c :: rest).take 3).takeWhile Print.isOctal
      let isLarge := Print.octalValue digits > 255
      let taken := if isLarge then digits.take 2 else digits
      let (more, warnings) := characters n ((c :: rest).drop taken.length)
      ((Print.octet (Print.octalValue taken), true) :: more,
        if isLarge then ambiguity digits :: warnings else warnings)
    else
      let (more, warnings) := characters n rest
      (((Print.simpleEscapes.lookup c).getD c, true) :: more, warnings)
  | n + 1, c :: rest =>
    let (more, warnings) := characters n rest
    ((c, false) :: more, warnings)

/-- What is between a mark and the same mark in front of a closing bracket, and what follows. -/
def closed? (mark : Char) : List Written → Option (Octets × List Written)
  | [] => none
  | e :: rest =>
    match e == (mark, false), rest with
    | true, (']', false) :: after => some ([], after)
    | _, _ => (closed? mark rest).map fun (inner, after) => (e.1 :: inner, after)

/-- Whether a star, digits and a closing bracket are at the head of a set. -/
def isRepetitionEnd : List Written → Bool
  | ('*', false) :: rest => (rest.dropWhile fun e => e.1.isDigit && !e.2).head? = some (']', false)
  | _ => false

/-- The number of repetitions that is written between a star and a closing bracket, behind which
`after` follows. -/
def repetitions (digits : Octets) : Except String Nat :=
  let refuse : Except String Nat :=
    .error s!"invalid repeat count {inCurlyQuotes (shownText digits)} in [c*n] construct"
  let bare :=
    match digits.dropWhile Octets.isSpace with
    | '+' :: ds => ds
    | ds => ds
  let isOctal := digits.head? = some '0'
  let test : Char → Bool := if isOctal then Print.isOctal else Char.isDigit
  let count :=
    if isOctal then Print.octalValue digits else (String.ofList bare).toNat?.getD 0
  if digits = [] then .ok 0
  else if bare = [] || !bare.all test || count > twoTo 64 - 3 then refuse
  else .ok count

/-- A repetition such as `[x*5]` behind its opening bracket, and what follows. -/
def repetition? : List Written → Option (Except String (Part × List Written))
  | (c, _) :: ('*', false) :: rest =>
    let digits := rest.takeWhile fun e => !e.2 && e.1 != ']'
    match rest.drop digits.length with
    | (']', false) :: after =>
      some ((repetitions (digits.map Prod.fst)).map fun count => (.repeated c count, after))
    | _ => none
  | _ => none

/-- A class between colons, or the characters like one between equals signs. -/
def construct (mark : Char) (name : Octets) : Except String Part :=
  match mark, name with
  | ':', [] => .error "missing character class name '[::]'"
  | _, [] => .error "missing equivalence class character '[==]'"
  | ':', _ =>
    match Pattern.classOf? (String.ofList name) with
    | some test =>
      .ok (.named (String.ofList name) (((List.range 256).map Char.ofNat).filter test))
    | none => .error s!"invalid character class {inCurlyQuotes (shownText name)}"
  | _, [c] => .ok (.like c)
  | _, _ =>
    let text := (shownText name).text
    .error s!"{text}: equivalence class operand must be a single character"

/-- What a bracket opens: a class, a repetition, or nothing. `rest` follows the bracket. -/
def bracket? (rest : List Written) : Option (Except String (Part × List Written)) :=
  let named? : Option (Char × Octets × List Written) :=
    match rest with
    | (mark, false) :: inner =>
      if mark = ':' ∨ mark = '=' then (closed? mark inner).map fun found => (mark, found) else none
    | _ => none
  match named? with
  | some (mark, name, after) =>
    match construct mark name with
    | .ok part => some (.ok (part, after))
    | .error remark =>
      if name ≠ [] ∧ isRepetitionEnd (rest.drop 1) then
        (repetition? rest).orElse fun _ => some (.error remark)
      else some (.error remark)
  | none => repetition? rest

/-- Reads the parts of a set. Only what has two more characters behind it can be more than one
character. -/
def parts : Nat → List Written → Except String (List Part)
  | 0, _ | _, [] => .ok []
  | n + 1, e :: rest =>
    let opened := if e = ('[', false) ∧ rest.length ≥ 2 then bracket? rest else none
    match opened, rest with
    | some (.error remark), _ => .error remark
    | some (.ok (part, after)), _ => (parts n after).map (part :: ·)
    | none, ('-', false) :: (high, _) :: after =>
      if high < e.1 then
        let ends := (shown e.1 ++ '-' :: shown high).text
        .error s!"range-endpoints of '{ends}' are in reverse collating sequence order"
      else (parts n after).map (.range e.1 high :: ·)
    | none, _ => (parts n rest).map (.one e.1 :: ·)

/-- The parts of a written set, and warnings. -/
def partsOf (cs : Octets) : Except String (List Part) × List String :=
  let (es, warnings) := characters (cs.length + 1) cs
  (parts (es.length + 1) es, warnings)

namespace Part

/-- The characters of a part, each with how often it comes in a row. -/
def runs : Part → List (Char × Nat)
  | one c | like c => [(c, 1)]
  | range low high =>
    (List.range (high.toNat + 1 - low.toNat)).map fun i => (Char.ofNat (low.toNat + i), 1)
  | named _ members => members.map fun c => (c, 1)
  | repeated c count => [(c, count)]

def isFiller : Part → Bool
  | repeated _ count => count == 0
  | _ => false

/-- Whether a part is the class of large or of small letters. -/
def isCase : Part → Bool
  | named name _ => name == "upper" || name == "lower"
  | _ => false

def isNamed : Part → Bool
  | named _ _ => true
  | _ => false

def isLike : Part → Bool
  | like _ => true
  | _ => false

end Part

/-- Characters in a row, each with how often it comes. -/
abbrev Runs := List (Char × Nat)

namespace Runs

def of (ps : List Part) : Runs := ps.flatMap Part.runs

def size (rs : Runs) : Nat := total (rs.map Prod.snd)

/-- Whether a character comes at all. -/
def has (rs : Runs) (c : Char) : Bool := rs.any fun r => r.1 == c && r.2 > 0

def at? : Runs → Nat → Option Char
  | [], _ => none
  | (c, count) :: rs, i => if i < count then some c else at? rs (i - count)

def lastPlace? (c : Char) (rs : Runs) : Option Nat :=
  (rs.foldl (fun (state : Nat × Option Nat) r =>
    let place := state.1 + r.2
    (place, if r.1 == c && r.2 > 0 then some (place - 1) else state.2)) (0, none)).2

def last? (rs : Runs) : Option Char := (rs.reverse.find? fun r => r.2 > 0).map Prod.fst

/-- Whether all characters are the same one. -/
def isUniform (rs : Runs) : Bool :=
  match rs.filter fun r => r.2 > 0 with
  | [] => false
  | r :: rs => rs.all fun s => s.1 == r.1

end Runs
end BatchFormat.Shell.Exchange
