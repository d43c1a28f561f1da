import BatchFormat.Shell.Tool.Exchange.Charset

/-!
# Exchanging characters

`tr` exchanges the characters of one set for those of another, deletes the characters of a set, or
makes runs of them single.
-/
namespace BatchFormat.Shell.Exchange

/-- The parts of a set in which a filler makes up for what is missing of `size`. -/
def filled (size : Nat) (ps : List Part) : List Part :=
  let missing := size - (Runs.of ps).size
  if (ps.filter Part.isFiller).length = 1 then
    ps.map fun p =>
      match p with
      | .repeated c 0 => .repeated c missing
      | p => p
  else ps

/-- Parts as they are passed in an exchange: a class of letters by one case as a whole, all else
character by character. -/
def steps (ps : List Part) : List (Bool × Nat) :=
  ps.flatMap fun p => if p.isCase then [(true, 1)] else [(false, (Runs.of [p]).size)]

/-- Whether each class of letters by case in the second of two sets meets one in the first. -/
def isAligned : Nat → (first second : List (Bool × Nat)) → Bool
  | 0, _, _ => true
  | n + 1, first, second =>
    match first, second with
    | first, (false, 0) :: second => isAligned n first second
    | (false, 0) :: first, second => isAligned n first second
    | _, [] => true
    | (true, _) :: first, (true, _) :: second => isAligned n first second
    | _, (true, _) :: _ => false
    | [], (false, _) :: _ => true
    | (true, _) :: first, (false, k) :: second =>
      if k = 26 then isAligned n first second
      else if k < 26 then isAligned n ((false, 26 - k) :: first) second
      else isAligned n first ((false, k - 26) :: second)
    | (false, j) :: first, (false, k) :: second =>
      if j < k then isAligned n first ((false, k - j) :: second)
      else isAligned n ((false, j - k) :: first) second

/-- What is wrong with the sets of an exchange, the first of which has `size` characters. The second
one has been filled up. -/
def flaw? (isComplement truncates : Bool) (size : Nat) (first second : List Part) : Option String :=
  let target := Runs.of second
  let isUneven := !truncates && size > target.size
  let length := if isUneven then size else target.size
  let (front, back) := (steps first, steps second)
  if second.any Part.isLike then
    some "[=c=] expressions may not appear in string2 when translating"
  else if second.any fun p => p.isNamed && !p.isCase then
    some ("when translating, the only character classes that may appear in\n"
      ++ "string2 are 'upper' and 'lower'")
  else if !isComplement && !isAligned (2 * (front.length + back.length) + 2) front back then
    some "misaligned [:upper:] and/or [:lower:] construct"
  else if isUneven && target.size = 0 then
    some "when not truncating set1, string2 must be non-empty"
  else if isUneven && (second.getLast?).any Part.isNamed then
    some ("when translating with string1 longer than string2,\n"
      ++ "the latter string must not end with a character class")
  else if isComplement && first.any Part.isNamed && !(length = size && target.isUniform) then
    some ("when translating with complemented character classes,\n"
      ++ "string2 must map all characters in the domain to one")
  else none

/-- Runs of one character that is in a set become single. -/
def squeeze (accept : Char → Bool) (cs : Octets) : Octets :=
  (cs.foldl (fun out c => if out.head? = some c && accept c then out else c :: out) []).reverse

/-- A text with the characters of one set exchanged for those of another, in the same places. The
last character of the other set stands for all that are missing in it, unless the first set is cut
to its size. -/
def exchanged (truncates : Bool) (source target : Runs) (cs : Octets) : Octets :=
  let source : Runs :=
    if truncates then
      (source.foldl (fun (state : Nat × Runs) r =>
        let count := min r.2 (target.size - state.1)
        (state.1 + count, (r.1, count) :: state.2)) (0, [])).2.reverse
    else source
  let table : Array Char := ((List.range 256).map fun i =>
    let c := Char.ofNat i
    match source.lastPlace? c with
    | some place => (target.at? place).getD (target.last?.getD c)
    | none => c).toArray
  cs.map fun c => (table[c.toNat]?).getD c

def operandFlaw? (deletes squeezes : Bool) (operands : List Octets) : Option String :=
  let least := if deletes = squeezes then 2 else 1
  let most := if deletes ∧ !squeezes then 1 else 2
  match operands with
  | [] => some "missing operand"
  | [only] =>
    if least = 1 then none
    else
      let reason := if squeezes then "both deleting and squeezing repeats" else "translating"
      some s!"missing operand after {inCurlyQuotes only}\nTwo strings must be given when {reason}."
  | _ =>
    operands[most]?.map fun extra =>
      s!"extra operand {inCurlyQuotes extra}" ++
        if operands.length = 2 then
          "\nOnly one string may be given when deleting without squeezing repeats."
        else ""

def sizeLimit : Nat := twoTo 64 - 1

def tr : Tool := fun c =>
  let long := [("complement", 'c'), ("delete", 'd'), ("squeeze-repeats", 's'),
    ("truncate-set1", 't')]
  c.withOptions ⟨"AcCdst", "", "", long, 1, true⟩ fun found operands =>
    let isComplement := found.has 'c' || found.has 'C'
    let (deletes, squeezes) := (found.has 'd', found.has 's')
    match operandFlaw? deletes squeezes operands with
    | some flaw => c.refuse flaw 1
    | none =>
      let warn (warnings : List String) (d : Deed) : Deed :=
        warnings.foldl (fun d warning => d.complain c.name warning 0) d
      let (first, firstWarnings) := partsOf (operands.head?.getD [])
      let (second, secondWarnings) := partsOf ((operands[1]?).getD [])
      let warned := warn firstWarnings c.idle
      match first, second with
      | .error flaw, _ => warned.complain c.name flaw 1
      | .ok _, .error flaw => (warn secondWarnings warned).complain c.name flaw 1
      | .ok first, .ok second =>
        let d := warn secondWarnings warned
        let written := Runs.of first
        let source : Runs :=
          if isComplement then
            (((List.range 256).map Char.ofNat).filter fun c => !written.has c).map fun c => (c, 1)
          else written
        let exchanges := operands.length = 2 ∧ !deletes
        let fillers := (second.filter Part.isFiller).length
        let second := filled source.size second
        let target := Runs.of second
        let flaw? :=
          if written.size > sizeLimit then some "too many characters in set"
          else if first.any Part.isFiller then
            some "the [c*] repeat construct may not appear in string1"
          else if target.size > sizeLimit then some "too many characters in set"
          else if fillers > 1 then
            some "only one [c*] repeat construct may appear in string2"
          else if exchanges then
            Exchange.flaw? isComplement (found.has 't') source.size first second
          else if fillers > 0 then
            some "the [c*] construct may appear in string2 only when translating"
          else none
        match flaw?, c.trouble? with
        | some flaw, _ => d.complain c.name flaw 1
        | none, some trouble => d.complain c.name s!"read error: {trouble.description}" 1
        | none, none =>
          let d := d.drain
          if deletes then
            let kept := c.input.filter fun c => !source.has c
            d.print (if squeezes then squeeze target.has kept else kept)
          else if exchanges then
            let out := exchanged (found.has 't') source target c.input
            d.print (if squeezes then squeeze target.has out else out)
          else d.print (squeeze source.has c.input)

end BatchFormat.Shell.Exchange
