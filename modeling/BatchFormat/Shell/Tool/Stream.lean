import BatchFormat.Shell.Tool

/-!
# Tools on streams

Tools that pass on what they read: `cat` joins its operands, `tee` copies its input into them.
-/
namespace BatchFormat.Shell.Stream

/-- The complaint about an operand that cannot be read. -/
def refusal (c : Call) (operand : Octets) (cause : Cause) (d : Deed) : Deed :=
  d.complain c.name s!"{beforeColon operand}: {cause.description}" 1

/-- The parts of a text, each with the mark that ends it; the last one may have none. -/
def partsOf (mark : Char) (cs : Octets) : List Octets :=
  let pieces := cs.splitOn mark
  let ended := pieces.dropLast.map (· ++ [mark])
  match pieces.getLast? with
  | some [] | none => ended
  | some last => ended ++ [last]

def column (width n : Nat) : Octets :=
  let digits := (toString n).toList
  List.replicate (width - digits.length) ' ' ++ digits

/-- What an octet looks like where all octets are to be seen. -/
def visible (c : Char) : Octets :=
  let low (n : Nat) : Octets :=
    if n < 32 then ['^', Char.ofNat (n + 64)]
    else if n = 127 then ['^', '?'] else [Char.ofNat n]
  if c.toNat < 128 then low c.toNat else 'M' :: '-' :: low (c.toNat - 128)

/-- Where in a text its copy has come to: within a line, at its beginning, or behind an empty
line. -/
inductive Spot where
  | inside
  | start
  | afterEmpty
  deriving DecidableEq, Repr

/-- A text that is copied with its lines marked: the number of the next line, where the copy has
come to, whether a carriage return is held back, and what was written, the latest first. -/
structure Copy where
  number : Nat
  spot : Spot
  holdsReturn : Bool
  written : Octets

namespace Copy

def begin : Copy := ⟨1, .start, false, []⟩

def put (k : Copy) (cs : Octets) : Copy := { k with written := cs.reverse ++ k.written }

/-- Writes the number of a line, at its beginning. -/
def putNumber (k : Copy) : Copy :=
  { k.put (column 6 k.number ++ ['\t']) with number := k.number + 1 }

/-- Writes a carriage return that was held back. -/
def release (k : Copy) (shown : Octets) : Copy :=
  if k.holdsReturn then { k.put shown with holdsReturn := false } else k

/-- Copies an octet. The options ask for numbers, for marks at the ends of lines, for tabs and other
octets to be made visible, and for runs of empty lines to become single. -/
def add (o : Options) (k : Copy) (c : Char) : Copy :=
  let shows := "vAet".toList.any o.has
  let marksEnds := "EAe".toList.any o.has
  if c = '\n' then
    let mark := if marksEnds then "$\n".toList else ['\n']
    let k := k.release (if marksEnds then "^M".toList else ['\r'])
    match k.spot with
    | .inside => { k.put mark with spot := .start }
    | .afterEmpty =>
      if o.has 's' then k
      else (if o.has 'n' && !o.has 'b' then k.putNumber else k).put mark
    | .start =>
      { (if o.has 'n' && !o.has 'b' then k.putNumber else k).put mark with spot := .afterEmpty }
  else
    let k := k.release ['\r']
    let k := if k.spot ≠ .inside ∧ (o.has 'n' ∨ o.has 'b') then k.putNumber else k
    let k := { k with spot := .inside }
    if c = '\t' then k.put (if "TAt".toList.any o.has then "^I".toList else ['\t'])
    else if shows then k.put (visible c)
    else if c = '\r' ∧ marksEnds then { k with holdsReturn := true }
    else k.put [c]

end Copy

def isTarget (c : Call) (operand : Octets) : Bool :=
  c.target?.isSome &&
    if operand = ['-'] then c.source? = c.target?
    else
      match Files.locate c.tree c.here operand with
      | .ok (.found place _) => some place = c.target?
      | _ => false

def cat : Tool := fun c =>
  let long := [("number-nonblank", 'b'), ("number", 'n'), ("squeeze-blank", 's'),
    ("show-nonprinting", 'v'), ("show-ends", 'E'), ("show-tabs", 'T'), ("show-all", 'A')]
  c.withOptions ⟨"AbeEnstTuv", "", "", long, 1, false⟩ fun found operands =>
    if let some .closed := c.outputTrouble? then
      c.idle.complain c.name s!"standard output: {Trouble.closed.description}" 1
    else
      let copy (state : Copy × Deed) (content : Octets) : Copy × Deed :=
        let k := content.foldl (Copy.add found) { state.1 with written := [] }
        (k, state.2.print k.written.reverse)
      let operands := if operands = [] then [['-']] else operands
      let (k, d) := operands.foldl (fun (k, d) operand =>
        let given : Except Deed (Octets × Deed) :=
          match c.isInput operand, c.trouble? with
          | true, some trouble =>
            .error (d.complain c.name s!"{Octets.text operand}: {trouble.description}" 1)
          | true, none => .ok (d.rest, d.drain)
          | false, _ =>
            match c.read d.tree operand with
            | .ok content => .ok (content, d)
            | .error cause => .error (refusal c operand cause d)
        match given with
        | .error d => (k, d)
        | .ok (content, after) =>
          if content ≠ [] ∧ isTarget c operand then
            (k, d.complain c.name s!"{beforeColon operand}: input file is output file" 1)
          else copy (k, after) content) (Copy.begin, c.idle)
      let d := if k.holdsReturn then d.print ['\r'] else d
      if operands.contains ['-'] then d.closeInput c "closing standard input" else d

def outputModes : List String := ["warn", "warn-nopipe", "exit", "exit-nopipe"]

/-- The complaint about a value that stands for none of the choices of an option. -/
def wrongChoice (c : Call) (option : String) (choices : List String) (value : Octets) :
    Option Deed :=
  let fitting := choices.filter fun choice => value.isPrefixOf choice.toList
  let isClear := choices.any (fun choice => choice.toList = value) || fitting.length = 1
  if isClear then none
  else
    let kind := if fitting = [] then "invalid" else "ambiguous"
    let listed := choices.map fun choice => s!"  - {inCurlyQuotes choice.toList}"
    let remark := s!"{kind} argument {inCurlyQuotes value} for {inCurlyQuotes option.toList}"
    some (c.refuse (String.intercalate "\n" (remark :: "Valid arguments are:" :: listed)) 1)

/-- Opens what a copy goes to: a descriptor, or a file, which is made or emptied. -/
def openCopy (c : Call) (appends : Bool) (operand : Octets) (d : Deed) : Except Cause Deed :=
  if (descriptorOf? operand).isSome then .ok d
  else
    let kept := if appends then (Files.read d.tree c.here operand).toOption.getD [] else []
    (Files.write d.tree c.here c.mask operand kept).map fun t => { d with tree := t }

/-- Copies the input into what was opened. An output on the disk that is opened anew gets the same
text at the same place once more. -/
def copyTo (c : Call) (appends : Bool) (d : Deed) (operand : Octets) : Deed :=
  match descriptorOf? operand with
  | some n => if n = 1 ∧ c.target?.isSome ∧ !appends then d else d.write n c.input
  | none =>
    let old := (Files.read d.tree c.here operand).toOption.getD []
    let content := if appends then old ++ c.input else c.input ++ old.drop c.input.length
    match Files.write d.tree c.here c.mask operand content with
    | .ok t => { d with tree := t }
    | .error _ => d

def tee : Tool := fun c =>
  let long := [("append", 'a'), ("ignore-interrupts", 'i'), ("output-error", 'm')]
  c.withOptions ⟨"aip", "", "m", long, 1, false⟩
    (fun found operands =>
      let stops := (found.values 'm').getLast?.any fun value => value.head? = some 'e'
      let opened : Except Deed (List Octets × Deed) :=
        operands.foldlM (fun ((opened, d) : List Octets × Deed) operand =>
          match openCopy c (found.has 'a') operand d with
          | .ok d => .ok (operand :: opened, d)
          | .error cause =>
            let d := refusal c operand cause d
            if stops then .error d else .ok (opened, d)) ([], c.idle)
      match opened with
      | .error d => d
      | .ok (opened, d) =>
        let d := opened.reverse.foldl (copyTo c (found.has 'a')) (d.drain.print c.input)
        match c.trouble? with
        | none => d
        | some trouble =>
          (d.complain c.name s!"read error: {trouble.description}" 1).closeInput c "standard input")
    fun found => (found.values 'm').findSome? fun value =>
      if value = [] then none else wrongChoice c "--output-error" outputModes value

end BatchFormat.Shell.Stream
