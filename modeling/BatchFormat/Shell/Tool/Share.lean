import BatchFormat.Shell.Tool.Amount
import BatchFormat.Shell.Tool.Stream

/-!
# Shares of texts

`head` prints the first part of what it reads, `tail` the last part.
-/
namespace BatchFormat.Shell.Share

/-- What part of a text is asked for: a number of lines or octets, counted from the near end, or
all but as many at the far end. -/
structure Portion where
  ofLines : Bool
  isComplement : Bool
  count : Nat

/-- The first part of a text whose lines end with a mark. -/
def Portion.head (s : Portion) (mark : Char) (cs : Octets) : Octets :=
  let keep (size : Nat) : Nat := if s.isComplement then size - s.count else s.count
  if s.ofLines then
    let lines := Stream.partsOf mark cs
    (lines.take (keep lines.length)).flatten
  else cs.take (keep cs.length)

/-- The last part of a text whose lines end with a mark. -/
def Portion.tail (s : Portion) (mark : Char) (cs : Octets) : Octets :=
  let skip (size : Nat) : Nat := if s.isComplement then s.count - 1 else size - s.count
  if s.ofLines then
    let lines := Stream.partsOf mark cs
    (lines.drop (skip lines.length)).flatten
  else cs.drop (skip cs.length)

inductive Titles where
  | never
  | always
  | ofSeveral

/-- What the options ask for: the portion, the mark that ends lines, and the titles. -/
structure Order where
  portion : Portion
  mark : Char
  titles : Titles

namespace Order

def usual : Order := ⟨⟨true, false, 10⟩, '\n', .ofSeveral⟩

/-- The words for what is counted. -/
def unit (ofLines : Bool) : String := if ofLines then "lines" else "bytes"

/-- Sets the portion from a written amount. A leading sign turns it into its complement; the other
sign, where it is allowed, changes nothing. Where a plus sign asks for the complement, it is asked
for ever after. -/
def setAmount (o : Order) (sign : Char) (ofLines : Bool) (written : Octets) : Except String Order :=
  let (isComplement, digits) :=
    match written with
    | '-' :: ds => (sign == '-', ds)
    | '+' :: _ => (sign == '+', written)
    | ds => (false, ds)
  match Amount.read digits with
  | .count n =>
    if !ofLines && isComplement && sign == '-' && n ≥ twoTo 63 then
      .error (Amount.remark "bytes" (toString n).toList true)
    else
      let stays := sign == '+' && o.portion.isComplement
      .ok { o with portion := ⟨ofLines, isComplement || stays, n⟩ }
  | .tooLarge => .error (Amount.remark (unit ofLines) digits true)
  | .malformed => .error (Amount.remark (unit ofLines) digits false)

def take (sign : Char) (o : Order) (option : Char × Octets) : Except String Order :=
  match option.1 with
  | 'n' => o.setAmount sign true option.2
  | 'c' => o.setAmount sign false option.2
  | 'q' => .ok { o with titles := .never }
  | 'v' => .ok { o with titles := .always }
  | 'z' => .ok { o with mark := '\x00' }
  | _ => .ok o

def takeAll (sign : Char) (o : Order) (options : Options) : Except String Order :=
  options.foldlM (take sign) o

end Order

/-- Whether a word is a number behind a dash. -/
def isShortCount : Octets → Bool
  | '-' :: d :: _ => d.isDigit
  | _ => false

/-- The order in a first word such as `-5` or `-2kq`: a number, what it counts, and options. -/
def shortOrder (word : Octets) : Except String Order := do
  let (digits, letters) := (word.drop 1).span Char.isDigit
  let o : Order × Bool × Octets ← letters.foldlM (fun (o, ofLines, unit) letter =>
    match letter with
    | 'c' => .ok (o, false, [])
    | 'b' | 'k' | 'm' => .ok (o, false, [letter])
    | 'l' => .ok (o, true, unit)
    | 'q' => .ok ({ o with titles := .never }, ofLines, unit)
    | 'v' => .ok ({ o with titles := .always }, ofLines, unit)
    | 'z' => .ok ({ o with mark := '\x00' }, ofLines, unit)
    | _ => .error s!"invalid trailing option -- {letter}") (Order.usual, true, [])
  o.1.setAmount '-' o.2.1 (digits ++ o.2.2)

/-- How much is read at once. -/
def block : Nat := 8192

/-- What `head` leaves of its input. Lines are read in blocks, octets one by one; all has to be read
to know what the last ones are. -/
def left (c : Call) (o : Order) (cs : Octets) : Octets :=
  let rest := cs.drop (o.portion.head o.mark cs).length
  if o.portion.isComplement then if c.source?.isSome then rest else []
  else if o.portion.ofLines then c.leaving block rest
  else rest

/-- One end of a text: the sign that asks for all but a portion at the far end, the share of a text,
what is left of the input, and whether files are measured before they are read. -/
structure Side where
  sign : Char
  /-- What is wrong with a digit as an option, and whether the hint at the help text follows. -/
  digitFlaw : Char → String × Bool
  share : Portion → Char → Octets → Octets
  left : Call → Order → Octets → Octets
  measures : Order → Bool
  /-- Whether no operand is looked at if nothing is asked for. -/
  isLazy : Bool

def near : Side where
  sign := '-'
  digitFlaw digit := (s!"invalid trailing option -- {digit}", true)
  share := Portion.head
  left := left
  measures o := o.portion.isComplement
  isLazy := false

def far : Side where
  sign := '+'
  digitFlaw digit := (s!"option used in invalid context -- {digit}", false)
  share := Portion.tail
  left _ _ _ := []
  measures _ := true
  isLazy := true

/-- Prints the share of each operand, under its title where it has one. -/
def print (side : Side) (c : Call) (o : Order) (operands : List Octets) : Deed :=
  let isTitled : Bool :=
    match o.titles with
    | .never => false
    | .always => true
    | .ofSeveral => operands.length > 1
  let title (operand : Octets) (d : Deed) : Deed :=
    let gap : Octets := if d.written.any fun w => w.1 = 1 then ['\n'] else []
    let shown := if operand = ['-'] then "standard input".toList else operand
    if isTitled then d.print (gap ++ "==> ".toList ++ shown ++ " <==\n".toList) else d
  let isNothing := o.portion.count = 0 && !o.portion.isComplement
  let refuse (operand : Octets) (cause : Cause) (d : Deed) : Deed :=
    let what := inShellQuotes operand
    if cause = .isDirectory then
      let d := title operand d
      if isNothing then d
      else d.complain c.name s!"error reading {what}: {cause.description}" 1
    else d.complain c.name s!"cannot open {what} for reading: {cause.description}" 1
  let balk (trouble : Trouble) (d : Deed) : Deed :=
    let d := title ['-'] d
    let what := if side.measures o && trouble == .closed then "cannot fstat" else "error reading"
    if isNothing then d else d.complain c.name s!"{what} 'standard input': {trouble.description}" 1
  let readsInput := operands = [] ∨ operands.contains ['-']
  if isNothing && side.isLazy then c.idle
  else
    let d := readOperands operands c refuse balk fun operand content d =>
      let d := (title operand d).print (side.share o.portion o.mark content)
      if operand = ['-'] then { d with rest := side.left c o content } else d
    if readsInput then d.closeInput c "-" else d

/-- Reads options in front of the operands, and prints the shares. -/
def run (side : Side) (c : Call) (m : Manual) (given : Order) : Deed :=
  c.withOptions m
    (fun found operands =>
      match given.takeAll side.sign found with
      | .ok o => print side c o operands
      | .error remark => c.idle.complain c.name remark 1)
    fun found =>
      let digit? := found.find? fun o => o.1.isDigit
      match given.takeAll side.sign (found.takeWhile fun o => !o.1.isDigit), digit? with
      | .error remark, _ => some (c.idle.complain c.name remark 1)
      | .ok _, some (digit, _) =>
        let (remark, hasHint) := side.digitFlaw digit
        some (if hasHint then c.refuse remark 1 else c.idle.complain c.name remark 1)
      | .ok _, none => none

def long : List (String × Char) :=
  [("bytes", 'c'), ("lines", 'n'), ("quiet", 'q'), ("silent", 'q'), ("verbose", 'v'),
    ("zero-terminated", 'z')]

def head : Tool := fun c =>
  let manual : Manual := ⟨"qvz0123456789", "nc", "", long, 1, false⟩
  match c.arguments with
  | word :: words =>
    if isShortCount word then
      match shortOrder word with
      | .ok o => run near { c with words := c.name :: words } manual o
      | .error remark =>
        if "invalid trailing".toList.isPrefixOf remark.toList then c.refuse remark 1
        else c.idle.complain c.name remark 1
    else run near c manual .usual
  | [] => run near c manual .usual

/-- The order in a first word such as `-5`, `+2c` or `-3l`, if it is one: a number, what it counts,
and whether to wait for more. `b` stands for blocks of octets. -/
def oldOrder? (word : Octets) : Option (Except String (Order × Bool)) :=
  let isLone (rest : Octets) : Bool := rest = [] || rest = ['c']
  match word with
  | sign :: rest =>
    let (digits, letters) := rest.span Char.isDigit
    let (unit, letters) : Octets × Octets :=
      match letters with
      | 'b' :: more => (['b'], more)
      | 'c' :: more => (['c'], more)
      | 'l' :: more => (['l'], more)
      | _ => ([], letters)
    let (waits, letters) : Bool × Octets :=
      match letters with
      | 'f' :: more => (true, more)
      | _ => (false, letters)
    if letters ≠ [] ∨ sign ∉ ['+', '-'] ∨ (sign = '-' ∧ isLone rest) then none
    else
      let ofLines := unit = [] ∨ unit = ['l']
      let factor := if unit = ['b'] then 512 else 1
      let count := (if digits = [] then 10 else (String.ofList digits).toNat?.getD 0) * factor
      if count > Amount.largest then
        some (.error s!"invalid number: {inCurlyQuotes word}: Numerical result out of range")
      else
        some (.ok ({ Order.usual with portion := ⟨ofLines, sign == '+', count⟩ }, waits))
  | [] => none

/-- The order in the first of the words of a call, if they have the form for it, and the words
behind it. -/
def oldForm? (words : List Octets) : Option (Except String (Order × Bool) × List Octets) :=
  match words with
  | [word] => (oldOrder? word).map (·, [])
  | [word, operand] =>
    let isOption : Bool :=
      match operand with
      | '-' :: _ :: _ => operand ≠ ['-', '-']
      | _ => false
    if isOption then none else (oldOrder? word).map (·, [operand])
  | word :: ['-', '-'] :: operand :: [] => (oldOrder? word).map (·, [['-', '-'], operand])
  | _ => none

/-- Whether a call is to wait for more of a file that it has opened. -/
def waitsForMore (c : Call) (operands : List Octets) : Bool :=
  let isInput := operands = [] ∨ operands.contains ['-']
  (isInput && c.source?.isSome)
    || operands.any fun operand => (Files.read c.tree c.here operand).toOption.isSome

def tail : Tool := fun c =>
  let manual : Manual := ⟨"fFqvz0123456789", "ncs", "", ("follow", 'f') :: long, 1, false⟩
  let go (c : Call) (o : Order) (waits : Bool) : Deed :=
    let d := run far c manual o
    let (found, read) := manual.read (total (c.arguments.map (·.length + 1)) + 1) c.arguments
    let waits := waits || found.has 'f' || found.has 'F'
    if waits && d.status = 0 && waitsForMore c (read.toOption.getD []) then
      { d with time := endless }
    else d
  match oldForm? c.arguments with
  | some (.ok (o, waits), words) => go { c with words := c.name :: words } o waits
  | some (.error remark, _) => c.idle.complain c.name remark 1
  | none => go c .usual false

end BatchFormat.Shell.Share
