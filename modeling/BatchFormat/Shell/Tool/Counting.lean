import BatchFormat.Shell.Tool.Stream
import BatchFormat.Text.Sign
import BatchFormat.Text.Width

/-!
# Counting

`wc` counts the lines, words, characters and octets of what it reads, and measures its lines.
-/
namespace BatchFormat.Shell.Counting

/-- Lines, words, characters, octets and the width of the widest line of a text. -/
structure Counts where
  lines : Nat
  words : Nat
  chars : Nat
  octets : Nat
  widest : Nat

/-- A count in the middle of a text: what was counted, whether a word has begun, and the width of
the line so far. -/
structure Progress where
  counts : Counts
  inWord : Bool
  width : Nat

namespace Progress

def endWord (p : Progress) : Progress :=
  let words := if p.inWord then p.counts.words + 1 else p.counts.words
  { p with counts := { p.counts with words := words }, inWord := false }

def endLine (p : Progress) : Progress :=
  { p with counts := { p.counts with widest := max p.counts.widest p.width }, width := 0 }

/-- Spaces at which a line may not be broken; they separate words as well. -/
def joiningSpaces : List Char := ['\xa0', '\u2007', '\u202f', '\u2060']

/-- Counts a character. Only those that are seen begin words. -/
def addChar (p : Progress) (c : Char) : Progress :=
  let p := { p with counts := { p.counts with chars := p.counts.chars + 1 } }
  if c = '\n' then
    ({ p with counts := { p.counts with lines := p.counts.lines + 1 } }).endLine.endWord
  else if c = '\r' ∨ c = '\x0c' then p.endLine.endWord
  else if c = '\t' then ({ p with width := p.width + (8 - p.width % 8) }).endWord
  else if c = ' ' then ({ p with width := p.width + 1 }).endWord
  else if c = '\x0b' then p.endWord
  else if Text.Letter.isPrint c then
    let p := { p with width := p.width + Text.width c }
    if Text.Letter.isSpace c || joiningSpaces.contains c then p.endWord else { p with inWord := true }
  else p

/-- Counts a sign; a stray byte is no character. -/
def add (p : Progress) : Sign → Progress
  | .char c => p.addChar c
  | _ => p

end Progress

namespace Counts

def none : Counts := ⟨0, 0, 0, 0, 0⟩

def of (cs : Octets) : Counts :=
  let p := ((Sign.ofOctets cs).foldl Progress.add ⟨none, false, 0⟩).endLine.endWord
  { p.counts with octets := cs.length }

/-- The counts of two texts together. -/
def add (a b : Counts) : Counts where
  lines := a.lines + b.lines
  words := a.words + b.words
  chars := a.chars + b.chars
  octets := a.octets + b.octets
  widest := max a.widest b.widest

/-- The counts that options ask for, in the order in which they are shown. -/
def chosen (found : Options) (n : Counts) : List Nat :=
  if found.isEmpty then [n.lines, n.words, n.octets]
  else
    ([('l', n.lines), ('w', n.words), ('m', n.chars), ('c', n.octets), ('L', n.widest)].filter
      fun e => found.has e.1).map Prod.snd

def line (found : Options) (width : Nat) (n : Counts) (name? : Option Octets) : Octets :=
  [' '].intercalate ((n.chosen found).map (Stream.column width))
    ++ (name?.map (' ' :: ·)).getD [] ++ ['\n']

end Counts

/-- The size of the file that an operand stands for; there may be none, or one that is no file. -/
def sizeOf? (c : Call) (operand : Octets) : Option (Option Nat) :=
  let found : Except Cause Tree.Place :=
    if operand = ['-'] then
      match c.source? with
      | some place => (c.tree.get? place).elim (.error .noEntry) fun e => .ok (.found place e)
      | none => if c.trouble? = some .closed then .error .noEntry else .ok (.found [] (.fifo 0))
    else Files.locate c.tree c.here operand
  match found with
  | .ok (.found _ (.file bytes _)) => some (some bytes.length)
  | .ok (.found _ _) => some none
  | _ => none

/-- The width of the columns: that of the sum of all sizes, and more if a size is unknown. -/
def columnWidth (c : Call) (found : Options) (operands : List Octets) : Nat :=
  let operands := if operands = [] then [['-']] else operands
  if operands.length = 1 ∧ (Counts.none.chosen found).length = 1 then 1
  else
    let sizes := operands.filterMap (sizeOf? c)
    let least := if sizes.any Option.isNone then 7 else 1
    max least (toString (total (sizes.map (·.getD 0)))).length

def wc : Tool := fun c =>
  let long := [("bytes", 'c'), ("chars", 'm'), ("lines", 'l'), ("words", 'w'),
    ("max-line-length", 'L')]
  c.withOptions ⟨"clLmw", "", "", long, 1, false⟩ fun found operands =>
    let width := columnWidth c found operands
    let named (operand : Octets) : Option Octets :=
      if operands = [] then none
      else if operand.contains '\n' then some (Quotation.beforeColon operand) else some operand
    let count (content operand : Octets) (state : Counts × Deed) : Counts × Deed :=
      let n := Counts.of content
      (state.1.add n, state.2.print (n.line found width (named operand)))
    let inputName := if operands = [] then "'standard input'" else "-"
    let (total, d) := (if operands = [] then [['-']] else operands).foldl (fun state operand =>
      match c.isInput operand, c.trouble? with
      | true, some trouble =>
        let remark := s!"{inputName}: {trouble.description}"
        count [] operand (state.1, state.2.complain c.name remark 1)
      | true, none => count state.2.rest operand (state.1, state.2.drain)
      | false, _ =>
        match c.read c.tree operand with
        | .error .noEntry =>
          (state.1, if operand = [] then
              state.2.complain c.name "invalid zero-length file name" 1
            else Stream.refusal c operand .noEntry state.2)
        | .ok content => count content operand state
        | .error .isDirectory =>
          count [] operand (state.1, Stream.refusal c operand .isDirectory state.2)
        | .error cause => (state.1, Stream.refusal c operand cause state.2)) (Counts.none, c.idle)
    let d :=
      if operands.length > 1 then d.print (total.line found width (some "total".toList)) else d
    if operands = [] ∨ operands.contains ['-'] then d.closeInput c "-" else d

end BatchFormat.Shell.Counting
