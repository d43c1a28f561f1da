import BatchFormat.Shell.Regex.Reader
import BatchFormat.Shell.Tool.Amount
import BatchFormat.Shell.Tool.Stream

/-!
# Picking lines

`grep` picks the lines in which one of several expressions is found, and prints them, the parts that
fit, how many they are, or the names of the files that have them.
-/
namespace BatchFormat.Shell.Pick

/-- The expression of a pattern, which may be plain text. -/
def expression (isPlain isExtended anyCase : Bool) (pattern : Octets) : Except Regex.Fault Regex :=
  let d : Regex.Dialect := ⟨isExtended, false, anyCase, false, false⟩
  let signs := Sign.ofOctets pattern
  if isPlain then .ok (signs.foldr (fun s r => .joined (Regex.plain d s) r) .empty)
  else (Regex.ofSigns d signs).map Prod.fst

/-- How a line has to fit: somewhere, as a word of its own, or as a whole. -/
inductive Extent where
  | somewhere
  | asWord
  | asLine
  deriving DecidableEq, Repr

/-- What is picked: the expressions, how they have to fit, whether lines without them are picked
instead, how many lines are picked at most, and what ends a line. -/
structure Order where
  tests : List Regex
  extent : Extent
  isInverted : Bool
  limit? : Option Nat
  mark : Char

inductive Show where
  | nothing
  | lines
  | parts
  | count
  | name
  | nameWithout
  deriving DecidableEq, Repr

/-- How lines are shown: what is shown of a file, with the name of the file, what follows the name
if it is always the same, the number of the line and its place in the file, and how many lines
around it. -/
structure Manner where
  content : Show
  isNamed : Bool
  afterName? : Option Char
  isNumbered : Bool
  isPlaced : Bool
  before : Nat
  behind : Nat

/-- A line of a file: its number, its place, its text without an end, and whether it is picked. -/
structure Line where
  number : Nat
  place : Nat
  text : Octets
  isPicked : Bool

namespace Order

/-- Whether a match fits as it has to. -/
def suits (o : Order) (signs : Array Sign) (start stop : Nat) : Bool :=
  match o.extent with
  | .somewhere => true
  | .asLine => start == 0 && stop == signs.size
  | .asWord =>
    !(signBefore? signs start).any Sign.isWord && !(signs[stop]?).any Sign.isWord

/-- The first match of an expression at a position or behind it that fits as it has to. -/
def matchOf? (o : Order) (signs : Array Sign) (r : Regex) : Nat → Nat → Option (Nat × Nat)
  | 0, _ => none
  | n + 1, position =>
    match r.find? false signs position with
    | none => none
    | some (start, stop, _) =>
      if o.suits signs start stop then some (start, stop) else o.matchOf? signs r n (start + 1)

/-- The first match of any expression; of those that begin at one place the longest. -/
def match? (o : Order) (signs : Array Sign) (position : Nat) : Option (Nat × Nat) :=
  let found := o.tests.filterMap fun r => o.matchOf? signs r (signs.size + 2) position
  found.foldl (fun best? m =>
    match best? with
    | none => some m
    | some best =>
      if m.1 < best.1 || (m.1 == best.1 && m.2 > best.2) then some m else some best) none

/-- The parts of a line that fit, with their places in it. Empty ones are left out. -/
def parts (o : Order) (signs : Array Sign) (line : Octets) : Nat → Nat → List (Nat × Octets)
  | 0, _ => []
  | n + 1, position =>
    match o.match? signs position with
    | none => []
    | some (start, stop) =>
      if start = stop then o.parts signs line n (start + 1)
      else (start, (line.drop start).take (stop - start)) :: o.parts signs line n stop

def picks (o : Order) (line : Octets) : Bool :=
  (o.match? (Sign.spread line).toArray 0).isSome != o.isInverted

/-- The lines of a text. Behind the last one that may be picked none is. -/
def lines (o : Order) (cs : Octets) : List Line :=
  let bare (line : Octets) : Octets :=
    if line.getLast? = some o.mark then line.dropLast else line
  let (_, _, _, found) := (Stream.partsOf o.mark cs).foldl (fun (number, place, picked, found) part =>
    let text := bare part
    let isPicked := (o.limit?.all (picked < ·)) && o.picks text
    (number + 1, place + part.length, if isPicked then picked + 1 else picked,
      ⟨number, place, text, isPicked⟩ :: found)) (1, 0, 0, ([] : List Line))
  found.reverse

end Order

namespace Manner

def nameMark (m : Manner) (name : Octets) (separator : Char) : Octets :=
  if m.isNamed then name ++ [m.afterName?.getD separator] else []

/-- What stands in front of a line. -/
def heading (m : Manner) (name : Octets) (separator : Char) (number place : Nat) : Octets :=
  m.nameMark name separator
    ++ (if m.isNumbered then (toString number).toList ++ [separator] else [])
    ++ if m.isPlaced then (toString place).toList ++ [separator] else []

/-- The lines that are shown: those that are picked and those around them. -/
def shown (m : Manner) (lines : List Line) : List Line :=
  let picked := (lines.filter Line.isPicked).map Line.number
  lines.filter fun line => picked.any fun n => n ≤ line.number + m.before && line.number ≤ n + m.behind

/-- Prints lines of a file; the result tells the number of the last line that was shown. -/
def print (m : Manner) (o : Order) (name : Octets) (lines : List Line) (d : Deed) : Deed :=
  let hasGaps := m.before + m.behind > 0
  let step (last? : Option Nat) (line : Line) (d : Deed) : Deed :=
    let isApart :=
      match last? with
      | some last => line.number > last + 1
      | none => d.written.any fun w => w.1 = 1
    let d := if hasGaps && isApart then d.print "--\n".toList else d
    let separator := if line.isPicked then ':' else '-'
    d.print (m.heading name separator line.number line.place ++ line.text ++ [o.mark])
  ((m.shown lines).foldl (fun (last?, d) line => (some line.number, step last? line d))
    ((none : Option Nat), d)).2

def printParts (m : Manner) (o : Order) (name : Octets) (lines : List Line) (d : Deed) : Deed :=
  (lines.filter Line.isPicked).foldl (fun d line =>
    let signs := (Sign.spread line.text).toArray
    (o.parts signs line.text (line.text.length + 2) 0).foldl (fun d (place, part) =>
      d.print (m.heading name ':' line.number (line.place + place) ++ part ++ [o.mark])) d) d

/-- Shows what is asked for of a file. Lines with bytes that are no characters are left out where
they break a text off. -/
def printFile (m : Manner) (c : Call) (o : Order) (isText breaksOff : Bool) (name : Octets)
    (lines : List Line) (d : Deed) : Deed :=
  let count := (lines.filter Line.isPicked).length
  let own := name ++ [m.afterName?.getD '\n']
  match m.content with
  | .nothing => d
  | .count => d.print (m.nameMark name ':' ++ (toString count).toList ++ ['\n'])
  | .name => if count > 0 then d.print own else d
  | .nameWithout => if count = 0 then d.print own else d
  | .lines | .parts =>
    let complain (d : Deed) : Deed :=
      d.complain c.name s!"{Octets.text name}: binary file matches" 0
    if !isText then if count = 0 then d else complain d
    else
      let isBroken (line : Line) : Bool := breaksOff && line.text.any (·.toNat ≥ 0x80)
        && (Sign.ofOctets line.text).any Sign.isStray
      let whole := lines.filter fun line => !isBroken line
      let d :=
        if m.content = .lines then m.print o name whole d
        else if o.isInverted then d
        else m.printParts o name whole d
      if lines.any fun line => line.isPicked && isBroken line then complain d else d

end Manner

def usage : String :=
  "Usage: grep [OPTION]... PATTERNS [FILE]...\nTry 'grep --help' for more information.\n"

def manual : Manual where
  flags := "EFGPiywxzsvbnHhoqaIrRlLcTZU0123456789"
  valued := "efmABCdD"
  optional := ""
  long := [("extended-regexp", 'E'), ("fixed-strings", 'F'), ("basic-regexp", 'G'),
    ("regexp", 'e'), ("file", 'f'), ("ignore-case", 'i'), ("word-regexp", 'w'),
    ("line-regexp", 'x'), ("null-data", 'z'), ("no-messages", 's'), ("invert-match", 'v'),
    ("max-count", 'm'), ("byte-offset", 'b'), ("line-number", 'n'), ("with-filename", 'H'),
    ("no-filename", 'h'), ("only-matching", 'o'), ("quiet", 'q'), ("silent", 'q'), ("text", 'a'),
    ("directories", 'd'), ("devices", 'D'), ("recursive", 'r'), ("dereference-recursive", 'R'),
    ("files-with-matches", 'l'), ("files-without-match", 'L'), ("count", 'c'),
    ("initial-tab", 'T'), ("null", 'Z'), ("after-context", 'A'), ("before-context", 'B'),
    ("context", 'C'), ("binary", 'U')]
  wrongStatus := 2

/-- The number of an option that takes one, written last; none without the option. -/
def numberOf? (found : Options) (letter : Char) (flaw : Octets → String) :
    Except String (Option Nat) :=
  match (found.values letter).getLast? with
  | none => .ok none
  | some written =>
    match Amount.read written with
    | .count n => .ok (some n)
    | .tooLarge => .ok (some Amount.largest)
    | .malformed => .error (flaw written)

/-- How many lines around a picked one are shown. -/
def contextOf (found : Options) : Except String (Nat × Nat) := do
  let flaw (written : Octets) : String := s!"{written.text}: invalid context length argument"
  let digits := (found.filter fun o => o.1.isDigit).map Prod.fst
  let both ← numberOf? (found ++ if digits = [] then [] else [('C', digits)]) 'C' flaw
  let before ← numberOf? found 'B' flaw
  let behind ← numberOf? found 'A' flaw
  return ((before <|> both).getD 0, (behind <|> both).getD 0)

/-- The patterns that options give, or else the first operand, with the other operands. -/
def patternsOf (c : Call) (found : Options) (operands : List Octets) :
    Except (Option String) (List Octets × List Octets) := do
  let linesOf (cs : Octets) : List Octets := cs.splitOn '\n'
  let given ← (found.filter fun o => o.1 = 'e' ∨ o.1 = 'f').mapM fun o =>
    if o.1 = 'e' then .ok (linesOf o.2)
    else
      match if o.2 = ['-'] then .ok c.input else c.read c.tree o.2 with
      | .ok [] => .ok []
      | .ok cs => .ok (linesOf (if cs.getLast? = some '\n' then cs.dropLast else cs))
      | .error cause => .error (some s!"{o.2.text}: {cause.description}")
  if given ≠ [] then return (given.flatten, operands)
  else
    match operands with
    | [] => throw none
    | pattern :: files => return (linesOf pattern, files)

def below (t : Tree) (place : Location) : List Octets :=
  t.entries.filterMap fun (other, entry) =>
    if entry.isFile && place.isPrefixOf other && place != other then
      some (Octets.ofString (String.intercalate "/" (other.drop place.length)))
    else none

/-- The operands, with the files below a directory in its place where that is asked for. -/
def spread (c : Call) (isDeep : Bool) (files : List Octets) : List Octets :=
  if !isDeep then if files = [] then [['-']] else files
  else if files = [] then below c.tree c.here
  else
    files.flatMap fun file =>
      match Files.locate c.tree c.here file with
      | .ok (.found place (.dir _)) =>
        let front := if file.getLast? = some '/' then file else file ++ ['/']
        (below c.tree place).map (front ++ ·)
      | _ => [file]

/-- What is left of the input behind the last line that may be picked. -/
def leftBehind (c : Call) (o : Order) (content : Octets) (lines : List Line) : Octets :=
  let picked := lines.filter Line.isPicked
  match picked.getLast? with
  | some last =>
    if o.limit? = some picked.length then
      c.leaving 98304 (content.drop (last.place + last.text.length + 1))
    else []
  | none => []

def run (c : Call) (found : Options) (o : Order) (m : Manner) (files : List Octets) : Deed :=
  let isQuiet := m.content = .nothing
  let refuse (name : Octets) (what : String) (d : Deed) : Deed :=
    if found.has 's' then d.atLeast 2 else d.complain c.name s!"{name.text}: {what}" 2
  let inputName := "(standard input)".toList
  let look (name content : Octets) (state : Bool × Deed) : Bool × Deed × List Line :=
    let lines := o.lines content
    let isText := found.has 'a' || !content.contains '\x00' || found.has 'z'
    let lines := if found.has 'I' && !isText then [] else lines
    (state.1 || lines.any Line.isPicked, m.printFile c o isText (!found.has 'a') name lines state.2, lines)
  let (isFound, d) := files.foldl (fun (isFound, d) file =>
    if isQuiet && isFound then (isFound, d)
    else if c.isInput file then
      match c.trouble? with
      | some trouble =>
        let (isFound, d, _) := look inputName [] (isFound, refuse inputName trouble.description d)
        (isFound, d)
      | none =>
        let content := d.rest
        let (isFound, d, lines) := look inputName content (isFound, d)
        (isFound, { d with rest := leftBehind c o content lines })
    else
      match c.read c.tree file with
      | .error cause =>
        let isSkipped := cause = .isDirectory && (found.values 'd').getLast? = some "skip".toList
        (isFound, if isSkipped then d else refuse file cause.description d)
      | .ok content =>
        let (isFound, d, _) := look file content (isFound, d)
        (isFound, d)) (false, c.idle)
  if isFound && (isQuiet || d.status = 0) then { d with status := 0 } else d.atLeast 1

def contentOf (found : Options) : Show :=
  if found.has 'q' then .nothing
  else
    match (found.filter fun o => o.1 = 'l' ∨ o.1 = 'L').getLast? with
    | some ('l', _) => .name
    | some _ => .nameWithout
    | none => if found.has 'c' then .count else if found.has 'o' then .parts else .lines

def grep : Tool := fun c =>
  let (found, read) := manual.read (total (c.arguments.map (·.length + 1)) + 1) c.arguments
  let ask (remark? : Option String) : Deed :=
    let d := (remark?.map fun remark => c.idle.complain c.name remark 2).getD c.idle
    (d.write 2 usage.toList).atLeast 2
  let has (letter : Char) : Bool := found.has letter
  let syntaxes := (found.map Prod.fst).filter fun l => "EFG".toList.contains l
  let limit := numberOf? (found.filter fun o => o.1 != 'm' || o.2.head? != some '-') 'm'
    fun _ => "invalid max count"
  match read, limit, contextOf found with
  | .error remark, _, _ => ask (some remark)
  | _, .error remark, _ | _, _, .error remark => c.idle.complain c.name remark 2
  | .ok operands, .ok limit?, .ok (before, behind) =>
    match patternsOf c found operands with
    | .error none => ask none
    | .error (some remark) => c.idle.complain c.name remark 2
    | .ok (patterns, files) =>
      let isDeep := has 'r' || has 'R'
      let files := spread c isDeep files
      let isPlain := syntaxes.getLast? = some 'F'
      let isExtended := syntaxes.getLast? = some 'E'
      match patterns.mapM (expression isPlain isExtended (has 'i' || has 'y')) with
      | .error f => c.idle.complain c.name f.message 2
      | .ok tests =>
        let order : Order :=
          { tests := tests
            extent := if has 'x' then .asLine else if has 'w' then .asWord else .somewhere
            isInverted := has 'v'
            limit? := limit?
            mark := if has 'z' then '\x00' else '\n' }
        let naming := ((found.map Prod.fst).filter fun l => l = 'H' ∨ l = 'h').getLast?
        let manner : Manner :=
          { content := contentOf found
            isNamed := naming = some 'H' || (naming = none && (files.length > 1 || isDeep))
            afterName? := if has 'Z' then some '\x00' else none
            isNumbered := has 'n'
            isPlaced := has 'b'
            before := before
            behind := behind }
        if limit? = some 0 then { c.idle with status := 1 }
        else run c found order manner files

end BatchFormat.Shell.Pick
