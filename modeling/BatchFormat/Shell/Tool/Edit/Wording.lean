import BatchFormat.Shell.Tool.Edit.Script
import BatchFormat.Text.Upper

/-!
# Replacements

A substitution goes through the matches of its expression in a line and puts a new text in their
place. Letters of that text can be written large or small, all of them or the next one alone.
-/
namespace BatchFormat.Shell.Edit

def Lettering.change : Lettering → Char → Char
  | asWritten, c => c
  | upper, c => BatchFormat.Text.toUpper c
  | lower, c => BatchFormat.Text.toLower c

/-- Writes a text, its first sign in a way of its own if there is one. -/
def Lettering.apply (mode : Lettering) (first? : Option Lettering) (cs : Octets) : Octets :=
  if mode = asWritten ∧ first? = none then cs
  else
    match Sign.ofOctets cs with
    | [] => []
    | first :: rest =>
      Sign.write (first.map (first?.getD mode).change :: rest.map (Sign.map mode.change))

/-- A text that is being put together, the latest piece first: how letters are written, how the next
one is, and how it is if nothing else is said, which an empty group passes on. -/
structure Wording where
  mode : Lettering
  next? : Option Lettering
  passed? : Option Lettering
  pieces : List Octets

namespace Wording

def start : Wording := ⟨.asWritten, none, none, []⟩

def add (w : Wording) (cs : Octets) : Wording :=
  { w with next? := none, passed? := none
           pieces := w.mode.apply (w.next? <|> w.passed?) cs :: w.pieces }

def piece (w : Wording) (groupText : Nat → Octets) : Piece → Wording
  | .plain cs => w.add cs
  | .group index =>
    match groupText index with
    | [] => { w with next? := none, passed? := w.next? }
    | cs => w.add cs
  | .lettering mode => { w with mode := mode, next? := none, passed? := none }
  | .nextLetter l => { w with next? := some l, passed? := none }

def text (w : Wording) : Octets := w.pieces.reverse.flatten

end Wording

/-- A line that is searched: its octets, and the signs they make up. -/
structure Text where
  octets : Array Char
  signs : Array Sign

namespace Text

def ofOctets (cs : Octets) : Text := ⟨cs.toArray, (Sign.spread cs).toArray⟩

def piece (t : Text) (start stop : Nat) : Octets := (t.octets.extract start stop).toList

def group (t : Text) (start stop : Nat) (groups : Regex.Groups) (index : Nat) : Octets :=
  let (a, b) := if index = 0 then (start, stop) else (groups.lookup index).getD (0, 0)
  t.piece a b

def lineBounds (mark : Char) (t : Text) : List (Nat × Nat) :=
  let marks := (List.range t.octets.size).filter fun i => t.octets[i]? == some mark
  (0 :: marks.map (· + 1)).zip (marks ++ [t.octets.size])

end Text

namespace Expression

/-- Looks for a match in each of some lines, given by where they begin and end. -/
def findInLines? (e : Expression) (signs : Array Sign) (begin : Nat) :
    List (Nat × Nat) → Option (Nat × Nat × Regex.Groups)
  | [] => none
  | (low, high) :: lines =>
    let found :=
      if high < begin then none else e.regex.find? e.inside (signs.extract low high) (begin - low)
    match found with
    | some (start, stop, groups) =>
      some (low + start, low + stop, groups.map fun (i, a, b) => (i, low + a, low + b))
    | none => findInLines? e signs begin lines

/-- Finds the first match that begins at a position or behind it. -/
def find? (e : Expression) (mark : Char) (t : Text) (start : Nat) :
    Option (Nat × Nat × Regex.Groups) :=
  if e.byLine then e.findInLines? t.signs start (t.lineBounds mark)
  else e.regex.find? e.inside t.signs start

end Expression

/-- Replaces matches in a line from a position on. `count` more are passed over. An empty match
right behind another match, which ended at `touched?`, is none. -/
def replaceFrom (find? : Nat → Option (Nat × Nat × Regex.Groups)) (ps : List Piece)
    (everywhere : Bool) (line : Text) :
    Nat → (count position : Nat) → (touched? : Option Nat) → Option Octets
  | 0, _, _, _ => none
  | n + 1, count, position, touched? =>
    match find? position with
    | none => none
    | some (start, stop, groups) =>
      let next := if stop = start then stop + 1 else stop
      if stop = start ∧ touched? = some start then
        (replaceFrom find? ps everywhere line n count next none).map (line.piece position next ++ ·)
      else if count > 0 then
        (replaceFrom find? ps everywhere line n (count - 1) next (some stop)).map
          (line.piece position next ++ ·)
      else
        let wording := ps.foldl (·.piece (line.group start stop groups) ·) Wording.start
        let size := line.octets.size
        if everywhere then
          let after := (replaceFrom find? ps everywhere line n 0 next (some stop)).getD
            (line.piece next size)
          some (line.piece position start ++ wording.text ++ line.piece stop next ++ after)
        else some (line.piece position start ++ wording.text ++ line.piece stop size)

/-- A line with matches replaced, if there are any to replace. -/
def Substitution.apply? (s : Substitution) (e : Expression) (mark : Char) (cs : Octets) :
    Option Octets :=
  let line := Text.ofOctets cs
  replaceFrom (e.find? mark line) s.pieces s.everywhere line (cs.length + 2) (s.count - 1) 0 none

end BatchFormat.Shell.Edit
