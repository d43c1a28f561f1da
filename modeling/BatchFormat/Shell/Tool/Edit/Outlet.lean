import BatchFormat.Text.Octets

/-!
# What the line editor prints

Lines are printed with the mark that ends them. A last line that has none is printed as it is, and
gets its mark only when more is printed behind it.
-/
namespace BatchFormat.Shell.Edit

/-- A text that is edited or kept, and whether a mark at its end belongs to it. -/
structure Space where
  text : Octets
  isEnded : Bool

namespace Space

def ofLine (mark : Char) (line : Octets) : Space :=
  if line.getLast? = some mark then ⟨line.dropLast, true⟩ else ⟨line, false⟩

/-- One space behind another, on a line of its own. -/
def join (mark : Char) (a b : Space) : Space := ⟨a.text ++ mark :: b.text, b.isEnded⟩

/-- The first line of a space, if it has more than one, and the others. -/
def splitFirst? (mark : Char) (s : Space) : Option (Octets × Octets) :=
  match s.text.span (· != mark) with
  | (_, []) => none
  | (first, _ :: rest) => some (first, rest)

end Space

/-- A place to print to: the pieces printed so far, the latest first, and whether the last one still
lacks its mark. -/
structure Outlet where
  pieces : List Octets
  owes : Bool

namespace Outlet

def empty : Outlet := ⟨[], false⟩

/-- Prints a text as it is. -/
def raw (cs : Octets) (o : Outlet) : Outlet :=
  if cs = [] then o else { o with pieces := cs :: o.pieces }

/-- Prints the mark that is owed. -/
def settle (mark : Char) (o : Outlet) : Outlet :=
  if o.owes then ⟨[mark] :: o.pieces, false⟩ else o

def print (mark : Char) (cs : Octets) (o : Outlet) : Outlet := (o.settle mark).raw cs

def printSpace (mark : Char) (s : Space) (o : Outlet) : Outlet :=
  let o := o.settle mark
  { pieces := (if s.isEnded then s.text ++ [mark] else s.text) :: o.pieces, owes := !s.isEnded }

def text (o : Outlet) : Octets := o.pieces.reverse.flatten

end Outlet

/-- The spelling of an octet where all of them are to be seen. -/
def revealed (c : Char) : Octets :=
  let named := [('\\', "\\\\"), ('\x07', "\\a"), ('\x08', "\\b"), ('\x0c', "\\f"), ('\n', "\\n"),
    ('\r', "\\r"), ('\t', "\\t"), ('\x0b', "\\v")]
  match named.lookup c with
  | some text => text.toList
  | none =>
    if ' ' ≤ c ∧ c ≤ '~' then [c]
    else
      let digit (n : Nat) : Char := Char.ofNat ('0'.toNat + n % 8)
      ['\\', digit (c.toNat / 64), digit (c.toNat / 8), digit c.toNat]

/-- A text spelled out in lines of some width, each but the last one with a backslash at its end. No
spelling is broken, and a width of zero breaks nothing. -/
def revealedLines (mark : Char) (width : Nat) (cs : Octets) : Octets :=
  let (out, _) := cs.foldl (fun (out, used) c =>
    let shown := revealed c
    if width > 0 ∧ used + shown.length > width - 1 then
      (shown.reverse ++ mark :: '\\' :: out, shown.length)
    else (shown.reverse ++ out, used + shown.length)) (([] : Octets), 0)
  (mark :: '$' :: out).reverse

end BatchFormat.Shell.Edit
