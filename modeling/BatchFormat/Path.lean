/-!
# Path texts

A path as a person writes it: an anchor and the names below it. Empty names and single dots say
nothing and are dropped; double dots stay, because they may lie behind a symbolic link.
-/
namespace BatchFormat

/-- Where a path starts: at the current directory, at the top, or at the top written with exactly
two slashes, which is kept apart. -/
inductive Anchor where
  | relative | top | doubled
  deriving DecidableEq, Repr

structure Path where
  anchor : Anchor
  parts : List String
  deriving DecidableEq, Repr

namespace Path

/-- The slash-separated pieces of a text, empty ones included. -/
def pieces (s : String) : List String := (s.toList.splitOn '/').map String.ofList

def anchorOf : List Char → Anchor
  | '/' :: '/' :: '/' :: _ => .top
  | '/' :: '/' :: _ => .doubled
  | '/' :: _ => .top
  | _ => .relative

def ofString (s : String) : Path :=
  ⟨anchorOf s.toList, (pieces s).filter fun piece => piece != "" && piece != "."⟩

def Anchor.text : Anchor → String
  | .relative => ""
  | .top => "/"
  | .doubled => "//"

/-- The path as text; the empty relative path is a single dot. -/
def text (p : Path) : String :=
  if p.anchor = .relative ∧ p.parts = [] then "."
  else Anchor.text p.anchor ++ String.intercalate "/" p.parts

instance : ToString Path := ⟨text⟩

/-- The last name, empty for an anchor alone. -/
def name (p : Path) : String := p.parts.getLast?.getD ""

/-- The path without its last name. -/
def parent (p : Path) : Path := { p with parts := p.parts.dropLast }

def child (p : Path) (name : String) : Path := { p with parts := p.parts ++ [name] }

/-- `q` as seen from `p`; a path with an anchor of its own is taken as it is. -/
def join (p q : Path) : Path :=
  if q.anchor = .relative then { p with parts := p.parts ++ q.parts } else q

/-- Where the names of a path lead on from. -/
def origin (cwd : List String) (p : Path) : List String :=
  if p.anchor = .relative then cwd else []

/-- Whether a text starts at the top, whatever the current directory is. -/
def isAnchored (s : String) : Bool := s.toList.head? = some '/'

/-- The path of a directory given by the names that lead to it from the top. -/
def ofNames (names : List String) : Path := ⟨.top, names⟩

/-- The path from the top, for a current directory given by its names. -/
def absolute (cwd : List String) (p : Path) : Path := (ofNames cwd).join p

/-- A zero character ends a name for the system, so no path that holds one can name anything. -/
def holdsNul (s : String) : Bool := s.toList.contains '\x00'

end Path
end BatchFormat
