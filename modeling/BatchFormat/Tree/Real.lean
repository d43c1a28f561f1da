import BatchFormat.Tree.Locate

/-!
# Real paths

The place a path leads to once every link on the way is replaced by its target. Names that do not
exist are kept, so a file can be resolved before it is created.

The walk stands on a path, not on a place: one that set out from the current directory stays
written from there until a link leads to the top. A link reached in both ways counts as two links,
which shows in where a circle is said to begin.
-/
namespace BatchFormat.Tree

/-- Takes one name from a place without looking at the tree. -/
def foldStep (here : Location) (name : String) : Location :=
  if name = "" ∨ name = "." then here
  else if name = ".." then here.dropLast
  else here ++ [name]

def fold (names : List String) : Location := names.foldl foldStep []

def placeOf (cwd : Location) (here : Path) : Location := here.parts.foldl foldStep (here.origin cwd)

/-- One step up. Above the current directory the steps are kept as double dots in front. -/
def above (here : Path) : Path :=
  if here.anchor = .relative ∧ (here.parts = [] ∨ here.name = "..") then here.child ".."
  else here.parent

/-- Puts pieces behind a path as text; pieces that begin with a slash start again at the top. -/
def continueAs (here : Path) : List String → Path
  | "" :: name :: rest => ⟨.top, name :: rest⟩
  | pieces => { here with parts := here.parts ++ pieces }

/-- A link whose target is being walked, and the pieces that follow the link. -/
structure Unfolding where
  link : Path
  rest : List String

/-- The path of a walk that is given up: all that is left to walk is put behind it unread. -/
def abandon (here : Path) (pieces : List String) (outer : List Unfolding) : Path :=
  outer.foldl (fun path u => continueAs path u.rest) (continueAs here pieces)

/-- Follows links from `here` with at most `links` of them unfolded. `seen` holds the links met so
far and, once known, where they lead. A link met again before it is resolved ends the walk with
the rest of the path left as it is. -/
def realFrom (t : Tree) (cwd : Location) (links : Nat) (seen : List (Path × Option Path))
    (here : Path) (pieces : List String) (outer : List Unfolding) : Except Path Path :=
  match pieces with
  | [] =>
    match outer with
    | [] => .ok here
    | u :: outer => realFrom t cwd links ((u.link, some here) :: seen) here u.rest outer
  | name :: rest =>
    if name = "" ∨ name = "." then realFrom t cwd links seen here rest outer
    else if name = ".." then realFrom t cwd links seen (above here) rest outer
    else
      let next := here.child name
      match t.get? (placeOf cwd next) with
      | some (.link target) =>
        match seen.lookup next with
        | some (some known) => realFrom t cwd links seen known rest outer
        | some none => .error (abandon next rest outer)
        | none =>
          match links with
          | 0 => .error (abandon next rest outer)
          | links + 1 =>
            realFrom t cwd links ((next, none) :: seen)
              (if Path.isAnchored target then ⟨.top, []⟩ else here) (Path.pieces target)
              (⟨next, rest⟩ :: outer)
      | _ => realFrom t cwd links seen next rest outer
termination_by (links, outer.length, pieces.length)

/-- How many links a walk may unfold: all that the system would follow, and each entry once from
the top and once for each number of steps that its way may first take up from the current
directory. -/
def unfoldLimit (t : Tree) (cwd : Location) (p : Path) : Nat :=
  linkLimit + t.entries.length * (cwd.length + p.parts.length + 2)

/-- The real place of a path, or the error for a path that runs in a circle. -/
def resolve (t : Tree) (cwd : Location) (p : Path) : Except SystemError Location :=
  if Path.holdsNul p.text then .error .nulInPath
  else
    match t.realFrom cwd (t.unfoldLimit cwd p) []
        (if p.anchor = .relative then ⟨.relative, []⟩ else ⟨.top, []⟩) p.parts [] with
    | .ok here => .ok (placeOf cwd here)
    | .error here =>
      let place := placeOf cwd here
      match t.locate [] true (Path.ofNames place) with
      | .error .tooManyLinks => .error (.linkLoop (Path.ofNames place).text)
      | _ => .ok place

end BatchFormat.Tree
