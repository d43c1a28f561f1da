import BatchFormat.Candidate
import BatchFormat.Tree.Faults
import BatchFormat.Tree.Locate

/-!
# Traversing a tree

Visits what lies below a root, depth first and in the order of the names. Links to directories are
reported but not entered. The visits may change files, and every question about the tree is asked
when its turn comes.
-/
namespace BatchFormat

/-- What a traversal does on its way: where it finds the tree, how it treats a candidate, and how
it treats a directory that cannot be listed; without the last, such a directory stops it. -/
structure Visitor (σ : Type) where
  tree : σ → Tree
  visit : Candidate → σ → σ
  unlisted? : Option (Path → SystemError → σ → σ)

/-- How far a traversal has come, and the error that stopped it, if any. -/
structure Progress (σ : Type) where
  state : σ
  stopped : Option SystemError

/-- Goes on unless the traversal was stopped. -/
def Progress.andThen {σ : Type} (progress : Progress σ) (next : σ → Progress σ) : Progress σ :=
  match progress.stopped with
  | some _ => progress
  | none => next progress.state

namespace Tree

/-- The names in a directory, in code point order. -/
def list (t : Tree) (faults : Faults) (cwd : Location) (p : Path) :
    Except SystemError (List String) :=
  if faults.list p then .error (.refused .denied p.text)
  else
    match t.entryAt? cwd true p with
    | .error e => .error e
    | .ok (place, .dir _) => .ok (t.names place)
    | .ok (_, _) => .error (.refused .notDirectory p.text)

/-- What a path is to a traversal: a directory, a file, or nothing of interest. -/
def kind? (t : Tree) (cwd : Location) (p : Path) : Except SystemError (Option Kind) := do
  if ← t.isDir cwd p then return some .directory
  if ← t.isFile cwd p then return some .file
  return none

end Tree

namespace Visitor

variable {σ : Type}

/-- Notes that a directory cannot be listed. Only what the system refuses can be passed over. -/
def skip (v : Visitor σ) (p : Path) (e : SystemError) (state : σ) : Progress σ :=
  match v.unlisted? with
  | some pass => if e.isRefusal then ⟨pass p e state, none⟩ else ⟨state, some e⟩
  | none => ⟨state, some e⟩

/-- Visits an entry of a directory; `enter` goes on below it. -/
def entry (v : Visitor σ) (cwd : Location) (recursive : Bool)
    (enter : Path → σ → Progress σ) (p : Path) (state : σ) : Progress σ :=
  match (v.tree state).kind? cwd p with
  | .error e => ⟨state, some e⟩
  | .ok none => ⟨state, none⟩
  | .ok (some .file) => ⟨v.visit ⟨p, .file⟩ state, none⟩
  | .ok (some .directory) =>
    let state := v.visit ⟨p, .directory⟩ state
    if recursive then
      match (v.tree state).isLink cwd p with
      | .error e => ⟨state, some e⟩
      | .ok true => ⟨state, none⟩
      | .ok false => enter p state
    else ⟨state, none⟩

/-- Lists the directory `p` and visits its entries, going at most `depth` levels deep. -/
def below (v : Visitor σ) (faults : Faults) (cwd : Location) (recursive : Bool) :
    (depth : Nat) → (p : Path) → σ → Progress σ
  | 0, _, state => ⟨state, none⟩
  | depth + 1, p, state =>
    match (v.tree state).list faults cwd p with
    | .error e => v.skip p e state
    | .ok names =>
      names.foldl (fun progress name =>
        progress.andThen (v.entry cwd recursive
          (v.below faults cwd recursive depth) (p.child name)))
        ⟨state, none⟩

/-- Deeper than this no path can lead, since every level adds to its length. -/
def depthLimit : Nat := Tree.pathLimit + 2

/-- The whole traversal; a root that is a file is its only candidate. -/
def run (v : Visitor σ) (faults : Faults) (cwd : Location) (recursive : Bool) (root : Path)
    (state : σ) : Progress σ :=
  match (v.tree state).isFile cwd root with
  | .error e => ⟨state, some e⟩
  | .ok true => ⟨v.visit ⟨root, .file⟩ state, none⟩
  | .ok false => v.below faults cwd recursive depthLimit root state

end Visitor

/-- Candidates in the order in which they are met, and directories that could not be listed. -/
structure Survey where
  candidates : List Candidate
  unlisted : List (Path × SystemError)
  deriving DecidableEq, Repr

namespace Survey

/-- Collects what there is in a tree that does not change. -/
def visitor (t : Tree) (handled : Bool) : Visitor Survey where
  tree := fun _ => t
  visit := fun c s => { s with candidates := s.candidates ++ [c] }
  unlisted? :=
    if handled then some fun p e s => { s with unlisted := s.unlisted ++ [(p, e)] } else none

/-- Everything below a root, and the error that ended the search if one did. -/
def take (t : Tree) (faults : Faults) (cwd : Location) (root : Path) (recursive handled : Bool) :
    Progress Survey :=
  (visitor t handled).run faults cwd recursive root ⟨[], []⟩

end Survey
end BatchFormat
