import BatchFormat.Text.Utf8

/-!
# File trees

A tree maps places, given by the names that lead to them from the top, to entries. The top itself
is always a directory. Changing an entry keeps its position, adding one puts it last, so that
removing what was just added gives back the very same tree.
-/
namespace BatchFormat

export Text (Bytes)

/-- The names on the way from the top, without links, dots or empty names. -/
abbrev Location := List String

/-- What stands at a place. Modes are the twelve permission bits. -/
inductive Entry where
  | file (bytes : Bytes) (mode : Nat)
  | dir (mode : Nat)
  | link (target : String)
  | fifo (mode : Nat)
  deriving DecidableEq, Repr

def Entry.isDir : Entry → Bool
  | dir _ => true
  | _ => false

def Entry.isFile : Entry → Bool
  | file .. => true
  | _ => false

def Entry.isLink : Entry → Bool
  | link _ => true
  | _ => false

/-- The permission bits; those of a link count for nothing and are always full. -/
def Entry.mode : Entry → Nat
  | file _ mode | dir mode | fifo mode => mode
  | link _ => 0o777

structure Tree where
  entries : List (Location × Entry)
  deriving DecidableEq, Repr

namespace Tree

/-- The tree that holds nothing but its top. -/
def empty : Tree := ⟨[]⟩

def get? (t : Tree) (place : Location) : Option Entry :=
  if place = [] then some (.dir 0o755) else t.entries.lookup place

/-- The entries with the one at `place` replaced, or `none` if nothing is there. -/
def putIn (place : Location) (entry : Entry) :
    List (Location × Entry) → Option (List (Location × Entry))
  | [] => none
  | (other, old) :: rest =>
    if other = place then some ((place, entry) :: rest)
    else (putIn place entry rest).map ((other, old) :: ·)

/-- Puts an entry at a place, whatever was there. -/
def put (t : Tree) (place : Location) (entry : Entry) : Tree :=
  ⟨(putIn place entry t.entries).getD (t.entries ++ [(place, entry)])⟩

def erase (t : Tree) (place : Location) : Tree := ⟨t.entries.filter fun e => e.1 != place⟩

/-- Removes a place and everything below it. -/
def prune (t : Tree) (place : Location) : Tree :=
  ⟨t.entries.filter fun e => !place.isPrefixOf e.1⟩

/-- The name of `place` inside `parent`, if it is an immediate child. -/
def nameIn? (parent place : Location) : Option String :=
  match place.getLast? with
  | some name => if place.dropLast = parent then some name else none
  | none => none

/-- The names inside a directory, in code point order. -/
def names (t : Tree) (place : Location) : List String :=
  (t.entries.filterMap fun e => nameIn? place e.1).mergeSort fun a b => decide (a ≤ b)

/-- Adds the directories on the way to a place that are missing. -/
def putParents (t : Tree) (place : Location) : Tree :=
  (place.dropLast.foldl (fun (state : Tree × Location) name =>
    let here := state.2 ++ [name]
    (if (state.1.get? here).isSome then state.1 else state.1.put here (.dir 0o755), here))
    (t, [])).1

end Tree
end BatchFormat
