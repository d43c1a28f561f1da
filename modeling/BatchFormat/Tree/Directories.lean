import BatchFormat.Tree.Locate

/-!
# Making directories
-/
namespace BatchFormat.Tree

def directoryMode : Nat := 0o755

/-- Makes one directory; one that is there already is good enough. -/
def makeDirectory (t : Tree) (place : Location) : Except SystemError Tree :=
  let p := Path.ofNames place
  match t.locate [] false p with
  | .ok (.vacant here) => .ok (t.put here (.dir directoryMode))
  | .ok (.found _ _) => do
    if ← t.isDir [] p then return t else throw (.refused .present p.text)
  | .error cause => .error (.refused cause p.text)

/-- Makes a directory and those above it that are missing. The names are given last first. What
was made stays even if the rest fails. -/
def makeUpward (t : Tree) : List String → Except SystemError Unit × Tree
  | [] => (.ok (), t)
  | name :: above =>
    let place := (name :: above).reverse
    match t.makeDirectory place with
    | .ok t => (.ok (), t)
    | .error (.refused .noEntry _) =>
      match t.makeUpward above with
      | (.error e, t) => (.error e, t)
      | (.ok (), t) =>
        match t.makeDirectory place with
        | .ok t => (.ok (), t)
        | .error e => (.error e, t)
    | .error e => (.error e, t)

/-- Makes the directory at a place, whatever is missing on the way to it. -/
def makeDirectories (t : Tree) (place : Location) : Except SystemError Unit × Tree :=
  t.makeUpward place.reverse

end BatchFormat.Tree
