import BatchFormat.Tree.Faults
import BatchFormat.Tree.Real

/-!
# Replacing a file in one step

New content goes to a temporary file beside the old one, which is then moved over it. Whatever
fails, the temporary file is removed again, so a reader meets either the old file or the new one.
Links are written through: the path is made a real one first, and the file there is replaced. Only
where a path runs in a circle can the real path still end in a link, which is then replaced itself.
-/
namespace BatchFormat

/-- A replacement: the real path of the file, where the temporary file stands, the entry it
replaces, what it holds and the mode it gets. -/
structure Draft where
  path : Path
  temp : Location
  target : Location
  bytes : Bytes
  mode : Nat
  deriving DecidableEq, Repr

namespace Draft

def privateMode : Nat := 0o600

/-- The effects of a replacement, in the order in which they happen. -/
def create (d : Draft) (t : Tree) : Tree := t.put d.temp (.file [] privateMode)

/-- The first `count` bytes are written. -/
def fill (d : Draft) (count : Nat) (t : Tree) : Tree :=
  t.put d.temp (.file (d.bytes.take count) privateMode)

def finish (d : Draft) (t : Tree) : Tree := t.put d.temp (.file d.bytes privateMode)

def setMode (d : Draft) (t : Tree) : Tree := t.put d.temp (.file d.bytes d.mode)

def publish (d : Draft) (t : Tree) : Tree := (t.erase d.temp).put d.target (.file d.bytes d.mode)

/-- The way back from any effect before the last. -/
def discard (d : Draft) (t : Tree) : Tree := t.erase d.temp

/-- The path of the temporary file, as messages show it. -/
def tempPath (d : Draft) : Path := d.path.parent.child (d.temp.getLast?.getD "")

/-- Why the temporary file cannot be moved into place. -/
def refusal? (d : Draft) (faults : Faults) (t : Tree) : Option SystemError :=
  let refused (cause : Cause) : SystemError :=
    .moveRefused cause d.tempPath.text d.path.text
  if faults.replace d.path then some .diskFull
  else if d.target = [] then some (refused .busy)
  else if (t.get? d.target).any Entry.isDir then some (refused .isDirectory)
  else none

/-- Goes through the effects, and back if one of them fails. -/
def carryOut (d : Draft) (faults : Faults) (t : Tree) : Except SystemError Unit × Tree :=
  match faults.write d.path with
  | some count => (.error .diskFull, d.discard (d.fill count (d.create t)))
  | none =>
    if faults.mode d.path then (.error .diskFull, d.discard (d.finish (d.create t)))
    else
      let ready := d.setMode (d.finish (d.create t))
      match d.refusal? faults ready with
      | some e => (.error e, d.discard ready)
      | none => (.ok (), d.publish ready)

/-- The name of a temporary file; the mark tells it from the others. -/
def temporaryName (name mark : String) : String := s!".{name}.{mark}.tmp"

/-- Why there is no temporary file with a mark beside the path `p`, if its name or path is too
long. -/
def tooLong (p : Path) (mark : String) : SystemError :=
  .refused .nameTooLong (p.parent.child (temporaryName p.name mark)).text

/-- The first free place in the directory `dir` for a temporary file beside the path `p`. -/
def freePlace (t : Tree) (dir : Location) (p : Path) : List String → Except SystemError Location
  | [] => .error .noFreeName
  | mark :: marks =>
    let temporary := temporaryName p.name mark
    let text := (p.parent.child temporary).text
    if temporary.utf8ByteSize > Tree.nameLimit ∨ text.utf8ByteSize > Tree.pathLimit then
      .error (tooLong p mark)
    else if (t.get? (dir ++ [temporary])).isSome then freePlace t dir p marks
    else .ok (dir ++ [temporary])

end Draft

namespace Tree

/-- Plans the replacement of what a path leads to: the links are resolved, the mode is that of the
entry there, and what will be moved over is the entry itself, even if it is a link still. -/
def draft (t : Tree) (faults : Faults) (marks : List String) (cwd : Location) (p : Path)
    (content : String) : Except SystemError Draft := do
  let real := Path.ofNames (← t.resolve cwd p)
  let (_, entry) ← t.entryAt? [] true real
  let (target, _) ← t.entryAt? [] false real
  let temp ← Draft.freePlace t target.dropLast real marks
  if faults.create real then .error .diskFull
  else .ok ⟨real, temp, target, Text.encode content, entry.mode⟩

/-- Replaces what a path leads to and tells where it stood, or fails and leaves the tree alone. -/
def replace (t : Tree) (faults : Faults) (marks : List String) (cwd : Location) (p : Path)
    (content : String) : Except SystemError Location × Tree :=
  match t.draft faults marks cwd p content with
  | .error e => (.error e, t)
  | .ok d =>
    let (outcome, after) := d.carryOut faults t
    (outcome.map fun _ => d.target, after)

end Tree
end BatchFormat
