import BatchFormat.Path
import BatchFormat.Tree.Basic
import BatchFormat.Tree.Cause

/-!
# Looking up a path

Walks a path name by name, following links where the system does. A link may be followed forty
times in one look-up; a name has at most 255 bytes, a whole path at most 4095.
-/
namespace BatchFormat.Tree

/-- The end of a look-up: an entry, or a free place in an existing directory. -/
inductive Place where
  | found (place : Location) (entry : Entry)
  | vacant (place : Location)
  deriving DecidableEq, Repr

def linkLimit : Nat := 40

def nameLimit : Nat := 255

def pathLimit : Nat := 4095

def linkStart (target : String) (here : Location) : Location :=
  if Path.isAnchored target then [] else here

/-- Walks the steps from the directory `here`, with `links` links left to follow; a link at the
very end is followed only if `follow` says so. An empty step leads nowhere else, but like a dot it
can only be taken from a directory, so that a slash at the end of a text asks for one. -/
def walk (t : Tree) (follow : Bool) (links : Nat) (here : Location) (steps : List String) :
    Except Cause Place :=
  match steps with
  | [] => .ok (.found here ((t.get? here).getD (.dir 0o755)))
  | step :: rest =>
    if step = "" ∨ step = "." then walk t follow links here rest
    else if step = ".." then walk t follow links here.dropLast rest
    else if step.utf8ByteSize > nameLimit then .error .nameTooLong
    else
      let next := here ++ [step]
      match t.get? next with
      | none => if rest = [] then .ok (.vacant next) else .error .noEntry
      | some (.dir _) => walk t follow links next rest
      | some (.link target) =>
        if rest = [] ∧ !follow then .ok (.found next (.link target))
        else
          match links with
          | 0 => .error .tooManyLinks
          | links + 1 => walk t follow links (linkStart target here) (Path.pieces target ++ rest)
      | some entry => if rest = [] then .ok (.found next entry) else .error .notDirectory
termination_by (links, steps.length)

/-- Looks up a path from the current directory. -/
def locate (t : Tree) (cwd : Location) (follow : Bool) (p : Path) : Except Cause Place :=
  if p.text.utf8ByteSize > pathLimit then .error .nameTooLong
  else t.walk follow linkLimit (p.origin cwd) p.parts

/-- Whether a look-up that follows every link comes to a last name with a slash behind it. Such a
name is never made into a file, and is refused before it is looked at. -/
def asksForDirectory (t : Tree) (links : Nat) (here : Location) (steps : List String) : Bool :=
  match steps with
  | [] => false
  | step :: rest =>
    if step = "" ∨ step = "." then t.asksForDirectory links here rest
    else if step = ".." then t.asksForDirectory links here.dropLast rest
    else if rest ≠ [] ∧ rest.all (· = "") then true
    else
      match t.get? (here ++ [step]) with
      | some (.dir _) => t.asksForDirectory links (here ++ [step]) rest
      | some (.link target) =>
        match links with
        | 0 => false
        | links + 1 =>
          t.asksForDirectory links (linkStart target here) (Path.pieces target ++ rest)
      | _ => false
termination_by (links, steps.length)

def entryAt? (t : Tree) (cwd : Location) (follow : Bool) (p : Path) :
    Except SystemError (Location × Entry) :=
  if Path.holdsNul p.text then .error .nulInPath
  else
    match t.locate cwd follow p with
    | .ok (.found place entry) => .ok (place, entry)
    | .ok (.vacant _) => .error (.refused .noEntry p.text)
    | .error cause => .error (.refused cause p.text)

/-- The entry that a path names, or nothing where nothing is there; a name that the system does
not take at all is still an error. -/
def probe (t : Tree) (cwd : Location) (follow : Bool) (p : Path) :
    Except SystemError (Option (Location × Entry)) :=
  match t.entryAt? cwd follow p with
  | .ok found => .ok (some found)
  | .error (.refused cause path) =>
    if cause.isAbsence then .ok none else .error (.refused cause path)
  | .error _ => .ok none

/-- Whether the path names an entry that satisfies a test, links followed. -/
def test (t : Tree) (cwd : Location) (p : Path) (accept : Entry → Bool) :
    Except SystemError Bool :=
  (t.probe cwd true p).map fun found => found.any fun e => accept e.2

def pathExists (t : Tree) (cwd : Location) (p : Path) : Except SystemError Bool :=
  t.test cwd p fun _ => true

def isFile (t : Tree) (cwd : Location) (p : Path) : Except SystemError Bool :=
  t.test cwd p Entry.isFile

def isDir (t : Tree) (cwd : Location) (p : Path) : Except SystemError Bool :=
  t.test cwd p Entry.isDir

def isLink (t : Tree) (cwd : Location) (p : Path) : Except SystemError Bool :=
  (t.probe cwd false p).map fun found => found.any fun e => e.2.isLink

end BatchFormat.Tree
