import BatchFormat.Shell.Tool.Edit.Outlet
import BatchFormat.Shell.Tool.Edit.Wording
import BatchFormat.Shell.Tool.Stream

/-!
# The desk of the line editor

What the editor has before it while it works: the line in work, the lines and files to come, what
was put aside and what was printed.
-/
namespace BatchFormat.Shell.Edit

/-- What the editor is asked to do: its script, whether lines are printed only on demand, whether it
keeps to the standard, the mark that ends lines, the width of lines that are spelled out, whether
each file is edited by itself, and the call it works for. -/
structure Job where
  script : Array Instruction
  quiet : Bool
  isStrict : Bool
  mark : Char
  width : Nat
  separate : Bool
  /-- The names of the copies of files that are edited in place, where a star stands for the name of
  the file; none if files are not edited in place. -/
  copies? : Option Octets
  followsLinks : Bool
  /-- Whether no more of the input is taken than the lines that are read. -/
  isSparing : Bool
  /-- Where remarks on the script as a whole place themselves. -/
  title : String
  call : Call

/-- What is printed when a line is done: a text, or what a file holds then. -/
inductive Parcel where
  | text (cs : Octets)
  | file (name : Octets)

/-- How far the range of an instruction goes: up to a line (or loosely, up to the first one gone
through that is not in front of it), up to one that is not known by number,
or no further. -/
inductive Extent where
  | upTo (line : Nat) (isLoose : Bool)
  | endless
  | closed
  deriving DecidableEq, Repr

/-- What the editor has before it. -/
structure Desk where
  line : Space
  number : Nat
  hold : Space
  /-- The name of the file in work, the lines ahead in it, and the files that follow. -/
  name : Octets
  ahead : List Octets
  waiting : List Octets
  /-- Whether the file in work is to be written when it ends. -/
  isOpen : Bool
  /-- What is left of the input. -/
  input : Octets
  /-- How far ranges go, by the place of their instruction. -/
  ranges : List (Nat × Extent)
  queue : List Parcel
  /-- Whether something was replaced since a line was read or this was last asked for. -/
  replaced : Bool
  /-- The expression used last, and whether a substitution has used it. -/
  latest? : Option (Expression × Bool)
  /-- Where lines are printed, and what is written to the standard output by name, which goes to the
  same place unless files are edited in place. -/
  main : Outlet
  beside : Outlet
  errors : Outlet
  /-- What was written to files. -/
  saved : List (Octets × Outlet)
  /-- Where the files are now whose places were taken by edited ones, if they are still anywhere. -/
  moved : List (Location × Option Location)
  /-- The lines left of files that are read line by line. -/
  readers : List (Octets × List Octets)
  tree : Tree
  time : Nat
  status : Nat
  isMissing : Bool
  /-- Whether the work has come to an end before its time. -/
  isOver : Bool
  /-- How much work has been done. -/
  effort : Nat

namespace Desk

def start (j : Job) (files : List Octets) : Desk where
  line := ⟨[], true⟩
  number := 0
  hold := ⟨[], true⟩
  name := ['-']
  ahead := []
  waiting := files
  isOpen := false
  input := j.call.input
  ranges := []
  queue := []
  replaced := false
  latest? := none
  main := .empty
  beside := .empty
  errors := .empty
  saved := []
  moved := []
  readers := []
  tree := j.call.tree
  time := 0
  status := 0
  isMissing := false
  isOver := false
  effort := 0

def remark (j : Job) (d : Desk) (text : String) : Desk :=
  let text := j.call.name ++ Octets.ofString s!": {text}\n"
  { d with errors := d.errors.raw text }

def giveUp (j : Job) (d : Desk) (text : String) (status : Nat) : Desk :=
  { d.remark j text with status := status, isOver := true }

def print (j : Job) (d : Desk) (cs : Octets) : Desk := { d with main := d.main.print j.mark cs }

def printSpace (j : Job) (d : Desk) (s : Space) : Desk :=
  { d with main := d.main.printSpace j.mark s }

/-- Prints a text of a script, whose last line end becomes a mark. -/
def printOwn (j : Job) (d : Desk) (cs : Octets) : Desk :=
  if cs = [] then d else d.print j (cs.dropLast ++ [j.mark])

/-- Writes a space to a file. -/
def save (j : Job) (d : Desk) (file : Octets) (s : Space) : Desk :=
  let write (o : Outlet) : Outlet := o.printSpace j.mark s
  match descriptorOf? file with
  | some 1 =>
    if j.copies?.isSome then { d with beside := write d.beside }
    else
      let o := write ⟨d.main.pieces, d.beside.owes⟩
      { d with main := { d.main with pieces := o.pieces }, beside := { d.beside with owes := o.owes } }
  | some 2 => { d with errors := write d.errors }
  | _ =>
    let old := (d.saved.lookup file).getD .empty
    { d with saved := (file, write old) :: d.saved.filter fun e => e.1 != file }

/-- What a file holds, if it can be opened; the input is empty once it was read, unless it is on the
disk and opened anew. -/
def content (j : Job) (reopens : Bool) (d : Desk) (file : Octets) : Except Cause Octets × Desk :=
  let isInput := descriptorOf? file = some 0 && !(reopens && j.call.source?.isSome)
  if isInput then (.ok d.input, { d with input := [] })
  else (j.call.read d.tree file, d)

/-- Prints what a file holds, as it is. -/
def printFile (j : Job) (d : Desk) (file : Octets) : Desk :=
  match d.content j true file with
  | (.ok cs, d) => { d with main := d.main.raw cs }
  | (.error .isDirectory, d) =>
    d.giveUp j s!"read error on {file.text}: {Cause.isDirectory.description}" 4
  | (.error _, d) => d

/-- Prints what was kept for the end of a line. -/
def deliver (j : Job) (d : Desk) : Desk :=
  if d.queue = [] then d
  else
    d.queue.foldl (fun d parcel =>
      if d.isOver then d
      else
        match parcel with
        | .text cs => { d with main := d.main.raw cs }
        | .file name => d.printFile j name)
      { d with queue := [], main := d.main.settle j.mark }

/-- The next line of a file that is read line by line. -/
def lineFrom (j : Job) (d : Desk) (file : Octets) : Option Octets × Desk :=
  let (lines, d) : Except Cause (List Octets) × Desk :=
    match d.readers.lookup file with
    | some lines => (.ok lines, d)
    | none =>
      let (read, d) := d.content j false file
      (read.map (Stream.partsOf j.mark), d)
  let keep (lines : List Octets) : Desk :=
    { d with readers := (file, lines) :: d.readers.filter fun e => e.1 != file }
  match lines with
  | .ok (line :: lines) => (some line, keep lines)
  | .ok [] => (none, keep [])
  | .error .isDirectory =>
    (none, d.giveUp j s!"read error on {file.text}: {Cause.isDirectory.description}" 4)
  | .error _ => (none, keep [])

def copyName (pattern file : Octets) : Octets :=
  let base := (file.reverse.takeWhile (· != '/')).reverse
  let name := pattern.flatMap fun c => if c = '*' then base else [c]
  if pattern.contains '/' then name else file.take (file.length - base.length) ++ name

/-- Writes the file in work when it ends, and keeps a copy of the old one if asked for. -/
def close (j : Job) (d : Desk) : Desk :=
  match j.copies? with
  | none => { d with isOpen := false }
  | some pattern =>
    if !d.isOpen then d
    else
      let text := d.main.text
      let d := { d with isOpen := false, main := .empty }
      let look := if j.followsLinks then Files.locate else Files.locateSelf
      let mode : Nat :=
        match Files.locate d.tree j.call.here d.name with
        | .ok (.found _ entry) => entry.mode
        | _ => 0o644
      match look d.tree j.call.here d.name with
      | .ok (.found place old) =>
        let written (kept? : Option Location) (t : Tree) : Desk :=
          { d with tree := t.put place (.file text.bytes mode)
                   moved := d.moved ++ [(place, kept?)] }
        if pattern = ['*'] then written none d.tree
        else
          match Files.locateSelf d.tree j.call.here (copyName pattern d.name) with
          | .ok (.vacant copy) => written (some copy) ((d.tree.erase place).put copy old)
          | .ok (.found copy (.dir _)) =>
            if copy = place then written none d.tree
            else d.giveUp j s!"cannot rename {d.name.text}: {Cause.isDirectory.description}" 4
          | .ok (.found copy _) =>
            if copy = place then written none d.tree
            else written (some copy) ((d.tree.erase place).put copy old)
          | .error cause => d.giveUp j s!"cannot rename {d.name.text}: {cause.description}" 4
      | _ => d

/-- Opens a file. A directory cannot be read, which shows only when its first line is asked for. -/
def openFile (j : Job) (peeks : Bool) (d : Desk) (file : Octets) : Desk :=
  let inPlace := j.copies?.isSome
  let d := { d with name := file }
  if !inPlace ∧ j.call.isInput file then
    match j.call.trouble? with
    | some trouble =>
      if peeks then d else d.giveUp j s!"read error on stdin: {trouble.description}" 4
    | none => { d with ahead := Stream.partsOf j.mark d.input, input := [], isOpen := true }
  else
    let (place, path) := if inPlace then (j.call.here, file) else j.call.wayTo file
    match Files.locate d.tree place path with
    | .ok (.found _ (.file bytes _)) =>
      { d with ahead := Stream.partsOf j.mark (.ofBytes bytes), isOpen := true }
    | .ok (.found _ entry) =>
      if inPlace then d.giveUp j s!"couldn't edit {file.text}: not a regular file" 4
      else if entry.isDir ∧ !peeks then
        d.giveUp j s!"read error on {file.text}: {Cause.isDirectory.description}" 4
      else d
    | .ok (.vacant _) => missing d file .noEntry
    | .error cause => missing d file cause
where
  missing (d : Desk) (file : Octets) (cause : Cause) : Desk :=
    { d.remark j s!"can't read {file.text}: {cause.description}" with isMissing := true }

/-- Begins anew to count lines, if each file is edited by itself. -/
def renew (j : Job) (d : Desk) : Desk :=
  if j.separate then
    { d with number := 0, hold := { d.hold with text := [] }, ranges := [], readers := [] }
  else d

/-- Opens files until there is a line ahead. Those that are only looked at ahead of time are not in
work yet. -/
def supply (j : Job) (peeks : Bool) : List Octets → Desk → Desk
  | [], d => if d.ahead.isEmpty then { d.close j with waiting := [] } else { d with waiting := [] }
  | file :: files, d =>
    if !d.ahead.isEmpty || d.isOver then { d with waiting := file :: files }
    else
      let d := d.close j
      if d.isOver then d else supply j peeks files ((d.renew j).openFile j peeks file)

def isLast (j : Job) (d : Desk) : Bool × Desk :=
  if !d.ahead.isEmpty then (false, d)
  else if j.separate then (true, d)
  else
    let d := d.supply j true d.waiting
    (d.ahead.isEmpty, d)

/-- Takes the next line, of which `make` makes the line in work, and tells whether there is one. -/
def advance (j : Job) (make : Space → Space) (d : Desk) : Bool × Desk :=
  let d := d.deliver j
  let d := { d with replaced := false }
  let d := if d.isOver then d else d.supply j false d.waiting
  match if d.isOver then [] else d.ahead with
  | [] => (false, d)
  | line :: ahead =>
    (true, { d with line := make (.ofLine j.mark line), number := d.number + 1, ahead := ahead })

/-- The expression to look for; an absent one is the one used last. `groups` is the number of groups
that are referred to, if it is a substitution that looks. -/
def expression (j : Job) (e? : Option Expression) (groups? : Option Nat) (d : Desk) :
    Option Expression × Desk :=
  match e?, d.latest? with
  | some e, _ => (some e, { d with latest? := some (e, groups?.isSome) })
  | none, none => (none, d.giveUp j s!"{j.title}: no previous regular expression" 1)
  | none, some (e, isKnown) =>
    match if isKnown then none else groups?.filter (· > e.regex.groups) with
    | some groups => (none, d.giveUp j s!"{j.title}: {missingGroup groups}" 1)
    | none => (some e, { d with latest? := some (e, isKnown || groups?.isSome) })

end Desk
end BatchFormat.Shell.Edit
