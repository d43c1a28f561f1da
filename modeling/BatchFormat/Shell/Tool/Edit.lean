import BatchFormat.Shell.Tool.Edit.Course
import BatchFormat.Shell.Tool.Edit.Reader

/-!
# The line editor

`sed` takes its text line by line and carries out a script of instructions on each line.
-/
namespace BatchFormat.Shell.Edit

/-- A part of a script: an expression of the call or a file. -/
structure Source where
  file? : Option Octets
  text : Octets

/-- The place of a character in a script made of parts: the number of its expression and its own
number in there, or the file and the line in it. Remarks on a part as a whole name no character. -/
def placeIn (isWhole : Bool) (count number : Nat) : List Source → String
  | [] => s!"-e expression #{number}, char 0"
  | source :: sources =>
    if count ≤ source.text.length ∨ sources = [] then
      match source.file? with
      | some file =>
        let line := (source.text.take count).count '\n' + 1
        s!"file {file.text} line {line}"
      | none => s!"-e expression #{number}, char {if isWhole then 0 else count}"
    else
      placeIn isWhole (count - source.text.length - 1)
        (if source.file?.isSome then number else number + 1) sources

/-- The parts of a script behind one another, each on lines of its own. -/
def joined (sources : List Source) : Octets := ['\n'].intercalate (sources.map Source.text)

/-- The place in front of a number of characters at the end of a script. -/
def placeBefore (isWhole : Bool) (left : Nat) (sources : List Source) : String :=
  placeIn isWhole ((joined sources).length - left) 1 sources

def Fault.message (sources : List Source) : Fault → String
  | here remark left => s!"{placeBefore false left sources}: {remark}"
  | around remark left => s!"{placeBefore true left sources}: {remark}"
  | bare remark => remark
  | label name => s!"can't find label for jump to `{name.text}'"

def Fault.status : Fault → Nat
  | here .. | around .. => 1
  | bare _ | label _ => 4

/-- The parts of a script that options give, or else the first operand, with the other operands and
what is left of the input. -/
def sourcesOf (c : Call) (found : Options) (operands : List Octets) :
    Except String (List Source × List Octets × Octets) := do
  let take (read : List Source × Octets) (o : Char × Octets) :
      Except String (List Source × Octets) :=
    let (sources, input) := read
    if o.1 = 'e' then .ok (sources ++ [⟨none, o.2⟩], input)
    else if c.isInput o.2 then
      match c.trouble? with
      | some _ => .ok (sources ++ [⟨some o.2, []⟩], input)
      | none => .ok (sources ++ [⟨some o.2, input⟩], [])
    else
      match c.read c.tree o.2 with
      | .ok text => .ok (sources ++ [⟨some o.2, text⟩], input)
      | .error .isDirectory => .ok (sources ++ [⟨some o.2, []⟩], input)
      | .error cause => .error s!"couldn't open file {o.2.text}: {cause.description}"
  let (given, input) ← (found.filter fun o => o.1 = 'e' ∨ o.1 = 'f').foldlM take ([], c.input)
  if given = [] then return (operands.head?.toList.map (⟨none, ·⟩), operands.drop 1, input)
  else return (given, operands, input)

/-- Empties files that a script writes to, up to the first one that cannot be opened, which is told.
The call goes on with what is in its tree then. -/
def emptied (c : Call) : List Octets → Option String × Call
  | [] => (none, c)
  | file :: files =>
    if (descriptorOf? file).isSome then emptied c files
    else
      match Files.write c.tree c.here c.mask file [] with
      | .ok tree => emptied { c with tree := tree } files
      | .error cause => (some s!"couldn't open file {file.text}: {cause.description}", c)

/-- Writes what was saved to files. It goes to the file that was there when the work began, which may
have another name by now, or none. -/
def Desk.settled (j : Job) (d : Desk) : Desk :=
  let moved? (file : Octets) : Option (Option Location) :=
    match Files.locate j.call.tree j.call.here file with
    | .ok (.found place _) => d.moved.lookup place
    | _ => none
  { d with tree := d.saved.foldr (fun (file, o) t =>
      match moved? file with
      | none => (Files.write t j.call.here j.call.mask file o.text).toOption.getD t
      | some none => t
      | some (some place) =>
        match t.get? place with
        | some (.file _ mode) => t.put place (.file o.text.bytes mode)
        | _ => t) d.tree }

/-- How much of the input is read at once. -/
def block : Nat := 4096

/-- What is left of the input when the work comes to its end. -/
def Desk.left (j : Job) (d : Desk) : Octets :=
  let isInput := j.copies?.isNone && j.call.isInput d.name
  let rest := if isInput then d.ahead.flatten else []
  if rest = [] then d.input
  else if j.isSparing then rest
  else j.call.leaving block rest

/-- Edits files, or the input if there are none. -/
def edit (j : Job) (files : List Octets) : Deed :=
  let c := j.call
  let d := Desk.start j (if files = [] then [['-']] else files)
  let size := files.foldl (fun n file =>
    n + ((Files.read c.tree c.here file).toOption.getD []).length) c.input.length
  let d : Desk :=
    match d.advance j id with
    | (true, d) => j.work (j.limit size) (j.limit size + 1) 0 d
    | (false, d) => d
  let d := (if d.isOver then d else d.close j).settled j
  let output := if j.copies?.isSome then d.beside else d.main
  { status := if d.isMissing ∧ !d.isOver then 2 else d.status
    written := [(1, output.text), (2, d.errors.text)]
    rest := d.left j
    time := d.time
    tree := d.tree }

/-- The width that a text gives for lines that are spelled out; what is no number gives the usual
one. -/
def widthOf (cs : Octets) : Nat :=
  let (digits, _) := (cs.dropWhile Octets.isSpace).span Char.isDigit
  if digits = [] then 70 else (natural digits).1

/-- The options of the editor. Capital letters that are no options stand for those that have a long
name only. -/
def manual : Manual where
  flags := "bEnrsuz"
  valued := "efl"
  optional := "i"
  long := [("quiet", 'n'), ("silent", 'n'), ("expression", 'e'), ("file", 'f'),
    ("regexp-extended", 'E'), ("in-place", 'i'), ("separate", 's'), ("unbuffered", 'u'),
    ("binary", 'b'), ("null-data", 'z'), ("zero-terminated", 'z'), ("line-length", 'l'),
    ("posix", 'P'), ("sandbox", 'S'), ("follow-symlinks", 'F')]
  wrongStatus := 1

/-- The work that options ask for. -/
def jobOf (c : Call) (found : Options) (sources : List Source) (script : List Instruction) : Job :=
  let copies? := (found.values 'i').getLast?.map fun ending =>
    if ending.contains '*' then ending else '*' :: ending
  { script := script.toArray
    quiet := found.has 'n' || (joined sources).take 2 == "#n".toList
    isStrict := found.has 'P'
    mark := if found.has 'z' then '\x00' else '\n'
    width := ((found.values 'l').getLast?.map widthOf).getD 70
    separate := found.has 's' || found.has 'i'
    copies? := copies?
    followsLinks := found.has 'F'
    isSparing := found.has 'u'
    title := placeBefore true 0 sources
    call := c }

def sed : Tool := fun c =>
  c.withOptions manual fun found operands =>
    match sourcesOf c found operands with
    | .error remark => c.idle.complain c.name remark 4
    | .ok ([], _, _) => c.idle.complain c.name "no script specified" 1
    | .ok (sources, files, input) =>
      let manner : Manner :=
        ⟨found.has 'E' || found.has 'r', found.has 'P', found.has 'S', !found.has 'z'⟩
      let c := { c with input := input }
      match read manner (joined sources) with
      | .error ⟨fault, opened⟩ =>
        match emptied c opened with
        | (some remark, c) => c.idle.complain c.name remark 4
        | (none, c) => c.idle.complain c.name (fault.message sources) fault.status
      | .ok script =>
        match emptied c (script.filterMap (·.action.file?)) with
        | (some remark, c) => c.idle.complain c.name remark 4
        | (none, c) =>
          if found.has 'i' ∧ files = [] then c.idle.complain c.name "no input files" 4
          else edit (jobOf c found sources script) files

end BatchFormat.Shell.Edit
