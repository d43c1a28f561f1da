import BatchFormat.Engine.Lookup
import BatchFormat.Number.Power
import BatchFormat.Shell.Quotation

/-!
# Tools

A program that a script can start, as a function: what it finds when it starts, and what it does.
-/
namespace BatchFormat.Shell

/-- Why a stream cannot be used: it is closed, it was opened for the other direction, it is a
directory, or there is no room left in it. -/
inductive Trouble where
  | closed
  | wrongWay
  | directory
  | full
  deriving DecidableEq, Repr

def Trouble.description : Trouble → String
  | closed | wrongWay => "Bad file descriptor"
  | directory => "Is a directory"
  | full => "No space left on device"

/-- What a program does: the status it ends with, what it wrote to which descriptor (the latest
first), what it left in its input, the nanoseconds it waited, and the files afterwards. -/
structure Deed where
  status : Nat
  written : List (Nat × Octets)
  rest : Octets
  time : Nat
  tree : Tree

/-- What a program finds: its words, with its own name in front, what it can read from its input, the
trouble with it and with the output if they cannot be used, the files that the input comes from and
the output goes to if they are files, the current directory, the variables, the files, and the
permissions that new files do not get. -/
structure Call where
  words : List Octets
  input : Octets
  trouble? : Option Trouble
  outputTrouble? : Option Trouble
  source? : Option Location
  target? : Option Location
  /-- How many octets of the input are taken when some are asked for in blocks of a size. -/
  reach : (block count : Nat) → Nat
  /-- What can be read from the other open files. -/
  others : List (Nat × Octets)
  here : Location
  environment : List (Octets × Octets)
  tree : Tree
  mask : Nat
  /-- Runs a script without any input on some files. -/
  script : Octets → Tree → Deed

abbrev Tool := Call → Deed

/-- A time that is beyond all limits. -/
def endless : Nat := tenTo 40

namespace Call

def name (c : Call) : Octets := c.words.head?.getD []

def arguments (c : Call) : List Octets := c.words.drop 1

/-- What is left of the input when `rest` is not used: all of it can be given back to a file, and
what lies behind the last block was not taken. -/
def leaving (c : Call) (block : Nat) (rest : Octets) : Octets :=
  if c.source?.isSome then rest else c.input.drop (c.reach block (c.input.length - rest.length))

def idle (c : Call) : Deed := ⟨0, [], c.input, 0, c.tree⟩

end Call

namespace Deed

def write (d : Deed) (descriptor : Nat) (cs : Octets) : Deed :=
  if cs = [] then d else { d with written := (descriptor, cs) :: d.written }

def print (d : Deed) (cs : Octets) : Deed := d.write 1 cs

/-- Takes all that is left of the input. -/
def drain (d : Deed) : Deed := { d with rest := [] }

/-- Ends with a status that is not lower than an earlier one. -/
def atLeast (d : Deed) (status : Nat) : Deed := { d with status := max d.status status }

def complain (d : Deed) (name : Octets) (message : String) (status : Nat) : Deed :=
  (d.write 2 (name ++ Octets.ofString s!": {message}\n")).atLeast status

/-- Complains about an input that was closed from the beginning and cannot be closed again. -/
def closeInput (d : Deed) (c : Call) (remark : String) : Deed :=
  if c.trouble? = some .closed then
    d.complain c.name s!"{remark}: {Trouble.closed.description}" 1
  else d

end Deed

def descriptorOf? (cs : Octets) : Option Nat :=
  let named (number : Nat) (name : String) : Option Nat :=
    if String.ofList cs = "/dev/" ++ name then some number else none
  let numbered : Option Nat :=
    if "/dev/fd/".toList.isPrefixOf cs then (String.ofList (cs.drop 8)).toNat? else none
  named 0 "stdin" <|> named 1 "stdout" <|> named 2 "stderr" <|> numbered

namespace Files

/-- Looks up a path as it is written. -/
def locate (t : Tree) (here : Location) (cs : Octets) : Except Cause Tree.Place :=
  t.locateText here cs.text

/-- Looks up a path without following a link at its end. -/
def locateSelf (t : Tree) (here : Location) (cs : Octets) : Except Cause Tree.Place :=
  let text := cs.text
  if text = "" then .error .noEntry
  else if text.utf8ByteSize > Tree.pathLimit then .error .nameTooLong
  else t.walk false Tree.linkLimit (Tree.linkStart text here) (Path.pieces text)

def read (t : Tree) (here : Location) (cs : Octets) : Except Cause Octets :=
  match locate t here cs with
  | .error cause => .error cause
  | .ok (.vacant _) => .error .noEntry
  | .ok (.found _ (.dir _)) => .error .isDirectory
  | .ok (.found _ (.file bytes _)) => .ok (.ofBytes bytes)
  | .ok (.found _ _) => .ok []

/-- Looks up a path at which a file may be made, which cannot end like that of a directory. -/
def locateNew (t : Tree) (here : Location) (cs : Octets) : Except Cause Tree.Place :=
  match locate t here cs, cs.getLast? with
  | .error .noEntry, some '/' =>
    match locate t here (cs.reverse.dropWhile (· = '/')).reverse with
    | .ok (.vacant _) => .error .isDirectory
    | _ => .error .noEntry
  | found, _ => found

/-- The mode of a file or directory that gets all permissions but those of a mask. -/
def masked (mask permissions : Nat) : Nat := permissions - (permissions &&& mask)

/-- Writes a file, which is made if it is missing. What is written to a pipe is lost. -/
def write (t : Tree) (here : Location) (mask : Nat) (cs content : Octets) : Except Cause Tree :=
  match locateNew t here cs with
  | .error cause => .error cause
  | .ok (.vacant place) => .ok (t.put place (.file content.bytes (masked mask 0o666)))
  | .ok (.found _ (.dir _)) => .error .isDirectory
  | .ok (.found place (.file _ mode)) => .ok (t.put place (.file content.bytes mode))
  | .ok (.found _ _) => .ok t

end Files

/-- Whether an operand stands for the input. The path of an input that is closed leads nowhere, and
that of a file on the disk to the file as a whole. -/
def Call.isInput (c : Call) (operand : Octets) : Bool :=
  operand = ['-'] ||
    (descriptorOf? operand = some 0 && c.trouble? ≠ some .closed && c.source?.isNone)

/-- Where an operand is looked up, and as what: the path of an input on the disk is that file. -/
def Call.wayTo (c : Call) (operand : Octets) : Location × Octets :=
  match c.source? with
  | some place => if descriptorOf? operand = some 0 then (place, ['.']) else (c.here, operand)
  | none => (c.here, operand)

/-- The content of the file that an operand names. -/
def Call.read (c : Call) (t : Tree) (operand : Octets) : Except Cause Octets :=
  match (descriptorOf? operand).bind fun n => c.others.lookup n with
  | some content => .ok content
  | none =>
    let (place, path) := c.wayTo operand
    Files.read t place path

/-- Reads the operands of a tool one after the other; a dash stands for the input, which may be in
trouble. The last argument gets what was read, under the name of the operand. -/
def readOperands (operands : List Octets) (c : Call) (refuse : Octets → Cause → Deed → Deed)
    (balk : Trouble → Deed → Deed) (take : Octets → Octets → Deed → Deed) : Deed :=
  (if operands = [] then [['-']] else operands).foldl (fun d operand =>
    match c.isInput operand, c.trouble? with
    | true, some trouble => balk trouble d
    | true, none => take operand d.rest d.drain
    | false, _ =>
      match c.read d.tree operand with
      | .ok content => take operand content d
      | .error cause => refuse operand cause d) c.idle

/-- The options of a tool: the letters without a value, with one, and with one that may be left out;
the long names with the letters they stand for; the status after a wrong option; and whether the
first operand ends the options. -/
structure Manual where
  flags : String
  valued : String
  optional : String
  long : List (String × Char)
  wrongStatus : Nat
  endsAtOperand : Bool := false

/-- The options found in a call, with their values. -/
abbrev Options := List (Char × Octets)

namespace Options

def has (o : Options) (letter : Char) : Bool := o.any fun e => e.1 == letter

def values (o : Options) (letter : Char) : List Octets :=
  (o.filter fun e => e.1 == letter).map Prod.snd

end Options

namespace Manual

/-- The long names that all tools have beside their own. -/
def common : List String := ["help", "version"]

/-- The long name, perhaps cut short, of an option, and its letter. `word` is the whole word. -/
def longOf (m : Manual) (word front : Octets) : Except String (String × Char) :=
  let written := String.ofList (front.drop 2)
  match m.long.find? fun e => e.1 = written with
  | some e => .ok e
  | none =>
    let others := common.filter fun name => written.toList.isPrefixOf name.toList
    match m.long.filter fun e => written.toList.isPrefixOf e.1.toList with
    | [] => .error s!"unrecognized option {inQuotes word}"
    | e :: more =>
      if others = [] ∧ more.all fun o => o.2 = e.2 then .ok e
      else
        let names := (e :: more).map Prod.fst ++ others
        let listed := String.intercalate " " (names.map fun name => s!"'--{name}'")
        .error s!"option {inQuotes word} is ambiguous; possibilities: {listed}"

/-- Reads the words of a call: joined letters behind one dash, long names behind two, values in the
same word or the next one, and operands in between. The result holds the options up to the first
wrong one. -/
def read (m : Manual) : Nat → List Octets → Options × Except String (List Octets)
  | 0, words => ([], .ok words)
  | _, [] => ([], .ok [])
  | n + 1, word :: words =>
    let further (letter : Char) (value : Octets) (words : List Octets) :
        Options × Except String (List Octets) :=
      let (found, operands) := m.read n words
      ((letter, value) :: found, operands)
    match word with
    | ['-', '-'] => ([], .ok words)
    | '-' :: '-' :: _ =>
      let (front, back) := word.span (· != '=')
      match m.longOf word front with
      | .error remark => ([], .error remark)
      | .ok (name, letter) =>
        match m.valued.toList.contains letter, m.optional.toList.contains letter, back, words with
        | true, _, _ :: value, _ | _, true, _ :: value, _ => further letter value words
        | true, _, [], value :: words => further letter value words
        | true, _, [], [] => ([], .error s!"option '--{name}' requires an argument")
        | false, _, [], _ => further letter [] words
        | false, false, _ :: _, _ => ([], .error s!"option '--{name}' doesn't allow an argument")
    | '-' :: letter :: rest =>
      if m.valued.toList.contains letter then
        match rest, words with
        | [], [] => ([], .error s!"option requires an argument -- '{letter}'")
        | [], value :: words => further letter value words
        | _, _ => further letter rest words
      else if m.optional.toList.contains letter then further letter rest words
      else if m.flags.toList.contains letter then
        further letter [] (if rest = [] then words else ('-' :: rest) :: words)
      else
        let shown := if letter.toNat < 128 then letter else '\ufffd'
        ([], .error s!"invalid option -- '{shown}'")
    | _ =>
      if m.endsAtOperand then ([], .ok (word :: words))
      else
        let (found, operands) := m.read n words
        (found, operands.map (word :: ·))

end Manual

/-- A complaint with a hint at the help text. -/
def Call.refuse (c : Call) (remark : String) (status : Nat) : Deed :=
  c.idle.complain c.name s!"{remark}\nTry '{c.name.text} --help' for more information." status

/-- Does what a tool does with its options and operands, unless an option is wrong. The values of
options are checked in their order. -/
def Call.withOptions (c : Call) (m : Manual) (use : Options → List Octets → Deed)
    (flaw? : Options → Option Deed := fun _ => none) : Deed :=
  let (found, operands) := m.read (total (c.arguments.map (·.length + 1)) + 1) c.arguments
  match flaw? found, operands with
  | some d, _ => d
  | none, .ok operands => use found operands
  | none, .error remark => c.refuse remark m.wrongStatus

end BatchFormat.Shell
