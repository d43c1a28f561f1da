import BatchFormat.Shell.Tool.Edit.Desk

/-!
# The course of the line editor

How instructions change what is on the desk, and how the editor goes through its script, once for
each line unless the script says otherwise.
-/
namespace BatchFormat.Shell.Edit

namespace Desk

def names (j : Job) (d : Desk) : Address → Bool × Desk
  | .line n => (n == d.number, d)
  | .every first step => (d.number ≥ first && (d.number - first) % step == 0, d)
  | .last => d.isLast j
  | .fits e? =>
    match d.expression j e? none with
    | (some e, d) => ((e.find? j.mark (.ofOctets d.line.text) 0).isSome, d)
    | (none, d) => (false, d)
  | .further _ | .multiple _ => (false, d)

/-- The line on which a range ends that begins at the current line, if that is known by number, and
whether the range reaches to the next line that is gone through where that one is passed over. -/
def endOf (j : Job) (d : Desk) : Address → Option (Nat × Bool)
  | .line n => some (n, false)
  | .further count => some (d.number + count, true)
  | .multiple step => some (if step = 0 then d.number else (d.number / step + 1) * step, true)
  | .every first step =>
    if d.number ≥ first && (d.number - first) % step == 0 then some (d.number, false) else none
  | .last => if (d.isLast j).1 then some (d.number, false) else none
  | .fits _ => none

def setRange (d : Desk) (place : Nat) (r : Extent) : Desk :=
  { d with ranges := (place, r) :: d.ranges.filter fun e => e.1 != place }

/-- Opens a range at the current line, unless it ends here. -/
def openRange (j : Job) (d : Desk) (place : Nat) (second : Address) : Desk :=
  d.setRange place <|
    match d.endOf j second with
    | some (stop, isLoose) => if stop ≤ d.number then .closed else .upTo stop isLoose
    | none => .endless

/-- Whether a range begins at the line. One that begins at a line by number may also begin behind
it, if that line was passed over, but only once. -/
def begins (j : Job) (d : Desk) (place : Nat) (first second : Address) : Bool × Desk :=
  match first with
  | .line n =>
    if d.number < n ∨ d.ranges.lookup place = some .closed then (false, d)
    else
      let isThere :=
        match second with
        | .line stop => d.number == n || d.number ≤ stop
        | _ => true
      (isThere, d.openRange j place second)
  | _ =>
    match d.names j first with
    | (true, d) => (true, d.openRange j place second)
    | (false, d) => (false, d)

def covers (j : Job) (d : Desk) (place : Nat) (first second : Address) : Bool × Desk :=
  let opened? := d.ranges.lookup place <|>
    (match first with | .line 0 => some .endless | _ => none)
  match opened? with
  | none | some .closed => d.begins j place first second
  | some (.upTo stop isLoose) =>
    (isLoose || d.number ≤ stop, if stop ≤ d.number then d.setRange place .closed else d)
  | some .endless =>
    match d.names j second with
    | (true, d) => (true, d.setRange place .closed)
    | (false, d) => (true, d.setRange place .endless)

/-- Whether an instruction applies to the line. What is read before all lines is read on the first
one. -/
def applies (j : Job) (d : Desk) (place : Nat) (i : Instruction) : Bool × Desk :=
  let (found, d) :=
    match i.first?, i.last?, i.action with
    | none, _, _ => (true, d)
    | some _, none, .readFirst _ => (d.number == 1, d)
    | some first, none, _ => d.names j first
    | some first, some second, _ => d.covers j place first second
  (found != i.inverted, d)

/-- Runs a script, and tells what it prints. -/
def run (j : Job) (d : Desk) (script : Octets) : Octets × Desk :=
  let deed := j.call.script script d.tree
  let printed (descriptor : Nat) : Octets :=
    (deed.written.reverse.filter fun w => w.1 == descriptor).flatMap Prod.snd
  (printed 1, { d with tree := deed.tree, time := d.time + deed.time
                       errors := d.errors.raw (printed 2) })

/-- Takes the output of the line, run as a script, for the line. -/
def evaluate (j : Job) (d : Desk) : Desk :=
  let (text, d) := d.run j d.line.text
  let text := if text.getLast? = some j.mark then text.dropLast else text
  { d with line := { d.line with text := text } }

def substitute (j : Job) (s : Substitution) (d : Desk) : Desk :=
  match d.expression j s.expression? (some (highestGroup s.pieces)) with
  | (none, d) => d
  | (some e, d) =>
    match s.apply? e j.mark d.line.text with
    | none => d
    | some text =>
      let d := { d with line := { d.line with text := text }, replaced := true }
      let d := if s.printsBefore then d.printSpace j d.line else d
      let d := if s.evaluates then d.evaluate j else d
      let d := if s.printsAfter then d.printSpace j d.line else d
      match s.file? with
      | some file => d.save j file d.line
      | none => d

def exchange (source target : List Sign) (d : Desk) : Desk :=
  let text := Sign.write ((Sign.ofOctets d.line.text).map fun s =>
    (target[source.idxOf s]?).getD s)
  { d with line := { d.line with text := text } }

/-- The first line of the line in work, as it is printed. -/
def firstLine (j : Job) (d : Desk) : Space :=
  match d.line.splitFirst? j.mark with
  | some (first, _) => ⟨first, true⟩
  | none => d.line

end Desk

/-- How the work goes on: at another instruction, with the end of the work on this line, with the
script once more on what is left of it, or not at all. -/
inductive Turn where
  | on (place : Nat) (d : Desk)
  | done (d : Desk) (prints : Bool)
  | again (d : Desk)
  | stop (d : Desk)

/-- The place of a label; without a name, the end of the script. -/
def Job.placeOf (j : Job) (name : Octets) : Nat :=
  if name = [] then j.script.size
  else (j.script.findIdx? fun i => i.action.isLabel name).getD j.script.size

def Job.takeNext (j : Job) (place : Nat) (make : Space → Space) (d : Desk) : Turn :=
  match d.advance j make with
  | (true, d) => .on (place + 1) d
  | (false, d) => .done d false

def Job.act (j : Job) (place : Nat) (i : Instruction) (d : Desk) : Turn :=
  let on (d : Desk) : Turn := .on (place + 1) d
  let leap (name : Octets) (d : Desk) : Turn := .on (j.placeOf name) { d with replaced := false }
  match i.action with
  | .substitute s => on (d.substitute j s)
  | .exchange source target => on (d.exchange source target)
  | .block _ | .label _ | .nothing => on d
  | .delete => .done d false
  | .deleteFirst =>
    match d.line.splitFirst? j.mark with
    | none => .done d false
    | some (_, rest) => .again { d with line := { d.line with text := rest } }
  | .print => on (d.printSpace j d.line)
  | .printFirst => on (d.printSpace j (d.firstLine j))
  | .reveal width? => on (d.print j (revealedLines j.mark (width?.getD j.width) d.line.text))
  | .number => on (d.printOwn j (toString d.number ++ "\n").toList)
  | .fileName => on (d.printOwn j (d.name ++ ['\n']))
  | .next =>
    match d.isLast j with
    | (true, d) => .done d !j.quiet
    | (false, d) => j.takeNext place id (if j.quiet then d else d.printSpace j d.line)
  | .nextAdded =>
    match d.isLast j with
    | (true, d) => .done d (!j.quiet && !j.isStrict)
    | (false, d) => j.takeNext place (d.line.join j.mark) d
  | .hold => on { d with hold := d.line }
  | .holdAdded => on { d with hold := d.hold.join j.mark d.line }
  | .fetch => on { d with line := d.hold }
  | .fetchAdded => on { d with line := d.line.join j.mark d.hold }
  | .swap => on { d with line := d.hold, hold := d.line }
  | .clear => on { d with line := { d.line with text := [] } }
  | .readFrom file => on { d with queue := d.queue ++ [.file file] }
  | .readLineFrom file =>
    match d.lineFrom j file with
    | (some line, d) => on { d with queue := d.queue ++ [.text line] }
    | (none, d) => on d
  | .readFirst file => on (d.printFile j file)
  | .writeTo file => on (d.save j file d.line)
  | .writeFirstTo file => on (d.save j file (d.firstLine j))
  | .append text => on { d with queue := d.queue ++ [.text text] }
  | .insert text => on (d.printOwn j text)
  | .replace text =>
    let isOpen := i.last?.isSome && (d.ranges.lookup place).any (· != .closed)
    .done (if isOpen && !i.inverted then d else d.printOwn j text) false
  | .evaluate [] => on (d.evaluate j)
  | .evaluate script =>
    let (text, d) := d.run j script
    on (d.print j text)
  | .quit status =>
    let d := (if j.quiet then d else d.printSpace j d.line).deliver j
    .stop { d with main := d.main.settle j.mark, status := status }
  | .halt status => .stop { d with status := status }
  | .jump name => .on (j.placeOf name) d
  | .jumpIf name => if d.replaced then leap name d else on d
  | .jumpUnless name => if d.replaced then on { d with replaced := false } else leap name d

def Job.effort (d : Desk) : Action → Nat
  | .substitute _ => 1 + d.line.text.length / 8
  | _ => 1

/-- Goes through the script on the lines that are left. -/
def Job.work (j : Job) (limit : Nat) : Nat → (place : Nat) → Desk → Desk
  | 0, _, d => { d with time := endless }
  | n + 1, place, d =>
    let turn : Turn :=
      match j.script[place]? with
      | none => .done d !j.quiet
      | some i =>
        let d := { d with effort := d.effort + Job.effort d i.action }
        match d.applies j place i with
        | (true, d) => if d.isOver then .stop d else j.act place i d
        | (false, d) =>
          match i.action with
          | .block size => .on (place + 1 + size) d
          | _ => .on (place + 1) d
    match turn with
    | .on place d =>
      if d.isOver then d
      else if d.effort > limit then { d with time := endless }
      else j.work limit n place d
    | .stop d => d
    | .again d => j.work limit n 0 d
    | .done d prints =>
      if d.isOver then d
      else
        match (if prints then d.printSpace j d.line else d).advance j id with
        | (true, d) => j.work limit n 0 d
        | (false, d) => d

/-- The most effort that the work may take, for a text of some size, before it counts as one that
never ends. -/
def Job.limit (j : Job) (size : Nat) : Nat := 400000 + 64 * (size + 16) * (j.script.size + 2)

end BatchFormat.Shell.Edit
