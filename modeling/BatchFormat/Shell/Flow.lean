import BatchFormat.Shell.Reader
import BatchFormat.Shell.State

/-!
# The flow of commands

How lists of commands and texts are run, what signals do between commands, and how a process ends.
All of it asks an evaluator to run single commands.
-/
namespace BatchFormat.Shell

/-- How a command is run. If it is tested, its failure ends nothing; if it is the last one, the
process ends with it. -/
structure Mode where
  isTested : Bool
  isLast : Bool

namespace Mode

def plain : Mode := ⟨false, false⟩

def tested : Mode := ⟨true, false⟩

def last : Mode := ⟨false, true⟩

/-- The mode of a command that others follow. -/
def more (m : Mode) : Mode := { m with isLast := false }

end Mode

abbrev Evaluator := Mode → Command → Run Unit

namespace Run

/-- Runs commands one after the other. -/
def list (eval : Evaluator) (mode : Mode) : List Command → Run Unit
  | [] => return ()
  | [c] => eval mode c
  | c :: cs => do
    eval mode.more c
    list eval mode cs

def checkTime : Run Unit := do
  if (← machine).isOver then throw .late

/-- Complains about a flaw in a text. -/
def refuse {α : Type} (flaw : Flaw) (line : Nat) : Run α := do
  onProcess fun p => { p with line := line }
  failWith flaw.message

/-- The next commands of a text; with the option for it, its lines are shown as they are read. -/
def nextLine (isShown : Bool) (source : Source) : Run (Option (List Command × Source)) := do
  let p ← process
  let source := { source with aliases := p.aliases }
  let echo (rest : Octets) : Run Unit :=
    if isShown && p.has 'v' then write 2 (source.rest.take (source.rest.length - rest.length))
    else return ()
  match source.nextLine with
  | .error (flaw, line) => do echo []; refuse flaw line
  | .ok none => return none
  | .ok (some (commands, rest)) => do
    echo rest.rest
    onProcess fun p => { p with nextLine := rest.line }
    return some (commands, rest)

/-- Runs the commands of a text, line by line, and ends with the status of the latest one, or with
none if there is none. -/
def linesFrom (eval : Evaluator) (mode : Mode) (isShown : Bool) :
    Nat → (status? : Option Nat) → Source → Run (Option Nat)
  | 0, _, _ => throw .late
  | n + 1, status?, source => do
    match ← nextLine isShown source with
    | none => return status?
    | some (commands, source) =>
      let isLast := mode.isLast && source.given?.isSome
      if (← process).has 'n' then linesFrom eval mode isShown n status? source
      else
        list eval { mode with isLast } commands
        checkTime
        let status := (← process).status
        linesFrom eval mode isShown n (if commands.isEmpty then status? else some status) source

/-- Runs a text to its end. Its status is that of its latest command, or zero. -/
def text (eval : Evaluator) (mode : Mode) (cs : Octets) : Run Unit := do
  let source := Source.ofText cs 1 []
  let status? ← linesFrom eval mode false (cs.length + 2) none source
  setStatus (status?.getD 0)

/-- How deep texts may be run within texts. -/
def depthLimit : Nat := 1000

/-- Runs a step one level deeper; a process that goes too deep dies of it. -/
def deeper (step : Run Unit) : Run Unit := do
  let p ← process
  if p.depth ≥ depthLimit then throw (.killed Signal.outOfMemory)
  else
    onProcess fun q => { q with depth := p.depth + 1 }
    ensuring step (onProcess fun q => { q with depth := p.depth, nextLine := p.nextLine })

/-- Runs the command of a trap. The status is afterwards what it was before. -/
def trapped (eval : Evaluator) (action : Octets) : Run Unit := do
  let p ← process
  onProcess fun q => { q with leaving? := some (p.leaving?.getD p.status) }
  match ← attempt (deeper (text eval .plain action)) with
  | .ok () => onProcess fun q => { q with leaving? := p.leaving?, status := p.status }
  | .error (.back isNumbered) =>
    onProcess fun q =>
      { q with leaving? := p.leaving?, status := if isNumbered then q.status else p.status }
    throw (.back isNumbered)
  | .error (.leave loops) =>
    onProcess fun q => { q with leaving? := p.leaving?, status := p.status }
    throw (.leave loops)
  | .error (.again loops) =>
    onProcess fun q => { q with leaving? := p.leaving?, status := p.status }
    throw (.again loops)
  | .error stop => throw stop

/-- Takes notice of a signal that has arrived. A process that is halted never goes on. -/
def heedOne (eval : Evaluator) (signal : Nat) : Run Unit := do
  match (← process).trap? signal with
  | some action =>
    if signal = Signal.halt then throw .late
    else if signal = Signal.kill then throw (.killed signal)
    else if action = [] then return ()
    else trapped eval action
  | none =>
    if signal = Signal.halt then throw .late
    else if Signal.isHarmless signal then return ()
    else throw (.killed signal)

/-- Takes notice of the signals that have arrived. -/
def heed (eval : Evaluator) : Run Unit := do
  let s ← get
  if s.machine.signals.isEmpty then return ()
  else
    let (own, others) := s.machine.signals.partition fun e => e.1 = s.process.number
    onMachine fun m => { m with signals := others }
    let signals := (own.map Prod.snd).eraseDups.mergeSort fun a b => a ≤ b
    signals.forM (heedOne eval)

def settle (isDemanded : Bool) : Run Unit :=
  onProcess fun p =>
    { p with
      status := if isDemanded then p.leaving?.getD p.status else p.status
      leaving? := none }

/-- Runs what is to be run at the end of a process. The status of the end stays unless the trap ends
the process with another one. -/
def conclude (eval : Evaluator) : Run Unit := do
  let p ← process
  match p.trap? 0 with
  | none => return ()
  | some action =>
    onProcess fun q => { q.setTrap 0 none with leaving? := some p.status }
    match ← attempt (deeper (text eval .plain action)) with
    | .error .replaced => return ()
    | .error .late => throw .late
    | .error (.killed signal) => throw (.killed signal)
    | .error .finish | .error .failed => settle false
    | _ => settle true

def wholly (eval : Evaluator) (step : Run Unit) : Run Unit := do
  match ← attempt step with
  | .error .replaced => return ()
  | .error .late => throw .late
  | .error (.killed signal) => throw (.killed signal)
  | .error .exit => settle true; conclude eval
  | _ => settle false; conclude eval

/-- Runs a step in a process of its own, and tells which signal ended it, if one did. -/
def inChild (step : Run Unit) : Run (Option Nat) := do
  let saved ← process
  work 10
  onMachine fun m => { m with latest := m.latest + 1 }
  let number := (← machine).latest
  onProcess fun p => { p with number := number, outer := p.number :: p.outer, nextLine := 1 }
  let result ← attempt step
  let status := (← process).status % 256
  onProcess fun _ => { saved with status := status }
  match result with
  | .error .late => throw .late
  | .error (.killed signal) =>
    setStatus (128 + signal)
    return some signal
  | _ => return none

/-- Says that a signal ended a process. -/
def announce (signal? : Option Nat) : Run Unit :=
  match signal?.map Signal.obituary with
  | none | some "" => return ()
  | some text => write 2 (text ++ "\n").toList

/-- Runs commands in a copy of the process. -/
def apart (eval : Evaluator) (step : Run Unit) : Run Unit := do
  announce (← inChild (wholly eval do onProcess Process.copy; step))

/-- Follows the process aside that has waited longest, if there is one. -/
def followOne (eval : Evaluator) : Run Bool := do
  match (← machine).pending with
  | [] => return false
  | job :: others =>
    let s ← get
    let m := s.machine
    set (⟨job.process, { m with
      pending := others
      time := job.start
      workLimit := m.work + (m.workLimit - m.work) / 2 }⟩ : State)
    let result ← attempt (wholly eval (eval .last job.command))
    let after ← get
    let time := after.machine.time
    let number := job.process.number
    let ignored := after.process.quietTraps.map Prod.fst
    let ending : Ending :=
      match result with
      | .error .late => ⟨number, 0, none, max time m.limit, ignored, false⟩
      | .error (.killed signal) => ⟨number, 128 + signal, some signal, time, ignored, false⟩
      | _ => ⟨number, after.process.status % 256, none, time, ignored, false⟩
    let m' := { after.machine with time := m.time, workLimit := m.workLimit }
    set (⟨s.process, m'.finish ending (job.process.table.map Prod.snd)⟩ : State)
    return true

def follow (eval : Evaluator) : Run Unit :=
  ExceptT.mk fun s => repeated (followOne eval) (s.machine.workLimit + 1) s

end Run
end BatchFormat.Shell
