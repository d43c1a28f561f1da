import BatchFormat.Shell.Machine
import BatchFormat.Shell.Token

/-!
# Running processes

A process on its machine, and the ways in which the run of a command comes to its end before time.
-/
namespace BatchFormat.Shell

structure State where
  process : Process
  machine : Machine

/-- Why the next command does not run: a loop, a function or the script comes to its end, by demand
or by a failure, a flaw ends the script, another program took the place of the process, a signal ends
the process, or time is over. -/
inductive Stop where
  | leave (loops : Nat)
  | again (loops : Nat)
  /-- The end of a function; `isNumbered` tells whether its status was given as a number. -/
  | back (isNumbered : Bool)
  | exit
  | finish
  | failed
  | replaced
  | killed (signal : Nat)
  | late
  deriving DecidableEq, Repr

abbrev Run := ExceptT Stop (StateM State)

namespace State

def setStatus (s : State) (status : Nat) : State :=
  { s with process := { s.process with status := status } }

/-- Writes to a descriptor, if it is open. -/
def write (s : State) (descriptor : Nat) (cs : Octets) : State :=
  match s.process.table.lookup descriptor with
  | some number =>
    if cs = [] then s else { s with machine := s.machine.write number s.process.party cs }
  | none => s

def input (s : State) : Octets :=
  match s.process.table.lookup 0 with
  | some number => s.machine.content number
  | none => []

/-- Leaves `rest` of the input. -/
def leaveInput (s : State) (rest : Octets) : State :=
  match s.process.table.lookup 0 with
  | some number => { s with machine := s.machine.leave number rest }
  | none => s

/-- Makes a descriptor lead to a new open file. -/
def attach (s : State) (descriptor : Nat) (c : Channel) : State :=
  let (number, m) := s.machine.add c
  ⟨s.process.bind descriptor number, m⟩

def opening (s : State) : Octets :=
  let speaker := (s.process.speaker?.map (· ++ ": ".toList)).getD []
  s.process.title ++ Octets.ofString s!": {s.process.line}: " ++ speaker

def complain (s : State) (text : Octets) : State :=
  s.write 2 (s.opening ++ text ++ ['\n'])

end State

namespace Run

def process : Run Process := return (← get).process

def machine : Run Machine := return (← get).machine

def onProcess (f : Process → Process) : Run Unit :=
  modify fun s => { s with process := f s.process }

def onMachine (f : Machine → Machine) : Run Unit :=
  modify fun s => { s with machine := f s.machine }

def work (amount : Nat) : Run Unit := onMachine fun m => { m with work := m.work + amount }

def setStatus (status : Nat) : Run Unit := modify fun s => s.setStatus status

def write (descriptor : Nat) (cs : Octets) : Run Unit := modify fun s => s.write descriptor cs

def print (cs : Octets) : Run Unit := write 1 cs

def complain (text : Octets) : Run Unit := modify fun s => s.complain text

def fail {α : Type} (text : Octets) : Run α := do
  complain text
  setStatus 2
  throw .failed

def failWith {α : Type} (text : String) : Run α := fail (Octets.ofString text)

/-- Does a step and tells how it ended. -/
def attempt {α : Type} (step : Run α) : Run (Except Stop α) :=
  ExceptT.mk do return .ok (← step.run)

def resume {α : Type} : Except Stop α → Run α
  | .ok a => return a
  | .error stop => throw stop

/-- Does something whatever becomes of a step. -/
def ensuring {α : Type} (step : Run α) (after : Run Unit) : Run α := do
  let result ← attempt step
  after
  resume result

def repeated (step : Run Bool) : Nat → State → Except Stop Unit × State
  | 0, s => (.error .late, s)
  | n + 1, s =>
    match (step.run).run s with
    | (.ok true, s) => repeated step n s
    | (.ok false, s) => (.ok (), s)
    | (.error stop, s) => (.error stop, s)

/-- Does a step for the members of a list in turn, as long as it asks for more. -/
def forWhile {α : Type} (step : α → Run Bool) : List α → State → Except Stop Unit × State
  | [], s => (.ok (), s)
  | a :: as, s =>
    match ((step a).run).run s with
    | (.ok true, s) => forWhile step as s
    | (.ok false, s) => (.ok (), s)
    | (.error stop, s) => (.error stop, s)

/-- Gives a variable a value, unless its name is none or it is fixed. The name ends where an equals
sign stands in it. Where the search for options goes on must be a number. -/
def assign (written : Octets) (value? : Option Octets) : Run Unit := do
  let name := written.takeWhile (· != '=')
  let isNoNumber := name = Process.optionVariable ∧ value?.any fun value => (numberOf? value).isNone
  if !Word.isName name then fail (name ++ ": bad variable name".toList)
  else if (← process).isFixed name then fail (name ++ ": is read only".toList)
  else if isNoNumber then fail ("Illegal number: ".toList ++ value?.getD [])
  else
    work ((value?.map List.length).getD 0 / 64)
    onProcess fun p => p.setValue name value?

end Run
end BatchFormat.Shell
