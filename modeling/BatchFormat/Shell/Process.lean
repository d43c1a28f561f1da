import BatchFormat.Number.Power
import BatchFormat.Shell.Script
import BatchFormat.Shell.Signal
import BatchFormat.Tree.Basic

/-!
# Processes

What a process that runs a script keeps in mind.
-/
namespace BatchFormat.Shell

def largestNumber : Nat := twoTo 31 - 1

/-- The number that a word stands for, with blanks around it, if it is one. -/
def numberOf? (word : Octets) : Option Nat :=
  let bare := ((word.dropWhile Octets.isSpace).reverse.dropWhile Octets.isSpace).reverse
  let (negative, digits) :=
    match bare with
    | '+' :: digits => (false, digits)
    | '-' :: digits => (true, digits)
    | digits => (false, digits)
  if digits ≠ [] ∧ digits.all Char.isDigit then
    ((String.ofList digits).toNat?).filter fun n => n ≤ largestNumber && (!negative || n == 0)
  else none

/-- A variable. One without a value may be passed on to programs all the same once it has one, and
one that is fixed cannot be changed. -/
structure Variable where
  value? : Option Octets
  isPassedOn : Bool
  isFixed : Bool

/-- What is run when signals arrive, by their numbers; zero stands for the end of the script. No
command at all means that the signal is ignored. -/
abbrev Traps := List (Nat × Octets)

/-- Something that was put aside when it became local: a variable, or all options. -/
inductive Former where
  | named (name : Octets) (v? : Option Variable)
  | options (letters : List Char)

structure Process where
  /-- The name of the script, and of what complains in it. -/
  title : Octets
  speaker? : Option Octets
  arguments : List Octets
  bindings : List (Octets × Variable)
  functions : List (Octets × Command)
  aliases : List (Octets × Octets)
  /-- The programs that were found, with their paths. -/
  programs : List (Octets × Octets)
  here : Location
  /-- The current directory as it was gone to. -/
  path : Octets
  /-- The open files by descriptor. -/
  table : List (Nat × Nat)
  status : Nat
  /-- The status of the latest substitution in the current command. -/
  substituted : Nat
  number : Nat
  /-- The number of the process that the script began in. -/
  root : Nat
  /-- The processes that wait for this one. -/
  outer : List Nat
  /-- The process aside that this one is a part of; zero for none. -/
  party : Nat
  line : Nat
  /-- The line on which reading goes on behind the commands that were read last. -/
  nextLine : Nat
  options : List Char
  traps : Traps
  /-- The status with which a script ends that ends while a trap is run. -/
  leaving? : Option Nat
  /-- The permissions that new files do not get. -/
  mask : Nat
  /-- How many loops are open, and how many functions and texts within texts. -/
  loops : Nat
  calls : Nat
  depth : Nat
  /-- The processes that were started aside, by the places they have in the list of them. -/
  jobs : List (Nat × Nat)
  latestJob? : Option Nat
  /-- What became local, for each open scope. -/
  scopes : List (List Former)
  /-- The word in which the next option is looked for, and how many letters of the word in front of
  it have been passed. -/
  optionWord : Nat
  passedLetters? : Option Nat
  /-- The limits on what programs may use, as far as they were changed. -/
  limits : List (Char × Octets)

namespace Process

def has (p : Process) (option : Char) : Bool := p.options.contains option

def turn (p : Process) (option : Char) (on : Bool) : Process :=
  let others := p.options.filter (· != option)
  { p with options := if on then option :: others else others }

def binding? (p : Process) (name : Octets) : Option Variable := p.bindings.lookup name

def valueOf? (p : Process) (name : Octets) : Option Octets := (p.binding? name).bind Variable.value?

/-- The value of a variable, which may be missing. -/
def valueOf (p : Process) (name : String) : Octets := (p.valueOf? name.toList).getD []

def optionVariable : Octets := "OPTIND".toList

def searchVariable : Octets := "PATH".toList

/-- Puts a variable in the place of one of the same name, behind all others, or takes the one of
that name away. -/
def putVariable (p : Process) (name : Octets) (v? : Option Variable) : Process :=
  { p with
    bindings :=
      match v? with
      | some v =>
        if (p.binding? name).isSome then
          p.bindings.map fun old => if old.1 == name then (name, v) else old
        else p.bindings ++ [(name, v)]
      | none => p.bindings.filter fun v => v.1 != name
    programs := if name = searchVariable then [] else p.programs }

/-- Gives a variable a value, or takes the value away, whether it is fixed or not. A variable that
is passed on or local stays known without a value. -/
def setValue (p : Process) (name : Octets) (value? : Option Octets) : Process :=
  let old := (p.binding? name).getD ⟨none, false, false⟩
  let isLocal := p.scopes.any fun scope => scope.any fun e =>
    match e with
    | .named other _ => other == name
    | .options _ => false
  match value? with
  | none =>
    p.putVariable name (if isLocal then some { old with value? := none } else none)
  | some value =>
    let p := p.putVariable name (some { old with
      value? := some value
      isPassedOn := old.isPassedOn || p.has 'a' })
    if name = optionVariable then
      { p with optionWord := max 1 ((numberOf? value).getD 1), passedLetters? := none }
    else p

def environment (p : Process) : List (Octets × Octets) :=
  p.bindings.filterMap fun (name, v) =>
    if v.isPassedOn then v.value?.map (name, ·) else none

def tableSize : Nat := 39

def tablePlace (name : Octets) : Nat :=
  (total (name.map Char.toNat) + 16 * (name.head?.map Char.toNat).getD 0) % tableSize

/-- A process that leaves its variables to a program: those that are passed on, in the order of a
table of names. -/
def handingOn (p : Process) : Process :=
  let passed := p.bindings.filter fun v => v.2.isPassedOn && v.2.value?.isSome
  { p with bindings := passed.mergeSort fun a b => tablePlace a.1 ≤ tablePlace b.1 }

def isFixed (p : Process) (name : Octets) : Bool := (p.binding? name).any Variable.isFixed

/-- Makes a descriptor lead to an open file. -/
def bind (p : Process) (descriptor number : Nat) : Process :=
  let others := p.table.filter fun e => e.1 != descriptor
  { p with table := (descriptor, number) :: others }

def close (p : Process) (descriptor : Nat) : Process :=
  { p with table := p.table.filter fun e => e.1 != descriptor }

/-- The command that a signal runs, if there is one. -/
def trap? (p : Process) (signal : Nat) : Option Octets := p.traps.lookup signal

/-- Whether any signal, or the end of the script, runs a command. -/
def hasTraps (p : Process) : Bool := p.traps.any fun t => t.2 != []

def setTrap (p : Process) (signal : Nat) (action? : Option Octets) : Process :=
  let others := p.traps.filter fun t => t.1 != signal
  { p with traps :=
    match action? with
    | some action => (signal, action) :: others
    | none => others }

/-- The traps that a copy of a process gets: what is ignored stays ignored. -/
def quietTraps (p : Process) : Traps := p.traps.filter fun t => t.2 = []

/-- A copy of a process, as it goes on by itself. -/
def copy (p : Process) : Process := { p with traps := p.quietTraps, jobs := [] }

def remember (p : Process) (former : Former) : Process :=
  match p.scopes with
  | [] => p
  | scope :: scopes => { p with scopes := (former :: scope) :: scopes }

def giveBack (p : Process) : Former → Process
  | .named name v? =>
    let p :=
      match v?.bind Variable.value? with
      | some value => if name = optionVariable then p.setValue name (some value) else p
      | none => p
    p.putVariable name v?
  | .options letters => { p with options := letters }

/-- A name in the innermost scope that cannot be taken away again, as it is none. -/
def nameless? (p : Process) : Option Octets :=
  (p.scopes.head?.getD []).findSome? fun former =>
    match former with
    | .named name none => if Word.isName name then none else some name
    | _ => none

def closeScope (p : Process) : Process :=
  match p.scopes with
  | [] => p
  | scope :: scopes =>
    let p := scope.foldl giveBack p
    { p with scopes := scopes }

/-- Puts a process aside in the list of them, at the lowest place that is free or has a process that
is no longer needed. -/
def addJob (p : Process) (isNeeded : Nat → Bool) (number : Nat) : Process :=
  let taken := ((p.jobs.filter fun j => isNeeded j.2).map Prod.fst).mergeSort fun a b => a ≤ b
  let place := taken.foldl (fun free place => if place = free then free + 1 else free) 1
  { p with
    jobs := (place, number) :: p.jobs.filter fun j => j.1 != place
    latestJob? := some number }

end Process
end BatchFormat.Shell
