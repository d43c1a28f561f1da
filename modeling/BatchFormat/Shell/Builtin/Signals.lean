import BatchFormat.Shell.Builtin.Basic

/-!
# Signals and processes aside

Commands that say what signals do, send signals, and look after the processes that run aside; and
the one for the limits on what programs may use.
-/
namespace BatchFormat.Shell.Builtin

open Run

/-- Sets what is run when signals arrive, or shows it. -/
def trap : Builtin := fun words => do
  match ← operands words with
  | [] =>
    let p ← process
    let traps := p.traps.mergeSort fun a b => a.1 ≤ b.1
    print (traps.flatMap fun t =>
      "trap -- ".toList ++ quoted t.2 ++ ' ' :: (Signal.name t.1).toList ++ ['\n'])
    return 0
  | first :: rest =>
    let isReset := rest.isEmpty || (Signal.ofNumber? first).isSome
    let action? := if isReset ∨ first = ['-'] then none else some first
    let rec set : List Octets → Run Nat
      | [] => return 0
      | condition :: conditions => do
        match Signal.of? 0 condition with
        | some signal =>
          onProcess fun p => p.setTrap signal action?
          set conditions
        | none =>
          write 2 ("trap: ".toList ++ condition ++ ": bad trap\n".toList)
          return 1
    set (if isReset then first :: rest else rest)

/-- Sends a signal to a process; tells whether there is one. -/
def send (signal target : Nat) : Run Bool := do
  let s ← get
  let p := s.process
  let isOwn := target = p.number ∨ target = 0 ∨ p.outer.contains target
  if isOwn then
    if signal ≠ 0 then
      let receiver := if target = 0 then p.number else target
      onMachine fun m => { m with signals := m.signals ++ [(receiver, signal)] }
    return true
  else
    match s.machine.pending.find? fun job => job.process.number = target with
    | some job =>
      let isIgnored := job.process.trap? signal == some [] || Signal.isHarmless signal
        || Signal.ofKeyboard.contains signal
      if !isIgnored ∨ Signal.isSovereign signal then
        onMachine fun m => m.cutShort target signal
      return true
    | none =>
      match s.machine.ending? target with
      | some ending =>
        let isIgnored := Signal.isHarmless signal || ending.ignored.contains signal
        let isHeeded := !isIgnored || Signal.isSovereign signal
        if signal ≠ 0 && isHeeded && ending.time > s.machine.time then
          onMachine fun m => m.cutShort target signal
        return p.jobs.any (fun j => j.2 = target) && !s.machine.isGone ending
      | none => return false

def jobNamed (word : Octets) : Run Nat := do
  let jobs := (← process).jobs
  let absent : Run Nat := fail ("No such job: ".toList ++ word)
  match word.drop 1 with
  | [] | ['+'] | ['%'] =>
    match jobs with
    | job :: _ => return job.2
    | [] => failWith "No current job"
  | ['-'] =>
    match jobs with
    | _ :: job :: _ => return job.2
    | _ => failWith "No previous job"
  | rest =>
    match (String.ofList rest).toNat?.bind fun place => jobs.find? fun j => j.1 = place with
    | some job => return job.2
    | none => absent

/-- Goes on with jobs, which none of them can. -/
def goOn : Builtin := fun words => do
  let named ← operands words
  let names := if named = [] then ["(null)".toList] else named
  names.forM fun name => do
    let job : Octets := if named = [] then ['%'] else name
    let isJob := job.head? = some '%'
    if !isJob then fail ("No such job: ".toList ++ name)
    let _ ← jobNamed job
    fail ("job ".toList ++ name ++ " not created under job control".toList)
  return 0

/-- The name of a signal that a number stands for, or the status of a process it ended. -/
def listSignals (operands : List Octets) : Run Nat := do
  match operands with
  | [] =>
    print "0\n".toList
    (List.range Signal.lastFree).forM fun n => print (Signal.name (n + 1) ++ "\n").toList
    return 0
  | word :: _ =>
    let n ← number word
    let signal := if n > 128 then n - 128 else n
    if 0 < signal ∧ signal ≤ Signal.lastFree then
      print (Signal.name signal ++ "\n").toList
      return 0
    else fail ("invalid signal number or exit status: ".toList ++ word)

/-- Sends a signal to processes. A job would be a group of processes, but there is none
but the one of the process itself. -/
def sendAll (signal : Nat) (targets : List Octets) : Run Nat := do
  let statuses ← targets.mapM fun word => do
    let isThere ←
      match word with
      | '%' :: _ =>
        let _ ← jobNamed word
        pure false
      | '-' :: digits =>
        if (← number digits) = 0 then send signal 0 else pure false
      | _ => send signal (← number word)
    if isThere then return 0
    else
      complain "No such process\n".toList
      return 1
  return statuses.foldl max 0

def kill : Builtin := fun words => do
  let usage : Run Nat :=
    failWith <| "Usage: kill [-s sigspec | -signum | -sigspec] [pid | job]... or\n"
      ++ "kill -l [exitstatus]"
  let direct? : Option Nat :=
    match words with
    | ('-' :: name) :: _ => Signal.of? 1 name
    | _ => none
  match direct? with
  | some signal =>
    match words.drop 1 with
    | [] => usage
    | targets => sendAll signal targets
  | none =>
    let (found, targets) ← options "l" "s" words
    let signal? ← (found.filter fun o => o.1 = 's').foldlM (fun _ (o : Char × Octets) => do
      match Signal.of? 1 o.2 with
      | some signal => return some signal
      | none => fail ("invalid signal number or name: ".toList ++ o.2)) (none : Option Nat)
    if found.has 'l' then if signal?.isSome then usage else listSignals targets
    else
      match targets with
      | [] => usage
      | targets => sendAll (signal?.getD Signal.terminate) targets

/-- What is told of a process aside. -/
def jobState (m : Machine) (number : Nat) : String :=
  match (m.ending? number).filter fun e => e.time ≤ m.time with
  | none => "Running"
  | some ending =>
    match ending.signal? with
    | some signal => Signal.description signal
    | none => if ending.status = 0 then "Done" else s!"Done({ending.status})"

/-- Tells of the processes aside; those that have ended are told of once. -/
def jobs : Builtin := fun words => do
  let (_, operands) ← options "lp" "" words
  let m ← machine
  let chosen ←
    match operands with
    | [] => pure ((← process).jobs.map Prod.snd)
    | words => words.mapM fun word =>
      match word with
      | '%' :: _ => jobNamed word
      | _ => fail ("No such job: ".toList ++ word)
  chosen.forM fun number => do
    match (← process).jobs.zipIdx.find? fun j => j.1.2 = number with
    | none => return ()
    | some ((place, _), index) =>
      let flag := if index = 0 then "+" else if index = 1 then "-" else " "
      let state := jobState m number
      let text := s!"[{place}] {flag} {state}"
      print (text ++ String.ofList (List.replicate (33 - text.length) ' ') ++ "\n").toList
      if state != "Running" then
        onProcess fun p => { p with jobs := p.jobs.filter fun j => j.2 != number }
  return 0

/-- Waits for processes aside, and ends with the status of the last one that is waited for. A signal
that is caught ends the wait. -/
def wait (eval : Evaluator) : Builtin := fun words => do
  let operands ← operands words
  let numbers ← operands.mapM fun word => do
    match word with
    | '%' :: _ => return some (← jobNamed word)
    | _ =>
      let n ← number word
      return if (← process).jobs.any fun j => j.2 = n then some n else none
  Run.follow eval
  let waitFor (isTold : Bool) (number : Nat) : Run Nat := do
    match (← machine).ending? number with
    | none => return 127
    | some ending =>
      let isNew := !(← machine).isGone ending
      onMachine fun m => m.waitFor ending
      if isTold && isNew then announce ending.signal?
      return ending.status
  let p ← process
  let caught := (← machine).signals.find? fun e => e.1 = p.number && (p.trap? e.2).any (· ≠ [])
  match caught, numbers with
  | some (_, signal), _ => return 128 + signal
  | none, [] =>
    p.jobs.forM fun job => do let _ ← waitFor false job.2
    return 0
  | none, numbers =>
    let statuses ← numbers.mapM fun number? => do
      match number? with
      | none => return 127
      | some number => waitFor true number
    return statuses.getLastD 0

/-- The times that processes took, none of which are counted. -/
def times : Builtin := fun _ => do
  let line := "0m0.000000s 0m0.000000s\n"
  print (line ++ line).toList
  return 0

/-- The limits on what programs may use, by their letters: their names and how high they are. -/
def standardLimits : List (Char × String × String) :=
  [('t', "time(seconds)", "unlimited"), ('f', "file(blocks)", "unlimited"),
    ('d', "data(kbytes)", "unlimited"), ('s', "stack(kbytes)", "8192"),
    ('c', "coredump(blocks)", "0"), ('m', "memory(kbytes)", "unlimited"),
    ('l', "locked memory(kbytes)", "8192"), ('p', "process", "unlimited"),
    ('n', "nofiles", "1048576"), ('v', "vmemory(kbytes)", "unlimited"),
    ('w', "locks", "unlimited"), ('r', "rtprio", "0")]

/-- Shows limits, or lowers one. -/
def limit : Builtin := fun words => do
  let (found, operands) ← options "HSatfdscmlpnvwr" "" words
  let letters := found.map Prod.fst
  let letter := ((letters.filter fun c => !"HSa".toList.contains c).getLast?).getD 'f'
  let isAll := letters.contains 'a'
  let p ← process
  let valueOf (c : Char) : Octets :=
    (p.limits.lookup c).getD
      (((standardLimits.lookup c).map fun l => l.2.toList).getD "unlimited".toList)
  let unlimited := "unlimited".toList
  match operands with
  | [] =>
    if isAll then
      standardLimits.forM fun (c, name, _) => do
        let space := List.replicate (max 1 (21 - name.length)) ' '
        print (name.toList ++ space ++ valueOf c ++ ['\n'])
    else print (valueOf letter ++ ['\n'])
  | word :: others =>
    if isAll ∨ others ≠ [] then failWith "too many arguments"
    else if word ≠ unlimited ∧ !word.all Char.isDigit then failWith "bad number"
    else
      let value := if word = [] then ['0'] else word
      let old := valueOf letter
      let size (cs : Octets) : Nat := ((String.ofList cs).toNat?).getD (twoTo 64)
      if size value > size old then failWith "error setting limit (Operation not permitted)"
      else
        let others := p.limits.filter fun l => l.1 != letter
        let digits := (toString (size value)).toList
        let value := if word = unlimited then unlimited else digits
        onProcess fun p => { p with limits := (letter, value) :: others }
  return 0

end BatchFormat.Shell.Builtin
