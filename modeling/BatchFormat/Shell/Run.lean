import BatchFormat.Shell.Heading
import BatchFormat.Shell.Own

/-!
# Running commands

What the commands of scripts do to a process and its machine. Each kind of command is described by
what it asks of an evaluator of the commands within it; the evaluator itself goes no deeper than its
fuel lasts.
-/
namespace BatchFormat.Shell.Run

def callLimit : Nat := 1000

/-- Runs the body of a function with arguments of its own. -/
def call (eval : Evaluator) (mode : Mode) (body : Command) (arguments : List Octets) :
    Run Unit := do
  let p ← process
  if p.calls ≥ callLimit then
    failWith s!"Maximum function recursion depth ({callLimit}) reached"
  else
    onProcess fun q =>
      { q with
        arguments := arguments
        optionWord := 1
        passedLetters? := none
        loops := 0
        calls := p.calls + 1 }
    let result ← attempt (eval ⟨mode.isTested, false⟩ body)
    onProcess fun q =>
      { q with
        arguments := p.arguments
        optionWord := p.optionWord
        passedLetters? := p.passedLetters?
        loops := p.loops
        calls := p.calls }
    match result with
    | .error (.back _) => return ()
    | result => resume result

/-- Runs what the fields of a command name: a function, something the shell does itself, or a
program. Without any fields, the status is that of the latest substitution. -/
def invoke (eval : Evaluator) (mode : Mode) (h : Heading) : Run Unit := do
  match h.fields with
  | [] => onProcess fun p => { p with status := p.substituted }
  | word :: rest =>
    let p ← process
    match if h.takesFunctions then p.functions.lookup word else none with
    | some body => call eval mode body rest
    | none =>
      if Builtin.isOne word then builtin eval mode h.isSpecial word rest
      else program eval mode h.isStandard (word :: rest)

def traceMark (eval : Evaluator) : Run Octets := do
  let mark := (← process).valueOf "PS4"
  match (Reader.document (Reader.depth mark)).run (Source.ofText mark 1 []) with
  | .error _ => return mark
  | .ok (word, _) =>
    onProcess fun p => p.turn 'x' false
    ensuring (textOf eval .text word) (onProcess fun p => p.turn 'x' true)

/-- Shows a command to an open file before it is run. -/
def trace (eval : Evaluator) (number? : Option Nat) (texts : List Octets) : Run Unit := do
  if (← process).has 'x' then
    let line := (← traceMark eval) ++ [' '].intercalate texts ++ ['\n']
    let party := (← process).party
    match number? with
    | some number => onMachine fun m => m.write number party line
    | none => return ()

/-- Gives values to names in front of a command; the result shows what was done. -/
def assignAll (eval : Evaluator) (isLocal isPassedOn : Bool) (assignments : List (Octets × Word)) :
    Run (List Octets) :=
  assignments.mapM fun (name, word) => do
    let value ← textOf eval .value word
    if isLocal then Builtin.localize true name (some value)
    else
      assign name (some value)
      if isPassedOn then
        onProcess fun p =>
          p.putVariable name ((p.binding? name).map fun v => { v with isPassedOn := true })
    return name ++ '=' :: value

/-- Runs a simple command. Its redirections and assignments hold for it alone, but an `exec` keeps
the redirections, and a special command or none at all the assignments. -/
def simple (eval : Evaluator) (mode : Mode) (line : Nat) (assignments : List (Octets × Word))
    (words : List Word) (redirections : List Redirection) : Run Unit := do
  onProcess fun p => { p with line := line, substituted := 0 }
  work 1
  checkTime
  let h ← headingOf eval words
  let p ← process
  let isExec := h.builtin? p == some "exec".toList
  let isLocal := !h.written.isEmpty && !h.isSpecial
  if isLocal then onProcess fun p => { p with scopes := [] :: p.scopes }
  let undo (keepsTable : Bool) : Run Unit := do
    if !keepsTable then onProcess fun q => { q with table := p.table }
    if isLocal then onProcess Process.closeScope
  let body : Run Unit := do
    let connections ← redirections.mapM (connection eval)
    if ← connectAll eval connections then
      let shown ← assignAll eval isLocal (isExec && h.fields.length > 1) assignments
      trace eval (p.table.lookup 2) (shown ++ h.written)
      invoke eval mode h
    else if h.isSpecial then throw .failed
    else setStatus 2
  let result ← attempt body
  let inside ← process
  let nameless? := if isLocal && result.toOption.isSome then inside.nameless? else none
  undo (isExec && result.toOption.isSome)
  match nameless? with
  | some name => fail (name ++ ": bad variable name".toList)
  | none => resume result

/-- Runs a command with redirections that hold for it alone; tells whether they could be made. -/
def redirected (eval : Evaluator) (mode : Mode) (line : Nat) (c : Command)
    (redirections : List Redirection) : Run Bool := do
  onProcess fun p => { p with line := line }
  let connections ← redirections.mapM (connection eval)
  let table := (← process).table
  let restore : Run Unit := onProcess fun p => { p with table := table }
  ensuring (do
    if ← connectAll eval connections then
      eval ⟨mode.isTested, false⟩ c
      return true
    else
      setStatus 2
      return false) restore

/-- The end of a stage of a pipe, and that of the whole pipe. -/
structure Flowing where
  own : Nat
  total : Nat

/-- When a stage of a pipe ends that would end at `own`, if the next one ends at `next` and leaves
`left` of what was written: the first thing it writes after that ends it. -/
def cutOffAt (own next : Nat) (isEndless : Bool) (left : List (Nat × Octets)) : Nat :=
  if left.all fun p => p.2 = [] then own
  else
    match left.find? fun p => p.1 > next with
    | some piece => min own piece.1
    | none => if isEndless then next else own

def leftIn (m : Machine) (number : Nat) : List (Nat × Octets) :=
  match m.channels[number]? with
  | some (.source pieces _ _) => pieces
  | _ => []

/-- How deep processes may lie within one another before work that never ends counts. -/
def freeDepth : Nat := 3

/-- Looks up the program that a stage of a pipe runs, if the stage begins with a plain name. -/
def lookAhead (c : Command) : Run Unit := do
  match c with
  | .simple _ _ ([.plain name false] :: _) _ =>
    let s ← get
    match s.process.meaning s.machine.tree false true name with
    | .program path => if Word.isName name then Builtin.track name path
    | _ => return ()
  | _ => return ()

/-- Runs a stage of a pipe in a process of its own; `input?` and `output?` are its ends of the
pipe. Tells which signal ended it, and whether it would go on for ever. -/
def stage (eval : Evaluator) (mode : Mode) (input? output? : Option Nat) (c : Command) :
    Run (Option Nat × Bool) := do
  lookAhead c
  let m ← machine
  let share := (m.workLimit - m.work) / 2
  if output?.isSome then onMachine fun m => { m with workLimit := m.work + share }
  let result ← attempt <| inChild <| wholly eval do
    onProcess fun p =>
      let p := p.copy
      let p := (input?.map fun number => p.bind 0 number).getD p
      (output?.map fun number => p.bind 1 number).getD p
    eval ⟨mode.isTested, true⟩ c
  let isEndless := (← machine).workLimit ≤ (← machine).work
  let isFree := isEndless && output?.isSome && (← process).outer.length < freeDepth
  onMachine fun after =>
    { after with
      workLimit := m.workLimit
      work := if isFree then m.work else after.work }
  match result with
  | .ok signal? => return (signal?, false)
  | .error .late =>
    onMachine fun m => m.waitUntil m.limit
    return (none, isEndless)
  | .error stop => throw stop

def stagesFrom (eval : Evaluator) (mode : Mode) (start : Nat) :
    (input? : Option Nat) → List Command → Run Flowing
  | _, [] => return ⟨start, start⟩
  | input?, [last] => do
    onMachine fun m => { m with time := start }
    let (signal?, _) ← stage eval mode input? none last
    announce signal?
    let time := (← machine).time
    return ⟨time, time⟩
  | input?, c :: others => do
    let (output, m) := (← machine).add (.sink [])
    onMachine fun _ => { m with time := start }
    let status := (← process).status
    let (signal?, isEndless) ← stage eval mode input? (some output) c
    announce signal?
    follow eval
    setStatus status
    let m ← machine
    let ends := max m.time (m.keptUntil output)
    let own := m.time
    let (number, m) := m.add (.source (m.pieces output) ends isEndless)
    onMachine fun _ => m
    let next ← stagesFrom eval mode start (some number) others
    let own := cutOffAt own next.own isEndless (leftIn (← machine) number)
    return ⟨own, max own next.total⟩

def pipe (eval : Evaluator) (mode : Mode) (stages : List Command) : Run Unit := do
  let start := (← machine).time
  let flowing ← stagesFrom eval mode start none stages
  onMachine fun m => { m with time := flowing.total }
  checkTime

/-- Starts a process aside. Its input is empty. -/
def startAside (line : Nat) (c : Command) : Run Unit := do
  work 30
  let (void, m) := (← machine).add .void
  let number := m.latest + 1
  onProcess fun p => { p with line := line }
  let p ← process
  let aside : Process :=
    { p.copy.bind 0 void with
      number := number
      party := number
      outer := p.number :: p.outer
      nextLine := 1 }
  onMachine fun _ =>
    { m with latest := number, pending := m.pending ++ [⟨aside, c, m.time⟩] }
  let isNeeded (other : Nat) : Bool := (m.ending? other).all fun e => !e.isWaitedFor
  onProcess fun p => { p.addJob isNeeded number with status := 0 }

/-- Runs commands in a copy of the process, or in the process itself if it ends with them. -/
def subshell (eval : Evaluator) (mode : Mode) (line : Nat) (body : List Command)
    (redirections : List Redirection) : Run Unit := do
  onProcess fun p => { p with line := line }
  let connections ← redirections.mapM (connection eval)
  let run : Run Unit := do
    connections.forM (connect eval false)
    list eval ⟨mode.isTested, true⟩ body
  if mode.isLast && !(← process).hasTraps then
    run
    throw .finish
  else apart eval run

inductive Turn where
  | done
  | skipped
  | left
  deriving DecidableEq

def turn (step : Run Unit) : Run Turn := do
  match ← attempt step with
  | .ok () => return .done
  | .error (.again n) => if n ≤ 1 then return .skipped else throw (.again (n - 1))
  | .error (.leave n) => if n ≤ 1 then return .left else throw (.leave (n - 1))
  | .error stop => throw stop

def asLoop (step : Run Unit) : Run Unit := do
  let loops := (← process).loops
  onProcess fun p => { p with loops := loops + 1 }
  ensuring step (onProcess fun p => { p with loops := loops })

/-- Goes once round a loop; `status` is that of the latest body. The result tells whether the loop
goes on. -/
def loopStep (eval : Evaluator) (mode : Mode) (untilTrue : Bool) (condition body : List Command)
    (status : Nat) : Run (Nat × Bool) := do
  match ← turn (list eval .tested condition) with
  | .left => return (status, false)
  | .skipped => return (status, true)
  | .done =>
    if ((← process).status = 0) = untilTrue then return (status, false)
    else
      let result ← turn (list eval ⟨mode.isTested, false⟩ body)
      return ((← process).status, result != .left)

/-- Goes round a loop as long as its condition asks for it. -/
def loopFrom (step : Nat → Run (Nat × Bool)) : Nat → Nat → State → Except Stop Unit × State
  | 0, _, s => (.error .late, s)
  | n + 1, status, s =>
    match ((step status).run).run s with
    | (.ok (status, true), s) => loopFrom step n status s
    | (.ok (status, false), s) => (.ok (), s.setStatus status)
    | (.error stop, s) => (.error stop, s)

def loopLimit : Nat := tenTo 9

/-- Goes through the values of a loop over words. -/
def each (eval : Evaluator) (mode : Mode) (line : Nat) (name : Octets) (words : List Word)
    (body : List Command) : Run Unit := do
  onProcess fun p => { p with line := line }
  let fields := (← words.mapM (fieldsOf eval)).flatten
  if fields.isEmpty then setStatus 0
  let step (value : Octets) : Run Bool := do
    assign name (some value)
    let result ← turn (list eval ⟨mode.isTested, false⟩ body)
    return result != .left
  asLoop (ExceptT.mk fun s => forWhile step fields s)

def fitsAny (eval : Evaluator) (text : Octets) : List Word → Run Bool
  | [] => return false
  | word :: words => do
    if Pattern.fits (← patternOf eval word) text then return true else fitsAny eval text words

/-- Runs the first arm with a pattern that fits. -/
def select (eval : Evaluator) (mode : Mode) (text : Octets) :
    List (List Word × List Command) → Run Unit
  | [] => setStatus 0
  | (patterns, body) :: arms => do
    if ← fitsAny eval text patterns then
      if body.isEmpty then setStatus 0 else list eval mode body
    else select eval mode text arms

/-- Makes the process end if a command failed whose failure is not looked at. -/
def demandSuccess (mode : Mode) : Run Unit := do
  let p ← process
  if p.has 'e' && !mode.isTested && p.status != 0 then throw .finish

/-- Runs a command by what it consists of. -/
def within (eval : Evaluator) (mode : Mode) : Command → Run Unit
  | .simple line assignments words redirections => do
    simple eval mode line assignments words redirections
    heed eval
    demandSuccess mode
  | .redirected line c redirections => do
    if !(← redirected eval mode line c redirections) then demandSuccess mode
  | .pipe stages => do
    pipe eval mode stages
    heed eval
    demandSuccess mode
  | .negated c => do
    eval .tested c
    onProcess fun p => { p with status := if p.status = 0 then 1 else 0 }
  | .both first second => do
    eval .tested first
    if (← process).status = 0 then eval mode second
  | .either first second => do
    eval .tested first
    if (← process).status ≠ 0 then eval mode second
  | .group body => list eval mode body
  | .apart line body redirections => do
    subshell eval mode line body redirections
    heed eval
    demandSuccess mode
  | .aside line c => startAside line c
  | .choice condition body other => do
    list eval .tested condition
    let branch := if (← process).status = 0 then body else other
    if branch.isEmpty then setStatus 0 else list eval mode branch
  | .loop untilTrue condition body =>
    let step := loopStep eval mode untilTrue condition body
    asLoop (ExceptT.mk fun s => loopFrom step loopLimit 0 s)
  | .each line name words body => each eval mode line name words body
  | .select line word arms => do
    onProcess fun p => { p with line := line }
    let text ← textOf eval .text word
    select eval mode text arms
  | .define name body => do
    onProcess fun p =>
      let others := p.functions.filter fun f => f.1 != name
      { p with functions := (name, body) :: others, programs := p.programs.filter (·.1 != name) }
    setStatus 0

/-- Runs a command, unless commands are only read. -/
def evaluate : Nat → Evaluator
  | 0, _, _ => throw .late
  | n + 1, mode, c => do
    if (← process).has 'n' then return ()
    else
      heed (evaluate n)
      within (evaluate n) mode c

/-- How deep commands may lie within commands. -/
def fuel : Nat := tenTo 6

/-- Runs commands as deep as they lie. -/
def evaluator : Evaluator := evaluate fuel

end BatchFormat.Shell.Run
