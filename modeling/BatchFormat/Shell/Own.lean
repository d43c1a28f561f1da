import BatchFormat.Shell.Builtin.Place
import BatchFormat.Shell.Builtin.Setting
import BatchFormat.Shell.Builtin.Signals
import BatchFormat.Shell.Program

/-!
# What the shell does itself

The commands of the shell by name, those that run other commands among them.
-/
namespace BatchFormat.Shell.Run

/-- Whether a file cannot be a script: its first line has a character that no text has, or it is a
program for some other machine. -/
def isBinary (content : Octets) : Bool :=
  Known.magic.isPrefixOf content || (content.takeWhile (· != '\n')).contains '\x00'

/-- Runs one of several programs that may be meant by the same words, as this process: the first one
that can be run. The result is why none can. -/
def launchFirst (eval : Evaluator) (words : List Octets) (cause : Cause) :
    List Octets → Run (Except Cause Unit)
  | [] => return .error cause
  | path :: paths => do
    let steps := total (words.map List.length) + 8
    match ← execute eval steps interpreterLimit path words with
    | .ok () => return .ok ()
    | .error .badFormat =>
      let s ← get
      if isBinary ((Files.read s.machine.tree s.process.here path).toOption.getD []) then
        return .error .badFormat
      else
        shell eval (innerShell :: path :: words.drop 1)
        return .ok ()
    | .error other =>
      let isAbsence := other = .noEntry ∨ other = .notDirectory
      launchFirst eval words (if isAbsence then cause else other) paths

/-- Runs the program that words name as this process, or tells why it cannot be run. -/
def launch (eval : Evaluator) (isStandard : Bool) (words : List Octets) :
    Run (Except Cause Unit) := do
  let word := words.head?.getD []
  let s ← get
  let found : Except Bool (List Octets) :=
    if word.contains '/' then .ok [word]
    else
      (s.process.programs? s.machine.tree isStandard word).map fun found => found.1 :: found.2
  match found with
  | .error isDenied => return .error (if isDenied then .denied else .noEntry)
  | .ok paths =>
    onProcess Process.handingOn
    match ← launchFirst eval words .noEntry paths with
    | .ok () => return .ok ()
    | .error cause =>
      onProcess fun p => { p with bindings := s.process.bindings }
      return .error cause

/-- Complains that a program cannot be run. -/
def lament (word : Octets) (cause : Cause) : Run Unit := do
  let isAbsence := cause = .noEntry ∨ cause = .notDirectory
  let said := if isAbsence then "not found" else cause.description
  complain (word ++ s!": {said}".toList)
  let isLost := isAbsence ∨ cause = .tooManyLinks ∨ cause = .nameTooLong
  setStatus (if isLost then 127 else 126)

/-- Runs a program as this process, which ends with it whether it can be run or not. -/
def become (eval : Evaluator) (isStandard : Bool) (words : List Octets) : Run Unit := do
  match ← launch eval isStandard words with
  | .ok () => throw .replaced
  | .error cause =>
    lament (words.head?.getD []) cause
    throw .finish

def program (eval : Evaluator) (mode : Mode) (isStandard : Bool) (words : List Octets) :
    Run Unit := do
  let word := words.head?.getD []
  let s ← get
  let found : Except Bool (Octets × List Octets) :=
    if word.contains '/' then .ok (word, [])
    else s.process.programs? s.machine.tree isStandard word
  match found with
  | .error isDenied =>
    complain (word ++ (if isDenied then ": Permission denied" else ": not found").toList)
    setStatus 127
  | .ok (path, _) =>
    if !s.machine.pending.isEmpty then follow eval
    if !isStandard then Builtin.track word path
    if mode.isLast && !s.process.hasTraps then become eval isStandard words
    else
      announce <| ← inChild do
        match ← launch eval isStandard words with
        | .ok () => return ()
        | .error cause => lament word cause

/-- Leaves loops, or goes on with their next turn. -/
def skipLoops (goesOn : Bool) : Builtin := fun words => do
  let count ←
    match words with
    | [] => pure 1
    | word :: _ => do
      let count ← Builtin.number word
      if count = 0 then fail ("Illegal number: ".toList ++ word) else pure count
  let count := min count (← process).loops
  setStatus 0
  if count = 0 then return 0
  else if goesOn then throw (.again count)
  else throw (.leave count)

/-- Ends a function or a text. -/
def goBack : Builtin := fun words => do
  match words with
  | [] => throw (.back false)
  | word :: _ =>
    setStatus (← Builtin.number word)
    throw (.back true)

def exit : Builtin := fun words => do
  match words with
  | [] => throw .exit
  | word :: _ =>
    let status ← Builtin.number word
    onProcess fun p => { p with leaving? := some status }
    throw .exit

def evaluateText (eval : Evaluator) (mode : Mode) : Builtin := fun words => do
  if words = [] then return 0
  else
    deeper (text eval ⟨mode.isTested, false⟩ ([' '].intercalate words))
    return (← process).status

/-- The path of a file with a text: a name without a slash is searched for like a program. -/
def textPath (word : Octets) : Run Octets := do
  if word.contains '/' then return word
  else
    let s ← get
    let isFile (path : Octets) : Bool :=
      match Files.locate s.machine.tree s.process.here path with
      | .ok (.found _ entry) => entry.isFile
      | _ => false
    match (s.process.candidates false word).find? isFile with
    | some path => return path
    | none => fail (word ++ ": not found".toList)

def runFile (eval : Evaluator) : Builtin := fun words => do
  match ← Builtin.operands words with
  | [] => return 0
  | word :: _ =>
    let path ← textPath word
    match ← scriptIn path with
    | .error .isDirectory => return 0
    | .error cause =>
      fail ("cannot open ".toList ++ path ++ s!": {Connection.wording false cause}".toList)
    | .ok script =>
      onProcess fun p => { p with speaker? := some path }
      let run : Run Unit := do
        let status? ← linesFrom eval .plain true (script.length + 2) none (Source.ofText script 1 [])
        setStatus (status?.getD 0)
      match ← attempt (deeper run) with
      | .ok () | .error (.back _) => return (← process).status
      | .error stop => throw stop

/-- Runs a program in the place of the shell. -/
def replace (eval : Evaluator) : Builtin := fun words => do
  if words ≠ [] then become eval false words
  return 0

/-- Does what a tool does that the shell has in itself. -/
def inner (eval : Evaluator) (tool : Tool) (words : List Octets) : Run Nat := do
  use eval tool words
  return (← process).status

/-- Does what a name asks the shell to do itself. -/
def own (eval : Evaluator) (mode : Mode) (name : Octets) : Builtin := fun words => do
  let title := (← get).opening
  let title := title.take (title.length - 2)
  match String.ofList name with
  | ":" | "true" => return 0
  | "false" => return 1
  | "." => runFile eval words
  | "alias" => Builtin.setAlias words
  | "bg" | "fg" => Builtin.goOn words
  | "break" => skipLoops false words
  | "cd" | "chdir" => Builtin.changeDirectory words
  | "command" => Builtin.command words
  | "continue" => skipLoops true words
  | "echo" => inner eval (Print.echo .inner) (name :: words)
  | "eval" => evaluateText eval mode words
  | "exec" => replace eval words
  | "exit" => exit words
  | "export" => Builtin.passOn words
  | "getopts" => Builtin.getOption words
  | "hash" => Builtin.hash words
  | "jobs" => Builtin.jobs words
  | "kill" => Builtin.kill words
  | "local" => Builtin.makeLocal words
  | "printf" => inner eval (Print.printf .inner title) (name :: words)
  | "pwd" => Builtin.showDirectory words
  | "read" => Builtin.readLine words
  | "readonly" => Builtin.fix words
  | "return" => goBack words
  | "set" => Builtin.set words
  | "shift" => Builtin.shift words
  | "test" | "[" => inner eval (Condition.test title) (name :: words)
  | "times" => Builtin.times words
  | "trap" => Builtin.trap words
  | "type" => Builtin.explain words
  | "ulimit" => Builtin.limit words
  | "umask" => Builtin.chooseMask words
  | "unalias" => Builtin.dropAlias words
  | "unset" => Builtin.unset words
  | "wait" => Builtin.wait eval words
  | _ => return 0

/-- The commands that run others, which look after their output by themselves. -/
def runners : List String := [".", "eval", "exec"]

/-- Runs a command of the shell itself. Its flaws end the script only if it is special. -/
def builtin (eval : Evaluator) (mode : Mode) (isSpecial : Bool) (name : Octets)
    (words : List Octets) : Run Unit := do
  let p ← process
  let number? := p.table.lookup 1
  let isBroken := (troubleWith? (← machine) true number?).isSome
    && !runners.contains (String.ofList name)
  if isBroken then modify fun s => s.attach 1 (.sink [])
  onProcess fun p => { p with speaker? := some name }
  let result ← attempt (own eval mode name words)
  let lost : Octets ←
    if isBroken then
      let s ← get
      onProcess fun p =>
        match number? with
        | some number => p.bind 1 number
        | none => p.close 1
      pure (((s.process.table.lookup 1).map s.machine.collected).getD [])
    else pure []
  let status? : Except Stop Nat ←
    match result with
    | .ok status =>
      if lost ≠ [] then
        complain (name ++ ": I/O error".toList)
        pure (.ok (status ||| 1))
      else pure (.ok status)
    | .error stop => pure (.error stop)
  onProcess fun q => { q with speaker? := p.speaker? }
  match status? with
  | .ok status => setStatus status
  | .error .failed => if isSpecial then throw .failed
  | .error stop => throw stop

end BatchFormat.Shell.Run
