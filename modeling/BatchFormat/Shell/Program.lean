import BatchFormat.Shell.Builtin.Place
import BatchFormat.Shell.Builtin.Search
import BatchFormat.Shell.Builtin.Setting
import BatchFormat.Shell.Connection
import BatchFormat.Shell.Tool.Known
import BatchFormat.Shell.Tool.Trouble

/-!
# Programs

How a process runs a program file: a tool, a shell, a program that runs another one with changed
variables, or a script that names the program that is to read it.
-/
namespace BatchFormat.Shell

namespace Process

/-- The process of a new shell. Variables that were passed on are known to it, and signals that
were ignored stay so. -/
def renewed (p : Process) (t : Tree) (title : Octets) : Process :=
  let imported := (p.environment.filter fun v => Word.isName v.1).map fun v =>
    (v.1, (⟨some v.2, true, false⟩ : Variable))
  let own : List (String × Octets) :=
    [("IFS", Separators.standard), ("OPTIND", ['1']),
      ("PPID", (toString (p.outer.head?.getD (p.number - 1))).toList), ("PS1", ['#', ' ']),
      ("PS2", ['>', ' ']), ("PS4", ['+', ' '])]
  let named := (p.valueOf? "PWD".toList).filter fun path =>
    path.head? == some '/' && Builtin.directory? t p.here path == some p.here
  let path := named.getD (Entries.pathOf p.here)
  let p : Process :=
    { p with
      title := title
      speaker? := none
      arguments := []
      bindings := imported
      functions := []
      aliases := []
      programs := []
      path := path
      status := 0
      substituted := 0
      root := p.number
      line := 0
      options := []
      traps := p.quietTraps
      leaving? := none
      loops := 0
      calls := 0
      jobs := []
      latestJob? := none
      scopes := []
      optionWord := 1
      passedLetters? := none }
  let p := own.foldl (fun p (name, value) => p.setValue name.toList (some value)) p
  let p :=
    if (p.binding? searchVariable).isSome then p
    else p.setValue searchVariable (some standardSearch)
  p.putVariable "PWD".toList (some ⟨some path, true, false⟩)

end Process

namespace Run

/-- A text as a shell reads it: characters that end texts elsewhere are dropped. -/
def readable (script : Octets) : Octets := script.filter (· != '\x00')

/-- The text in a file that is to be run. A path may stand for an open file, which is opened anew if
it is on the disk. -/
def scriptIn (path : Octets) : Run (Except Cause Octets) := do
  let s ← get
  match (descriptorOf? path).bind fun descriptor => s.process.table.lookup descriptor with
  | none => return (Files.read s.machine.tree s.process.here path).map readable
  | some number =>
    match s.machine.place? number with
    | some place => return (Files.read s.machine.tree place ['.']).map readable
    | none =>
      onMachine fun m => m.leave number []
      return .ok (readable (s.machine.content number))

def inputScript (eval : Evaluator) : Run Unit := do
  let script := readable (← get).input
  modify fun s => s.leaveInput []
  let _ ← linesFrom eval .plain true (script.length + 2) none (Source.ofText script 1 [])

/-- Runs a shell: its words hold a script, or name one, or it comes from the input. -/
def shell (eval : Evaluator) (words : List Octets) : Run Unit := wholly eval do
  work 50
  checkTime
  let t := (← machine).tree
  onProcess fun p => p.renewed t (words.head?.getD [])
  let (isGiven, operands, _) ← Settings.turnAll true (words.length + 1) (words.drop 1)
  Settings.giveUpControl
  let begin (arguments : List Octets) : Run Unit :=
    onProcess fun p => { p with arguments := arguments }
  let readsInput := (← process).has 's'
  if isGiven then
    match operands with
    | [] => failWith "-c requires an argument"
    | script :: rest =>
      begin (rest.drop 1)
      onProcess fun p => { p with title := rest.head?.getD p.title }
      let _ ← linesFrom eval ⟨false, !readsInput⟩ false (script.length + 2) none
        (Source.ofText script 1 [])
      if readsInput then inputScript eval
  else
    match readsInput, operands with
    | false, file :: rest =>
      begin rest
      match ← scriptIn file with
      | .error .isDirectory => return ()
      | .error cause =>
        failWith s!"cannot open {file.text}: {Connection.wording false cause}"
      | .ok script =>
        onProcess fun p => { p with title := file }
        let _ ← linesFrom eval .plain true (script.length + 2) none (Source.ofText script 1 [])
    | _, _ =>
      begin operands
      onProcess fun p => p.turn 's' true
      inputScript eval

def innerShell : Octets := "sh".toList

/-- What a script does that a tool runs, from the state of the tool on. -/
def scriptDeed (eval : Evaluator) (s : State) (script : Octets) (t : Tree) : Deed :=
  let s := (s.attach 1 (.sink [])).attach 2 (.sink [])
  let s := { s with machine := { s.machine with tree := t } }
  let step := do
    onProcess fun p => p.bind 0 (s.machine.add .void).1
    let _ ← inChild (shell eval [innerShell, ['-', 'c'], script])
  let s := { s with machine := (s.machine.add .void).2 }
  let (_, after) := (step.run).run s
  let written (descriptor : Nat) : List (Nat × Octets) :=
    match (s.process.table.lookup descriptor).map after.machine.collected with
    | none | some [] => []
    | some text => [(descriptor, text)]
  ⟨after.process.status, written 2 ++ written 1, [], after.machine.time - s.machine.time,
    after.machine.tree⟩

def troubleWith? (m : Machine) (isOutput : Bool) (number? : Option Nat) : Option Trouble :=
  match number?.bind fun number => m.channels[number]? with
  | none => some .closed
  | some (.source ..) => if isOutput then some .wrongWay else none
  | some (.sink _) => if isOutput then none else some .wrongWay
  | some .directory => some (if isOutput then .wrongWay else .directory)
  | some .full => if isOutput then some .full else none
  | some (.file _ _ direction) =>
    let isWrong := if isOutput then direction = .read else direction ≠ .read ∧ direction ≠ .both
    if isWrong then some .wrongWay else none
  | some .void => none

/-- What a tool does in this process. -/
def deedOf (eval : Evaluator) (s : State) (tool : Tool) (words : List Octets) : Deed :=
  let p := s.process
  let m := s.machine
  let place (descriptor : Nat) : Option Location :=
    (p.table.lookup descriptor).bind m.place?
  { words := words
    input := s.input
    trouble? := troubleWith? m false (p.table.lookup 0)
    outputTrouble? := troubleWith? m true (p.table.lookup 1)
    source? := place 0
    target? := place 1
    reach := fun block count => ((p.table.lookup 0).map fun n => m.reach n block count).getD count
    others := (p.table.filter fun e => e.1 > 2).map fun e => (e.1, m.content e.2)
    here := p.here
    environment := p.environment
    tree := m.tree
    mask := p.mask
    script := scriptDeed eval s } |> Trouble.guarded tool

/-- Runs a tool in this process. -/
def use (eval : Evaluator) (tool : Tool) (words : List Octets) : Run Unit := do
  let s ← get
  let deed := deedOf eval s tool words
  let deed ←
    if deed.time > 0 ∧ !s.machine.pending.isEmpty then
      follow eval
      pure (deedOf eval (← get) tool words)
    else pure deed
  if deed.rest != s.input then modify fun s => s.leaveInput deed.rest
  onMachine fun m => { m with tree := deed.tree, time := m.time + deed.time }
  deed.written.reverse.forM fun w => write w.1 w.2
  setStatus deed.status

/-- Reads the words of a program that changes variables: which ones are dropped or set, and the
words of the program to run with them. -/
def changes : Nat → List Octets → Process → Except Char (List Octets × Process)
  | 0, words, p => .ok (words, p)
  | _, [], p => .ok ([], p)
  | n + 1, word :: words, p =>
    let bare : Process := { p with bindings := [] }
    match word with
    | ['-', '-'] => .ok (words, p)
    | ['-'] | ['-', 'i'] => changes n words bare
    | ['-', 'u'] => changes n (words.drop 1) (p.putVariable (words.head?.getD []) none)
    | '-' :: 'S' :: text => .ok ((text.splitOn ' ').filter (· ≠ []) ++ words, p)
    | '-' :: letter :: _ => .error letter
    | _ =>
      match word.span (· != '=') with
      | (name, _ :: value) =>
        changes n words (p.putVariable name (some ⟨some value, true, false⟩))
      | (_, []) => .ok (word :: words, p)

/-- How many programs may be named one by the other, in the first lines of scripts. -/
def interpreterLimit : Nat := 5

mutual

/-- Runs a program file as this process, unless it cannot be run. -/
def execute (eval : Evaluator) : Nat → (links : Nat) → Octets → List Octets →
    Run (Except Cause Unit)
  | 0, _, _, _ => throw .late
  | n + 1, links, path, words => do
    let s ← get
    match Files.locate s.machine.tree s.process.here path with
    | .error cause => return .error cause
    | .ok (.vacant _) => return .error .noEntry
    | .ok (.found _ (.file bytes mode)) =>
      if !Tree.isExecutableMode mode then return .error .denied
      else
        let content := Octets.ofBytes bytes
        match Known.named? content with
        | some name =>
          if Known.shells.contains name then return .ok (← shell eval words)
          else if name = Known.changer then return .ok (← changed eval n words)
          else
            match Known.programs.lookup name with
            | some tool => return .ok (← use eval tool words)
            | none => return .error .badFormat
        | none =>
          match content with
          | '#' :: '!' :: rest =>
            let line := (rest.takeWhile (· != '\n')).dropWhile Octets.isBlank
            let (interpreter, argument) := line.span fun c => !Octets.isBlank c
            let argument := ((argument.dropWhile Octets.isBlank).reverse.dropWhile
              Octets.isBlank).reverse
            let front := interpreter :: if argument = [] then [] else [argument]
            if interpreter = [] then return .error .badFormat
            else
              match links with
              | 0 => return .error .tooManyLinks
              | links + 1 => execute eval n links interpreter (front ++ path :: words.drop 1)
          | _ => return .error .badFormat
    | .ok (.found _ _) => return .error .denied

/-- A program that runs another one with changed variables, or shows what they are. -/
def changed (eval : Evaluator) : Nat → List Octets → Run Unit
  | 0, _ => throw .late
  | n + 1, words => do
    let own := words.head?.getD []
    let refuse (message : String) (status : Nat) : Run Unit := do
      write 2 (own ++ Octets.ofString s!": {message}\n")
      setStatus status
    match changes (words.length + 1) (words.drop 1) (← process) with
    | .error letter =>
      let hint := s!"Try '{own.text} --help' for more information."
      refuse s!"invalid option -- '{letter}'\n{hint}" 125
    | .ok ([], p) =>
      onProcess fun _ => p
      use eval Known.env words
    | .ok (word :: rest, p) =>
      onProcess fun _ => p
      let t := (← machine).tree
      let absent := refuse s!"{inCurlyQuotes word}: {Cause.noEntry.description}" 127
      let isStandard := (p.valueOf? Process.searchVariable).isNone
      let paths := if word.contains '/' then [word] else p.candidates isStandard word
      let isFile (path : Octets) : Bool :=
        match Files.locate t p.here path with
        | .ok (.found _ entry) => entry.isFile
        | _ => false
      match paths.find? isFile with
      | none => absent
      | some path =>
        match ← execute eval n interpreterLimit path (word :: rest) with
        | .ok () => return ()
        | .error .badFormat => shell eval (innerShell :: path :: rest)
        | .error .noEntry => absent
        | .error cause => refuse s!"{inCurlyQuotes word}: {cause.description}" 126

end

end Run
end BatchFormat.Shell
