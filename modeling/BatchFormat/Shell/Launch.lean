import BatchFormat.Shell.Run

/-!
# Starting programs on the machine

A launcher that runs the programs of a tree: scripts by the shell, and the known tools.
-/
namespace BatchFormat.Shell.Launch

/-- How many commands a program may run before it counts as one that never ends. -/
def workLimit : Nat := 300000

def startTime : Nat := 2000000

def firstProcess : Nat := 4000

/-- The longest time, in milliseconds, that can be waited for. -/
def longestWait : Nat := twoTo 31 - 1

/-- The nanoseconds that can be counted. -/
def clockRange : Nat := twoTo 63

def thousand : Nat := 1000

def isCountable (num den : Nat) : Bool :=
  match Binary.ofRatio false (num * thousand) den with
  | .finite .. => true
  | _ => false

/-- The nanoseconds of a limit, none for a limit that is over at once. -/
def nanoseconds (limit : Binary) : Except ClockFlaw (Option Nat) :=
  match limit with
  | .nan => .error .undefined
  | .infinite negative => if negative then .ok none else .error .endless
  | .finite negative mantissa exponent =>
    if negative ∨ mantissa = 0 then .ok none
    else
      let (num, den) := Binary.ratio mantissa exponent
      if !isCountable num den then .error .endless
      else if num * Delay.second ≥ clockRange * den then .error .beyondRange
      else if num * thousand > longestWait * den then .error .tooLong
      else .ok (some (num * Delay.second / den))

def start (here : Location) (environment : Environment) (r : Request) (limit : Nat) (t : Tree) :
    State where
  process :=
    { title := []
      speaker? := none
      arguments := []
      bindings := environment.map fun v =>
        (Octets.ofString v.1, ⟨some (Octets.ofString v.2), true, false⟩)
      functions := []
      aliases := []
      programs := []
      here := here
      path := Entries.pathOf here
      table := [(0, 0), (1, 1), (2, 2)]
      status := 0
      substituted := 0
      number := firstProcess
      root := firstProcess
      outer := []
      party := 0
      line := 0
      nextLine := 0
      options := []
      traps := []
      leaving? := none
      mask := 0o022
      loops := 0
      calls := 0
      depth := 0
      jobs := []
      latestJob? := none
      scopes := []
      optionWord := 1
      passedLetters? := none
      limits := [] }
  machine :=
    { tree := t
      channels := #[.ofText (.ofBytes r.input), .sink [], .sink []]
      time := startTime
      limit := limit
      latest := firstProcess
      work := 0
      workLimit := workLimit
      pending := []
      endings := []
      keepers := []
      signals := [] }

/-- Tries paths in turn. A path that leads nowhere is passed over; of other causes the first one
is told, or else the latest. -/
def tryPaths (words : List Octets) (s : State) (told? : Option Cause) :
    List String → Except Cause (Except Stop Unit × State)
  | [] => .error (told?.getD .noEntry)
  | path :: paths =>
    let steps := total (words.map List.length) + 8
    let step := Run.execute Run.evaluator steps Run.interpreterLimit (Octets.ofString path) words
    match (step.run).run s with
    | (.ok (.ok ()), s) => .ok (.ok (), s)
    | (.error stop, s) => .ok (.error stop, s)
    | (.ok (.error cause), _) =>
      let weight : Option Cause → Bool
        | some .noEntry | some .notDirectory | none => false
        | some _ => true
      tryPaths words s (if weight told? then told? else some cause) paths

/-- What becomes of a program that was started, and of the files. Its output ends when the last of
the processes has ended that hold it open. -/
def outcome (result : Except Stop Unit) (s : State) : Outcome × Tree :=
  let (_, s) := ((Run.follow Run.evaluator).run).run s
  let m := s.machine
  let ends := max m.time (max (m.keptUntil 1) (m.keptUntil 2))
  let ended (status : Int) : Outcome :=
    if m.limit ≤ ends then .overtime
    else .ended status (m.collected 1).bytes (m.collected 2).bytes
  let outcome : Outcome :=
    match result with
    | .error .late => .overtime
    | .error (.killed signal) => ended (-signal)
    | _ => if m.workLimit ≤ m.work then .overtime else ended (s.process.status % 256)
  (outcome, m.tree)

/-- Starts the program that the first word names. -/
def launcher (here : Location) (environment : Environment) : Launcher := fun r t =>
  let word := r.words.head?.getD ""
  if r.words.any Path.holdsNul then (.notStarted .nulInPath, t)
  else
    let limit := nanoseconds r.limit
    let time := (limit.toOption.bind id).getD 0
    let s := start here environment r (max time 1) t
    match tryPaths (r.words.map Octets.ofString) s none (Lookup.attempts environment word) with
    | .error cause => (.notStarted (.refused cause word), t)
    | .ok (result, s) =>
      match limit with
      | .error flaw => (.badLimit flaw, t)
      | .ok none => (.overtime, t)
      | .ok (some _) => outcome result s

end BatchFormat.Shell.Launch
