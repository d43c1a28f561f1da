import BatchFormat.CommandLine.Invocation
import BatchFormat.CommandLine.Token
import BatchFormat.Number.Reader

/-!
# Reading a command line

Goes through the arguments from left to right. The first plain argument that is no value of a
switch is the target; further ones are refused in the end. Asking for help or for the version ends
the reading at once.
-/
namespace BatchFormat.CommandLine

/-- What was read so far: the run, whose target counts only once it was met, whether a listing was
asked for, and the arguments that have no place. -/
structure State where
  invocation : Invocation
  hasTarget : Bool
  /-- Whether the target is still to come. -/
  isPending : Bool
  listing? : Option String
  extras : List String
  deriving DecidableEq, Repr

def State.start : State := ⟨.ofTarget (.ofString ""), false, true, none, []⟩

inductive Stop where
  | help
  | version
  | misuse (cause : Misuse)
  deriving DecidableEq, Repr

def listings : List String := ["providers"]

/-- Applies a switch without a value. -/
def State.turnOn (st : State) (s : Switch) : Except Stop State :=
  let i := st.invocation
  match s with
  | .help => .error .help
  | .version => .error .version
  | .dryRun => .ok { st with invocation := { i with dryRun := true } }
  | .recursive => .ok { st with invocation := { i with recursive := true } }
  | .verbose => .ok { st with invocation := { i with verbose := true } }
  | .debug => .ok { st with invocation := { i with debug := true } }
  | .config | .extension | .provider | .eclipse | .formatterCommand | .timeout | .logFile
  | .list => .ok st

/-- Applies a switch with its value. -/
def State.set (st : State) (s : Switch) (value : String) : Except Stop State :=
  let i := st.invocation
  match s with
  | .config => .ok { st with invocation := { i with profile := .ofString value } }
  | .extension => .ok { st with invocation := { i with extension := value } }
  | .provider => .ok { st with invocation := { i with provider := value } }
  | .eclipse => .ok { st with invocation := { i with eclipse? := some value } }
  | .formatterCommand =>
    .ok { st with invocation := { i with formatterCommand? := some value } }
  | .logFile => .ok { st with invocation := { i with logFile? := some value } }
  | .timeout =>
    match Binary.ofString? value with
    | some limit => .ok { st with invocation := { i with limit := limit } }
    | none => .error (.misuse (.notANumber s value))
  | .list =>
    if listings.contains value then .ok { st with listing? := some value }
    else .error (.misuse (.notAChoice s value listings))
  | .help | .dryRun | .recursive | .verbose | .debug | .version => .ok st

/-- The switches joined in one argument, each with its value; the last one may still wait for
its value. -/
abbrev Chain := List (Switch × Option String)

/-- The switches that follow a single-letter one in the same argument. Letters are joined up to
one that takes a value, which takes all the rest. -/
def chainFrom (s : Switch) : List Char → Except Misuse Chain
  | [] => .error (.valueIgnored s "")
  | c :: rest =>
    if s.takesValue then .ok [(s, some (String.ofList (c :: rest)))]
    else
      match spellings.lookup (String.ofList ['-', c]) with
      | none => .error (.valueIgnored s (String.ofList (c :: rest)))
      | some next =>
        if rest = [] then .ok [(s, none), (next, none)]
        else (chainFrom next rest).map ((s, none) :: ·)

/-- The switches that one argument stands for. -/
def chain (s : Switch) (isLong : Bool) : Option String → Except Misuse Chain
  | none => .ok [(s, none)]
  | some value =>
    if s.takesValue then .ok [(s, some value)]
    else if isLong then .error (.valueIgnored s value)
    else chainFrom s value.toList

/-- Whether the last switch of a chain waits for a value, and which one it is. -/
def waiting? (c : Chain) : Option Switch :=
  match c.getLast? with
  | some (s, none) => if s.takesValue then some s else none
  | _ => none

/-- Applies the switches of a chain in turn. `next` is the value of the last one, if it waits. -/
def State.applyChain (st : State) (next : String) (c : Chain) : Except Stop State :=
  c.foldlM (fun st (s, value) =>
    if s.takesValue then st.set s (value.getD next) else st.turnOn s) st

/-- Takes a plain argument: the target, if it is still to come. -/
def State.take (st : State) (text : String) : State :=
  if st.isPending then
    { st with
      invocation := { st.invocation with target := .ofString text }
      hasTarget := true
      isPending := false }
  else { st with extras := st.extras ++ [text] }

/-- The text of a token that only plain ones are asked for. -/
def Token.plainText : Token → String
  | plain text | unknown text => text
  | marker => markerText
  | switch .. => ""

/-- Goes through what the arguments are. -/
def run : List Token → State → Except Stop State
  | [], st => .ok st
  | .plain text :: .marker :: rest, st =>
    let st :=
      if st.isPending then st.take text
      else { st with extras := st.extras ++ [text, Token.markerText] }
    .ok { st with extras := st.extras ++ rest.map Token.plainText }
  | .plain text :: rest, st => run rest (st.take text)
  | .marker :: rest, st =>
    if st.isPending then
      match rest with
      | [] => .ok { st with isPending := false }
      | first :: rest =>
        let st := st.take first.plainText
        .ok { st with extras := st.extras ++ rest.map Token.plainText }
    else .ok { st with extras := st.extras ++ Token.markerText :: rest.map Token.plainText }
  | .unknown text :: rest, st => run rest { st with extras := st.extras ++ [text] }
  | .switch s isLong joined :: rest, st =>
    match chain s isLong joined with
    | .error m => .error (.misuse m)
    | .ok c =>
      match waiting? c, rest with
      | none, rest => st.applyChain "" c >>= run rest
      | some _, .plain value :: rest => st.applyChain value c >>= run rest
      | some w, _ => .error (.misuse (.valueMissing w))

/-- What a command line asks for. -/
inductive Parsed where
  | run (i : Invocation)
  | listing (what : String)
  | stop (s : Stop)
  deriving DecidableEq, Repr

/-- What is asked for once all arguments are read. -/
def State.finish (st : State) : Parsed :=
  if st.extras ≠ [] then .stop (.misuse (.unrecognized st.extras))
  else
    match st.listing? with
    | some what => .listing what
    | none => if st.hasTarget then .run st.invocation else .stop (.misuse .targetMissing)

def parse (arguments : List String) : Parsed :=
  match Token.ofArguments arguments with
  | .error m => .stop (.misuse m)
  | .ok tokens =>
    match run tokens State.start with
    | .error s => .stop s
    | .ok st => st.finish

end BatchFormat.CommandLine
