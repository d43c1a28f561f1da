import BatchFormat.Shell.Builtin.Basic
import BatchFormat.Shell.Tool.Entries

/-!
# What names mean

How the name of a command is looked up, and the commands that tell what names mean.
-/
namespace BatchFormat.Shell

inductive Meaning where
  | function (body : Command)
  | builtin
  | program (path : Octets)
  /-- No program; `isDenied` tells whether something else has the name of one. -/
  | nothing (isDenied : Bool)

namespace Process

def standardSearch : Octets := "/usr/local/sbin:/usr/local/bin:/usr/sbin:/usr/bin:/sbin:/bin".toList

/-- The paths under which a program may be found. -/
def candidates (p : Process) (standard : Bool) (word : Octets) : List Octets :=
  let search? := if standard then some standardSearch else p.valueOf? searchVariable
  match search? with
  | none => []
  | some search =>
    (search.splitOn ':').map fun dir => if dir = [] then word else Entries.inside dir word

/-- The program that has been found under a name before. -/
def tracked? (p : Process) (word : Octets) : Option Octets :=
  (p.programs.lookup word).filter fun path => path.head? == some '/'

/-- The programs under a name, from the first one that is found on; `isDenied` tells whether
something else was found. -/
def programs? (p : Process) (t : Tree) (standard : Bool) (word : Octets) :
    Except Bool (Octets × List Octets) :=
  let entryAt (path : Octets) : Option Entry :=
    match Files.locate t p.here path with
    | .ok (.found _ entry) => some entry
    | _ => none
  let paths := p.candidates standard word
  let isWanted (path : Octets) : Bool :=
    match if standard then none else p.tracked? word with
    | some known => path == known
    | none => (entryAt path).any Entry.isFile
  match paths.dropWhile fun path => !isWanted path with
  | path :: others => .ok (path, others)
  | [] => .error (paths.any fun path => (entryAt path).isSome)

/-- What a word means. Functions may be passed over. -/
def meaning (p : Process) (t : Tree) (standard takesFunctions : Bool) (word : Octets) : Meaning :=
  if word.contains '/' then .program word
  else
    match if takesFunctions then p.functions.lookup word else none with
    | some body => .function body
    | none =>
      if Builtin.isOne word then .builtin
      else
        match p.programs? t standard word with
        | .ok (path, _) => .program path
        | .error isDenied => .nothing isDenied

end Process

namespace Builtin

open Run

def track (word path : Octets) : Run Unit :=
  onProcess fun p =>
    if word.contains '/' ∨ (p.programs.lookup word).isSome then p
    else { p with programs := (word, path) :: p.programs }

/-- Tells what a word means, at length or in short. -/
def describe (standard atLength : Bool) (word : Octets) : Run Nat := do
  let s ← get
  let p := s.process
  let say (long : String) (short : Octets) : Run Nat := do
    print (if atLength then word ++ Octets.ofString long ++ ['\n'] else short ++ ['\n'])
    return 0
  if Token.keywords.contains (String.ofList word) then say " is a shell keyword" word
  else
    match p.aliases.lookup word with
    | some value =>
      if atLength then
        print (word ++ " is an alias for ".toList ++ value ++ ['\n'])
      else print ("alias ".toList ++ word ++ '=' :: quoted value ++ ['\n'])
      return 0
    | none =>
      let isTracked := !standard && (p.tracked? word).isSome
      let absent : Run Nat := do
        if atLength then print (word ++ ": not found\n".toList)
        return 127
      match p.meaning s.machine.tree standard true word with
      | .function _ => say " is a shell function" word
      | .builtin =>
        say (if isSpecial word then " is a special shell builtin" else " is a shell builtin") word
      | .nothing _ => absent
      | .program path =>
        match Files.locate s.machine.tree p.here path with
        | .ok (.found _ _) =>
          if !standard then track word path
          let relation := if isTracked then " is a tracked alias for " else " is "
          print (if atLength then word ++ relation.toList ++ path ++ ['\n'] else path ++ ['\n'])
          return 0
        | _ => absent

def explain : Builtin := fun words => do
  let statuses ← words.mapM (describe false true)
  return statuses.foldl max 0

/-- Tells what a word means, or in short what would be run. The words are those of a command that
passes on to another one unless it is asked for this. -/
def command : Builtin := fun words => do
  let (found, operands) ← options "pvV" "" words
  match operands with
  | word :: _ =>
    if found.has 'V' ∨ found.has 'v' then describe (found.has 'p') (found.has 'V') word
    else return 0
  | [] => return 0

/-- The place of a name in the table of programs that were found. -/
def programPlace (name : Octets) : Nat :=
  (total (name.map Char.toNat) + 16 * (name.head?.map Char.toNat).getD 0) % 32768 % 31

/-- Finds programs and remembers where they are, or shows those that were found. -/
def hash : Builtin := fun words => do
  let (found, names) ← options "r" "" words
  if found != [] then
    onProcess fun p => { p with programs := [] }
    return 0
  else if names = [] then
    let known := (← process).programs.reverse.mergeSort fun a b =>
      programPlace a.1 ≤ programPlace b.1
    print (known.flatMap fun e => e.2 ++ ['\n'])
    return 0
  else
    let statuses ← names.mapM fun name => do
      onProcess fun p => { p with programs := p.programs.filter fun e => e.1 != name }
      let s ← get
      match s.process.meaning s.machine.tree false true name with
      | .program path => track name path; return 0
      | .nothing isDenied =>
        complain (name ++ (if isDenied then ": Permission denied" else ": not found").toList)
        return 1
      | _ => return 0
    return statuses.foldl max 0

end Builtin
end BatchFormat.Shell
