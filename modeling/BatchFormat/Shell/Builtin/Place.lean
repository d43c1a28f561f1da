import BatchFormat.Shell.Builtin.Basic
import BatchFormat.Shell.Tool.Entries

/-!
# Directories and permissions

Commands that go to other directories and tell where the script is, and the one that chooses the
permissions of new files.
-/
namespace BatchFormat.Shell.Builtin

open Run

/-- The names of a path followed without looking at links; `names` are those passed, the latest
first. -/
def follow (names : List Octets) : List Octets → List Octets
  | [] => names
  | name :: rest =>
    if name = [] ∨ name = ['.'] then follow names rest
    else if name = ['.', '.'] then follow (names.drop 1) rest
    else follow (name :: names) rest

/-- Where a path leads from a directory if links are not looked at. Two slashes in front are not the
same as one. -/
def goneTo (start target : Octets) : Octets :=
  let whole :=
    if target.head? = some '/' then target
    else if start.getLast? = some '/' then start ++ target else start ++ '/' :: target
  let top : Octets :=
    match whole with
    | '/' :: '/' :: c :: _ => if c = '/' then ['/'] else ['/', '/']
    | ['/', '/'] => ['/', '/']
    | _ => ['/']
  top ++ ['/'].intercalate (follow [] (whole.splitOn '/')).reverse

def directory? (t : Tree) (here : Location) (path : Octets) : Option Location :=
  match Files.locate t here path with
  | .ok (.found place (.dir _)) => some place
  | _ => none

/-- Goes to a directory; tells whether it is there. -/
def enter (isPhysical : Bool) (target : Octets) : Run Bool := do
  let s ← get
  let p := s.process
  let path := if isPhysical then target else goneTo p.path target
  match directory? s.machine.tree p.here path with
  | none => return false
  | some place =>
    let path := if isPhysical then Entries.pathOf place else path
    let setPassedOn (name : String) (value : Octets) : Run Unit := do
      assign name.toList (some value)
      onProcess fun p =>
        p.putVariable name.toList ((p.binding? name.toList).map ({ · with isPassedOn := true }))
    setPassedOn "OLDPWD" p.path
    onProcess fun p => { p with here := place, path := path }
    setPassedOn "PWD" path
    return true

/-- The directories in which a target without dots in front is looked for. -/
def stations (p : Process) (target : Octets) : List Octets :=
  let isDotted : Bool :=
    match target with
    | ['.'] | ['.', '.'] | '.' :: '/' :: _ | '.' :: '.' :: '/' :: _ => true
    | _ => false
  if target.head? = some '/' ∨ isDotted then []
  else
    match p.valueOf? "CDPATH".toList with
    | none => [[]]
    | some search => search.splitOn ':'

def changeDirectory : Builtin := fun words => do
  let (found, operands) ← options "LP" "" words
  let isPhysical := (found.getLast?.map Prod.fst) == some 'P'
  let p ← process
  let isBack := operands.head? == some ['-']
  let target :=
    match operands with
    | [] => p.valueOf "HOME"
    | word :: _ => if isBack then p.valueOf "OLDPWD" else word
  let t := (← machine).tree
  let inside (dir : Octets) : Octets :=
    let name := if target = [] then ['.'] else target
    if dir = [] then name else Entries.inside dir name
  let station? := (stations p target).find? fun dir => (directory? t p.here (inside dir)).isSome
  let path := (station?.map inside).getD target
  if ← enter isPhysical path then
    if isBack ∨ station?.any (· ≠ []) then print ((← process).path ++ ['\n'])
    return 0
  else fail ("can't cd to ".toList ++ target)

def showDirectory : Builtin := fun words => do
  let (found, _) ← options "LP" "" words
  let p ← process
  let isPhysical := (found.getLast?.map Prod.fst) == some 'P'
  print ((if isPhysical then Entries.pathOf p.here else p.path) ++ ['\n'])
  return 0

/-- The permissions that letters stand for, those there are being given. -/
def permissions (old : Nat) (letters : Octets) : Nat :=
  letters.foldl (fun bits letter =>
    bits ||| match letter with
      | 'r' => 4
      | 'w' => 2
      | 'x' => 1
      | 'X' => if old &&& 0o111 != 0 then 1 else 0
      | 'u' => old / 64 % 8
      | 'g' => old / 8 % 8
      | 'o' => old % 8
      | _ => 0) 0

/-- The places in the permissions that letters stand for. -/
def positions (letters : Octets) : Nat :=
  if letters = [] ∨ letters.contains 'a' then 0o111
  else
    (if letters.contains 'u' then 0o100 else 0) + (if letters.contains 'g' then 0o010 else 0)
      + (if letters.contains 'o' then 0o001 else 0)

/-- The permissions that written changes make of others; nothing if they cannot be read. Behind a
comma, other places may be named. -/
def changed? (old : Nat) : Nat → (places? : Option Nat) → (bits : Nat) → Octets → Option Nat
  | 0, _, _, _ => none
  | _, _, bits, [] => some bits
  | n + 1, places?, bits, cs =>
    let (who, rest) := cs.span "augo".toList.contains
    let places := (positions who) ||| places?.getD 0
    let places := if who = [] then places?.getD 0o111 else places
    match rest with
    | [] => some bits
    | sign :: rest =>
      let (letters, rest) := rest.span "rwxugoXs".toList.contains
      let given := permissions old letters * places
      let bits? : Option Nat :=
        match sign with
        | '+' => some (bits ||| given)
        | '-' => some (bits - (bits &&& given))
        | '=' => some (given ||| (bits - (bits &&& (places * 7))))
        | _ => none
      match bits?, rest with
      | none, _ => none
      | some bits, [] => some bits
      | some bits, ',' :: rest => changed? old n none bits rest
      | some bits, sign :: rest =>
        if "=+-".toList.contains sign then changed? old n (some places) bits (sign :: rest)
        else none

def shownPermissions (mask : Nat) : Octets :=
  let given := Files.masked mask 0o777
  let shown (who : String) (bits : Nat) : String :=
    who ++ "=" ++ (if bits / 4 % 2 = 1 then "r" else "") ++ (if bits / 2 % 2 = 1 then "w" else "")
      ++ (if bits % 2 = 1 then "x" else "")
  (String.intercalate "," [shown "u" (given / 64 % 8), shown "g" (given / 8 % 8),
    shown "o" (given % 8)]).toList

/-- Chooses the permissions that new files do not get, or shows them. -/
def chooseMask : Builtin := fun words => do
  let (found, operands) ← options "S" "" words
  let mask := (← process).mask
  match operands with
  | [] =>
    let digits := (Nat.toDigits 8 mask)
    let numeric := List.replicate (4 - digits.length) '0' ++ digits
    print ((if found.has 'S' then shownPermissions mask else numeric) ++ ['\n'])
  | word :: _ =>
    if word.head?.any Char.isDigit then
      if word.all fun c => '0' ≤ c && c ≤ '7' then
        let value := word.foldl (fun n c => (8 * n + (c.toNat - '0'.toNat)) % 0o1000) 0
        onProcess fun p => { p with mask := value }
      else fail ("Illegal number: ".toList ++ word)
    else
      let old := Files.masked mask 0o777
      match changed? old (word.length + 1) none old word with
      | some bits => onProcess fun p => { p with mask := Files.masked bits 0o777 }
      | none => fail ("Illegal mode: ".toList ++ word)
  return 0

end BatchFormat.Shell.Builtin
