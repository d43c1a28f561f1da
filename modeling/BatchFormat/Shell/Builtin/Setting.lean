import BatchFormat.Shell.Builtin.Naming

/-!
# Options and arguments

What a script can set about itself: its options and its arguments.
-/
namespace BatchFormat.Shell

/-- The options of a shell: their letters, as far as they have one, and their names. -/
def shellOptions : List (Char × String) :=
  [('e', "errexit"), ('f', "noglob"), ('I', "ignoreeof"), ('i', "interactive"), ('m', "monitor"),
    ('n', "noexec"), ('s', "stdin"), ('x', "xtrace"), ('v', "verbose"), ('V', "vi"), ('E', "emacs"),
    ('C', "noclobber"), ('a', "allexport"), ('b', "notify"), ('u', "nounset"),
    ('p', "privileged"), ('1', "nolog"), ('2', "debug")]

namespace Process

/-- Turns an option on or off; each of two ways to edit lines turns the other one off. -/
def turnOption (p : Process) (option : Char) (on : Bool) : Process :=
  let p := p.turn option on
  if on ∧ option = 'V' then p.turn 'E' false
  else if on ∧ option = 'E' then p.turn 'V' false
  else p

end Process

namespace Settings

open Run

def shown (isReadable : Bool) (isOn : Char → Bool) : Octets :=
  let lines := shellOptions.map fun (letter, name) =>
    if isReadable then
      name ++ String.ofList (List.replicate (16 - name.length) ' ')
        ++ (if isOn letter then "on" else "off") ++ "\n"
    else "set " ++ (if isOn letter then "-o " else "+o ") ++ name ++ "\n"
  ((if isReadable then "Current option settings\n" else "") ++ String.join lines).toList

/-- Turns an option with a name on or off; without a name, all of them are shown. Before a shell has
started, all of them seem to be on. -/
def turnNamed (isStart on : Bool) (name? : Option Octets) : Run Unit :=
  match name? with
  | none => do
    let p ← process
    print (shown on fun letter => isStart || p.has letter)
  | some name =>
    match shellOptions.find? fun o => o.2.toList = name with
    | some (letter, _) => onProcess fun p => p.turnOption letter on
    | none => fail ("Illegal option -o ".toList ++ name)

/-- Turns the options on or off that letters name; returns the words behind them, from which named
options are taken. `isStart` tells whether a shell is started: it may be given a script. The result
tells whether it is. -/
def turnLetters (isStart on : Bool) : Octets → List Octets → Run (Bool × List Octets)
  | [], words => return (false, words)
  | letter :: letters, words => do
    if letter = 'c' ∧ isStart then
      let (_, words) ← turnLetters isStart on letters words
      return (true, words)
    else if letter = 'l' ∧ isStart then turnLetters isStart on letters words
    else if letter = 'o' then
      turnNamed isStart on words.head?
      turnLetters isStart on letters (words.drop 1)
    else if !letter.isDigit ∧ shellOptions.any (fun o => o.1 = letter) then
      onProcess fun p => p.turnOption letter on
      turnLetters isStart on letters words
    else failWith s!"Illegal option -{(Octets.text [letter])}"

/-- Turns options on and off. Returns whether a script is given, the words that follow, and whether
they are to be the arguments even if there are none. -/
def turnAll (isStart : Bool) : Nat → List Octets → Run (Bool × List Octets × Bool)
  | 0, words => return (false, words, false)
  | n + 1, words => do
    match words with
    | ['-'] :: rest =>
      if !isStart then onProcess fun p => (p.turn 'x' false).turn 'v' false
      return (false, rest, false)
    | ['-', '-'] :: rest => return (false, rest, true)
    | (sign :: letters) :: rest =>
      if sign = '-' ∨ sign = '+' then
        let (isGiven, rest) ← turnLetters isStart (sign = '-') letters rest
        let (isGivenLater, rest, all) ← turnAll isStart n rest
        return (isGiven || isGivenLater, rest, all)
      else return (false, words, false)
    | _ => return (false, words, false)

/-- Turns the control of jobs off again where it was turned on: there is no terminal for it. -/
def giveUpControl : Run Unit := do
  if (← process).has 'm' then
    onProcess fun p => p.turn 'm' false
    complain "can't access tty; job control turned off".toList

end Settings

namespace Builtin

open Run

def setArguments (arguments : List Octets) : Run Unit :=
  onProcess fun p =>
    { p with arguments := arguments, optionWord := 1, passedLetters? := none }

/-- Sets options and arguments, or shows all variables. -/
def set : Builtin := fun words => do
  if words = [] then print (shown "" (fun _ => true) (← process))
  else
    let (_, rest, all) ← Settings.turnAll false (words.length + 1) words
    Settings.giveUpControl
    if rest ≠ [] ∨ all then setArguments rest
  return 0

def shift : Builtin := fun words => do
  let count ← match words with
    | [] => pure 1
    | word :: _ => number word
  let arguments := (← process).arguments
  if count > arguments.length then failWith "can't shift that many"
  else
    setArguments (arguments.drop count)
    return 0

/-- What the search for the next option finds. -/
structure Found where
  letter : Char
  /-- The value of the option; nothing takes it away. -/
  value? : Option Octets
  complaint : Octets
  isEnd : Bool
  /-- The word in which the search goes on, and the letters that are left of the word before. -/
  word : Nat
  left : Option Octets

/-- Looks for an option among the letters that may be options, from the word with a number on.
`left` holds letters of the word before that have not been passed. -/
def nextOption (known : Octets) (words : List Octets) (word : Nat) (left : Octets) : Found :=
  let isQuiet := known.head? == some ':'
  let read (word : Nat) (c : Char) (rest : Octets) : Found :=
    let left : Option Octets := some rest
    match (if isQuiet then known.drop 1 else known).dropWhile (· != c) with
    | [] =>
      if isQuiet then ⟨'?', some [c], [], false, word, left⟩
      else ⟨'?', none, s!"Illegal option -{(Octets.text [c])}\n".toList, false, word, left⟩
    | _ :: ':' :: _ =>
      if rest ≠ [] then ⟨c, some rest, [], false, word, none⟩
      else
        match words[word - 1]? with
        | some value => ⟨c, some value, [], false, word + 1, none⟩
        | none =>
          if isQuiet then ⟨':', some [c], [], false, word, none⟩
          else
            let said := s!"No arg for -{(Octets.text [c])} option\n".toList
            ⟨'?', none, said, false, word, none⟩
    | _ => ⟨c, some [], [], false, word, left⟩
  match left with
  | c :: rest => read word c rest
  | [] =>
    match words[word - 1]? with
    | some ['-', '-'] => ⟨'?', some [], [], true, word + 1, none⟩
    | some ('-' :: c :: rest) => read (word + 1) c rest
    | _ => ⟨'?', some [], [], true, word, none⟩

def getOption : Builtin := fun words => do
  match words with
  | known :: name :: others =>
    let p ← process
    let words := if others = [] then p.arguments else others
    let isBeyond := p.optionWord > words.length + 1
    let word := if isBeyond then 1 else max 1 p.optionWord
    let left : Octets :=
      match if isBeyond ∨ word ≤ 1 then none else p.passedLetters? with
      | some passed => (words[word - 2]?.getD []).drop passed
      | none => []
    let found := nextOption known words word left
    write 2 found.complaint
    if !found.isEnd then assign "OPTARG".toList found.value?
    onProcess fun p =>
      let size := (words[found.word - 2]?.getD []).length
      { p.setValue Process.optionVariable (some (toString found.word).toList) with
        optionWord := found.word
        passedLetters? := found.left.map fun left => size - left.length }
    assign name (some [found.letter])
    return if found.isEnd then 1 else 0
  | _ => failWith "Usage: getopts optstring var [arg...]"

end Builtin
end BatchFormat.Shell
