import BatchFormat.Shell.Builtin.Basic

/-!
# Names

Commands that give names to values and texts, and take them away.
-/
namespace BatchFormat.Shell.Builtin

open Run

/-- The lines that show variables in the order of their names; those without a value are shown as
well if there is a word in front. -/
def shown (front : String) (isShown : Variable → Bool) (p : Process) : Octets :=
  let chosen := (p.bindings.filter fun v => isShown v.2 && (front != "" || v.2.value?.isSome))
    |>.mergeSort fun a b => !decide (b.1 < a.1)
  chosen.flatMap fun (name, v) =>
    let value : Octets :=
      match v.value? with
      | some value => '=' :: quoted value
      | none => []
    (if front = "" then [] else front.toList ++ [' ']) ++ name ++ value ++ ['\n']

/-- The name and the value that a word gives to it. -/
def assigned (word : Octets) : Octets × Option Octets :=
  match word.span (· != '=') with
  | (name, _ :: value) => (name, some value)
  | (name, []) => (name, none)

/-- Whether the first option that words begin with is a certain one; the words behind it do not
count then. -/
def leads (letter : Char) (words : List Octets) : Bool :=
  (words.head?.map (·.take 2)) == some ['-', letter]

/-- Marks variables, which may get values as well. -/
def mark (front : String) (isMarked : Variable → Bool) (set : Variable → Variable) : Builtin :=
  fun words => do
    let words ← if leads 'p' words then pure [] else operands words
    if words = [] then
      print (shown front isMarked (← process))
      return 0
    else
      words.forM fun word => do
        let (name, value?) := assigned word
        let p ← process
        match p.binding? name, value? with
        | some v, none => onProcess fun p => p.putVariable name (some (set v))
        | _, _ =>
          assign name value?
          onProcess fun p =>
            p.putVariable name (some (set ((p.binding? name).getD ⟨none, false, false⟩)))
      return 0

def passOn : Builtin := mark "export" Variable.isPassedOn fun v => { v with isPassedOn := true }

def fix : Builtin := mark "readonly" Variable.isFixed fun v => { v with isFixed := true }

/-- Makes a name local, with its value or another one; `isPassedOn` tells whether programs get it.
That it is a name is seen only if it gets no value. -/
def localize (isPassedOn : Bool) (name : Octets) (value? : Option Octets) : Run Unit := do
  if value?.isNone && !Word.isName name then fail (name ++ ": bad variable name".toList)
  else
    let p ← process
    let v? := p.binding? name
    onProcess fun p => p.remember (.named name v?)
    match value? with
    | some _ =>
      if Word.isName name then assign name value?
      else onProcess fun p => p.setValue name value?
    | none =>
      if v?.isNone then onProcess fun p => p.putVariable name (some ⟨none, false, false⟩)
    if isPassedOn then
      onProcess fun p =>
        p.putVariable name ((p.binding? name).map fun v => { v with isPassedOn := true })

def makeLocal : Builtin := fun words => do
  if (← process).scopes.isEmpty then failWith "not in a function"
  else
    words.forM fun word => do
      if word = ['-'] then onProcess fun p => p.remember (.options p.options)
      else
        let (name, value?) := assigned word
        localize false name value?
    return 0

/-- Takes away variables, or functions. -/
def unset : Builtin := fun words => do
  let (found, names) ← options "vf" "" words
  let isFunction := (found.getLast?.map Prod.fst) == some 'f'
  names.forM fun name => do
    if isFunction then
      onProcess fun p => { p with functions := p.functions.filter fun f => f.1 != name }
    else assign name none
  return 0

def shownAlias (name text : Octets) : Octets := name ++ '=' :: quoted text ++ ['\n']

/-- Makes names stand for other text, or shows what they stand for. -/
def setAlias : Builtin := fun words => do
  if words = [] then
    let aliases := (← process).aliases.reverse.mergeSort fun a b =>
      Process.tablePlace a.1 ≤ Process.tablePlace b.1
    print (aliases.flatMap fun a => shownAlias a.1 a.2)
    return 0
  else
    let statuses ← words.mapM fun word => do
      match word.drop 1 |>.span (· != '=') with
      | (rest, _ :: text) =>
        let name := word.take 1 ++ rest
        onProcess fun p =>
          let isKnown := p.aliases.any fun a => a.1 == name
          { p with aliases :=
            if isKnown then p.aliases.map fun a => if a.1 = name then (name, text) else a
            else (name, text) :: p.aliases }
        return 0
      | (_, []) =>
        match (← process).aliases.lookup word with
        | some text => print (shownAlias word text); return 0
        | none => write 2 ("alias: ".toList ++ word ++ " not found\n".toList); return 1
    return statuses.foldl max 0

/-- Makes names stand for nothing else any more. Nothing behind the option for all of them is
looked at. -/
def dropAlias : Builtin := fun words => do
  if leads 'a' words then
    onProcess fun p => { p with aliases := [] }
    return 0
  else
    let names ← operands words
    let statuses ← names.mapM fun name => do
      if ((← process).aliases.lookup name).isSome then
        onProcess fun p => { p with aliases := p.aliases.filter fun a => a.1 != name }
        return 0
      else
        write 2 ("unalias: ".toList ++ name ++ " not found\n".toList)
        return 1
    return statuses.foldl max 0

def readLine : Builtin := fun words => do
  let (found, names) ← options "r" "p" words
  if names = [] then failWith "arg count"
  else
    let s ← get
    if (s.process.table.lookup 0).isNone then
      names.forM fun name => assign name (some [])
      return 1
    else
      let (line, rest?) := inputLine (found.has 'r') s.input
      modify fun s => s.leaveInput (rest?.getD [])
      let fields := s.process.separators.divide names.length (.edge false :: line)
      (names.zipIdx).forM fun (name, i) => assign name (some (fields[i]?.getD []))
      return if rest?.isSome then 0 else 1

end BatchFormat.Shell.Builtin
