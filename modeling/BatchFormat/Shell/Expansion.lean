import BatchFormat.Engine.Home
import BatchFormat.Shell.Field
import BatchFormat.Shell.Flow
import BatchFormat.Shell.Sum

/-!
# Expansion

What words stand for: parameters, substitutions, sums, home directories and file names.
-/
namespace BatchFormat.Shell

namespace Process

def separators (p : Process) : Separators := (p.valueOf? "IFS".toList).getD Separators.standard

/-- The arguments in one text, with the first separator between them. -/
def joinedArguments (p : Process) : Octets :=
  ((p.separators).take 1).intercalate p.arguments

/-- The letters of the options in the order in which they are shown. -/
def shownOptions : List Char := "pubaCEVvxsnmiIfe".toList

/-- The value of a parameter, if it is set. -/
def parameter? (p : Process) (name : Octets) : Option Octets :=
  match name with
  | ['?'] => some (toString p.status).toList
  | ['$'] => some (toString p.root).toList
  | ['#'] => some (toString p.arguments.length).toList
  | ['-'] => some (shownOptions.filter p.has)
  | ['!'] => p.latestJob?.map fun n => (toString n).toList
  | ['*'] | ['@'] => some p.joinedArguments
  | c :: _ =>
    if c.isDigit then
      match ((String.ofList name).toNat?).getD 0 with
      | 0 => some p.title
      | n + 1 => p.arguments[n]?
    else p.valueOf? name
  | [] => none

def homeOf? (p : Process) (account : Octets) : Option Octets :=
  if account = [] then p.valueOf? Host.homeVariable.toList
  else (standardAccounts.lookup (String.ofList account)).map String.toList

end Process

/-- Cuts the shortest or longest piece off an end of a text that fits a pattern. -/
def cutOff (atEnd longest : Bool) (pattern : List Marked) (cs : Octets) : Octets :=
  let sizes := List.range (cs.length + 1)
  let sizes := if longest then sizes.reverse else sizes
  let fits (size : Nat) : Bool :=
    Pattern.fits pattern (if atEnd then cs.drop (cs.length - size) else cs.take size)
  match sizes.find? fits with
  | none => cs
  | some size => if atEnd then cs.take (cs.length - size) else cs.drop size

/-- The paths that fit a pattern, name by name. -/
def pathsFrom (t : Tree) (here : Location) : Octets → List (List Marked) → List Octets
  | before, [] => [before]
  | before, pattern :: patterns =>
    let into (name : Octets) : List Octets :=
      pathsFrom t here (before ++ name ++ (if patterns = [] then [] else ['/'])) patterns
    if !Pattern.isActive pattern then into ((Pattern.unescape pattern).map Prod.fst)
    else
      match Files.locate t here (if before = [] then ['.'] else before) with
      | .ok (.found place (.dir _)) =>
        let isHidden (name : Octets) : Bool := name.head? == some '.'
        let takesHidden := ((Pattern.unescape pattern).head?.map Prod.fst) == some '.'
        let names := [['.'], ['.', '.']] ++ (t.names place).map Octets.ofString
        (names.filter fun name =>
          (takesHidden || !isHidden name) && Pattern.fits pattern name).flatMap into
      | _ => []

/-- A field with its pattern replaced by the paths that fit it in their order, if any do. -/
def pathsOf (t : Tree) (here : Location) (field : List Marked) : List Octets :=
  let plain := field.map Prod.fst
  if !Pattern.isActive field then [plain]
  else
    let found := (pathsFrom t here [] (field.splitOnP fun m => m.1 = '/')).filter fun path =>
      match Files.locateSelf t here path with
      | .ok (.found _ _) => true
      | _ => false
    if found = [] then [plain] else found.mergeSort fun a b => !decide (b < a)

def withoutEnds (cs : Octets) : Octets := (cs.reverse.dropWhile (· == '\n')).reverse

/-- How a word is expanded. If it is divided, it may become any number of fields. In the value of
a variable, home directories may also stand behind colons. The plain text of a word within braces
may be divided. -/
structure Manner where
  isDivided : Bool
  isValue : Bool
  isInner : Bool

namespace Manner

def fields : Manner := ⟨true, false, false⟩

def text : Manner := ⟨false, false, false⟩

def value : Manner := ⟨false, true, false⟩

def inner (m : Manner) : Manner := { m with isInner := true }

def whole (m : Manner) : Manner := { m with isDivided := false }

end Manner

/-- Plain text that is not quoted as marks. -/
def Manner.bare (m : Manner) (cs : Octets) : List Mark :=
  if cs = [] then []
  else if m.isInner then .edge false :: cs.map .soft else cs.map (.char · false)

/-- Plain text with the home directories that it asks for; `atStart` tells whether one may stand at
its beginning, and `endsWord` whether the word ends with it. -/
def withHomes (p : Process) (m : Manner) (endsWord : Bool) :
    Nat → (atStart : Bool) → Octets → List Mark
  | 0, _, cs => m.bare cs
  | n + 1, atStart, cs =>
    let onward (cs : Octets) : List Mark :=
      match if m.isValue then cs.span (· != ':') else (cs, []) with
      | (front, ':' :: rest) => m.bare (front ++ [':']) ++ withHomes p m endsWord n true rest
      | _ => m.bare cs
    match atStart, cs with
    | true, '~' :: rest =>
      let (account, after) := rest.span fun c => c != '/' && !(m.isValue && c == ':')
      if after = [] ∧ !endsWord then onward cs
      else
        match p.homeOf? account with
        | some home => home.map (.char · true) ++ onward after
        | none => onward cs
    | _, _ => onward cs

/-- What the parameter for all arguments stands for where words are divided. -/
def argumentMarks (arguments : List Octets) (isQuoted : Bool) : List Mark :=
  if arguments = [] then []
  else
    let marks := arguments.map fun a => a.map fun c => if isQuoted then .char c true else .soft c
    .edge isQuoted :: List.intercalate [.gap] marks

namespace Run

/-- The text that commands print, without the line ends behind it. -/
def substitute (eval : Evaluator) (script : List Command) : Run Octets := do
  if script.isEmpty then return []
  else
    let status := (← process).status
    let (number, m) := (← machine).add (.sink [])
    onMachine fun _ => m
    apart eval do
      onProcess fun p => p.bind 1 number
      list eval .last script
    onProcess fun p => { p with substituted := p.status, status := status }
    follow eval
    onMachine fun m => m.waitUntil (m.keptUntil number)
    return withoutEnds (((← machine).collected number).filter (· != '\x00'))

def reckon (expression : Octets) : Run Int := do
  let p ← process
  let value (name : Octets) : Octets := (p.valueOf? name).getD []
  match (Sum.ofOctets expression).bind fun a => a.evaluate value [] with
  | .ok (a, assigned) =>
    assigned.reverse.forM fun e => assign e.1 (some (toString e.2).toList)
    return a
  | .error flaw => fail (flaw.message expression)

mutual

/-- The marks of a word, whose first part may begin with a home directory. -/
def expand (eval : Evaluator) : Nat → Manner → (atStart : Bool) → Word → Run (List Mark)
  | 0, _, _, _ => throw .late
  | _, _, _, [] => return []
  | n + 1, manner, atStart, .plain text false :: parts => do
    let ms := withHomes (← process) manner parts.isEmpty (text.length + 1) atStart text
    return ms ++ (← expand eval n manner false parts)
  | n + 1, manner, _, part :: parts => do
    let ms ← expandPart eval n manner part
    return ms ++ (← expand eval n manner false parts)

def expandPart (eval : Evaluator) : Nat → Manner → Part → Run (List Mark)
  | 0, _, _ => throw .late
  | n + 1, manner, part => do
    match part with
    | .plain text quoted => return if quoted then Mark.quotedText text else manner.bare text
    | .parameter name change quoted => expandParameter eval n manner name change quoted
    | .output script quoted => return Mark.ofValue quoted (← substitute eval script)
    | .number expression quoted =>
      let ms ← expand eval n .text false expression
      return Mark.ofValue quoted (toString (← reckon (Mark.text ms))).toList

def expandParameter (eval : Evaluator) : Nat → Manner → Octets → Change → Bool → Run (List Mark)
  | 0, _, _, _, _ => throw .late
  | n + 1, manner, name, change, quoted => do
    let p ← process
    let value? := p.parameter? name
    let value := value?.getD []
    let isSet (orEmpty : Bool) : Bool := value?.isSome && !(orEmpty && value == [])
    let isAll := name = ['@'] ∨ (name = ['*'] ∧ !quoted)
    let kept : List Mark :=
      if isAll ∧ manner.isDivided then argumentMarks p.arguments quoted
      else Mark.ofValue quoted value
    let shown : List Mark := if quoted then .quotation :: kept else kept
    let inner (word : Word) : Run (List Mark) := do
      let ms ← expand eval n manner.inner (!quoted) word
      return if quoted then .quotation :: ms else ms
    let demand : Run Unit := do
      if p.has 'u' && value?.isNone then fail (name ++ ": parameter not set".toList)
    match change with
    | .keep => demand; return kept
    | .length => demand; return Mark.ofValue quoted (toString value.length).toList
    | .ifUnset orEmpty word => if isSet orEmpty then return shown else inner word
    | .ifSet orEmpty word =>
      if isSet orEmpty then inner word else return Mark.ofValue quoted []
    | .assignUnset orEmpty word =>
      if isSet orEmpty then return shown
      else
        let ms ← expand eval n manner.whole (!quoted) word
        assign name (some (Mark.text ms))
        return Mark.ofValue quoted (Mark.text ms)
    | .failUnset orEmpty word =>
      if isSet orEmpty then return shown
      else
        let ms ← expand eval n manner.whole (!quoted) word
        let unset := if orEmpty then "parameter not set or null" else "parameter not set"
        let said := if word.isEmpty then unset.toList else Mark.text ms
        fail (name ++ ": ".toList ++ said)
    | .cut atEnd longest pattern =>
      demand
      let ms ← expand eval n manner.whole true pattern
      return Mark.ofValue quoted (cutOff atEnd longest (Mark.marked ms) value)
    | .senseless => failWith "Bad substitution"

end

/-- How deep words may lie within words. -/
def nesting : Nat := 100000

def textOf (eval : Evaluator) (manner : Manner) (word : Word) : Run Octets := do
  return Mark.text (← expand eval nesting manner true word)

def patternOf (eval : Evaluator) (word : Word) : Run (List Marked) := do
  return Mark.marked (← expand eval nesting .text true word)

def fieldsOf (eval : Evaluator) (word : Word) : Run (List Octets) := do
  let ms ← expand eval nesting .fields true word
  let s ← get
  let fields := s.process.separators.split ms
  if s.process.has 'f' then return fields.map fun field => field.map Prod.fst
  else return fields.flatMap (pathsOf s.machine.tree s.process.here)

end Run
end BatchFormat.Shell
