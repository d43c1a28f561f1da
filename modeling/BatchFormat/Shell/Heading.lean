import BatchFormat.Shell.Builtin.Search

/-!
# Headings

What the words of a simple command come to: its fields, and how the first of them is looked up. A
command that only passes on to another one is passed over.
-/
namespace BatchFormat.Shell

/-- The fields of a simple command, with those that were passed over in front. -/
structure Heading where
  passed : List Octets
  fields : List Octets
  /-- Whether functions may be meant, and whether only the usual directories are searched. -/
  takesFunctions : Bool
  isStandard : Bool
  isSpecial : Bool

namespace Heading

def written (h : Heading) : List Octets := h.passed ++ h.fields

/-- The command of the shell itself that is meant, if it is one. -/
def builtin? (h : Heading) (p : Process) : Option Octets :=
  h.fields.head?.filter fun word =>
    Builtin.isOne word && !(h.takesFunctions && (p.functions.lookup word).isSome)

end Heading

namespace Run

/-- Expands words until there are fields; returns them with the words that are left. -/
def firstFields (eval : Evaluator) : List Word → Run (List Octets × List Word)
  | [] => return ([], [])
  | word :: words => do
    let fields ← fieldsOf eval word
    if fields.isEmpty then firstFields eval words else return (fields, words)

/-- Expands words until there are more fields than a number, as far as there are words. -/
def fieldsBeyond (eval : Evaluator) (count : Nat) (fields : List Octets) (words : List Word) :
    Run (List Octets × List Word) := do
  if count < fields.length then return (fields, words)
  else
    let (more, words) ← firstFields eval words
    return (fields ++ more, words)

def passing : Octets := "command".toList

/-- Passes over the options of the command that passes on, the first `count` fields being passed
already. The result tells how many fields are passed over, none if they ask for something else, and
whether only the usual directories are searched. -/
def passOptions (eval : Evaluator) :
    Nat → (count : Nat) → (isStandard : Bool) → List Octets → List Word →
    Run (Option (Nat × Bool) × List Octets × List Word)
  | 0, _, _, fields, words => return (none, fields, words)
  | n + 1, count, isStandard, fields, words => do
    let (fields, words) ← fieldsBeyond eval count fields words
    match fields[count]? with
    | none => return (none, fields, words)
    | some ['-', '-'] =>
      let (fields, words) ← fieldsBeyond eval (count + 1) fields words
      let isThere := count + 1 < fields.length
      return (if isThere then some (count + 1, isStandard) else none, fields, words)
    | some ('-' :: c :: letters) =>
      if (c :: letters).all (· = 'p') then passOptions eval n (count + 1) true fields words
      else return (none, fields, words)
    | some _ => return (some (count, isStandard), fields, words)

def passOver (eval : Evaluator) : Nat → Heading → List Word → Run (Heading × List Word)
  | 0, h, words => return (h, words)
  | n + 1, h, words => do
    if h.builtin? (← process) != some passing then return (h, words)
    else
      let steps := h.fields.length + words.length + 64
      let (passed?, fields, words) ← passOptions eval steps 1 h.isStandard h.fields words
      match passed? with
      | none => return ({ h with fields }, words)
      | some (count, isStandard) =>
        let next : Heading :=
          ⟨h.passed ++ fields.take count, fields.drop count, false, isStandard, false⟩
        passOver eval n next words

/-- The fields of a word behind the name of a command, some of which take assignments. -/
def operandFields (eval : Evaluator) (isAssigning : Bool) (word : Word) : Run (List Octets) := do
  match if isAssigning then word.assignment? else none with
  | some (name, value) => return [name ++ '=' :: (← textOf eval .value value)]
  | none => fieldsOf eval word

def headingOf (eval : Evaluator) (words : List Word) : Run Heading := do
  let (fields, others) ← firstFields eval words
  let h : Heading := ⟨[], fields, true, false, false⟩
  let isSpecial := (h.builtin? (← process)).any Builtin.isSpecial
  let (h, others) ← passOver eval (words.length + fields.length + 1) { h with isSpecial } others
  let name? := h.builtin? (← process)
  let isAssigning := name?.any fun name => Builtin.assigning.contains (String.ofList name)
  let more ← others.mapM (operandFields eval isAssigning)
  return { h with fields := h.fields ++ more.flatten }

end Run
end BatchFormat.Shell
