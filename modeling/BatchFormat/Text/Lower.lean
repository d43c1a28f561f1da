import BatchFormat.Text.CaseTable

/-!
# Lower case

Full lower-casing of text. Every character has a form of its own, except the capital sigma, which
looks at its neighbours: it becomes the final form at the end of a word.
-/
namespace BatchFormat.Text

/-- The partner given by the runs, or the number itself. -/
def partnerCode : List CaseRun → Nat → Nat
  | [], n => n
  | run :: rest, n =>
    if n < run.first then n
    else if n ≤ run.last ∧ (n - run.first) % run.stride = 0 then run.partner + (n - run.first)
    else partnerCode rest n

/-- The lower-case form of one character away from any context. The dotted capital I keeps its dot
as a character of its own. -/
def lowerChar (c : Char) : List Char :=
  if c = 'İ' then ['i', '\u0307'] else [Char.ofNat (partnerCode lowerRuns c.toNat)]

def isIgnorable (c : Char) : Bool := ignorableRanges.contains c.toNat

def isCased (c : Char) : Bool := casedRanges.contains c.toNat

/-- Whether the first character that separates words here is a letter with case. -/
def meetsCased (cs : List Char) : Bool :=
  match cs.find? fun c => !isIgnorable c with
  | some c => isCased c
  | none => false

/-- The form of a capital sigma between what stands before it, nearest first, and after it. -/
def lowerSigma (before after : List Char) : Char :=
  if meetsCased before && !meetsCased after then 'ς' else 'σ'

/-- Lower-cases a text, knowing the characters before it, nearest first. -/
def lowerFrom : List Char → List Char → List Char
  | _, [] => []
  | before, c :: after =>
    (if c = 'Σ' then [lowerSigma before after] else lowerChar c) ++ lowerFrom (c :: before) after

def lower (s : String) : String := String.ofList (lowerFrom [] s.toList)

end BatchFormat.Text
