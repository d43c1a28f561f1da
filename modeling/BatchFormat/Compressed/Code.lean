import BatchFormat.Compressed.Flow
import BatchFormat.Number.Power

/-!
# Prefix codes

A code is given by the lengths of its words alone: shorter words come first, words of one length
come in the order of what they stand for, and each is the number after the one before.
-/
namespace BatchFormat.Compressed

/-- How many words of each length there are, from one bit on, and what the words stand for, in
their order. -/
structure Code where
  counts : List Nat
  symbols : Array Nat
  deriving DecidableEq, Repr

namespace Code

def lengthLimit : Nat := 15

def lengths : List Nat := (List.range lengthLimit).map (· + 1)

/-- The code whose words have the given lengths, in the order of what they stand for. What has the
length zero has no word. -/
def ofLengths (given : List Nat) : Code :=
  let numbered := given.zipIdx
  let ofLength (n : Nat) : List Nat := (numbered.filter fun p => p.1 = n).map Prod.snd
  ⟨lengths.map fun n => given.count n, (lengths.flatMap ofLength).toArray⟩

/-- How many words of the greatest length are still free, none if there are too many words. -/
def free (c : Code) : Option Nat :=
  c.counts.foldlM (fun left count => if count ≤ 2 * left then some (2 * left - count) else none) 1

/-- Whether all words have one bit. -/
def isSingle (c : Code) : Bool := c.symbols.size = c.counts.headD 0

/-- Whether a code can be used: it has no words, or all that fit; a single word of one bit is
allowed if `lone` is set. -/
def isUsable (c : Code) (lone : Bool) : Bool :=
  match c.free with
  | none => false
  | some left => left = 0 || c.symbols.isEmpty || (lone && c.isSingle)

/-- Reads a word from where `word` was read of it: `first` is the first word of that length and
`index` the number of shorter words. -/
def readFrom (c : Code) : (counts : List Nat) → (word first index : Nat) → Unpacking Nat
  | [], _, _, _ => Unpacking.corrupt
  | count :: counts, word, first, index => do
    let word := 2 * word + (← Unpacking.bit).toNat
    let first := 2 * first
    if first ≤ word ∧ word < first + count then
      match c.symbols[index + (word - first)]? with
      | some symbol => return symbol
      | none => Unpacking.corrupt
    else readFrom c counts word (first + count) (index + count)

def read (c : Code) : Unpacking Nat := c.readFrom c.counts 0 0 0

end Code
end BatchFormat.Compressed
