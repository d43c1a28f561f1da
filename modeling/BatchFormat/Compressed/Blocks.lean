import BatchFormat.Compressed.Code

/-!
# Packed blocks

A row of blocks, the last one marked. A block holds bytes as they are, or words of two codes: one
for bytes and for the lengths of what is repeated, the other for how far back that lies. The codes
are standing ones, or stand themselves at the head of the block.
-/
namespace BatchFormat.Compressed.Unpacking

/-- A number that a word stands for: the least one, and the count of bits added to it. -/
abbrev Row := List (Nat × Nat)

/-- The rows of numbers where `step` words in a row take the same count of bits, one bit more each
time. -/
def steps (step : Nat) : (least : Nat) → (counts : List Nat) → Row
  | _, [] => []
  | least, count :: counts =>
    (List.range step).map (fun i => (least + i * twoTo count, count))
      ++ steps step (least + step * twoTo count) counts

/-- How much is repeated. The last length has a word of its own. -/
def lengthRow : Row :=
  steps 4 3 [0, 0, 1, 2, 3, 4, 5] ++ [(258, 0)]

def distanceRow : Row :=
  steps 2 1 [0, 0, 1, 2, 3, 4, 5, 6, 7, 8, 9, 10, 11, 12, 13]

def endWord : Nat := 256

/-- The number that a word of a row stands for, with the bits that follow it. -/
def pick (row : Row) (word : Nat) : Unpacking Nat := do
  match row[word]? with
  | some (least, count) => return least + (← bits count)
  | none => corrupt

/-- Reads the words of a block; `limit` bounds their number. -/
def words (literal distance : Code) : (limit : Nat) → Unpacking Unit
  | 0 => corrupt
  | limit + 1 => do
    let word ← literal.read
    if word = endWord then return
    else if word < endWord then
      put (UInt8.ofNat word)
      words literal distance limit
    else
      let length ← pick lengthRow (word - endWord - 1)
      let back ← pick distanceRow (← distance.read)
      copyBack back length
      words literal distance limit

def standingLiteral : Code :=
  .ofLengths (List.replicate 144 8 ++ List.replicate 112 9 ++ List.replicate 24 7
    ++ List.replicate 8 8)

def standingDistance : Code := .ofLengths (List.replicate 32 5)

/-- The order in which the lengths of words for lengths are given. -/
def lengthOrder : List Nat :=
  [16, 17, 18, 0, 8, 7, 9, 6, 10, 5, 11, 4, 12, 3, 13, 2, 14, 1, 15]

def numbers (width : Nat) : (count : Nat) → Unpacking (List Nat)
  | 0 => return []
  | count + 1 => do
    let n ← bits width
    return n :: (← numbers width count)

/-- The lengths of words, with those read so far, the last one first, up to `total` in number. A
length can be repeated; `limit` bounds the number of words read. -/
def wordLengths (code : Code) (total : Nat) : (limit : Nat) → List Nat → Unpacking (List Nat)
  | 0, _ => corrupt
  | limit + 1, before => do
    if before.length = total then return before.reverse
    let word ← code.read
    let (value?, count) ←
      if word < 16 then pure (some word, 1)
      else if word = 16 then pure (before.head?, 3 + (← bits 2))
      else if word = 17 then pure (some 0, 3 + (← bits 3))
      else pure (some 0, 11 + (← bits 7))
    match value? with
    | none => corrupt
    | some value =>
      if total < before.length + count then corrupt
      else wordLengths code total limit (List.replicate count value ++ before)

def codes : Unpacking (Code × Code) := do
  let literals := 257 + (← bits 5)
  let distances := 1 + (← bits 5)
  let given := 4 + (← bits 4)
  if literals > 286 ∨ distances > 30 then corrupt
  let widths ← numbers 3 given
  let named := lengthOrder.zip widths
  let code := Code.ofLengths ((List.range 19).map fun i => (named.lookup i).getD 0)
  if !code.isUsable false then corrupt
  let all ← wordLengths code (literals + distances) (literals + distances + 1) []
  if all[endWord]?.getD 0 = 0 then corrupt
  let literal := Code.ofLengths (all.take literals)
  let distance := Code.ofLengths (all.drop literals)
  if literal.isUsable true && distance.isUsable true then return (literal, distance) else corrupt

def plainBytes : (count : Nat) → Unpacking Unit
  | 0 => return
  | count + 1 => do
    put (← byte)
    plainBytes count

/-- One block, and whether it is the last. -/
def block (limit : Nat) : Unpacking Bool := do
  let isLast ← bit
  match ← bits 2 with
  | 0 =>
    let length ← number 2
    let check ← number 2
    if length + check ≠ 0xFFFF then corrupt
    plainBytes length
  | 1 => words standingLiteral standingDistance limit
  | 2 =>
    let (literal, distance) ← codes
    words literal distance limit
  | _ => corrupt
  return isLast

/-- All blocks; `limit` bounds their number and that of the words in each. -/
def blocks (limit : Nat) : (count : Nat) → Unpacking Unit
  | 0 => corrupt
  | count + 1 => do
    if ← block limit then return
    blocks limit count

end BatchFormat.Compressed.Unpacking
