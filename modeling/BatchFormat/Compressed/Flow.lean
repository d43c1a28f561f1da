import BatchFormat.Text.Utf8

/-!
# Unpacking

The bits of packed bytes are taken one after the other, in each byte the lowest one first. What is
unpacked so far can be referred back to. Unpacking stops where the bytes end, and what was unpacked
up to there still counts; or it finds that the bytes are corrupt.
-/
namespace BatchFormat.Compressed

open Text (Bytes)

/-- The bits left of the byte in use, the bytes after it, and what is unpacked. -/
structure Flow where
  pending : List Bool
  rest : Bytes
  out : Array UInt8

inductive Stop where
  | ended (out : Array UInt8)
  | corrupt
  deriving DecidableEq, Repr

abbrev Unpacking := StateT Flow (Except Stop)

namespace Unpacking

def corrupt {α : Type} : Unpacking α := throw .corrupt

/-- The bits of a byte, the lowest one first. -/
def bitsOf (b : UInt8) : List Bool := (List.range 8).map b.toNat.testBit

def bit : Unpacking Bool := do
  let f ← get
  match f.pending, f.rest with
  | b :: pending, _ =>
    set { f with pending := pending }
    return b
  | [], byte :: rest =>
    set { f with pending := (bitsOf byte).drop 1, rest := rest }
    return byte.toNat.testBit 0
  | [], [] => throw (.ended f.out)

/-- A number of so many bits, the lowest one first. -/
def bits : (count : Nat) → Unpacking Nat
  | 0 => return 0
  | count + 1 => do
    let low ← bit
    let high ← bits count
    return low.toNat + 2 * high

/-- A whole byte; what is left of the byte in use is dropped. -/
def byte : Unpacking UInt8 := do
  let f ← get
  match f.rest with
  | b :: rest =>
    set { f with pending := [], rest := rest }
    return b
  | [] => throw (.ended f.out)

/-- A number of so many bytes, the lowest one first. -/
def number : (count : Nat) → Unpacking Nat
  | 0 => return 0
  | count + 1 => do
    let low ← byte
    let high ← number count
    return low.toNat + 0x100 * high

def put (b : UInt8) : Unpacking Unit := modify fun f => { f with out := f.out.push b }

/-- Repeats what was unpacked so many bytes ago, byte by byte. -/
def copyBack (distance : Nat) : (count : Nat) → Unpacking Unit
  | 0 => return
  | count + 1 => do
    let f ← get
    if distance = 0 ∨ f.out.size < distance then corrupt
    match f.out[f.out.size - distance]? with
    | some b => put b
    | none => corrupt
    copyBack distance count

end Unpacking
end BatchFormat.Compressed
