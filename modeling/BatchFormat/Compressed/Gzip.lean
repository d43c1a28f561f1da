import BatchFormat.Compressed.Blocks

/-!
# Packed files

A packed file is a row of members, each with a head, packed blocks, and a checksum. What follows
the members is ignored. A file that ends too early holds what could be unpacked up to its end.
-/
namespace BatchFormat.Compressed

open Text (Bytes)

/-- One step of the checksum: the lowest bit decides whether the polynomial is added. -/
def shiftCheck (n : UInt32) : UInt32 :=
  if n &&& 1 = 1 then (n >>> 1) ^^^ 0xEDB88320 else n >>> 1

def addByte (n : UInt32) (b : UInt8) : UInt32 :=
  (List.range 8).foldl (fun n _ => shiftCheck n) (n ^^^ b.toUInt32)

def checksum (bytes : Array UInt8) : UInt32 := (bytes.foldl addByte 0xFFFFFFFF) ^^^ 0xFFFFFFFF

/-- The bytes that a packed file begins with. -/
def mark : Bytes := [0x1F, 0x8B]

def isPacked (bytes : Bytes) : Bool := mark.isPrefixOf bytes

namespace Unpacking

def skip : (count : Nat) → Unpacking Unit
  | 0 => return
  | count + 1 => do
    let _ ← byte
    skip count

/-- Skips bytes up to a zero; `limit` bounds their number. -/
def skipText : (limit : Nat) → Unpacking Unit
  | 0 => corrupt
  | limit + 1 => do
    if (← byte) = 0 then return
    skipText limit

def knownMethod : UInt8 := 8

/-- The head of a member, from its mark on. -/
def memberHead (limit : Nat) : Unpacking Unit := do
  let whole := (← get).rest
  skip mark.length
  let method ← byte
  let flags ← byte
  if method != knownMethod || flags &&& 0xE0 != 0 then corrupt
  skip 6
  if flags &&& 4 != 0 then skip (← number 2)
  if flags &&& 8 != 0 then skipText limit
  if flags &&& 16 != 0 then skipText limit
  if flags &&& 2 != 0 then
    let head := whole.take (whole.length - (← get).rest.length)
    if (← number 2) != (checksum head.toArray).toNat % 0x10000 then corrupt

/-- One member: its head, its blocks, and what they must amount to. -/
def member (limit : Nat) : Unpacking Unit := do
  memberHead limit
  blocks limit limit
  let out := (← get).out
  if (← number 4) != (checksum out).toNat then corrupt
  if (← number 4) != out.size % 0x100000000 then corrupt

end Unpacking

/-- The bytes of all members, each with a limit for what can be in it; nothing if they are
corrupt. -/
def unpackAll (limit : Nat) : (members : Nat) → Array UInt8 → Bytes → Option (Array UInt8)
  | 0, done, _ => some done
  | members + 1, done, bytes =>
    if isPacked bytes then
      match (Unpacking.member limit).run ⟨[], bytes, #[]⟩ with
      | .ok (_, f) => unpackAll limit members (done ++ f.out) f.rest
      | .error (.ended out) => some (done ++ out)
      | .error .corrupt => none
    else some done

/-- The bytes that a file holds: those of the file, unpacked if they are packed. -/
def contents (bytes : Bytes) : Option Bytes :=
  if isPacked bytes then
    (unpackAll (8 * bytes.length + 1) (bytes.length + 1) #[] bytes).map Array.toList
  else some bytes

end BatchFormat.Compressed
