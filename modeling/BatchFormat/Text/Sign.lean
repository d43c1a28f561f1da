import BatchFormat.Text.Letter
import BatchFormat.Text.Octets

/-!
# Signs

Octets read as text in UTF-8 by a tool that must not lose any of them. A sign is a character, or a
single byte that belongs to none, so that the octets can be written again from the signs.
-/
namespace BatchFormat

/-- A character, or a byte that belongs to no character. Where text is counted in bytes, a character
takes as many places as it has bytes, all but the first of which are inner ones. -/
inductive Sign where
  | char (c : Char)
  | stray (octet : Char)
  | inner
  deriving DecidableEq, Repr

namespace Sign

/-- The sign at the head of octets, and how many octets more it is made of. -/
def atHead (octet : Char) (rest : Octets) : Sign × Nat :=
  if octet.toNat < 0x80 then (.char octet, 0)
  else
    match Text.head (Octets.bytes (octet :: rest.take 3)) with
    | .char c _ => (.char c, c.utf8Size - 1)
    | _ => (.stray octet, 0)

/-- The signs of octets, behind those already read, which come last first. -/
def readFrom (read : List Sign) : Octets → List Sign
  | [] => read.reverse
  | octet :: rest =>
    let (sign, more) := atHead octet rest
    readFrom (sign :: read) (rest.drop more)
termination_by cs => cs.length
decreasing_by
  simp only [List.length_drop, List.length_cons]
  omega

def ofOctets (cs : Octets) : List Sign := readFrom [] cs

def octets : Sign → Octets
  | char c => if c.toNat < 0x80 then [c] else .ofBytes (Text.encodeChar c)
  | stray octet => [octet]
  | inner => []

def write (signs : List Sign) : Octets := signs.flatMap octets

/-- The number of bytes of a sign. -/
def size : Sign → Nat
  | char c => c.utf8Size
  | stray _ => 1
  | inner => 0

/-- The signs of octets, one place for each byte. -/
def spread (cs : Octets) : List Sign :=
  (ofOctets cs).flatMap fun s => s :: List.replicate (s.size - 1) inner

/-- Whether a sign is a character that passes a test. -/
def fits (test : Char → Bool) : Sign → Bool
  | char c => test c
  | stray _ | inner => false

/-- Changes a sign if it is a character. -/
def map (change : Char → Char) : Sign → Sign
  | char c => char (change c)
  | stray octet => stray octet
  | inner => inner

/-- Whether a sign is a letter, a digit or an underscore. -/
def isWord (s : Sign) : Bool := s.fits fun c => c = '_' || Text.Letter.isAlphanumeric c

def isNewline (s : Sign) : Bool := s == .char '\n'

def isStray : Sign → Bool
  | stray _ => true
  | _ => false

/-- The place of a sign in the order of characters; stray bytes follow all characters. -/
def rank : Sign → Nat
  | char c => c.toNat
  | stray octet => 0x110000 + octet.toNat
  | inner => 0x110000

end Sign
end BatchFormat
