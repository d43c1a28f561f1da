import BatchFormat.Text.Utf8

/-!
# Octets

Bytes written as characters below 256, so that programs that work byte by byte can be described with
character literals.
-/
namespace BatchFormat

/-- Characters that stand for one byte each. -/
abbrev Octets := List Char

namespace Octets

def ofBytes (bytes : Text.Bytes) : Octets := bytes.map fun b => Char.ofNat b.toNat

def bytes (cs : Octets) : Text.Bytes := cs.map fun c => UInt8.ofNat c.toNat

def ofString (s : String) : Octets := ofBytes (Text.encode s)

/-- The text that octets stand for; what is not UTF-8 is replaced. -/
def text (cs : Octets) : String := Text.decodeLenient cs.bytes

def isBlank (c : Char) : Bool := c = ' ' || c = '\t'

def isSpace (c : Char) : Bool := c = ' ' || ('\t' ≤ c && c ≤ '\r')

end Octets
end BatchFormat
