import BatchFormat.Path
import BatchFormat.Text.Utf8

/-!
# Addresses of files

A path that begins like the address of a file on this machine is taken for one: it leads from the
top, and characters in it can be given by number.
-/
namespace BatchFormat.Address

def hexValue? (c : Char) : Option Nat :=
  if c.isDigit then some (c.toNat - '0'.toNat)
  else if 'a' ≤ c ∧ c ≤ 'f' then some (c.toNat - 'a'.toNat + 10)
  else if 'A' ≤ c ∧ c ≤ 'F' then some (c.toNat - 'A'.toNat + 10)
  else none

/-- The bytes of a text in which a percent sign and two hexadecimal digits stand for one byte. -/
def unescape : List Char → Text.Bytes
  | '%' :: a :: b :: rest =>
    match hexValue? a, hexValue? b with
    | some high, some low => UInt8.ofNat (16 * high + low) :: unescape rest
    | _, _ => Text.encodeChar '%' ++ unescape (a :: b :: rest)
  | c :: rest => Text.encodeChar c ++ unescape rest
  | [] => []

/-- The word that an address of a file begins with. -/
def scheme : String := "file:"

/-- The path that an address stands for; nothing if a path is no address. -/
def target? (p : Path) : Option Path :=
  match p.anchor, p.parts with
  | .relative, first :: second :: rest =>
    if String.ofList (first.toList.map Char.toLower) = scheme then
      let written := "/" ++ String.intercalate "/" (second :: rest)
      some (Path.ofString (Text.decodeLenient (unescape written.toList)))
    else none
  | _, _ => none

/-- The path at which something is found. -/
def resolve (p : Path) : Path := (target? p).getD p

end BatchFormat.Address
