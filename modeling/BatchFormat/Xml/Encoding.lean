import BatchFormat.Text.Utf8
import BatchFormat.Xml.Name

/-!
# From bytes to the characters of a document

A mark at the head of the bytes decides the encoding; without one, the declaration at the head of
the document names it, and UTF-8 is taken for granted otherwise.
-/
namespace BatchFormat.Xml

open Text (Bytes)

inductive Encoding where
  | utf8 | wide (littleEndian : Bool) | latin1 | ascii | windows1252
  deriving DecidableEq, Repr

namespace Encoding

/-- The units of 16 bits in bytes; an odd byte at the end is no unit. -/
def units (littleEndian : Bool) : Bytes → Option (List Nat)
  | [] => some []
  | [_] => none
  | a :: b :: rest =>
    let unit := if littleEndian then b.toNat * 0x100 + a.toNat else a.toNat * 0x100 + b.toNat
    (units littleEndian rest).map (unit :: ·)

/-- Joins surrogates; one alone is no character. -/
def joinUnits : List Nat → Option (List Nat)
  | [] => some []
  | high :: low :: rest =>
    if 0xD800 ≤ high ∧ high < 0xDC00 then
      if 0xDC00 ≤ low ∧ low < 0xE000 then
        (joinUnits rest).map ((0x10000 + (high - 0xD800) * 0x400 + (low - 0xDC00)) :: ·)
      else none
    else if 0xDC00 ≤ high ∧ high < 0xE000 then none
    else (joinUnits (low :: rest)).map (high :: ·)
  | [last] => if 0xD800 ≤ last ∧ last < 0xE000 then none else some [last]

/-- The characters of the bytes 80 to 9F in the Windows encoding; zero where there is none. -/
def windowsRow : List Nat :=
  [0x20AC, 0, 0x201A, 0x0192, 0x201E, 0x2026, 0x2020, 0x2021, 0x02C6, 0x2030, 0x0160, 0x2039,
    0x0152, 0, 0x017D, 0, 0, 0x2018, 0x2019, 0x201C, 0x201D, 0x2022, 0x2013, 0x2014, 0x02DC,
    0x2122, 0x0161, 0x203A, 0x0153, 0, 0x017E, 0x0178]

def windowsCode (b : UInt8) : Option Nat :=
  if 0x80 ≤ b ∧ b < 0xA0 then
    match windowsRow[b.toNat - 0x80]? with
    | some code => if code = 0 then none else some code
    | none => none
  else some b.toNat

def codes (e : Encoding) (bytes : Bytes) : Option (List Nat) :=
  match e with
  | utf8 =>
    match Text.decode bytes with
    | .ok text => some (text.toList.map Char.toNat)
    | .error _ => none
  | wide littleEndian => units littleEndian bytes >>= joinUnits
  | latin1 => some (bytes.map UInt8.toNat)
  | ascii => if bytes.all (· < 0x80) then some (bytes.map UInt8.toNat) else none
  | windows1252 => bytes.mapM windowsCode

/-- Names of encodings in lower case. A name of UTF-16 is no help where its order of bytes does not
show already, so none is known here. -/
def names : List (String × Encoding) :=
  ["utf-8", "utf8"].map (·, utf8)
    ++ ["iso-8859-1", "iso-latin-1", "iso_8859-1", "iso8859-1", "iso-ir-100", "cp819", "ibm819",
      "latin1", "l1", "csisolatin1"].map (·, latin1)
    ++ ["us-ascii", "ascii", "iso646-us", "iso-ir-6", "ansi_x3.4-1968", "ansi_x3.4-1986", "cp367",
      "ibm367", "us", "csascii"].map (·, ascii)
    ++ ["windows-1252", "cp1252", "ms-ansi"].map (·, windows1252)

/-- The names, in lower case, that a document may declare although its encoding shows already. -/
def expectedNames : Encoding → List String
  | utf8 => ["utf-8", "utf8"]
  | wide true => ["utf-16", "utf-16le", "utf16"]
  | wide false => ["utf-16", "utf-16be", "utf16"]
  | _ => []

/-- The encoding that a mark at the head of the bytes shows, and the bytes after the mark. -/
def ofMark : Bytes → Option (Encoding × Bytes)
  | 0xEF :: 0xBB :: 0xBF :: rest => some (utf8, rest)
  | 0xFF :: 0xFE :: rest => some (wide true, rest)
  | 0xFE :: 0xFF :: rest => some (wide false, rest)
  | _ => none

def ofBeginning (bytes : Bytes) : Option Encoding :=
  if [0x3C, 0x00, 0x3F, 0x00].isPrefixOf bytes then some (wide true)
  else if [0x00, 0x3C, 0x00, 0x3F].isPrefixOf bytes then some (wide false)
  else none

end Encoding

structure Declaration where
  isPlainVersion : Bool
  encoding? : Option String
  standalone : Bool
  deriving DecidableEq, Repr

namespace Declaration

def none : Declaration := ⟨true, .none, false⟩

/-- A value after its name and the equals sign. -/
def readItem (name : String) (cs : List Char) : Option (List Char × List Char) := do
  let cs ← expect name cs
  let cs ← expect "=" (dropBlanks cs)
  readQuoted (dropBlanks cs)

/-- Only the first version has a grammar that is known here; its later revisions share it. -/
def isVersion : List Char → Bool
  | '1' :: '.' :: rest => rest.all Char.isDigit
  | _ => false

def isEncodingName : List Char → Bool
  | c :: rest =>
    c.isAlpha && rest.all fun c => c.isAlphanum || c = '.' || c = '_' || c = '-'
  | [] => false

/-- An item that may follow, with at least one blank before it. -/
def readOptional (name : String) (cs : List Char) :
    Option (Option (List Char) × List Char) :=
  let after := dropBlanks cs
  if startsWith name after then
    if after.length = cs.length then .none
    else (readItem name after).map fun (value, rest) => (some value, rest)
  else some (.none, cs)

/-- Reads the declaration at the head of a document, if there is one. -/
def read (cs : List Char) : Option (Declaration × List Char) :=
  match expect "<?xml" cs with
  | .none => some (none, cs)
  | some rest =>
    if !(rest.head?.any isBlank) then some (none, cs)
    else do
      let (version, rest) ← readItem "version" (dropBlanks rest)
      if !isVersion version then failure
      let (encoding, rest) ← readOptional "encoding" rest
      if !(encoding.all isEncodingName) then failure
      let (standalone, rest) ← readOptional "standalone" rest
      if !(standalone.all fun v => v = "yes".toList || v = "no".toList) then failure
      let rest ← expect "?>" (dropBlanks rest)
      let isPlain := version = "1.0".toList
      return (⟨isPlain, encoding.map String.ofList, standalone = some "yes".toList⟩, rest)

end Declaration

/-- The characters for code points, all of which a document must admit. -/
def documentChars (codes : List Nat) : Option (List Char) :=
  if codes.all isDocumentCode then some (codes.map Char.ofNat) else none

/-- The head of a document: what it declares, whether that contradicts the encoding that shows in
the bytes, the size of the whole in UTF-8, and what follows. -/
structure Head where
  declaration : Declaration
  isContradicted : Bool
  size : Nat
  rest : List Char

/-- The head of a document whose encoding is known. -/
def readHeadAs (encoding : Encoding) (bytes : Bytes) : Option Head := do
  let chars ← encoding.codes bytes >>= documentChars
  let (declaration, rest) ← Declaration.read chars
  return ⟨declaration, false, byteLength chars, rest⟩

def declaredEncoding (bytes : Bytes) : Option Encoding := do
  let codes ← Encoding.latin1.codes bytes
  let (declaration, _) ← Declaration.read (codes.map Char.ofNat)
  match declaration.encoding? with
  | .none => some .utf8
  | some name => Encoding.names.lookup (String.ofList (name.toList.map Char.toLower))

/-- The head of a document. A mark at its beginning outweighs what is declared. -/
def readHead (bytes : Bytes) : Option Head :=
  match Encoding.ofMark bytes with
  | some (encoding, rest) => do
    let head ← readHeadAs encoding rest
    let isContradicted := head.declaration.encoding?.any fun name =>
      !encoding.expectedNames.contains (String.ofList (name.toList.map Char.toLower))
    return { head with isContradicted }
  | .none =>
    match Encoding.ofBeginning bytes with
    | some encoding => readHeadAs encoding bytes
    | .none => do readHeadAs (← declaredEncoding bytes) bytes

end BatchFormat.Xml
