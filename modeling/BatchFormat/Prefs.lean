import BatchFormat.Settings
import BatchFormat.Text.Quoted
import BatchFormat.Tree.Basic

/-!
# Preference files

Settings as a file of properties, one line for each: the name, an equals sign and the value. What
would end a line or a name is escaped, and characters beyond the first 256 are written as escaped
units of 16 bits, so that every character of the file is one byte.
-/
namespace BatchFormat.Prefs

/-- The units of 16 bits that make up a character: one, or two surrogates. -/
def units (c : Char) : List Nat :=
  let n := c.toNat
  if n < 0x10000 then [n]
  else [0xD800 + (n - 0x10000) / 0x400, 0xDC00 + (n - 0x10000) % 0x400]

def unitEscape (unit : Nat) : List Char := '\\' :: 'u' :: Text.hexDigits 4 unit

def escapeInValue (c : Char) : List Char :=
  if c = '\\' then ['\\', '\\']
  else if c = '\n' then ['\\', 'n']
  else if c = '\r' then ['\\', 'r']
  else if c = '\t' then ['\\', 't']
  else if c.toNat > 0xFF then (units c).flatMap unitEscape
  else [c]

/-- A character as it stands in a name, where separators are escaped too. -/
def escapeInKey (c : Char) : List Char :=
  if c = '=' ∨ c = ':' ∨ c = ' ' then ['\\', c] else escapeInValue c

def line (key value : String) : List Char :=
  key.toList.flatMap escapeInKey ++ '=' :: value.toList.flatMap escapeInValue ++ ['\n']

/-- The line that every preference file begins with. -/
def heading : List Char := "eclipse.preferences.version=1\n".toList

/-- The characters of the file, none of them beyond the first 256. -/
def characters (settings : Settings) : List Char :=
  heading ++ settings.values.sorted.flatMap fun pair => line pair.1 pair.2

/-- The bytes of the file, one for each character. -/
def bytes (settings : Settings) : Bytes :=
  (characters settings).map fun c => UInt8.ofNat c.toNat

/-! ## Texts that hold surrogates

Names and values that are handed over as code points are written in the same way, up to the first
surrogate that stands alone. Nothing is put in the file then. -/

abbrev Spelling := List (List Point × List Point)

/-- What is said of a code point that has no units of 16 bits. -/
def complaint (p : Point) : String :=
  "'utf-16-be' codec can't encode character '\\u" ++ String.ofList (Text.hexDigits 4 p.val) ++
    "' in position 0: surrogates not allowed"

def escapePoint (escape : Char → List Char) (p : Point) : Except Point (List Char) :=
  match p.char? with
  | some c => .ok (escape c)
  | none => .error p

def escapeText (escape : Char → List Char) (text : List Point) : Except Point (List Char) := do
  let parts ← text.mapM (escapePoint escape)
  return parts.flatten

def encodeLine (pair : List Point × List Point) : Except Point (List Char) := do
  let key ← escapeText escapeInKey pair.1
  let value ← escapeText escapeInValue pair.2
  return key ++ '=' :: value ++ ['\n']

/-- Whether a text stands before another in the order of code points, or is the same. -/
def notAfter : List Point → List Point → Bool
  | [], _ => true
  | _ :: _, [] => false
  | p :: ps, q :: qs => p.val < q.val || p.val == q.val && notAfter ps qs

/-- The bytes of the file, or the code point that cannot be written. -/
def encode (values : Spelling) : Except Point Bytes := do
  let lines ← (values.mergeSort fun a b => notAfter a.1 b.1).mapM encodeLine
  return (heading ++ lines.flatten).map fun c => UInt8.ofNat c.toNat

end BatchFormat.Prefs
