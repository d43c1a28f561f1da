import BatchFormat.Shell.Tool

/-!
# Escapes of the printing tools

A backslash and what follows it stand for a character. The tools inside the shell and the programs
of the same names know different ones.
-/
namespace BatchFormat.Shell.Print

/-- Which of the two forms of a tool is at work: the one inside the shell or the program. -/
inductive Form where
  | inner | outer
  deriving DecidableEq, Repr

/-- Where a text with escapes stands: it is a format, a word for a format, or it is just printed. -/
inductive Use where
  | format | word | plain
  deriving DecidableEq, Repr

def octalValue (cs : List Char) : Nat :=
  cs.foldl (fun n c => 8 * n + (c.toNat - '0'.toNat)) 0

def isOctal (c : Char) : Bool := '0' ≤ c && c ≤ '7'

def hexValue (c : Char) : Nat :=
  if c.isDigit then c.toNat - '0'.toNat
  else if 'a' ≤ c then c.toNat - 'a'.toNat + 10
  else c.toNat - 'A'.toNat + 10

def isHex (c : Char) : Bool := c.isDigit || "abcdefABCDEF".toList.contains c

def hexOf (cs : List Char) : Nat := cs.foldl (fun n c => 16 * n + hexValue c) 0

/-- The octet with a number, of which only the low eight bits count. -/
def octet (n : Nat) : Char := Char.ofNat (n % 256)

def simpleEscapes : List (Char × Char) :=
  [('\\', '\\'), ('a', '\x07'), ('b', '\x08'), ('f', '\x0c'), ('n', '\n'), ('r', '\r'),
    ('t', '\t'), ('v', '\x0b')]

/-- What an escape stands for: a text, with what follows the escape; the end of all output; or
nothing, because it is faulty. -/
inductive Escape where
  | text (cs : Octets) (rest : Octets)
  | stop
  | faulty (remark : String)

/-- The character with a number of so many hexadecimal digits. Characters of ASCII are not to be
written like this, but for a few. -/
def codePoint (letter : Char) (places : Nat) (rest : Octets) : Escape :=
  let digits := (rest.take places).takeWhile isHex
  let n := hexOf digits
  let shown := Octets.text (List.replicate (places - (Nat.toDigits 16 n).length) '0'
    ++ Nat.toDigits 16 n)
  if digits.length < places then .faulty "missing hexadecimal number in escape"
  else if n ≤ 0x9f ∧ n ∉ [0x24, 0x40, 0x60] ∨ 0xd800 ≤ n ∧ n ≤ 0xdfff then
    .faulty s!"invalid universal character name \\{letter}{shown}"
  else if n ≥ 0x110000 then .text ('\\' :: letter :: shown.toList.map Char.toUpper) (rest.drop places)
  else .text (Octets.ofString (String.singleton (Char.ofNat n))) (rest.drop places)

def octalOctet (cs : Octets) : Escape :=
  let digits := (cs.take 3).takeWhile isOctal
  .text [octet (octalValue digits)] (cs.drop digits.length)

def escape (form : Form) (use : Use) : Octets → Escape
  | [] => .text ['\\'] []
  | c :: rest =>
    match simpleEscapes.lookup c with
    | some d => .text [d] rest
    | none =>
      if isOctal c then octalOctet (if c = '0' ∧ use ≠ .format then rest else c :: rest)
      else if c = 'e' then .text ['\x1b'] rest
      else if c = 'c' ∧ (form = .outer ∨ use ≠ .format) then .stop
      else if form = .inner then .text ['\\', c] rest
      else if c = '"' ∧ use ≠ .plain then .text [c] rest
      else if c = 'x' then
        let digits := (rest.take 2).takeWhile isHex
        if digits ≠ [] then .text [octet (hexOf digits)] (rest.drop digits.length)
        else if use = .plain then .text ['\\', c] rest
        else .faulty "missing hexadecimal number in escape"
      else if c = 'u' ∧ use ≠ .plain then codePoint c 4 rest
      else if c = 'U' ∧ use ≠ .plain then codePoint c 8 rest
      else .text ['\\', c] rest

/-- A text with its escapes read, up to one that ends it, which is the last result. -/
def unescape (form : Form) (use : Use) : Nat → Octets → Octets × Option Escape
  | 0, _ | _, [] => ([], none)
  | n + 1, c :: rest =>
    let further (read rest : Octets) : Octets × Option Escape :=
      let (after, end?) := unescape form use n rest
      (read ++ after, end?)
    if c = '\\' then
      match escape form use rest with
      | .text cs rest => further cs rest
      | other => ([], some other)
    else further [c] rest

end BatchFormat.Shell.Print
