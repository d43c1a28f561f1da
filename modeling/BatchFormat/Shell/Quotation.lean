import BatchFormat.Text.Sign

/-!
# Words between quotation marks

How programs write words and names so that one sees where they begin and end. Some are written so
that a shell takes them for one word: as they are if nothing in them is special, between straight
quotation marks otherwise. Others stand between curly quotation marks. What cannot be seen is
written by its octets.
-/
namespace BatchFormat.Shell.Quotation

def letters : List (Char × Char) :=
  [('\x07', 'a'), ('\x08', 'b'), ('\x0c', 'f'), ('\n', 'n'), ('\r', 'r'), ('\t', 't'),
    ('\x0b', 'v')]

/-- The escapes that a sign is written with, if it cannot be seen. -/
def escapes? (s : Sign) : Option Octets :=
  if s.fits Text.Letter.isPrint then none
  else
    let digit (n : Nat) : Char := Char.ofNat ('0'.toNat + n % 8)
    let octal (c : Char) : Octets :=
      ['\\', digit (c.toNat / 64), digit (c.toNat / 8), digit c.toNat]
    some (s.octets.flatMap fun c =>
      match letters.lookup c with
      | some letter => ['\\', letter]
      | none => octal c)

def isSpecial (s : Sign) : Bool := s.fits "?\\'\" !$&()*;<=>[^`|".toList.contains

def isSpecialAtHead (s : Sign) : Bool := s.fits "#~".toList.contains

def isPlain (cs : List Sign) : Bool :=
  cs != [] && cs.all (fun s => !isSpecial s && (escapes? s).isNone) && !(cs.head?.any isSpecialAtHead)
    && cs != [.char '\x7b'] && cs != [.char '\x7d']

/-- Whether a sign means the same between double quotation marks, at the head of a word or not. -/
def isQuotable (isHead : Bool) (s : Sign) : Bool :=
  (escapes? s).isNone
    && (s.fits (fun c => !("?\\\"!$&()*;<=>[^`|#~\x7b\x7d".toList.contains c))
      || isHead && isSpecialAtHead s)

/-- The signs of a word between single quotation marks; `isEscaped` tells whether the latest one was
written by its escapes. -/
def quoted : (isEscaped : Bool) → List Sign → Octets
  | _, [] => ['\'']
  | isEscaped, s :: rest =>
    match escapes? s with
    | some cs => (if isEscaped then [] else "'$'".toList) ++ cs ++ quoted true rest
    | none =>
      if s = .char '\'' then "'\\''".toList ++ quoted false rest
      else (if isEscaped then "''".toList else []) ++ s.octets ++ quoted false rest

/-- A word between quotation marks as a shell reads it back. One with a quotation mark in it that
ends with an escape begins as if an escape preceded it. -/
def enclosed (word : Octets) : Octets :=
  let cs := Sign.ofOctets word
  let isQuoting := word.contains '\''
  if isQuoting ∧ (cs.take 1).all (isQuotable true) ∧ (cs.drop 1).all (isQuotable false) then
    '"' :: word ++ ['"']
  else '\'' :: quoted (isQuoting && cs.getLast?.any fun s => (escapes? s).isSome) cs

/-- A word as a shell reads it back, between quotation marks only where it has to be. -/
def shielded (word : Octets) : Octets :=
  if isPlain (Sign.ofOctets word) then word else enclosed word

/-- A name in front of a colon, which must have none outside of quotation marks. -/
def beforeColon (name : Octets) : Octets :=
  if name.contains ':' then enclosed name else shielded name

def curlySign (s : Sign) : Octets :=
  (escapes? s).getD (if s.fits "\\’".toList.contains then '\\' :: s.octets else s.octets)

def curly (word : Octets) : Octets :=
  .ofString "‘" ++ (Sign.ofOctets word).flatMap curlySign ++ .ofString "’"

end BatchFormat.Shell.Quotation

namespace BatchFormat.Shell

def inQuotes (cs : Octets) : String := s!"'{cs.text}'"

def inShellQuotes (cs : Octets) : String := (Quotation.enclosed cs).text

/-- A name in front of a colon, in the quotation marks of a shell where it needs them. -/
def beforeColon (cs : Octets) : String := (Quotation.beforeColon cs).text

def inCurlyQuotes (cs : Octets) : String := (Quotation.curly cs).text

end BatchFormat.Shell
