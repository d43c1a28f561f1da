/-!
# UTF-8

The writer and the strict reader of UTF-8, and the lenient reader used for diagnostics. The strict
reader accepts exactly what the writer produces; otherwise it names the first bytes that fit no
character: the longest start of a character that stands there, or the single byte that cannot
start one.
-/
namespace BatchFormat.Text

abbrev Bytes := List UInt8

def encodeChar (c : Char) : Bytes :=
  let n := c.toNat
  if n < 0x80 then [UInt8.ofNat n]
  else if n < 0x800 then [UInt8.ofNat (0xC0 + n / 0x40), UInt8.ofNat (0x80 + n % 0x40)]
  else if n < 0x10000 then
    [UInt8.ofNat (0xE0 + n / 0x1000), UInt8.ofNat (0x80 + n / 0x40 % 0x40),
      UInt8.ofNat (0x80 + n % 0x40)]
  else
    [UInt8.ofNat (0xF0 + n / 0x40000), UInt8.ofNat (0x80 + n / 0x1000 % 0x40),
      UInt8.ofNat (0x80 + n / 0x40 % 0x40), UInt8.ofNat (0x80 + n % 0x40)]

def encode (s : String) : Bytes := s.toList.flatMap encodeChar

inductive FlawKind where
  | start | continuation | ending
  deriving DecidableEq, Repr

/-- The first place where bytes are not UTF-8: its offset, the byte there, the number of bytes
that belong together, and what is wrong with them. -/
structure Flaw where
  offset : Nat
  byte : UInt8
  length : Nat
  kind : FlawKind
  deriving DecidableEq, Repr

inductive Head where
  | none
  | char (c : Char) (rest : Bytes)
  | flaw (byte : UInt8) (length : Nat) (kind : FlawKind) (rest : Bytes)

def isTail (b : UInt8) : Bool := 0x80 ≤ b && b ≤ 0xBF

/-- The least second byte after `b`; it excludes overlong forms. -/
def secondLow (b : UInt8) : UInt8 := if b = 0xE0 then 0xA0 else if b = 0xF0 then 0x90 else 0x80

/-- The greatest second byte after `b`; it excludes surrogates and numbers above the last one. -/
def secondHigh (b : UInt8) : UInt8 := if b = 0xED then 0x9F else if b = 0xF4 then 0x8F else 0xBF

def isSecond (b c : UInt8) : Bool := secondLow b ≤ c && c ≤ secondHigh b

/-- The six low bits that a continuation byte carries. -/
def payload (b : UInt8) : Nat := b.toNat - 0x80

/-- Reads the character at the head of `bytes`. -/
def head : Bytes → Head
  | [] => .none
  | b :: rest =>
    if b < 0x80 then .char (Char.ofNat b.toNat) rest
    else if b < 0xC2 then .flaw b 1 .start rest
    else if b < 0xE0 then
      match rest with
      | [] => .flaw b 1 .ending rest
      | c :: rest' =>
        if isTail c then .char (Char.ofNat ((b.toNat - 0xC0) * 0x40 + payload c)) rest'
        else .flaw b 1 .continuation rest
    else if b < 0xF0 then
      match rest with
      | [] => .flaw b 1 .ending rest
      | c :: rest' =>
        if isSecond b c then
          match rest' with
          | [] => .flaw b 2 .ending rest'
          | d :: rest'' =>
            if isTail d then
              .char (Char.ofNat ((b.toNat - 0xE0) * 0x1000 + payload c * 0x40 + payload d)) rest''
            else .flaw b 2 .continuation rest'
        else .flaw b 1 .continuation rest
    else if b < 0xF5 then
      match rest with
      | [] => .flaw b 1 .ending rest
      | c :: rest' =>
        if isSecond b c then
          match rest' with
          | [] => .flaw b 2 .ending rest'
          | d :: rest'' =>
            if isTail d then
              match rest'' with
              | [] => .flaw b 3 .ending rest''
              | e :: rest''' =>
                if isTail e then
                  .char (Char.ofNat ((b.toNat - 0xF0) * 0x40000 + payload c * 0x1000
                    + payload d * 0x40 + payload e)) rest'''
                else .flaw b 3 .continuation rest''
            else .flaw b 2 .continuation rest'
        else .flaw b 1 .continuation rest
    else .flaw b 1 .start rest

theorem head_char_length {bytes : Bytes} {c : Char} {rest : Bytes}
    (h : head bytes = .char c rest) : rest.length < bytes.length := by
  unfold head at h
  grind

theorem head_flaw_length {bytes : Bytes} {b : UInt8} {n : Nat} {k : FlawKind} {rest : Bytes}
    (h : head bytes = .flaw b n k rest) : rest.length < bytes.length := by
  unfold head at h
  grind

/-- The strict reader from `offset` on, with the characters read so far, last first. -/
def decodeFrom (offset : Nat) (read : List Char) (bytes : Bytes) : Except Flaw (List Char) :=
  match _h : head bytes with
  | .none => .ok read.reverse
  | .char c rest => decodeFrom (offset + c.utf8Size) (c :: read) rest
  | .flaw b n kind _ => .error ⟨offset, b, n, kind⟩
termination_by bytes.length
decreasing_by exact head_char_length _h

/-- Reads bytes as text, or names the first flaw. -/
def decode (bytes : Bytes) : Except Flaw String := (decodeFrom 0 [] bytes).map String.ofList

/-- The lenient reader: each flaw becomes one replacement character. -/
def decodeLenientFrom (read : List Char) (bytes : Bytes) : List Char :=
  match _h : head bytes with
  | .none => read.reverse
  | .char c rest => decodeLenientFrom (c :: read) rest
  | .flaw _ _ _ rest => decodeLenientFrom ('\uFFFD' :: read) rest
termination_by bytes.length
decreasing_by
  · exact head_char_length _h
  · exact head_flaw_length _h

def decodeLenient (bytes : Bytes) : String := String.ofList (decodeLenientFrom [] bytes)

def FlawKind.message : FlawKind → String
  | .start => "invalid start byte"
  | .continuation => "invalid continuation byte"
  | .ending => "unexpected end of data"

end BatchFormat.Text
