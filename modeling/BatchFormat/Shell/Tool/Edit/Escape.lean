import BatchFormat.Shell.Tool

/-!
# Escapes in scripts of the line editor

A backslash and a letter stand for a character that is hard to write: `\t` for a tab, `\x41` for a
character by its number, `\cA` for a control character. Other escapes are left for those who read
the text next.
-/
namespace BatchFormat.Shell.Edit.Escape

/-- What a text is for: what is special in it must stay apart from what its escapes stand for. -/
inductive Use where
  | expression | replacement | text
  deriving DecidableEq, Repr

/-- The set at the head of a text, with its closing bracket, behind the one that opens it, and what
follows. `delimiter?` is the mark behind an opening bracket of a name in the set. -/
def members? (delimiter? : Option Char) : Octets → Option (Octets × Octets)
  | [] => none
  | c :: rest =>
    let further (next? : Option Char) : Option (Octets × Octets) :=
      (members? next? rest).map fun (read, rest) => (c :: read, rest)
    match delimiter? with
    | some delimiter =>
      if c = '\n' then none
      else if c = delimiter ∧ rest.head? = some ']' then
        match rest with
        | bracket :: rest =>
          (members? none rest).map fun (read, rest) => (c :: bracket :: read, rest)
        | [] => none
      else further (some delimiter)
    | none =>
      if c = ']' then some ([c], rest)
      else if c = '\n' then none
      else if c = '[' then
        match rest with
        | d :: rest =>
          if d = '.' ∨ d = ':' ∨ d = '=' then
            (members? (some d) rest).map fun (read, rest) => (c :: d :: read, rest)
          else further none
        | [] => none
      else further none

/-- A set behind its opening bracket, in which a closing bracket in the first place is a member. -/
def set? (cs : Octets) : Option (Octets × Octets) :=
  let (front, rest) :=
    match cs with
    | '^' :: ']' :: rest => (['^', ']'], rest)
    | '^' :: rest => (['^'], rest)
    | ']' :: rest => ([']'], rest)
    | rest => ([], rest)
  (members? none rest).map fun (read, rest) => (front ++ read, rest)

def digit? (base : Nat) (c : Char) : Option Nat :=
  let value :=
    if c.isDigit then c.toNat - '0'.toNat
    else if 'a' ≤ c ∧ c ≤ 'f' then c.toNat - 'a'.toNat + 10
    else if 'A' ≤ c ∧ c ≤ 'F' then c.toNat - 'A'.toNat + 10
    else base
  if value < base then some value else none

/-- The octet that up to `places` digits stand for, and what follows them. -/
def number? (base places : Nat) (cs : Octets) : Option (Char × Octets) :=
  match (cs.take places).takeWhile fun c => (digit? base c).isSome with
  | [] => none
  | digits =>
    let value := digits.foldl (fun n c => n * base + (digit? base c).getD 0) 0
    some (Char.ofNat (value % 256), cs.drop digits.length)

def control (c : Char) : Char := Char.ofNat (c.toUpper.toNat ^^^ 0x40)

def letters : List (Char × Char) :=
  [('a', '\x07'), ('f', '\x0c'), ('n', '\n'), ('r', '\r'), ('t', '\t'), ('v', '\x0b')]

/-- A character that a number stands for: but for expressions it never is special. -/
def shielded (use : Use) (c : Char) : Octets :=
  let isSpecial := c = '\\' ∧ use ≠ .expression ∨ c = '&' ∧ use = .replacement
  if isSpecial then ['\\', c] else [c]

/-- Reads the escapes of a text; nothing comes of a control character of an escape. In a strict
script, sets are left as they are. -/
def read? (use : Use) (isStrict : Bool) : Nat → Octets → Option Octets
  | 0, _ | _, [] => some []
  | n + 1, c :: rest =>
    let further (read rest : Octets) : Option Octets :=
      (read? use isStrict n rest).map (read ++ ·)
    let numbered (letter : Char) (base places : Nat) (rest : Octets) : Option Octets :=
      match number? base places rest with
      | some (d, rest) => further (shielded use d) rest
      | none => further [letter] rest
    if c = '\\' then
      match rest with
      | [] => some [c]
      | d :: rest =>
        match letters.lookup d, d, rest with
        | some e, _, _ => further [e] rest
        | none, 'd', _ => numbered d 10 3 rest
        | none, 'o', _ => numbered d 8 3 rest
        | none, 'x', _ => numbered d 16 2 rest
        | none, 'c', [] => some ['\\']
        | none, 'c', '\\' :: '\\' :: rest => further [control '\\'] rest
        | none, 'c', '\\' :: _ => none
        | none, 'c', e :: rest => further [control e] rest
        | none, _, _ => further [c, d] rest
    else if c = '[' ∧ use = .expression ∧ isStrict then
      match set? rest with
      | some (set, rest) => further (c :: set) rest
      | none => further [c] rest
    else further [c] rest

end BatchFormat.Shell.Edit.Escape
