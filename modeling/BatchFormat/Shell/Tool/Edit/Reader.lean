import BatchFormat.Shell.Regex.Reader
import BatchFormat.Shell.Tool.Edit.Escape
import BatchFormat.Shell.Tool.Edit.Script

/-!
# Reading scripts of the line editor

A script that cannot be read is refused with what is wrong and how much of it was still unread.
-/
namespace BatchFormat.Shell.Edit

/-- What is wrong with a script: a remark, with the number of characters behind the place where it
was noticed; a remark on the part of the script around such a place; a remark without a place; or a
label that is nowhere. -/
inductive Fault where
  | here (remark : String) (left : Nat)
  | around (remark : String) (left : Nat)
  | bare (remark : String)
  | label (name : Octets)

/-- A fault in a script, and the files that were opened before it was noticed: those that are
written to by what stands in front. -/
structure Refusal where
  fault : Fault
  files : List Octets

/-- What is refused after files were opened. -/
def Refusal.of {α : Type} (files : List Octets) (e : Except Fault α) : Except Refusal α :=
  e.mapError (⟨·, files⟩)

/-- How a script is written: with extended expressions, with nothing beyond the standard, and with
no way to run programs or to touch files; and whether its lines end with a line end, not with NUL. -/
structure Manner where
  isExtended : Bool
  isStrict : Bool
  isConfined : Bool
  hasLines : Bool

def skipBlank (cs : Octets) : Octets := cs.dropWhile Octets.isBlank

/-- Text up to a delimiter, which is a character of the text where a backslash precedes it. Sets in
an expression may contain the delimiter. The text must end on its line; where it does not, the
result is how much is left there. -/
def upTo (isExpression : Bool) (delimiter : Char) : Nat → Octets → Except Nat (Octets × Octets)
  | 0, cs => .error cs.length
  | _, [] => .error 0
  | n + 1, c :: rest =>
    let further (read rest : Octets) : Except Nat (Octets × Octets) :=
      (upTo isExpression delimiter n rest).map fun (after, rest) => (read ++ after, rest)
    if c = '\n' then .error (rest.length + 1)
    else if c = delimiter then .ok ([], rest)
    else if c = '\\' then
      match rest with
      | [] => .error 0
      | d :: rest =>
        if d = delimiter ∧ (isExpression ∨ d ≠ '&') then further [d] rest
        else if isExpression ∧ d = 'n' then further ['\n'] rest
        else if d = '\n' then further [d] rest
        else further ['\\', d] rest
    else if isExpression ∧ c = '[' then
      match Escape.set? rest with
      | some (set, rest) => further (c :: set) rest
      | none => .error (rest.dropWhile (· != '\n')).length
    else further [c] rest

def delimited (isExpression : Bool) (delimiter : Char) (remark : String) (cs : Octets) :
    Except Fault (Octets × Octets) :=
  (upTo isExpression delimiter (cs.length + 1) cs).mapError (Fault.here remark)

/-- Reads the escapes of a text; `left` characters follow it. -/
def escaped (m : Manner) (use : Escape.Use) (left : Nat) (cs : Octets) : Except Fault Octets :=
  match Escape.read? use m.isStrict (cs.length + 1) cs with
  | some read => .ok read
  | none => .error (.here "recursive escaping after \\c not allowed" left)

/-- The expression that a text stands for, which must have a number of groups; `left` characters
follow it. The empty text stands for the expression used last. -/
def expression (m : Manner) (anyCase lines : Bool) (groups left : Nat) (cs : Octets) :
    Except Fault (Option Expression) := do
  if cs = [] then
    if anyCase || lines then .error (.here "cannot specify modifiers on empty regexp" left)
    else return none
  else
    let signs := Sign.ofOctets (← escaped m .expression left cs)
    let d : Regex.Dialect := ⟨m.isExtended, m.isStrict, anyCase, lines, lines && m.hasLines⟩
    match Regex.ofSigns d signs with
    | .error f => .error (.here f.message left)
    | .ok (r, inside) =>
      if r.groups < groups ∧ !m.isStrict then .error (.here (missingGroup groups) left)
      else if Regex.hasSuspiciousSet d (signs.length + 1) signs then
        .error (.bare Bracket.Fault.looksLikeClass.message)
      else return some ⟨r, inside, lines && !m.hasLines⟩

/-- The number at the head of a text. -/
def natural (cs : Octets) : Nat × Octets :=
  let (digits, rest) := cs.span Char.isDigit
  ((String.ofList digits).toNat?.getD 0, rest)

/-- The letters behind the expression of an address. -/
def modifiers (m : Manner) (cs : Octets) : Octets × Octets :=
  (skipBlank cs).span fun c => !m.isStrict && (c = 'I' || c = 'M' || Octets.isBlank c)

def wideDelimiter : String := "delimiter character is not a single-byte character"

/-- The delimiter at the head of a text, which must be one octet. -/
def delimiterOf (remark : String) : Octets → Except Fault (Char × Octets)
  | [] => .error (.here remark 0)
  | delimiter :: rest =>
    if delimiter.toNat ≥ 128 then .error (.here wideDelimiter rest.length)
    else .ok (delimiter, rest)

/-- An address that is an expression, behind the delimiter that opens it. -/
def fitting (m : Manner) (delimiter : Char) (cs : Octets) : Except Fault (Address × Octets) := do
  let (text, rest) ← delimited true delimiter "unterminated address regex" cs
  let (letters, rest) := modifiers m rest
  return (.fits (← expression m (letters.contains 'I') (letters.contains 'M') 0 rest.length text),
    rest)

def address (m : Manner) (cs : Octets) : Except Fault (Option (Address × Octets)) :=
  match cs with
  | '$' :: rest => .ok (some (.last, rest))
  | '/' :: rest => (fitting m '/' rest).map some
  | '\\' :: rest => do
    let (delimiter, rest) ← delimiterOf "unterminated address regex" rest
    (fitting m delimiter rest).map some
  | c :: rest =>
    if c.isDigit then
      let (first, rest) := natural cs
      match skipBlank rest with
      | '~' :: after =>
        if m.isStrict then .ok (some (.line first, rest))
        else
          let (step, rest) := natural (skipBlank after)
          .ok (some (if step = 0 then .line first else .every first step, rest))
      | _ => .ok (some (.line first, rest))
    else if (c = '+' ∨ c = '~') ∧ !m.isStrict then
      let (count, rest) := natural (skipBlank rest)
      .ok (some (if c = '+' then .further count else .multiple count, rest))
    else .ok none
  | [] => .ok none

/-- What follows an instruction: nothing, the end of a line, a semicolon, a remark, or the end of a
block. -/
def ended (cs : Octets) : Except Fault Octets :=
  match skipBlank cs with
  | [] => .ok []
  | c :: rest =>
    if c = '\x7d' ∨ c = '#' then .ok (c :: rest)
    else if c = '\n' ∨ c = ';' then .ok rest
    else .error (.here "extra characters after command" rest.length)

def letteringOf? (c : Char) : Option Piece :=
  [('U', .lettering .upper), ('L', .lettering .lower), ('E', .lettering .asWritten),
    ('u', .nextLetter .upper), ('l', .nextLetter .lower)].lookup c

/-- The pieces of a written replacement, behind a run of plain text, which is given from its end. A
character that a backslash protects ends such a run. -/
def pieces (m : Manner) (run : Octets) : Octets → List Piece
  | [] => if run = [] then [] else [.plain run.reverse]
  | ['\\'] => [.plain ('\\' :: run).reverse]
  | '\\' :: c :: rest =>
    let before : List Piece := if run = [] then [] else [.plain run.reverse]
    if c.isDigit then before ++ .group (c.toNat - '0'.toNat) :: pieces m [] rest
    else
      match if m.isStrict then none else letteringOf? c with
      | some piece => before ++ piece :: pieces m [] rest
      | none => .plain (c :: run).reverse :: pieces m [] rest
  | '&' :: rest =>
    let before : List Piece := if run = [] then [] else [.plain run.reverse]
    before ++ .group 0 :: pieces m [] rest
  | c :: rest => pieces m (c :: run) rest

/-- The flags of a substitution: letters, the latest first, and the number of the first match. -/
structure Flags where
  letters : List Char
  count? : Option Nat
  file? : Option Octets

def confined : String := "e/r/w commands disabled in sandbox mode"

/-- The name of a file, which goes up to the end of the line. -/
def fileName (cs : Octets) : Except Fault (Octets × Octets) :=
  let (name, rest) := (skipBlank cs).span (· != '\n')
  if name = [] then
    .error (.here "missing filename in r/R/w/W commands" (rest.drop 1).length)
  else .ok (name, rest.drop 1)

def flags (m : Manner) : Nat → Flags → Octets → Except Fault (Flags × Octets)
  | 0, f, cs => .ok (f, cs)
  | _, f, [] => .ok (f, [])
  | n + 1, f, c :: rest =>
    let twice (what : String) : Except Fault (Flags × Octets) :=
      .error (.here s!"multiple {what} options to `s' command" rest.length)
    let unknown : Except Fault (Flags × Octets) :=
      .error (.here "unknown option to `s'" rest.length)
    let keep (letter : Char) : Except Fault (Flags × Octets) :=
      flags m n { f with letters := letter :: f.letters } rest
    if c = '\x7d' ∨ c = '#' then .ok (f, c :: rest)
    else if c = '\n' ∨ c = ';' then .ok (f, rest)
    else if c = '\r' ∧ rest.head? = some '\n' then .ok (f, rest.drop 1)
    else if Octets.isBlank c then flags m n f rest
    else if c = 'g' ∨ c = 'p' then
      if f.letters.contains c then twice s!"`{c}'" else keep c
    else if (c = 'i' ∨ c = 'I') ∧ !m.isStrict then keep 'I'
    else if (c = 'm' ∨ c = 'M') ∧ !m.isStrict then keep 'M'
    else if c = 'e' ∧ !m.isStrict then
      if m.isConfined then .error (.here confined rest.length) else keep 'e'
    else if c = 'w' then
      if m.isConfined then .error (.here confined rest.length)
      else (fileName rest).map fun (name, rest) => ({ f with file? := some name }, rest)
    else if c.isDigit then
      let (count, after) := natural (c :: rest)
      if f.count?.isSome then twice "number"
      else if count = 0 then
        .error (.here "number option to `s' command may not be zero" after.length)
      else flags m n { f with count? := some count } after
    else unknown

/-- A substitution, behind its letter. Its file is opened before its expression is read. `files` were
opened before. -/
def substitution (m : Manner) (files : List Octets) (cs : Octets) :
    Except Refusal (Action × Octets) := do
  let remark := "unterminated `s' command"
  let (source, target, f, rest) ← Refusal.of files do
    let (delimiter, cs) ← delimiterOf remark cs
    let (source, rest) ← delimited true delimiter remark cs
    let (target, rest) ← delimited false delimiter remark rest
    let target ← escaped m .replacement rest.length target
    let (f, rest) ← flags m (rest.length + 1) ⟨[], none, none⟩ rest
    return (source, target, f, rest)
  let has (c : Char) : Bool := f.letters.contains c
  let ps := pieces m [] target
  let e? ← Refusal.of (files ++ f.file?.toList)
    (expression m (has 'I') (has 'M') (highestGroup ps) rest.length source)
  let isPrintFirst := (f.letters.dropWhile (· != 'p')).contains 'e' || !has 'e'
  let s : Substitution :=
    { expression? := e?
      pieces := ps
      everywhere := has 'g'
      count := f.count?.getD 1
      evaluates := has 'e'
      printsBefore := has 'p' && !isPrintFirst
      printsAfter := has 'p' && isPrintFirst
      file? := f.file? }
  return (.substitute s, rest)

/-- The characters of an exchange; a backslash in front of one of them is dropped. -/
def members : Octets → Octets
  | '\\' :: c :: rest => c :: members rest
  | c :: rest => c :: members rest
  | [] => []

/-- An exchange of characters, behind its letter. -/
def exchange (m : Manner) (cs : Octets) : Except Fault (Action × Octets) := do
  let remark := "unterminated `y' command"
  let (delimiter, cs) ← delimiterOf remark cs
  let (source, rest) ← delimited false delimiter remark cs
  let source ← escaped m .text rest.length source
  let (target, rest) ← delimited false delimiter remark rest
  let target ← escaped m .text rest.length target
  let (source, target) := (Sign.ofOctets (members source), Sign.ofOctets (members target))
  if source.length ≠ target.length then
    .error (.here "strings for `y' command are different lengths" rest.length)
  else return (.exchange source target, ← ended rest)

/-- A text up to the end of a line that no backslash precedes. -/
def continued : Octets → Octets × Octets
  | [] => ([], [])
  | ['\\'] => ([], [])
  | '\\' :: c :: rest =>
    let (text, rest) := continued rest
    ('\\' :: c :: text, rest)
  | '\n' :: rest => ([], rest)
  | c :: rest =>
    let (text, rest) := continued rest
    (c :: text, rest)

/-- The text of an instruction, with its line end; a lone backslash stands for no text at all. -/
def ownText (m : Manner) (cs : Octets) : Except Fault (Octets × Octets) :=
  let line (cs : Octets) : Except Fault (Octets × Octets) := do
    let (text, rest) := continued cs
    return (members (← escaped m .text rest.length text) ++ ['\n'], rest)
  let remark := "expected \\ after `a', `c' or `i'"
  match skipBlank cs with
  | [] => .error (.here remark 0)
  | ['\\'] => if m.isStrict then .error (.here "incomplete command" 0) else .ok ([], [])
  | '\\' :: rest =>
    match rest with
    | '\n' :: rest => line rest
    | rest => line rest
  | cs => if m.isStrict then .error (.here remark (cs.length - 1)) else line cs

/-- A label, up to white space, a semicolon, a closing brace or a remark. -/
def labelText (cs : Octets) : Octets × Octets :=
  (skipBlank cs).span fun c => !Octets.isSpace c && !";#\x7d".toList.contains c

/-- The actions that are a single letter, those of the standard first. -/
def plainActions : List (Char × Action) :=
  [('d', .delete), ('D', .deleteFirst), ('p', .print), ('P', .printFirst), ('=', .number),
    ('n', .next), ('N', .nextAdded), ('h', .hold), ('H', .holdAdded), ('g', .fetch),
    ('G', .fetchAdded), ('x', .swap), ('z', .clear), ('F', .fileName)]

def extraLetters : List Char := "eFvzQTRW".toList

/-- The letters of actions that take one address at most in the standard. -/
def singleLetters : List Char := "ail=r".toList

def version : Octets := "4.9".toList

/-- Whether a version comes after another one; runs of digits count as numbers. -/
def isAhead : Nat → Octets → Octets → Bool
  | 0, _, _ | _, [], _ => false
  | _, _ :: _, [] => true
  | n + 1, a :: as, b :: bs =>
    if a.isDigit && b.isDigit then
      let (low, as) := natural (a :: as)
      let (high, bs) := natural (b :: bs)
      low > high || (low == high && isAhead n as bs)
    else a > b || (a == b && isAhead n as bs)

def unknownCommand (letter : Char) (left : Nat) : Fault :=
  let shown := if letter.toNat < 128 then letter else '\ufffd'
  .here s!"unknown command: `{shown}'" left

/-- An action other than a substitution, by its letter and what follows it. -/
def action (m : Manner) (first? last? : Option Address) (letter : Char) (cs : Octets) :
    Except Fault (Action × Octets) := do
  if m.isStrict then
    if extraLetters.contains letter then .error (unknownCommand letter cs.length)
    if singleLetters.contains letter && last?.isSome then
      .error (.here "command only uses one address" cs.length)
  match plainActions.lookup letter with
  | some a => return (a, ← ended cs)
  | none =>
    let ownLine (make : Octets → Action) : Except Fault (Action × Octets) :=
      (ownText m cs).map fun (text, rest) => (make text, rest)
    let numbered (make : Option Nat → Action) : Except Fault (Action × Octets) :=
      let cs := skipBlank cs
      let (value?, rest) :=
        if cs.head?.any Char.isDigit && !m.isStrict then
          let (value, rest) := natural cs
          (some value, rest)
        else (none, cs)
      (ended rest).map fun rest => (make value?, rest)
    let ending (make : Nat → Action) : Except Fault (Action × Octets) :=
      if last?.isSome then .error (.here "command only uses one address" cs.length)
      else numbered fun status? => make (status?.getD 0)
    let leap (make : Octets → Action) : Except Fault (Action × Octets) :=
      let (name, rest) := labelText cs
      .ok (make name, rest)
    let onFile (make : Octets → Action) : Except Fault (Action × Octets) :=
      if m.isConfined then .error (.here confined cs.length)
      else (fileName cs).map fun (name, rest) => (make name, rest)
    match letter with
    | 'y' => exchange m cs
    | 'r' =>
      match first? with
      | some (.line 0) => onFile .readFirst
      | _ => onFile .readFrom
    | 'R' => onFile .readLineFrom
    | 'w' => onFile .writeTo
    | 'W' => onFile .writeFirstTo
    | 'a' => ownLine .append
    | 'i' => ownLine .insert
    | 'c' => ownLine .replace
    | 'e' =>
      if m.isConfined then .error (.here confined cs.length)
      else
        let (script, rest) := continued (skipBlank cs)
        return (.evaluate (members (← escaped m .text rest.length script)), rest)
    | 'l' => numbered .reveal
    | 'q' => ending .quit
    | 'Q' => ending .halt
    | 'b' => leap .jump
    | 't' => leap .jumpIf
    | 'T' => leap .jumpUnless
    | 'v' =>
      let (wanted, rest) := labelText cs
      if isAhead (wanted.length + 1) wanted version then
        .error (.here "expected newer version of sed" rest.length)
      else return (.nothing, rest)
    | ':' =>
      let (name, rest) := labelText cs
      if name = [] then .error (.here "\":\" lacks a label" rest.length)
      else return (.label name, rest)
    | _ => .error (unknownCommand letter cs.length)

/-- The addresses in front of an action. The number zero may only open a range up to an expression,
or stand in front of what is read before all lines. -/
def addresses (m : Manner) (cs : Octets) :
    Except Fault (Option Address × Option Address × Octets) := do
  match ← address m cs with
  | none => return (none, none, cs)
  | some (first, rest) =>
    match first with
    | .further _ | .multiple _ =>
      .error (.here "invalid usage of +N or ~N as first address" rest.length)
    | _ =>
      let (last?, rest) ← show Except Fault (Option Address × Octets) from
        match skipBlank rest with
        | ',' :: rest => do
          match ← address m (skipBlank rest) with
          | some (second, rest) => return (some second, skipBlank rest)
          | none => .error (.here "unexpected `,'" ((skipBlank rest).length - 1))
        | rest => .ok (none, rest)
      let isAllowed :=
        match first, last? with
        | .line 0, some (.fits _) => !m.isStrict
        | .line 0, none => rest.head? = some 'r' && !m.isStrict
        | .line 0, _ => false
        | _, _ => true
      if isAllowed then return (some first, last?, rest)
      else .error (.here "invalid usage of line address 0" (rest.length - 1))

/-- Reads the addresses of an instruction, and whether it applies to all other lines. -/
def guards (m : Manner) (cs : Octets) :
    Except Fault (Option Address × Option Address × Bool × Octets) := do
  let (first?, last?, cs) ← addresses m cs
  match cs with
  | '!' :: rest =>
    match skipBlank rest with
    | '!' :: rest => .error (.here "multiple `!'s" rest.length)
    | rest => return (first?, last?, true, rest)
  | cs => return (first?, last?, false, cs)

/-- What is wrong with a mark that is no action: a remark, or a brace. `isInside` tells whether a
block is open. -/
def markFault? (isInside : Bool) (first? : Option Address) (c : Char) (left : Nat) :
    Option Fault :=
  if c = '#' ∧ first?.isSome then some (.here "comments don't accept any addresses" left)
  else if c = '\x7d' ∧ !isInside then some (.here "unexpected `\x7d'" left)
  else if c = '\x7d' ∧ first?.isSome then
    some (.here "`\x7d' doesn't want any addresses" left)
  else if c = ':' ∧ first?.isSome then some (.here ": doesn't want any addresses" left)
  else none

/-- Reads instructions up to the end of the script or, in a block, up to its closing brace.
`opened?` is the number of characters behind the brace that opens the block, and `files` are written
to by what stands in front. -/
def instructions (m : Manner) : Nat → (opened? : Option Nat) → (files : List Octets) → Octets →
    Except Refusal (List Instruction × List Octets × Octets)
  | 0, _, files, cs => .ok ([], files, cs)
  | n + 1, opened?, files, cs => do
    match cs.dropWhile fun c => Octets.isSpace c || c = ';' with
    | [] =>
      match opened? with
      | none => return ([], files, [])
      | some left => .error ⟨.around "unmatched `\x7b'" left, files⟩
    | cs =>
      let (first?, last?, inverted, cs) ← Refusal.of files (guards m cs)
      match cs with
      | [] => .error ⟨.here "missing command" 0, files⟩
      | c :: rest =>
        match markFault? opened?.isSome first? c rest.length with
        | some f => .error ⟨f, files⟩
        | none =>
          if c = '#' then instructions m n opened? files (rest.dropWhile (· != '\n'))
          else if c = '\x7d' then return ([], files, ← Refusal.of files (ended rest))
          else if c = '\x7b' then
            let (body, files, rest) ← instructions m n (some rest.length) files rest
            let (after, files, rest) ← instructions m n opened? files rest
            let block : Instruction := ⟨first?, last?, inverted, .block body.length⟩
            return (block :: body ++ after, files, rest)
          else
            let (a, rest) ←
              if c = 's' then substitution m files rest
              else Refusal.of files (action m first? last? c rest)
            let (after, files, rest) ←
              instructions m n opened? (files ++ a.file?.toList) rest
            return (⟨first?, last?, inverted, a⟩ :: after, files, rest)

/-- Reads a script. Every label that is jumped to must be somewhere. -/
def read (m : Manner) (script : Octets) : Except Refusal (List Instruction) := do
  let (found, files, _) ← instructions m (script.length + 1) none [] script
  let missing := found.findSome? fun i => i.action.target?.filter fun name =>
    !found.any fun j => j.action.isLabel name
  match missing with
  | some name => .error ⟨.label name, files⟩
  | none => .ok found

end BatchFormat.Shell.Edit
