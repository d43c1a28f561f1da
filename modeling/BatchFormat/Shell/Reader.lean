import BatchFormat.Shell.Token

/-!
# Reading scripts

Turns the text of a script into commands. A script is read line by line, a line going on as long as
a quotation or a compound command is open, so that what stands before a flaw can still be run.
-/
namespace BatchFormat.Shell.Reader

open Read

/-- Characters that end a word unless they are quoted. -/
def isMeta (c : Char) : Bool := Octets.isBlank c || "\n;&|<>()".toList.contains c

/-- Characters with a meaning inside words. -/
def isSpecial (c : Char) : Bool := "\\'\"`$".toList.contains c

def isParameterSign (c : Char) : Bool := "@*#?$!-".toList.contains c || c.isDigit

/-- A text without the line ends in front that a backslash takes away. -/
def unjoined : Octets → Octets
  | '\\' :: '\n' :: cs => unjoined cs
  | cs => cs

/-- The text at the next token, without blanks, joined lines and comments. -/
def atToken : Octets → Octets
  | [] => []
  | [c] => if Octets.isBlank c || c = '#' then [] else [c]
  | c :: d :: cs =>
    if c = '\\' ∧ d = '\n' then atToken cs
    else if Octets.isBlank c then atToken (d :: cs)
    else if c = '#' then (d :: cs).dropWhile (· != '\n')
    else c :: d :: cs

/-- A redirection at the head of a text: its descriptor, its sign, and what follows. -/
def redirection? (cs : Octets) : Option (Nat × RedirectionSign × Octets) :=
  let (digit?, after) : Option Nat × Octets :=
    match cs with
    | c :: rest => if c.isDigit then (some (c.toNat - '0'.toNat), unjoined rest) else (none, cs)
    | [] => (none, [])
  match after with
  | '>' :: rest =>
    let found (sign : RedirectionSign) (rest : Octets) : Option (Nat × RedirectionSign × Octets) :=
      some (digit?.getD 1, sign, rest)
    match unjoined rest with
    | '>' :: rest => found (.to .append) rest
    | '|' :: rest => found (.to .overwrite) rest
    | '&' :: rest => found .copy rest
    | rest => found (.to .write) rest
  | '<' :: rest =>
    let found (sign : RedirectionSign) (rest : Octets) : Option (Nat × RedirectionSign × Octets) :=
      some (digit?.getD 0, sign, rest)
    match unjoined rest with
    | '<' :: rest =>
      match unjoined rest with
      | '-' :: rest => found (.here true) rest
      | rest => found (.here false) rest
    | '&' :: rest => found .copy rest
    | '>' :: rest => found (.to .both) rest
    | rest => found (.to .read) rest
  | _ => none

/-- What a text between back quotes is read as: a backslash protects some characters. -/
def backquoted (isQuoted : Bool) (read : Octets) : Octets → Option (Octets × Octets)
  | [] | ['\\'] => none
  | '`' :: rest => some (read.reverse, rest)
  | '\\' :: c :: rest =>
    if c = '\n' then backquoted isQuoted read rest
    else if c = '`' ∨ c = '\\' ∨ c = '$' ∨ (isQuoted ∧ c = '"') then
      backquoted isQuoted (c :: read) rest
    else backquoted isQuoted (c :: '\\' :: read) rest
  | c :: rest => backquoted isQuoted (c :: read) rest

inductive Asked where
  | value
  | length
  | test (orEmpty : Bool) (sign : Char)
  | cut (atEnd longest : Bool)
  | senseless
  /-- The value, in front of text that belongs to no sign. -/
  | valueAnd

/-- The sign behind the name of a parameter between braces, and what follows it. -/
def asked : Octets → Asked × Octets
  | '\x7d' :: rest => (.value, rest)
  | ':' :: c :: rest =>
    if c = '\x7d' then (.valueAnd, rest)
    else if "-+?=".toList.contains c then (.test true c, rest) else (.senseless, rest)
  | '%' :: '%' :: rest => (.cut true true, rest)
  | '%' :: rest => (.cut true false, rest)
  | '#' :: '#' :: rest => (.cut false true, rest)
  | '#' :: rest => (.cut false false, rest)
  | c :: rest => (if "-+?=".toList.contains c then .test false c else .senseless, rest)
  | [] => (.senseless, [])

/-- The name of a parameter behind an opening brace, what is asked of it, and what follows. -/
def braced (cs : Octets) : Octets × Asked × Octets :=
  let named (name rest : Octets) : Octets × Asked × Octets := (name, asked rest)
  let lengthOf (name rest : Octets) : Octets × Asked × Octets :=
    match rest with
    | '\x7d' :: rest => (name, .length, rest)
    | rest => (name, .senseless, rest)
  let inBraces (cs : Octets) : Octets × Octets :=
    if cs.head?.any Char.isDigit then cs.span Char.isDigit else cs.span Word.isNamePart
  match cs with
  | '#' :: c :: rest =>
    if Word.isNamePart c then
      let (name, rest) := inBraces (c :: rest)
      lengthOf name rest
    else
      match rest with
      | '\x7d' :: _ =>
        if c = '\x7d' then named ['#'] (c :: rest)
        else if isParameterSign c then lengthOf [c] rest
        else ([], .senseless, rest)
      | _ => named ['#'] (c :: rest)
  | c :: rest =>
    if Word.isNamePart c then
      let (name, rest) := inBraces cs
      named name rest
    else if c = '\x7d' then ([], .senseless, cs)
    else if isParameterSign c then named [c] rest
    else ([], .senseless, rest)
  | [] => ([], .senseless, [])

/-- The rest of a line and what follows its end. A line end does not count within quotations and
substitutions, which `inside` holds by the characters that end them, the innermost first. -/
def lineRest : (inside : List Char) → (afterBlank : Bool) → (read : Octets) → Octets →
    Octets × Option Octets
  | _, _, read, [] => (read.reverse, none)
  | '\'' :: inside, _, read, c :: cs =>
    lineRest (if c = '\'' then inside else '\'' :: inside) false (c :: read) cs
  | inside, _, read, '\\' :: c :: cs => lineRest inside false (c :: '\\' :: read) cs
  | inside, _, read, '$' :: '(' :: cs => lineRest (')' :: inside) true ('(' :: '$' :: read) cs
  | inside, _, read, '$' :: '\x7b' :: cs =>
    lineRest ('\x7d' :: inside) false ('\x7b' :: '$' :: read) cs
  | [], _, read, '\n' :: cs => (read.reverse, some cs)
  | inside, true, read, '#' :: cs =>
    match inside, cs.span (· != '\n') with
    | [], (comment, _ :: after) => (read.reverse ++ '#' :: comment, some after)
    | [], (comment, []) => (read.reverse ++ '#' :: comment, none)
    | inside, _ => lineRest inside false ('#' :: read) cs
  | inside, _, read, c :: cs =>
    let inside' :=
      if inside.head? = some c then inside.drop 1
      else if c = '"' ∨ c = '`' then c :: inside
      else if c = '\'' ∧ inside.head? ≠ some '"' then c :: inside
      else if c = '(' ∧ inside.head? = some ')' then ')' :: inside
      else inside
    lineRest inside' (Octets.isBlank c || c == '\n') (c :: read) cs

def isJoined (line : Octets) : Bool := (line.reverse.takeWhile (· = '\\')).length % 2 == 1

/-- The text of lines up to the one that is the mark, and the lines that follow. Where lines can be
joined, a mark cannot stand at the end of a joined line, unless all in front of it is empty. -/
def hereText (stripTabs joins : Bool) (mark : Octets) (afterJoined : Bool) :
    List Octets → Octets × List Octets
  | [] => ([], [])
  | line :: lines =>
    let isEmpty := line = ['\\'] && !afterJoined
    let line := if stripTabs && !afterJoined then line.dropWhile (· = '\t') else line
    if line = mark ∧ !afterJoined then ([], lines)
    else
      let (text, after) := hereText stripTabs joins mark (joins && isJoined line && !isEmpty) lines
      (if lines = [] then line else line ++ '\n' :: text, after)

/-- Applies a reader to another text. -/
def within {α : Type} (cs : Octets) (line : Nat) (read : Read α) : Read α := do
  let (a, _) ← (read.run (.ofText cs line (← get).aliases) : Except (Flaw × Nat) (α × Source))
  return a

/-- The text of a redirection to a text that follows the line, up to a mark, and the line on which
the text begins. It is taken out of what is left to read. -/
def takeHere (stripTabs joins : Bool) (mark : Octets) : Read (Octets × Nat) := do
  let s ← get
  match lineRest [] false [] s.rest with
  | (_, none) => return ([], s.line)
  | (before, some after) =>
    let first := s.line + before.count '\n' + 1
    let (text, lines) := hereText stripTabs joins mark false (after.splitOn '\n')
    let others := ['\n'].intercalate lines
    let left := others.count '\n'
    set { s with
      rest := before ++ '\n' :: others
      ends := s.ends.take (left + 1) ++ s.ends.drop (s.rest.count '\n' - before.count '\n') }
    return (text, first)

/-- Where a substitution stands: in the open, or quoted; there, `atEnd` is wrong if the text ends
too soon. -/
inductive Setting where
  | bare
  | quoted (atEnd : Flaw)

def Setting.isQuoted : Setting → Bool
  | bare => false
  | quoted _ => true

/-- What is looked for in the next token: whether line ends are passed over, and whether words may
be keywords or stand for other text. -/
structure Search where
  lines : Bool
  keywords : Bool
  aliases : Bool

namespace Search

def word : Search := ⟨false, false, false⟩

def command : Search := ⟨false, true, true⟩

def nextCommand : Search := ⟨true, true, true⟩

def keyword : Search := ⟨true, true, false⟩

end Search

/-- How a list of commands ends: with its line, or with what closes it; it may be empty only where
it is the body of a substitution or an arm. -/
inductive Extent where
  | line
  | body
  | optional
  deriving DecidableEq

/-- Puts the text of a word in the place of the word, if there is one. -/
def replaceAlias? (text : Octets) : Read Bool := do
  let s ← get
  match s.aliases.lookup text with
  | none => return false
  | some value =>
    let size := s.rest.length
    if s.replaced.any fun e => e.1 == text && size ≥ e.2 then return false
    else
      let lines := List.replicate (value.count '\n') s.line
      set { s with
        rest := value ++ s.rest
        ends := s.ends.take (s.rest.count '\n' + 1) ++ lines ++ s.ends.drop (s.rest.count '\n' + 1)
        replaced := (text, size) :: s.replaced }
      return true

/-- Forgets the replaced words whose text has been read. Behind one that ends with a blank, the next
word may stand for other text as well. -/
def passAliases : Read Bool := do
  let s ← get
  if s.replaced.isEmpty then return false
  else
    let (passed, others) := s.replaced.partition fun e => s.rest.length ≤ e.2
    set { s with replaced := others }
    return passed.any fun e => ((s.aliases.lookup e.1).bind List.getLast?).any Octets.isBlank

/-- Special names, which cannot name functions. -/
def reserved : List String :=
  [".", ":", "break", "continue", "eval", "exec", "exit", "export", "local", "readonly", "return",
    "set", "shift", "times", "trap", "unset"]

mutual

/-- The parts of a word in the open, up to what ends it: a character that ends words, or the brace
that closes it. In a mark, a dollar sign is like any other character. -/
def bare : Nat → (inBraces isMark : Bool) → Read Word
  | 0, _, _ => fail .tooDeep
  | n + 1, inBraces, isMark => do
    match ← rest with
    | [] => if inBraces then fail .missingBrace else return []
    | '\\' :: '\n' :: cs => goTo cs; bare n inBraces isMark
    | ['\\'] => goTo []; return Word.cons ['\\'] true (← bare n inBraces isMark)
    | '\\' :: c :: cs => goTo cs; return Word.cons [c] true (← bare n inBraces isMark)
    | '\'' :: cs =>
      match cs.span (· != '\'') with
      | (_, []) => goTo []; fail .openQuotation
      | (text, _ :: after) => goTo after; return Word.cons text true (← bare n inBraces isMark)
    | '"' :: cs =>
      goTo cs
      let inner ← quotation n inBraces isMark
      let others ← bare n inBraces isMark
      let isSingle : Bool :=
        match inner with
        | [_] => true
        | _ => false
      return (if isSingle then inner else .plain [] true :: inner) ++ others
    | c :: cs =>
      if c = '`' ∧ !isMark then
        goTo cs
        return (← backquote n .bare) :: (← bare n inBraces isMark)
      else if c = '$' ∧ !isMark then
        goTo cs
        return (← dollar n .bare) ++ (← bare n inBraces isMark)
      else if inBraces ∧ c = '\x7d' then return []
      else if !inBraces && isMeta c then return []
      else
        let (text, after) := cs.span fun c =>
          !isSpecial c && !(if inBraces then c == '\x7d' else isMeta c)
        goTo after
        return Word.cons (c :: text) false (← bare n inBraces isMark)

/-- The parts of a quotation, past the mark that closes it. -/
def quotation : Nat → (inBraces isMark : Bool) → Read Word
  | 0, _, _ => fail .tooDeep
  | n + 1, inBraces, isMark => do
    match ← rest with
    | [] => fail .openQuotation
    | '"' :: cs => goTo cs; return []
    | '\\' :: '\n' :: cs => goTo cs; quotation n inBraces isMark
    | '\\' :: c :: cs =>
      goTo cs
      let isProtected := "\\`$\"".toList.contains c || (inBraces && c == '\x7d')
      let text := if isProtected then [c] else ['\\', c]
      return Word.cons text true (← quotation n inBraces isMark)
    | c :: cs =>
      if c = '`' ∧ !isMark then
        goTo cs
        return (← backquote n (.quoted .openQuotation)) :: (← quotation n inBraces isMark)
      else if c = '$' ∧ !isMark then
        goTo cs
        return (← dollar n (.quoted .openQuotation)) ++ (← quotation n inBraces isMark)
      else
        let (text, after) := cs.span fun c => !"\\\"`$".toList.contains c
        goTo after
        return Word.cons (c :: text) true (← quotation n inBraces isMark)

/-- The parts of a word between braces within a quotation, up to the brace that closes it.
Quotation marks in it change nothing but that a brace between them closes nothing. -/
def quotedWord : Nat → (isInner : Bool) → (atEnd : Flaw) → Read Word
  | 0, _, _ => fail .tooDeep
  | n + 1, isInner, atEnd => do
    match ← rest with
    | [] => fail atEnd
    | '"' :: cs => goTo cs; quotedWord n (!isInner) atEnd
    | '\\' :: '\n' :: cs => goTo cs; quotedWord n isInner atEnd
    | '\\' :: c :: cs =>
      goTo cs
      let text := if "\\`$\"\x7d".toList.contains c then [c] else ['\\', c]
      return Word.cons text true (← quotedWord n isInner atEnd)
    | '`' :: cs =>
      goTo cs
      return (← backquote n (.quoted atEnd)) :: (← quotedWord n isInner atEnd)
    | '$' :: cs =>
      goTo cs
      return (← dollar n (.quoted atEnd)) ++ (← quotedWord n isInner atEnd)
    | c :: cs =>
      if c = '\x7d' ∧ !isInner then return []
      else
        let (text, after) := cs.span fun c => !"\\\"`$\x7d".toList.contains c
        goTo after
        return Word.cons (c :: text) true (← quotedWord n isInner atEnd)

/-- The parts of a text with substitutions, up to its end. -/
def document : Nat → Read Word
  | 0 => fail .tooDeep
  | n + 1 => do
    match ← rest with
    | [] => return []
    | '\\' :: '\n' :: cs => goTo cs; document n
    | '\\' :: c :: cs =>
      goTo cs
      let text := if "\\`$".toList.contains c then [c] else ['\\', c]
      return Word.cons text true (← document n)
    | '`' :: cs => goTo cs; return (← backquote n (.quoted .missingBrace)) :: (← document n)
    | '$' :: cs => goTo cs; return (← dollar n (.quoted .missingBrace)) ++ (← document n)
    | c :: cs =>
      let (text, after) := cs.span fun c => !"\\`$".toList.contains c
      goTo after
      return Word.cons (c :: text) true (← document n)

/-- The parts of a sum, past the two parentheses that close it; `depth` of them are open. -/
def sum : Nat → (depth : Nat) → Read Word
  | 0, _ => fail .tooDeep
  | n + 1, depth => do
    match ← rest with
    | [] => fail .missingParentheses
    | '\\' :: '\n' :: cs => goTo cs; sum n depth
    | '\\' :: c :: cs =>
      goTo cs
      let text := if "\\`$\"".toList.contains c then [c] else ['\\', c]
      return Word.cons text true (← sum n depth)
    | '`' :: cs =>
      goTo cs
      return (← backquote n (.quoted .openQuotation)) :: (← sum n depth)
    | '$' :: cs =>
      goTo cs
      return (← dollar n (.quoted .openQuotation)) ++ (← sum n depth)
    | '(' :: cs => goTo cs; return Word.cons ['('] true (← sum n (depth + 1))
    | ')' :: cs =>
      match depth, unjoined cs with
      | 0, ')' :: cs => goTo cs; return []
      | depth, _ => goTo cs; return Word.cons [')'] true (← sum n (depth - 1))
    | c :: cs =>
      let (text, after) := cs.span fun c => !"\\`$()".toList.contains c
      goTo after
      return Word.cons (c :: text) true (← sum n depth)

/-- The substitution behind a back quote. What its text cannot be read as is left out. -/
def backquote : Nat → Setting → Read Part
  | 0, _ => fail .tooDeep
  | n + 1, setting => do
    match backquoted setting.isQuoted [] (← rest) with
    | none => goTo []; fail .openBackquote
    | some (text, after) =>
      goTo after
      return .output (← within text 1 (list n .optional)) setting.isQuoted

/-- The substitution behind a dollar sign, or the sign itself. -/
def dollar : Nat → Setting → Read Word
  | 0, _ => fail .tooDeep
  | n + 1, setting => do
    let cs := unjoined (← rest)
    match cs with
    | '(' :: cs =>
      match unjoined cs with
      | '(' :: cs => goTo cs; return [.number (← sum n 0) setting.isQuoted]
      | cs =>
        goTo cs
        let given? := (← get).given?
        modify fun s => { s with given? := none }
        let body ← list n .optional
        match ← next n .word with
        | .closing =>
          modify fun s => { s with given? := given? }
          return [.output body setting.isQuoted]
        | token => refuse token (some .closing)
    | '\x7b' :: cs => goTo (unjoined cs); brace n setting
    | c :: after =>
      if Word.isNameStart c then
        let (name, after) := cs.span Word.isNamePart
        goTo after
        return [.parameter name .keep setting.isQuoted]
      else if isParameterSign c then
        goTo after
        return [.parameter [c] .keep setting.isQuoted]
      else return [.plain ['$'] setting.isQuoted]
    | [] => return [.plain ['$'] setting.isQuoted]

/-- The parameter behind an opening brace, past the brace that closes it. -/
def brace : Nat → Setting → Read Word
  | 0, _ => fail .tooDeep
  | n + 1, setting => do
    let (name, asked, after) := braced (← rest)
    goTo after
    let word : Read Word :=
      match setting with
      | .bare => bare n true false
      | .quoted atEnd => quotedWord n false atEnd
    let close : Read Unit := do goTo ((← rest).drop 1)
    let whole (change : Change) : Word := [.parameter name change setting.isQuoted]
    match asked with
    | .value => return whole .keep
    | .length => return whole .length
    | .valueAnd => let w ← word; close; return whole .keep ++ w
    | .senseless => let _ ← word; close; return whole .senseless
    | .cut atEnd longest =>
      let pattern ← bare n true false
      close
      return whole (.cut atEnd longest pattern)
    | .test orEmpty sign =>
      let w ← word
      close
      return whole <|
        match sign with
        | '-' => .ifUnset orEmpty w
        | '=' => .assignUnset orEmpty w
        | '?' => .failUnset orEmpty w
        | _ => .ifSet orEmpty w

def token : Nat → (isMark : Bool) → Read Token
  | 0, _ => fail .tooDeep
  | n + 1, isMark => do
    let cs := atToken (← rest)
    goTo cs
    let sign (t : Token) (cs : Octets) : Read Token := do goTo cs; return t
    match cs with
    | [] => return .endOfFile
    | '\n' :: cs => sign .newline cs
    | '(' :: cs => sign .opening cs
    | ')' :: cs => sign .closing cs
    | '&' :: cs =>
      match unjoined cs with
      | '&' :: cs => sign .andThen cs
      | cs => sign .ampersand cs
    | '|' :: cs =>
      match unjoined cs with
      | '|' :: cs => sign .orElse cs
      | cs => sign .pipe cs
    | ';' :: cs =>
      match unjoined cs with
      | ';' :: cs => sign .endOfArm cs
      | cs => sign .semicolon cs
    | _ =>
      match redirection? cs with
      | some (descriptor, s, cs) => sign (.redirection descriptor s) cs
      | none => return .word (← bare n false isMark)

/-- The next token, with line ends passed over and words looked up as asked for. -/
def next : Nat → Search → Read Token
  | 0, _ => fail .tooDeep
  | n + 1, search => do
    let given? := (← get).given?
    modify fun s => { s with given? := none }
    let (t, follows) ←
      match given? with
      | some t => pure (t, false)
      | none =>
        goTo (atToken (← rest))
        let follows ← passAliases
        let t ← token n false
        pure (t, follows)
    let search := { search with aliases := search.aliases || follows }
    match t with
    | .newline => if search.lines then next n search else return t
    | .word w =>
      match Word.bare? w with
      | none => return t
      | some text =>
        if search.keywords && Token.keywords.contains (String.ofList text) then
          return .keyword (String.ofList text)
        else if search.aliases then
          if ← replaceAlias? text then next n search else return t
        else return t
    | t => return t

def redirection : Nat → Nat → RedirectionSign → Read Redirection
  | 0, _, _ => fail .tooDeep
  | n + 1, descriptor, sign => do
    match sign with
    | .here stripTabs =>
      match ← token n true with
      | .word mark =>
        let isQuoted := mark.isQuoted
        let (text, line) ← takeHere stripTabs (!isQuoted) mark.plainText
        if isQuoted then return .text descriptor [.plain text true]
        else return .text descriptor (← within text line (document n))
      | t => refuse t none
    | .to direction =>
      match ← next n .word with
      | .word target => return .file descriptor direction target
      | t => refuse t none
    | .copy =>
      match ← next n .word with
      | .word target => return .copy descriptor target
      | t => refuse t none

/-- The redirections behind a compound command. Behind one of them, words are not looked up. -/
def redirections : Nat → Search → Read (List Redirection)
  | 0, _ => fail .tooDeep
  | n + 1, search => do
    match ← next n search with
    | .redirection descriptor sign =>
      let r ← redirection n descriptor sign
      return r :: (← redirections n .word)
    | t => giveBack t; return []

/-- The rest of a simple command, after what was read of it. -/
def simple : Nat → Nat → List (Octets × Word) → List Word → List Redirection → Read Command
  | 0, _, _, _, _ => fail .tooDeep
  | n + 1, line, assignments, words, redirections => do
    match ← next n ⟨false, false, words.isEmpty⟩ with
    | .word w =>
      match words, w.assignment? with
      | [], some a => simple n line (assignments ++ [a]) [] redirections
      | _, _ => simple n line assignments (words ++ [w]) redirections
    | .redirection descriptor sign =>
      let r ← redirection n descriptor sign
      simple n line assignments words (redirections ++ [r])
    | .opening =>
      match words, assignments, redirections with
      | [w], [], [] =>
        match ← next n .word with
        | .closing =>
          match w.bare? with
          | some name =>
            if Word.isName name ∧ !reserved.contains (String.ofList name) then
              let t ← next n .nextCommand
              giveBack t
              return .define name (← command n)
            else fail .functionName
          | none => fail .functionName
        | t => refuse t (some .closing)
      | _, _, _ =>
        giveBack .opening
        return .simple line assignments words redirections
    | t => giveBack t; return .simple line assignments words redirections

/-- The rest of a condition, behind the word that opens it. -/
def conditional : Nat → Read Command
  | 0 => fail .tooDeep
  | n + 1 => do
    let condition ← list n .body
    match ← next n .word with
    | .keyword "then" =>
      let body ← list n .body
      match ← next n .word with
      | .keyword "elif" => return .choice condition body [← conditional n]
      | .keyword "else" =>
        let other ← list n .body
        expectKeyword n "fi"
        return .choice condition body other
      | t =>
        giveBack t
        expectKeyword n "fi"
        return .choice condition body []
    | t => refuse t (some (.keyword "then"))

def expectKeyword : Nat → String → Read Unit
  | 0, _ => fail .tooDeep
  | n + 1, name => do
    match ← next n .word with
    | .keyword found =>
      if found = name then return () else refuse (.keyword found) (some (.keyword name))
    | t => refuse t (some (.keyword name))

/-- The words of a loop up to the end of the line or a semicolon. -/
def words : Nat → Read (List Word)
  | 0 => fail .tooDeep
  | n + 1 => do
    match ← next n .word with
    | .word w => return w :: (← words n)
    | .newline | .semicolon => return []
    | t => refuse t none

def forLoop : Nat → Nat → Read Command
  | 0, _ => fail .tooDeep
  | n + 1, line => do
    let name ←
      match ← next n .word with
      | .word w =>
        match w.bare? with
        | some name => if Word.isName name then pure name else fail .loopName
        | none => fail .loopName
      | _ => fail .loopName
    let values ←
      match ← next n .nextCommand with
      | .keyword "in" => words n
      | .semicolon => pure [[.parameter ['@'] .keep true]]
      | t => do
        giveBack t
        pure [[.parameter ['@'] .keep true]]
    match ← next n .nextCommand with
    | .keyword "do" =>
      let body ← list n .body
      expectKeyword n "done"
      return .each line name values body
    | t => refuse t (some (.keyword "do"))

/-- The patterns of an arm, the first of which is `t`, up to the parenthesis that closes them. -/
def patterns : Nat → Token → Read (List Word)
  | 0, _ => fail .tooDeep
  | n + 1, t => do
    let pattern : Word :=
      match t with
      | .word w => w
      | .keyword name => [.plain name.toList false]
      | _ => []
    match ← next n .word with
    | .pipe =>
      let t ← next n .word
      return pattern :: (← patterns n t)
    | .closing => return [pattern]
    | t => refuse t (some .closing)

/-- The arms of a selection, past the word that closes it. -/
def arms : Nat → Read (List (List Word × List Command))
  | 0 => fail .tooDeep
  | n + 1 => do
    match ← next n .keyword with
    | .keyword "esac" => return []
    | t =>
      let t ← match t with
        | .opening => next n .word
        | t => pure t
      let patterns ← patterns n t
      let body ← list n .optional
      match ← next n .keyword with
      | .keyword "esac" => return [(patterns, body)]
      | .endOfArm => return (patterns, body) :: (← arms n)
      | t => refuse t (some .endOfArm)

def selection : Nat → Nat → Read Command
  | 0, _ => fail .tooDeep
  | n + 1, line => do
    match ← next n .word with
    | .word subject =>
      match ← next n .nextCommand with
      | .keyword "in" => return .select line subject (← arms n)
      | t => refuse t (some (.keyword "in"))
    | t => refuse t (some (.word []))

/-- A command behind which redirections stand. Those of a subshell take the place of others that it
has already, which it does if it is all that stands between braces. -/
def withRedirections (line : Nat) (c : Command) : List Redirection → Command
  | [] => c
  | rs =>
    match c with
    | .apart line body _ => .apart line body rs
    | c => .redirected line c rs

def command : Nat → Read Command
  | 0 => fail .tooDeep
  | n + 1 => do
    let t ← next n .word
    let line := (← get).line
    let redirected (c : Command) : Read Command :=
      return withRedirections line c (← redirections n .command)
    match t with
    | .keyword "if" => redirected (← conditional n)
    | .keyword "for" => redirected (← forLoop n line)
    | .keyword "case" => redirected (← selection n line)
    | .keyword "\x7b" =>
      let body ← list n .body
      expectKeyword n "\x7d"
      match body with
      | [c] => redirected c
      | body => redirected (.group body)
    | .keyword word =>
      if word = "while" ∨ word = "until" then
        let condition ← list n .body
        expectKeyword n "do"
        let body ← list n .body
        expectKeyword n "done"
        redirected (.loop (word = "until") condition body)
      else refuse t none
    | .opening =>
      let body ← list n .body
      match ← next n .word with
      | .closing => redirected (.apart line body [])
      | t => refuse t (some .closing)
    | .word _ | .redirection .. => giveBack t; simple n line [] [] []
    | t => refuse t none

def stages : Nat → Read (List Command)
  | 0 => fail .tooDeep
  | n + 1 => do
    match ← next n .word with
    | .pipe =>
      let t ← next n .nextCommand
      giveBack t
      let c ← command n
      return c :: (← stages n)
    | t => giveBack t; return []

/-- A command or a pipe, perhaps negated. -/
def pipeline : Nat → Search → Read Command
  | 0, _ => fail .tooDeep
  | n + 1, search => do
    let t ← next n search
    let isNegated : Bool :=
      match t with
      | .keyword "!" => true
      | _ => false
    let t ← if isNegated then next n .command else pure t
    giveBack t
    let first ← command n
    let others ← stages n
    let c := if others.isEmpty then first else .pipe (first :: others)
    return if isNegated then .negated c else c

def joined : Nat → Command → Read Command
  | 0, _ => fail .tooDeep
  | n + 1, first => do
    match ← next n .word with
    | .andThen => joined n (.both first (← pipeline n .nextCommand))
    | .orElse => joined n (.either first (← pipeline n .nextCommand))
    | t => giveBack t; return first

/-- The rest of a list of commands; its end may come now unless a command must come first. -/
def further : Nat → Extent → (mayEnd : Bool) → Read (List Command)
  | 0, _, _ => fail .tooDeep
  | n + 1, extent, mayEnd => do
    match ← next n ⟨extent ≠ .line, true, true⟩ with
    | .newline => return []
    | .endOfFile => giveBack .endOfFile; return []
    | t =>
      giveBack t
      if mayEnd ∧ extent ≠ .line ∧ t.isEnd then return []
      else
        let line := (← get).line
        let c ← joined n (← pipeline n .word)
        match ← next n .word with
        | .ampersand => return .aside line c :: (← further n extent true)
        | .semicolon => return c :: (← further n extent true)
        | .newline => giveBack .newline; return c :: (← further n extent true)
        | .endOfFile => giveBack .endOfFile; return [c]
        | t => if extent = .line then refuse t none else giveBack t; return [c]

def list : Nat → Extent → Read (List Command)
  | 0, _ => fail .tooDeep
  | n + 1, extent => further n extent (extent = .optional)

end

/-- How deep calls go for a text of some length: each character is looked at by a few readers. -/
def depth (cs : Octets) : Nat := 32 * cs.length + 64

end BatchFormat.Shell.Reader

namespace BatchFormat.Shell.Source

/-- The commands of the next line of a script, and the script behind it; nothing at its end. -/
def nextLine (s : Source) : Except (Flaw × Nat) (Option (List Command × Source)) :=
  let s := { s with given? := none }
  if s.rest = [] then .ok none
  else
    let size := total (s.aliases.map fun e => e.2.length)
    ((Reader.list (Reader.depth s.rest + 64 * size) .line).run s).map some

end BatchFormat.Shell.Source
