import BatchFormat.Number.Power
import BatchFormat.Shell.Script

/-!
# Tokens

What the text of a script is cut into: words, signs, and words with a meaning of their own; and what
can be wrong with a script.
-/
namespace BatchFormat.Shell

inductive RedirectionSign where
  | to (direction : Direction)
  | copy
  | here (stripTabs : Bool)
  deriving DecidableEq, Repr

inductive Token where
  | endOfFile
  | newline
  | semicolon
  | ampersand
  | andThen
  | orElse
  | pipe
  | opening
  | closing
  | endOfArm
  | redirection (descriptor : Nat) (sign : RedirectionSign)
  | word (w : Word)
  | keyword (name : String)

namespace Token

/-- Words that begin or end commands where a command may stand. -/
def keywords : List String :=
  ["!", "case", "do", "done", "elif", "else", "esac", "fi", "for", "if", "in", "then", "until",
    "while", "\x7b", "\x7d"]

/-- Keywords at which a list of commands ends. -/
def closers : List String := ["do", "done", "elif", "else", "esac", "fi", "then", "\x7d"]

def isEnd : Token → Bool
  | endOfFile | closing | endOfArm => true
  | keyword name => closers.contains name
  | _ => false

def name : Token → String
  | endOfFile => "end of file"
  | newline => "newline"
  | semicolon => "\";\""
  | ampersand => "\"&\""
  | andThen => "\"&&\""
  | orElse => "\"||\""
  | pipe => "\"|\""
  | opening => "\"(\""
  | closing => "\")\""
  | endOfArm => "\";;\""
  | redirection .. => "redirection"
  | word _ => "word"
  | keyword name => s!"\"{name}\""

end Token

/-- Why a script cannot be read on. -/
inductive Flaw where
  | openQuotation
  | openBackquote
  | missingBrace
  | missingParentheses
  | loopName
  | functionName
  | descriptor
  | unexpected (token : String) (expected? : Option String)
  | tooDeep
  deriving DecidableEq, Repr

def Flaw.message : Flaw → String
  | openQuotation => "Syntax error: Unterminated quoted string"
  | openBackquote => "Syntax error: EOF in backquote substitution"
  | missingBrace => "Syntax error: Missing '\x7d'"
  | missingParentheses => "Syntax error: Missing '))'"
  | loopName => "Syntax error: Bad for loop variable"
  | functionName => "Syntax error: Bad function name"
  | descriptor => "Syntax error: Bad fd number"
  | unexpected token none => s!"Syntax error: {token} unexpected"
  | unexpected token (some expected) => s!"Syntax error: {token} unexpected (expecting {expected})"
  | tooDeep => "Syntax error: nested too deeply"

/-- A text that is being read: what is left of it, the numbers of its lines by how many line ends
are left behind them, a token that was given back, the words that stand for other text, and of those
whose text is being read how much text is left behind them. -/
structure Source where
  rest : Octets
  ends : List Nat
  given? : Option Token
  aliases : List (Octets × Octets)
  replaced : List (Octets × Nat)

namespace Source

def ofText (cs : Octets) (line : Nat) (aliases : List (Octets × Octets)) : Source :=
  let count := cs.count '\n'
  ⟨cs, ((List.range (count + 1)).map (line + ·)).reverse, none, aliases, []⟩

def line (s : Source) : Nat := (s.ends[s.rest.count '\n']?).getD 1

end Source

/-- Reads a part of a text, or tells what is wrong with it, and in which line. -/
abbrev Read := StateT Source (Except (Flaw × Nat))

namespace Read

def rest : Read Octets := return (← get).rest

def goTo (cs : Octets) : Read Unit := modify fun s => { s with rest := cs }

def fail {α : Type} (flaw : Flaw) : Read α := do throw (flaw, (← get).line)

/-- Refuses a token, for want of another one if there is one. -/
def refuse {α : Type} (token : Token) (expected? : Option Token) : Read α :=
  fail (.unexpected token.name (expected?.map Token.name))

/-- Gives a token back, to be read again. -/
def giveBack (token : Token) : Read Unit := modify fun s => { s with given? := some token }

end Read
end BatchFormat.Shell
