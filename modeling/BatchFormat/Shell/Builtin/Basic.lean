import BatchFormat.Shell.Expansion

/-!
# Commands of the shell itself

What the commands have in common that the shell carries out itself: how they read their words, and
how they show texts.
-/
namespace BatchFormat.Shell

/-- A command that the shell carries out itself: what it does with the words behind its name, and
the status it ends with. -/
abbrev Builtin := List Octets → Run Nat

namespace Builtin

/-- Names that change the shell itself. -/
def special : List String :=
  [".", ":", "break", "continue", "eval", "exec", "exit", "export", "local", "readonly", "return",
    "set", "shift", "times", "trap", "unset"]

def regular : List String :=
  ["[", "alias", "bg", "cd", "chdir", "command", "echo", "false", "fg", "getopts", "hash", "jobs",
    "kill", "printf", "pwd", "read", "test", "true", "type", "ulimit", "umask", "unalias", "wait"]

def assigning : List String := ["alias", "export", "local", "readonly"]

def isSpecial (word : Octets) : Bool := special.contains (String.ofList word)

def isOne (word : Octets) : Bool := isSpecial word || regular.contains (String.ofList word)

/-- Reads options: letters that are known, some of them with a value. -/
def scan (flags valued : String) : Nat → List Octets → Except String (Options × List Octets)
  | 0, words => .ok ([], words)
  | _, [] => .ok ([], [])
  | n + 1, word :: words =>
    let further (letter : Char) (value : Octets) (words : List Octets) :
        Except String (Options × List Octets) :=
      (scan flags valued n words).map fun (found, operands) => ((letter, value) :: found, operands)
    match word with
    | ['-', '-'] => .ok ([], words)
    | '-' :: letter :: rest =>
      if valued.toList.contains letter then
        match rest, words with
        | [], [] => .error s!"No arg for -{letter} option"
        | [], value :: words => further letter value words
        | _, _ => further letter rest words
      else if flags.toList.contains letter then
        further letter [] (if rest = [] then words else ('-' :: rest) :: words)
      else .error s!"Illegal option -{(Octets.text [letter])}"
    | _ => .ok ([], word :: words)

def options (flags valued : String) (words : List Octets) : Run (Options × List Octets) :=
  match scan flags valued (total (words.map fun w => w.length + 1) + 1) words with
  | .ok found => return found
  | .error remark => Run.failWith remark

def operands (words : List Octets) : Run (List Octets) :=
  return (← options "" "" words).2

def number (word : Octets) : Run Nat :=
  match numberOf? word with
  | some n => return n
  | none => Run.fail ("Illegal number: ".toList ++ word)

def quotedPieces : Nat → Octets → Octets
  | 0, _ => []
  | n + 1, cs =>
    let (front, rest) := cs.span (· != '\'')
    let (marks, rest) := rest.span (· == '\'')
    let shown := '\'' :: front ++ ['\'']
    if marks = [] then shown
    else
      let shown := shown ++ '"' :: marks ++ ['"']
      if rest = [] then shown else shown ++ quotedPieces n rest

/-- A text as it can be read again. -/
def quoted (cs : Octets) : Octets := quotedPieces (cs.length + 1) cs

end Builtin
end BatchFormat.Shell
