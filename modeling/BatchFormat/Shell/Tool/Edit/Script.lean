import BatchFormat.Shell.Regex

/-!
# Scripts of the line editor

A script such as `s/a/b/; /x/,$d` is a list of instructions, each with the lines it applies to.
-/
namespace BatchFormat.Shell.Edit

/-- An expression of a script, whether empty matches of it are found inside of signs, and whether it
is looked for in each line of a text by itself. -/
structure Expression where
  regex : Regex
  inside : Bool
  byLine : Bool

/-- The lines that an instruction applies to. The last two only end a range. -/
inductive Address where
  | line (number : Nat)
  | every (first step : Nat)
  | last
  /-- Lines in which an expression is found; none stands for the one used last. -/
  | fits (e? : Option Expression)
  | further (count : Nat)
  | multiple (of : Nat)

inductive Lettering where
  | asWritten | upper | lower
  deriving DecidableEq, Repr

/-- A piece of a replacement: plain text, the text of a group, or a change of lettering from there
on or for the next letter alone. -/
inductive Piece where
  | plain (cs : Octets)
  | group (index : Nat)
  | lettering (l : Lettering)
  | nextLetter (l : Lettering)

def highestGroup (ps : List Piece) : Nat :=
  ps.foldl (fun n p => match p with | .group index => max n index | _ => n) 0

def missingGroup (index : Nat) : String := s!"invalid reference \\{index} on `s' command's RHS"

/-- What to put in place of the matches of an expression, from which match on. -/
structure Substitution where
  expression? : Option Expression
  pieces : List Piece
  everywhere : Bool
  count : Nat
  /-- Whether the changed line is run as a script, and its output taken instead. -/
  evaluates : Bool
  printsBefore : Bool
  printsAfter : Bool
  /-- The file to which changed lines are written. -/
  file? : Option Octets

inductive Action where
  | substitute (s : Substitution)
  | exchange (source target : List Sign)
  /-- The instructions that follow, as many as given, apply only where this one does. -/
  | block (size : Nat)
  | delete | deleteFirst
  | print | printFirst
  /-- Prints the line so that every octet can be seen, broken at a width. -/
  | reveal (width? : Option Nat)
  | number
  | fileName
  | next | nextAdded
  | hold | holdAdded
  | fetch | fetchAdded
  | swap | clear
  | append (text : Octets) | insert (text : Octets) | replace (text : Octets)
  /-- Runs a script and prints its output, or the line as a script whose output becomes the line. -/
  | evaluate (script : Octets)
  | quit (status : Nat) | halt (status : Nat)
  | readFrom (file : Octets) | readLineFrom (file : Octets)
  /-- Prints a file in front of everything. -/
  | readFirst (file : Octets)
  | writeTo (file : Octets) | writeFirstTo (file : Octets)
  | label (name : Octets)
  | jump (name : Octets) | jumpIf (name : Octets) | jumpUnless (name : Octets)
  | nothing

/-- An action with the lines it applies to; two addresses are the ends of a range. -/
structure Instruction where
  first? : Option Address
  last? : Option Address
  inverted : Bool
  action : Action

namespace Action

/-- The label that an action leads to. -/
def target? : Action → Option Octets
  | jump name | jumpIf name | jumpUnless name => if name = [] then none else some name
  | _ => none

def file? : Action → Option Octets
  | writeTo file | writeFirstTo file => some file
  | substitute s => s.file?
  | _ => none

def isLabel (name : Octets) : Action → Bool
  | label own => own == name
  | _ => false

end Action
end BatchFormat.Shell.Edit
