import BatchFormat.Text.Octets

/-!
# Signals

The names of signals, and what becomes of a process that gets one.
-/
namespace BatchFormat.Shell.Signal

/-- The names of the signals below 32, in the order of their numbers; some have none. -/
def lowNames : List String :=
  ["EXIT", "HUP", "INT", "QUIT", "ILL", "TRAP", "ABRT", "BUS", "FPE", "KILL", "USR1", "SEGV", "USR2",
    "PIPE", "ALRM", "TERM", "16", "CHLD", "CONT", "STOP", "TSTP", "TTIN", "TTOU", "URG", "XCPU",
    "XFSZ", "VTALRM", "PROF", "WINCH", "IO", "PWR", "SYS"]

/-- The lowest and the highest signal that have no meaning of their own. -/
def firstFree : Nat := 34

def lastFree : Nat := 64

def name (signal : Nat) : String :=
  match lowNames[signal]? with
  | some name => name
  | none =>
    if signal < firstFree then toString signal
    else if signal = firstFree then "RTMIN"
    else if signal = lastFree then "RTMAX"
    else if signal - firstFree ≤ 15 then s!"RTMIN+{signal - firstFree}"
    else s!"RTMAX-{lastFree - signal}"

def ofNumber? (cs : Octets) : Option Nat :=
  if cs ≠ [] ∧ cs.all Char.isDigit then
    ((String.ofList cs).toNat?).filter (· ≤ lastFree)
  else none

/-- The signal that a name, in large or small letters, or a number stands for. Where `least` is 1,
the end of the script is not among them. -/
def of? (least : Nat) (cs : Octets) : Option Nat :=
  let large := cs.map Char.toUpper
  ofNumber? cs <|> (List.range (lastFree + 1)).find? fun n =>
    n ≥ least && (name n).toList == large && !(cs.head?.any Char.isDigit)

/-- Signals that do nothing to a process that does not ask for them. -/
def isHarmless (signal : Nat) : Bool := [0, 17, 18, 23, 28].contains signal

/-- The signal that ends a process which has used up its memory. -/
def outOfMemory : Nat := 11

/-- The signals that cannot be caught: one ends a process, and the other stops it. -/
def kill : Nat := 9

def halt : Nat := 19

def isSovereign (signal : Nat) : Bool := signal == kill || signal == halt

def ofKeyboard : List Nat := [2, 3]

def terminate : Nat := 15

/-- What is said of a process that a signal ended. -/
def description (signal : Nat) : String :=
  let known : List (Nat × String) :=
    [(1, "Hangup"), (2, "Interrupt"), (3, "Quit"), (4, "Illegal instruction"),
      (5, "Trace/breakpoint trap"), (6, "Aborted"), (7, "Bus error"), (8, "Floating point exception"),
      (9, "Killed"), (10, "User defined signal 1"), (11, "Segmentation fault"),
      (12, "User defined signal 2"), (13, "Broken pipe"), (14, "Alarm clock"), (15, "Terminated"),
      (16, "Stack fault"), (24, "CPU time limit exceeded"), (25, "File size limit exceeded"),
      (26, "Virtual timer expired"), (27, "Profiling timer expired"), (29, "I/O possible"),
      (30, "Power failure"), (31, "Bad system call")]
  match known.lookup signal with
  | some text => text
  | none =>
    if firstFree ≤ signal then s!"Real-time signal {signal - firstFree}" else s!"Unknown signal {signal}"

/-- What a shell says of a program that a signal ended; of an interruption and of a pipe that was
closed it says nothing. -/
def obituary (signal : Nat) : String :=
  if signal = 2 ∨ signal = 13 then "" else description signal

end BatchFormat.Shell.Signal
