import BatchFormat.Shell.Expansion

/-!
# Connections

How redirections make descriptors lead to files, to other descriptors and to texts. What they lead
to is found out first, for all of them; they are then made one after the other.
-/
namespace BatchFormat.Shell

/-- A redirection that knows where it leads to. -/
inductive Connection where
  | file (descriptor : Nat) (direction : Direction) (target : Octets)
  | copy (descriptor : Nat) (source? : Option Nat)
  | text (descriptor : Nat) (content : Word)

namespace Connection

/-- A cause as it is worded for a file that is opened or made. -/
def wording (isMade : Bool) (cause : Cause) : String :=
  match cause with
  | .noEntry | .notDirectory => if isMade then "Directory nonexistent" else "No such file"
  | cause => cause.description

end Connection

namespace Run

/-- Refuses what is no descriptor, as if it had been seen when the commands were read. -/
def refuseDescriptor {α : Type} : Run α := do
  onProcess fun p => { p with line := p.nextLine }
  failWith Flaw.descriptor.message

/-- Finds out what a redirection leads to. -/
def connection (eval : Evaluator) : Redirection → Run Connection
  | .text descriptor content => return .text descriptor content
  | .file descriptor direction target =>
    return .file descriptor direction (← textOf eval .text target)
  | .copy descriptor target => do
    match ← textOf eval .text target with
    | ['-'] => return .copy descriptor none
    | [c] =>
      if c.isDigit then return .copy descriptor (some (c.toNat - '0'.toNat))
      else refuseDescriptor
    | _ => refuseDescriptor

def openFor (descriptor : Nat) (direction : Direction) (target : Octets) : Run Unit := do
  let s ← get
  let p := s.process
  let isMade := direction != .read
  let refused (cause : Cause) : Run Unit :=
    let verb := if isMade then "cannot create " else "cannot open "
    fail (verb.toList ++ target ++ s!": {Connection.wording isMade cause}".toList)
  let opened (place : Location) (path : Octets) : Run Unit :=
    match s.machine.openFile place p.mask (p.has 'C') direction path with
    | .ok (channel, m) => set ((⟨p, m⟩ : State).attach descriptor channel)
    | .error cause => refused cause
  match descriptorOf? target with
  | none => opened p.here target
  | some source =>
    match p.table.lookup source with
    | none => refused .noEntry
    | some number =>
      match s.machine.place? number with
      | some place => opened place ['.']
      | none => onProcess fun p => p.bind descriptor number

/-- Makes a connection. A descriptor that is to be restored is put aside first, so that complaints
cannot go there. -/
def connect (eval : Evaluator) (isRestored : Bool) : Connection → Run Unit
  | .text descriptor content => do
    let text ← textOf eval .text content
    modify fun s => s.attach descriptor (.ofText text)
  | .copy descriptor none => onProcess fun p => p.close descriptor
  | .copy descriptor (some source) => do
    match (← process).table.lookup source with
    | some number => onProcess fun p => p.bind descriptor number
    | none =>
      if isRestored then onProcess fun p => p.close descriptor
      failWith s!"{source}: Bad file descriptor"
  | .file descriptor direction target => openFor descriptor direction target

/-- Makes connections; tells whether all could be made. -/
def connectAll (eval : Evaluator) (connections : List Connection) : Run Bool := do
  match ← attempt (connections.forM (connect eval true)) with
  | .ok () => return true
  | .error .failed => return false
  | .error stop => throw stop

end Run
end BatchFormat.Shell
