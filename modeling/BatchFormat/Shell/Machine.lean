import BatchFormat.Shell.Process
import BatchFormat.Shell.Tool

/-!
# The machine that scripts run on

What all processes share: the files, the open files, and the time.
-/
namespace BatchFormat.Shell

/-- A piece of text, when it was written, and the process aside that wrote it. -/
structure Piece where
  time : Nat
  party : Nat
  text : Octets

inductive Channel where
  /-- A text that can be read once, in pieces with the times when they arrive, and the time when it
  ends. It never ends if it is endless. -/
  | source (pieces : List (Nat × Octets)) (ends : Nat) (endless : Bool)
  /-- A text that is collected, the latest piece first. -/
  | sink (pieces : List Piece)
  /-- A file on the disk, and what it was opened for. -/
  | file (place : Location) (offset : Nat) (direction : Direction)
  /-- A directory, which cannot be read. -/
  | directory
  /-- A file that takes and gives nothing. -/
  | void
  /-- A file that has no room left. -/
  | full

def Channel.ofText (cs : Octets) : Channel := .source [(0, cs)] 0 false

/-- A process that runs aside and has not been followed yet: what it runs, and when it began. -/
structure Pending where
  process : Process
  command : Command
  start : Nat

/-- The end of a process that ran aside: its status, the signal that ended it, the time, the signals
that it ignored, and whether it has been waited for. -/
structure Ending where
  process : Nat
  status : Nat
  signal? : Option Nat
  time : Nat
  ignored : List Nat
  isWaitedFor : Bool

/-- An open file that a process keeps from its end until some time. -/
structure Keeper where
  channel : Nat
  process : Nat
  time : Nat

/-- What all processes share. Times are in nanoseconds. -/
structure Machine where
  tree : Tree
  /-- The open files by number. -/
  channels : Array Channel
  /-- The time that has passed, and the time after which everything is stopped. -/
  time : Nat
  limit : Nat
  /-- The number of the latest process. -/
  latest : Nat
  /-- The commands that were run, and how many may be run. -/
  work : Nat
  workLimit : Nat
  pending : List Pending
  endings : List Ending
  keepers : List Keeper
  /-- The signals that processes are still to be told of, by the numbers of the processes. -/
  signals : List (Nat × Nat)

namespace Machine

def add (m : Machine) (c : Channel) : Nat × Machine :=
  (m.channels.size, { m with channels := m.channels.push c })

def setChannel (m : Machine) (number : Nat) (c : Channel) : Machine :=
  { m with channels := m.channels.setIfInBounds number c }

/-- What can be read from an open file. -/
def content (m : Machine) (number : Nat) : Octets :=
  match m.channels[number]? with
  | some (.source [(_, cs)] _ _) => cs
  | some (.source pieces _ _) => pieces.flatMap Prod.snd
  | some (.file place offset direction) =>
    match direction, m.tree.get? place with
    | .read, some (.file bytes _) | .both, some (.file bytes _) => .ofBytes (bytes.drop offset)
    | _, _ => []
  | _ => []

/-- Lets time pass up to a moment. -/
def waitUntil (m : Machine) (moment : Nat) : Machine := { m with time := max m.time moment }

/-- Drops a number of octets from the front of pieces; tells the time when the last of them
arrived. -/
def dropPieces : Nat → (latest : Nat) → List (Nat × Octets) → Nat × List (Nat × Octets)
  | _, latest, [] => (latest, [])
  | 0, latest, pieces => (latest, pieces)
  | n + 1, latest, (time, cs) :: pieces =>
    if cs.length ≤ n + 1 then dropPieces (n + 1 - cs.length) (max latest time) pieces
    else (max latest time, (time, cs.drop (n + 1)) :: pieces)

/-- Moves on in an open file, so that `rest` is left of it, which takes until all in front of it has
arrived. -/
def leave (m : Machine) (number : Nat) (rest : Octets) : Machine :=
  match m.channels[number]? with
  | some (.source [(time, _)] ends endless) =>
    let m := m.setChannel number (.source [(time, rest)] ends endless)
    m.waitUntil (if rest = [] then max time ends else time)
  | some (.source pieces ends endless) =>
    let size := total (pieces.map fun p => p.2.length)
    let (time, pieces) := dropPieces (size - rest.length) 0 pieces
    let m := m.setChannel number (.source pieces ends endless)
    m.waitUntil (if rest = [] then max time ends else time)
  | some (.file place offset direction) =>
    let passed := (m.content number).length - rest.length
    m.setChannel number (.file place (offset + passed) direction)
  | _ => m

/-- How many octets of an open file are taken when `count` of them are asked for in blocks: what has
arrived with the last of them comes along, but no more than blocks. A text without end is taken no
further than it is needed. -/
def reach (m : Machine) (number block count : Nat) : Nat :=
  match m.channels[number]? with
  | some (.source pieces _ false) =>
    let moment := max m.time (dropPieces count 0 pieces).1
    let arrived := total ((pieces.takeWhile fun p => p.1 ≤ moment).map fun p => p.2.length)
    min arrived ((count + block - 1) / block * block)
  | _ => count

/-- Writes into bytes from an offset on. -/
def overwrite (offset : Nat) (piece bytes : Bytes) : Bytes :=
  bytes.take offset ++ List.replicate (offset - bytes.length) 0 ++ piece
    ++ bytes.drop (offset + piece.length)

def write (m : Machine) (number party : Nat) (cs : Octets) : Machine :=
  match m.channels[number]? with
  | some (.sink pieces) => m.setChannel number (.sink (⟨m.time, party, cs⟩ :: pieces))
  | some (.file place offset direction) =>
    match m.tree.get? place with
    | some (.file bytes mode) =>
      let offset := if direction = .append then bytes.length else offset
      let t := m.tree.put place (.file (overwrite offset cs.bytes bytes) mode)
      ({ m with tree := t }).setChannel number (.file place (offset + cs.length) direction)
    | _ => m
  | _ => m

/-- The pieces that were collected in an open file, in the order in which they were written. -/
def pieces (m : Machine) (number : Nat) : List (Nat × Octets) :=
  match m.channels[number]? with
  | some (.sink pieces) =>
    (pieces.reverse.mergeSort fun a b => a.time ≤ b.time).map fun p => (p.time, p.text)
  | _ => []

def collected (m : Machine) (number : Nat) : Octets := (m.pieces number).flatMap Prod.snd

/-- The file that an open file is, if it is one on the disk. -/
def place? (m : Machine) (number : Nat) : Option Location :=
  match m.channels[number]? with
  | some (.file place _ _) => some place
  | _ => none

def isOver (m : Machine) : Bool := m.limit ≤ m.time || m.workLimit ≤ m.work

/-- The time until which processes aside keep an open file from its end. -/
def keptUntil (m : Machine) (number : Nat) : Nat :=
  m.keepers.foldl (fun time k => if k.channel = number then max time k.time else time) 0

/-- The end of a process aside, if it has been followed. -/
def ending? (m : Machine) (process : Nat) : Option Ending :=
  m.endings.find? fun e => e.process = process

/-- Notes that a process aside has been waited for, which takes until its end. -/
def waitFor (m : Machine) (e : Ending) : Machine :=
  { m with
    time := max m.time e.time
    endings := m.endings.map fun other =>
      if other.process = e.process then { other with isWaitedFor := true } else other }

/-- Whether a process that has ended is known no more: it has been waited for, if only in passing. -/
def isGone (m : Machine) (e : Ending) : Bool := e.isWaitedFor || e.time < m.time

/-- Notes the end of a process aside, which has kept open files until then. -/
def finish (m : Machine) (e : Ending) (channels : List Nat) : Machine :=
  { m with
    endings := e :: m.endings.filter fun other => other.process != e.process
    keepers := m.keepers ++ channels.eraseDups.map fun c => ⟨c, e.process, e.time⟩ }

/-- Ends a process aside now by a signal. What it did later has not happened as far as it can be
taken back. -/
def cutShort (m : Machine) (process signal : Nat) : Machine :=
  let isPruned (p : Piece) : Bool := p.party == process && p.time > m.time
  { m with
    pending := m.pending.filter fun p => p.process.number != process
    endings := ⟨process, 128 + signal, some signal, m.time, [], false⟩ ::
      m.endings.filter fun other => other.process != process
    keepers := m.keepers.filter fun k => k.process != process
    channels := m.channels.map fun c =>
      match c with
      | .sink pieces => .sink (pieces.filter fun p => !isPruned p)
      | c => c }

def fullPlaces : List Location := [["dev", "full"]]

/-- Opens a file for a redirection, without destroying one if files are protected. -/
def openFile (m : Machine) (here : Location) (mask : Nat) (protects : Bool) (direction : Direction)
    (target : Octets) : Except Cause (Channel × Machine) :=
  let reads := direction = .read
  match if reads then Files.locate m.tree here target else Files.locateNew m.tree here target with
  | .error cause => .error cause
  | .ok (.vacant place) =>
    if reads then .error .noEntry
    else
      .ok (.file place 0 direction,
        { m with tree := m.tree.put place (.file [] (Files.masked mask 0o666)) })
  | .ok (.found place (.file _ mode)) =>
    let emptied := { m with tree := m.tree.put place (.file [] mode) }
    match direction with
    | .read | .both | .append => .ok (.file place 0 direction, m)
    | .write => if protects then .error .present else .ok (.file place 0 direction, emptied)
    | .overwrite => .ok (.file place 0 direction, emptied)
  | .ok (.found _ (.dir _)) => if reads then .ok (.directory, m) else .error .isDirectory
  | .ok (.found place _) => .ok (if fullPlaces.contains place then .full else .void, m)

end Machine
end BatchFormat.Shell
