import BatchFormat.Launch
import BatchFormat.Record
import BatchFormat.Tree.Replace

/-!
# The world of a run

What a run finds around it and cannot change, and what it changes: the files, and the histories of
what was said, asked and reported.
-/
namespace BatchFormat

/-- The variables that are set, with their values. -/
abbrev Environment := List (String × String)

/-- Passes a record on to the files that keep a copy of the log. It knows the places of files
that were replaced, since an open file does not follow the name that is moved over it. -/
abbrev Echo := List Location → Record → Tree → Tree

def Echo.silent : Echo := fun _ _ t => t

/-- The accounts that a system has to begin with, and their home directories. -/
def standardAccounts : List (String × String) :=
  [("root", "/root"), ("daemon", "/usr/sbin"), ("bin", "/bin"), ("sys", "/dev"), ("sync", "/bin"),
    ("games", "/usr/games"), ("man", "/var/cache/man"), ("lp", "/var/spool/lpd"),
    ("mail", "/var/mail"), ("news", "/var/spool/news"), ("uucp", "/var/spool/uucp"),
    ("proxy", "/bin"), ("www-data", "/var/www"), ("backup", "/var/backups"),
    ("list", "/var/list"), ("irc", "/run/ircd"), ("_apt", "/nonexistent"),
    ("nobody", "/nonexistent")]

/-- The surroundings: the current directory, the variables, the requests that fail, the marks for
temporary files, the place for scratch directories, how programs are started, where records are
copied, and the accounts with the one under which a run takes place. -/
structure Host where
  cwd : Location
  environment : Environment
  faults : Faults
  marks : List String
  scratch : Location
  launch : Launcher
  echo : Echo
  /-- The marks in the order in which they are tried for a file, drawn for each file anew. -/
  draw : Path → List String := fun _ => marks
  accounts : List (String × String) := standardAccounts
  account : String := "root"
  marks_size : ∀ mark ∈ marks, mark.utf8ByteSize = 8 := by decide
  draw_perm : ∀ p, (draw p).Perm marks := by exact fun _ => .refl _

structure World where
  tree : Tree
  log : List Record
  /-- The texts that an engine was asked to format. -/
  asked : List String
  /-- The rejections passed to a sink that keeps them. -/
  reported : List Rejection
  /-- The places of files that a new file was moved over. -/
  replaced : List Location

namespace World

/-- A world in which nothing happened yet. -/
def ofTree (t : Tree) : World := ⟨t, [], [], [], []⟩

/-- Adds a record to the log and to the copies of it. -/
def say (host : Host) (r : Record) (w : World) : World :=
  { w with log := w.log ++ [r], tree := host.echo w.replaced r w.tree }

def replaceFile (host : Host) (p : Path) (content : String) (w : World) :
    Except SystemError Unit × World :=
  match w.tree.replace host.faults (host.draw p) host.cwd p content with
  | (.ok place, t) => (.ok (), { w with tree := t, replaced := w.replaced ++ [place] })
  | (.error e, t) => (.error e, { w with tree := t })

def keepReport (r : Rejection) (w : World) : World := { w with reported := w.reported ++ [r] }

end World

namespace Host

/-- The absolute form of a path, without looking at links. -/
def absolute (host : Host) (p : Path) : Path := p.absolute host.cwd

/-- The absolute form as it appears in messages. -/
def shown (host : Host) (p : Path) : String := (host.absolute p).text

def valueOf? (host : Host) (name : String) : Option String := host.environment.lookup name

end Host
end BatchFormat
