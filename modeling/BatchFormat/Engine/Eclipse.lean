import BatchFormat.Engine.Home
import BatchFormat.Engine.Lookup
import BatchFormat.Gateway
import BatchFormat.Prefs
import BatchFormat.Tree.Read

/-!
# The engine that runs Eclipse

The text goes to a file in a scratch directory, beside a file with the settings. Eclipse formats
the file in place. The scratch directory is removed whatever happens.
-/
namespace BatchFormat

/-- The executable as it was given, and the seconds it may take for one text. -/
structure Eclipse where
  executable : String
  limit : Binary
  deriving DecidableEq, Repr

namespace Eclipse

def name : String := "eclipse"

/-- The word that names Eclipse on the search path. -/
def standardExecutable : String := "eclipse"

/-- The first executable that is given and not empty: by the caller, by the environment, or the
standard one. -/
def choose (given : Option String) (environment : Environment) : String :=
  match given, environment.lookup eclipseVariable with
  | some e, other =>
    if e ≠ "" then e
    else
      match other with
      | some e => if e ≠ "" then e else standardExecutable
      | none => standardExecutable
  | none, some e => if e ≠ "" then e else standardExecutable
  | none, none => standardExecutable

/-- The path of the executable: what the search for programs finds, or else a file of that name,
a leading tilde expanded. -/
def resolve (e : Eclipse) (host : Host) (t : Tree) : Except Failure (Option String) :=
  match Lookup.program? host t e.executable with
  | some found => .ok (some found)
  | none =>
    match host.expandHome (Path.ofString e.executable) with
    | .error cause => .error (.system cause)
    | .ok candidate =>
      match t.isFile host.cwd candidate with
      | .error cause => .error (.system cause)
      | .ok isFile => .ok (if isFile then some candidate.text else none)

def check (e : Eclipse) (host : Host) (w : World) : Except Failure Unit :=
  match e.resolve host w.tree with
  | .error failure => .error failure
  | .ok (some _) => .ok ()
  | .ok none => .error (.noEclipse e.executable)

/-- The part of Eclipse that formats files. -/
def application : String := "org.eclipse.jdt.core.JavaCodeFormatter"

/-- The command line for a working directory, a settings file and a source file. -/
def commandLine (e : Eclipse) (host : Host) (t : Tree) (workdir prefs source : Path) :
    Except Failure (List String) :=
  (e.resolve host t).map fun found =>
    [found.getD e.executable, "-nosplash", "-application", application, "-data",
      (workdir.child "workspace").text, "-quiet", "-config", prefs.text, source.text]

/-- The names of the two files in the scratch directory. Only files named like source files are
formatted. -/
def sourceName : String := "Source.java"

def prefsName : String := "org.eclipse.jdt.core.prefs"

def scratchMode : Nat := 0o700

def fileMode : Nat := 0o644

/-- The scratch directory with the text and the settings in it. -/
def unpack (scratch : Location) (settings : Settings) (content : String) (t : Tree) : Tree :=
  ((t.put scratch (.dir scratchMode)).put (scratch ++ [sourceName])
    (.file (Text.encode content) fileMode)).put (scratch ++ [prefsName])
    (.file (Prefs.bytes settings) fileMode)

/-- Carriage returns, alone or before a line feed, become line feeds. -/
def plainLines : List Char → List Char
  | [] => []
  | '\r' :: '\n' :: rest => '\n' :: plainLines rest
  | c :: rest => (if c = '\r' then '\n' else c) :: plainLines rest

/-- What the program printed, as text with plain line ends. -/
def printed (bytes : Bytes) : Except Failure String :=
  match Text.decode bytes with
  | .ok text => .ok (String.ofList (plainLines text.toList))
  | .error flaw => .error (.notUtf8 flaw)

/-- What a failed program says about its failure, its error output first. -/
def complaint (status : Int) (output errors : String) : String :=
  let said := Text.trim (if errors = "" then output else errors)
  if said = "" then s!"exit status {status}" else said

/-- Whether the program formatted the file, and if not, why. -/
def verdict (limit : Binary) : Outcome → Except Failure Unit
  | .notStarted cause =>
    if cause.isRefusal then .error (.rejected (.notStarted .eclipse cause))
    else .error (.system cause)
  | .badLimit flaw => .error (.clock flaw)
  | .overtime => .error (.rejected (.overtime .eclipse limit))
  | .ended status output errors => do
    let output ← printed output
    let errors ← printed errors
    if status ≠ 0 then
      .error (.rejected (.failed .eclipse (complaint status output errors)))

/-- Starts Eclipse on an unpacked text and reads back what it left. -/
def work (e : Eclipse) (host : Host) (w : World) : Except Failure String × World :=
  let workdir := Path.ofNames host.scratch
  let source := workdir.child sourceName
  match e.commandLine host w.tree workdir (workdir.child prefsName) source with
  | .error failure => (.error failure, w)
  | .ok words =>
    let line := String.intercalate " " words
    let w := w.say host (.debug s!"Executing Eclipse formatter: {line}")
    let (outcome, t) := host.launch ⟨words, [], e.limit⟩ w.tree
    let w := { w with tree := t }
    match verdict e.limit outcome with
    | .error failure => (.error failure, w)
    | .ok () => (w.tree.readText Faults.none host.cwd source, w)

def transform (e : Eclipse) (host : Host) (settings : Settings) (content : String) (w : World) :
    Except Failure String × World :=
  let (answer, w) := e.work host { w with tree := unpack host.scratch settings content w.tree }
  (answer, { w with tree := w.tree.prune host.scratch })

def engine (e : Eclipse) (host : Host) : Engine where
  name := name
  check := e.check host
  transform := e.transform host

end Eclipse
end BatchFormat
