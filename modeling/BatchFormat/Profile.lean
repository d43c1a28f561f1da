import BatchFormat.Address
import BatchFormat.Compressed.Gzip
import BatchFormat.Settings
import BatchFormat.Tree.Read
import BatchFormat.World
import BatchFormat.Xml.Document

/-!
# Formatter profiles

A profile is an XML document in which every setting is an element with a name and a value. Where a
name occurs more than once, the last value in the document counts; where one of three common names
does not occur at all, it gets a default. The file that holds it may be packed.
-/
namespace BatchFormat.Profile

open Xml (Element)

def settingName : Xml.Name := ⟨none, "setting"⟩

def isSetting (e : Element) : Bool := e.name == settingName

/-- The name and the value in a setting, each empty if it is missing. -/
def entry (e : Element) : String × String := (e.plainValue "id", e.plainValue "value")

/-- The settings of a document, at any depth. -/
def settings (root : Element) : Values :=
  Values.ofList ((root.inOrder.filter isSetting).map entry)

/-- The settings that every run has. -/
def defaults : List (String × String) :=
  [("org.eclipse.jdt.core.formatter.tabulation.char", "mixed"),
    ("org.eclipse.jdt.core.formatter.tabulation.size", "4"),
    ("org.eclipse.jdt.core.formatter.indentation.size", "4")]

def withDefaults (values : Values) : Values :=
  defaults.foldl (fun values pair => values.putMissing pair.1 pair.2) values

/-- What is said of a document that is not well-formed. -/
def flawText : String := "the document is not well-formed"

/-- The document at a path, or why there is none. -/
def readRoot (host : Host) (p : Path) (t : Tree) : Except Failure Element :=
  match t.isFile host.cwd p with
  | .error e => .error (.system e)
  | .ok false => .error (.noProfile (host.shown p) false)
  | .ok true =>
    match t.readBytes Faults.none host.cwd (Address.resolve p) with
    | .error e => .error (.badProfile e.message)
    | .ok bytes =>
      match Compressed.contents bytes >>= Xml.readDocument with
      | some root => .ok root
      | none => .error (.badProfile flawText)

def load (host : Host) (p : Path) (w : World) : Except Failure Settings × World :=
  match readRoot host p w.tree with
  | .error e => (.error e, w)
  | .ok root =>
    let values := settings root
    let shown := host.shown p
    let w := w.say host (.debug s!"Loaded Eclipse formatter configuration from {shown}")
    let w := w.say host (.debug s!"Loaded {values.length} formatter settings")
    (.ok ⟨withDefaults values, some p⟩, w)

end BatchFormat.Profile
