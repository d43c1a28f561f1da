import BatchFormat.Xml.Name

/-!
# What is known while a document is read

A document may declare entities, that is, names for texts, and say of attributes that they have a
value where none is written, or that blanks in them do not count. What it declares is kept here,
together with the remarks on flaws that do not end the reading at once. Nothing outside the
document is ever looked at.
-/
namespace BatchFormat.Xml

/-! ## Remarks -/

/-- Remarks on a document: how many warnings and faults there were, and whether the last of them
was a fault. -/
structure Remarks where
  warnings : Nat
  faults : Nat
  endsInFault : Bool
  deriving DecidableEq, Repr

namespace Remarks

def none : Remarks := ⟨0, 0, false⟩

/-- So many remarks of either kind are kept; those after them are dropped. -/
def limit : Nat := 100

def warn (r : Remarks) : Remarks :=
  if r.warnings < limit then { r with warnings := r.warnings + 1, endsInFault := false } else r

def fault (r : Remarks) : Remarks :=
  if r.faults < limit then { r with faults := r.faults + 1, endsInFault := true } else r

/-- Only the last remark decides whether a document is taken. -/
def allow (r : Remarks) : Bool := !r.endsInFault

end Remarks

/-! ## Entities -/

/-- What a name of an entity stands for: a text, something outside that would be read as text, or
something outside that is no text. -/
inductive EntityKind where
  | internal (text : List Char)
  | external
  | unparsed
  deriving DecidableEq, Repr

inductive FirstUse where
  | value | content
  deriving DecidableEq, Repr

/-- An entity: what it stands for, how many bytes that grows to when all references in it are
replaced, whether this number is final, whether its references were followed for use in values,
and where it was used first. -/
structure Entity where
  kind : EntityKind
  growth : Nat
  isMeasured : Bool
  isVetted : Bool
  firstUse? : Option FirstUse
  deriving DecidableEq, Repr

namespace Entity

def fresh (kind : EntityKind) : Entity := ⟨kind, 0, false, false, none⟩

/-- The text that an entity stands for, empty if it has none. -/
def text (e : Entity) : List Char :=
  match e.kind with
  | .internal text => text
  | _ => []

end Entity

/-! ## Attributes -/

inductive AttributeKind where
  | text | id | reference | references | entity | entities | token | tokens | outside | choice
  deriving DecidableEq, Repr

namespace AttributeKind

/-- Whether blanks only separate the parts of a value. -/
def tokenized (k : AttributeKind) : Bool := k != text

def parts (value : List Char) : List (List Char) := value.splitOn ' '

/-- Whether a value is made of what it should be made of. A value of tokens may begin with any
blanks. -/
def admits (k : AttributeKind) (value : List Char) : Bool :=
  match k with
  | text => true
  | id | reference | entity | outside => isNameOf true value
  | references | entities => (parts value).all (isNameOf true)
  | token => isToken value
  | tokens | choice => (parts (dropBlanks value)).all isToken

end AttributeKind

/-- A declared attribute of the elements with a given name: what its values are made of, the value
that was declared where none is written, and that value if it is a proper one. -/
structure AttributeRule where
  element : String
  name : String
  kind : AttributeKind
  given? : Option String
  value? : Option String
  deriving DecidableEq, Repr

/-! ## All that is known -/

/-- All that is declared so far, and what was noticed besides. The first declaration of a name
counts. A document is open if it refers to declarations that may lie elsewhere. `growth` counts the
bytes that references in the document itself stand for. -/
structure Facts where
  general : List (String × Entity)
  parameter : List (String × Entity)
  rules : List AttributeRule
  elements : List String
  outsides : List String
  ids : List String
  isOpen : Bool
  standalone : Bool
  growth : Nat
  remarks : Remarks
  deriving DecidableEq, Repr

namespace Facts

def empty (standalone : Bool) : Facts :=
  ⟨[], [], [], [], [], [], false, standalone, 0, .none⟩

def isLenient (f : Facts) : Bool := f.isOpen && !f.standalone

def warn (f : Facts) : Facts := { f with remarks := f.remarks.warn }

def fault (f : Facts) : Facts := { f with remarks := f.remarks.fault }

/-- Changes the entry for a name, if there is one. -/
def update (name : String) (change : Entity → Entity) (entries : List (String × Entity)) :
    List (String × Entity) :=
  entries.map fun (key, e) => (key, if key = name then change e else e)

def updateGeneral (f : Facts) (name : String) (change : Entity → Entity) : Facts :=
  { f with general := update name change f.general }

def updateParameter (f : Facts) (name : String) (change : Entity → Entity) : Facts :=
  { f with parameter := update name change f.parameter }

/-- Adds an entry unless there is one of that name. -/
def insert (name : String) (kind : EntityKind) (entries : List (String × Entity)) :
    List (String × Entity) :=
  if (entries.lookup name).isSome then entries else entries ++ [(name, .fresh kind)]

def addParameter (f : Facts) (name : String) (kind : EntityKind) : Facts :=
  { f with parameter := insert name kind f.parameter }

/-- Whether a text stands for one of the predefined characters in the way that a declaration of it
has to: as itself, where that is possible, or by number. -/
def isPredefinedText (c : Char) (text : List Char) : Bool :=
  (text = [c] && c != '<' && c != '&')
    || match text with
      | '&' :: '#' :: 'x' :: rest =>
        rest.map Char.toLower = Nat.toDigits 16 c.toNat ++ [';']
      | '&' :: '#' :: rest => rest = Nat.toDigits 10 c.toNat ++ [';']
      | _ => false

/-- Adds an entity. A predefined one keeps its meaning whatever is declared. -/
def addGeneral (f : Facts) (name : String) (kind : EntityKind) : Facts :=
  match predefined.lookup name, kind with
  | none, kind => { f with general := insert name kind f.general }
  | some c, .internal text => if isPredefinedText c text then f else f.warn
  | some _, _ => f.warn

def rule? (f : Facts) (element name : String) : Option AttributeRule :=
  f.rules.find? fun r => r.element = element && r.name = name

/-- Whether an element of that name has an attribute that identifies it. -/
def hasIdRule (f : Facts) (element : String) : Bool :=
  f.rules.any fun r => r.element = element && r.kind = .id

/-- Takes note of the declaration of an attribute. The declared value has to fit the type, no
element has two attributes that identify it, and only the first declaration counts. -/
def addRule (f : Facts) (element name : String) (kind : AttributeKind) (given? : Option String) :
    Facts :=
  let f := if name = "xml:id" ∧ kind ≠ .id then f.fault else f
  let value? := given?.filter fun value => kind.admits value.toList
  let f := if given?.isSome && value?.isNone then f.fault else f
  if (f.rule? element name).isSome then f.warn
  else
    let f := if kind = .id ∧ f.hasIdRule element then f.fault else f
    { f with rules := f.rules ++ [⟨element, name, kind, given?, value?⟩] }

/-- Takes note of the declaration of an element; it must not have one already. -/
def addElement (f : Facts) (name : String) : Facts :=
  if f.elements.contains name then f.fault else { f with elements := f.elements ++ [name] }

/-- Takes note of a kind of outside data; it must not be declared already. -/
def addOutside (f : Facts) (name : String) : Facts :=
  if f.outsides.contains name then f.fault else { f with outsides := f.outsides ++ [name] }

/-- Takes note of what identifies an element; no two elements may share it. -/
def addId (f : Facts) (id : String) : Facts :=
  if id = "" ∨ f.ids.contains id then f.fault else { f with ids := id :: f.ids }

end Facts
end BatchFormat.Xml
