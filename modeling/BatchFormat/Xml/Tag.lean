import BatchFormat.Xml.Element
import BatchFormat.Xml.Subset
import BatchFormat.Xml.Uri

/-!
# Start tags

A start tag names an element and its attributes. Some attributes bind qualifiers to namespaces for
the element and all that is in it; attributes that are declared and not written take part in this.
A name whose qualifier is bound to nothing is a fault, and is kept as it is written.
-/
namespace BatchFormat.Xml

/-! ## Namespaces -/

/-- Qualifiers with the namespaces they stand for, the innermost first. The empty qualifier is that
of elements without one; bound to nothing, it stands for no namespace. -/
abbrev Scope := List (String × String)

def xmlSpace : String := "http://www.w3.org/XML/1998/namespace"

def xmlnsSpace : String := "http://www.w3.org/2000/xmlns/"

/-- The namespace that a qualifier is bound to, which may be the empty one. -/
def Scope.space? (scope : Scope) (qualifier : String) : Option String :=
  if qualifier = "xml" then some xmlSpace else scope.lookup qualifier

/-- The qualifier that an attribute binds to a namespace, if that is what it does. -/
def Written.binds? (w : Written) : Option String :=
  if w.qualifier = "xmlns" then some w.base
  else if w.qualifier = "" ∧ w.base = "xmlns" then some ""
  else none

structure RawAttribute where
  written : Written
  value : List Piece
  deriving DecidableEq, Repr

/-- An attribute whose namespace is known; it has none without a qualifier, or with one that is
bound to nothing. -/
structure Placed where
  raw : RawAttribute
  space? : Option String
  deriving DecidableEq, Repr

namespace Placed

/-- The name of an attribute; it keeps a qualifier that is bound to nothing. -/
def name (p : Placed) : Name :=
  match p.space? with
  | some space => ⟨some space, p.raw.written.base⟩
  | none => ⟨none, p.raw.written.text⟩

/-- Whether two attributes would be the same although they are written differently. -/
def clashes (p q : Placed) : Bool :=
  p.space? = q.space? && p.raw.written.base = q.raw.written.base

end Placed

namespace Scan

/-- Adds a binding to those of a tag. The names of the two standing namespaces are kept for them;
only the empty qualifier can be bound to nothing; nothing is bound twice. -/
def bind (bound : Scope) (qualifier space : String) : Scan Scope := do
  if qualifier = "xml" then
    if space != xmlSpace then fault
    return bound
  if qualifier != "" then
    if space = xmlSpace ∨ qualifier = "xmlns" ∨ space = xmlnsSpace ∨ space = "" then
      fault
      return bound
  if space != "" then
    if !Uri.isReference space then fault
    else if qualifier = "" ∧ !Uri.isAbsolute space.toList then warn
  if space = xmlSpace ∨ space = xmlnsSpace then
    fault
    return bound
  if (bound.lookup qualifier).isSome then failure
  return (qualifier, space) :: bound

/-! ## Attributes -/

def blankRules : List String := ["default", "preserve"]

def attributeAt (site : Site) (element : String) : Scan RawAttribute := do
  let (written, isWell) ← read readWritten
  if !isWell then fault
  blanks
  need "="
  blanks
  let tokenized := ((← facts).rule? element written.text).any fun r => r.kind.tokenized
  let found ← value site tokenized
  let text := String.ofList (found.flatMap Piece.written)
  if written = ⟨"xml", "space"⟩ ∧ !blankRules.contains text then warn
  return ⟨written, found⟩

/-- The attributes of a tag up to the mark that ends it, and the bindings among them; `limit` bounds
their number, and those read before come in reverse. -/
def attributeList (site : Site) (element : String) : (limit : Nat) → Scope →
    List RawAttribute → Scan (Scope × List RawAttribute)
  | 0, _, _ => failure
  | limit + 1, bound, before => do
    let cs ← peek
    if startsWith ">" cs || startsWith "/>" cs then return (bound, before.reverse)
    let a ← attributeAt site element
    let (bound, before) ←
      match a.written.binds? with
      | some qualifier => do
        let space := String.ofList ((Facts.expand (← facts) (← facts).chainLimit a.value).map
          fun c => if isBlank c then ' ' else c)
        pure (← bind bound qualifier space, before)
      | none => pure (bound, a :: before)
    let cs ← peek
    if !startsWith ">" cs && !startsWith "/>" cs then someBlanks
    attributeList site element limit bound before

/-- The attributes that an element has by declaration, with their values. -/
def declared (element : Written) : Scan (List (Written × String)) := do
  return (← facts).rules.filterMap fun r =>
    if Written.ofName r.element = element then
      r.given?.map fun value => (Written.ofName r.name, value)
    else none

def chargeDeclared (site : Site) (w : Written) (value : String) : Scan Unit :=
  charge site (w.qualifier.utf8ByteSize + w.base.utf8ByteSize + value.utf8ByteSize)

/-- Adds the bindings among declared attributes; those of the tag itself come first. -/
def bindDeclared (site : Site) (bound : Scope) (attributes : List (Written × String)) :
    Scan Scope :=
  attributes.foldlM (fun bound (w, space) => do
    match w.binds? with
    | some qualifier =>
      chargeDeclared site w space
      if qualifier = "xml" ∨ (bound.lookup qualifier).isSome then return bound
      else return (qualifier, space) :: bound
    | none => return bound) bound

def spaceOf (scope : Scope) (w : Written) : Scan (Option String) := do
  if w.qualifier = "" then return none
  else
    match scope.space? w.qualifier with
    | some space => return some space
    | none =>
      fault
      return none

def checkRepeats : (before : List Placed) → List Placed → Scan Unit
  | _, [] => return
  | before, p :: rest => do
    if before.any fun q => q.raw.written = p.raw.written then failure
    if before.any p.clashes then fault
    checkRepeats (before ++ [p]) rest

def checkDeclared (site : Site) (scope : Scope) : (before : List Placed) →
    List (Written × String) → Scan Unit
  | _, [] => return
  | before, (w, value) :: rest => do
    if w.binds?.isSome then checkDeclared site scope before rest
    else
      let p : Placed := ⟨⟨w, []⟩, ← spaceOf scope w⟩
      if before.any fun q => q.raw.written = w then checkDeclared site scope before rest
      else
        if before.any p.clashes then fault
        chargeDeclared site w value
        checkDeclared site scope (before ++ [p]) rest

/-! ## What identifies an element -/

/-- Takes note of an attribute that identifies its element, if it does. A value that refers to
entities is left alone. -/
def identify (element : String) (p : Placed) : Scan Unit := do
  let w := p.raw.written
  let text := String.ofList (p.raw.value.flatMap fun
    | .char c => [c]
    | .entity _ => [])
  if p.raw.value.all fun piece => piece matches .char _ then
    if w = ⟨"xml", "id"⟩ then
      let trimmed := (dropBlanks (dropBlanks text.toList).reverse).reverse
      if !isNameOf false trimmed then fault
      change (·.addId text)
    else if p.space?.isSome ∨ w.qualifier = "" then
      let rule := (← facts).rule? element w.text
      if rule.any fun r => r.kind = .id then change (·.addId text)

/-! ## Elements -/

/-- The attributes that an element has, with their values. Those that are declared, not written and
without a qualifier come last. -/
def attributeValues (element : String) (placed : List Placed) : Scan (List (Name × String)) := do
  change fun f => placed.foldl (fun f p => f.noteValue p.raw.value) f
  let f ← facts
  let written := placed.map fun p => (p.name, f.valueText p.raw.value)
  let declared := f.rules.filterMap fun r =>
    if r.element = element then r.value?.map fun value => ((⟨none, r.name⟩ : Name), value)
    else none
  return written ++ declared

end Scan

/-- An element that is still open: how its name is written, what is bound inside it, its name and
attributes, and its children so far, the last one first. -/
structure Frame where
  written : String
  scope : Scope
  name : Name
  attributes : List (Name × String)
  children : List Element

namespace Frame

def close (f : Frame) : Element := .node f.name f.attributes f.children.reverse

def add (f : Frame) (e : Element) : Frame := { f with children := e :: f.children }

/-- The frame around a whole document, or around the text of an entity. -/
def outermost : Frame := ⟨"", [], ⟨none, ""⟩, [], []⟩

end Frame

namespace Scan

/-- A start tag after its bracket: the element it opens, and whether it is empty. -/
def tag (site : Site) (scope : Scope) : Scan (Frame × Bool) := do
  let (written, isWell) ← read readWritten
  if !isWell then fault
  blanks
  let (bound, attributes) ← attributeList site written.text (site.size + 1) [] []
  let declared ← declared written
  let bound ← bindDeclared site bound declared
  let scope := bound ++ scope
  let placed ← attributes.mapM fun a => return (⟨a, ← spaceOf scope a.written⟩ : Placed)
  checkRepeats [] placed
  checkDeclared site scope placed declared
  let space? := (scope.space? written.qualifier).filter (· != "")
  if space? = none ∧ written.qualifier ≠ "" then fault
  if site.source = .document then placed.forM (identify written.text)
  let values ← attributeValues written.text placed
  let name : Name :=
    match space? with
    | some space => ⟨some space, written.base⟩
    | none => ⟨none, written.text⟩
  let frame : Frame := ⟨written.text, scope, name, values, []⟩
  if ← accept "/>" then return (frame, true)
  need ">"
  return (frame, false)

end Scan
end BatchFormat.Xml
