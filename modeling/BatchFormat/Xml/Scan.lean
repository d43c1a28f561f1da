import BatchFormat.Xml.Facts

/-!
# Reading with what is known

A scan reads characters and adds to what is known of the document, or finds that the document is
not well-formed. The text of an entity is read in the same way as the document, from a site of its
own; how far texts may lie inside one another, and how large all of them together may grow, is
limited.
-/
namespace BatchFormat.Xml

/-- What is left to read, and what is known so far. -/
structure Cursor where
  rest : List Char
  facts : Facts

abbrev Scan := StateT Cursor Option

/-- The text in which something stands. -/
inductive Source where
  | document
  | general (name : String)
  | parameter (name : String)
  deriving DecidableEq, Repr

/-- Where something is read: the text, its size in bytes, how many more texts may lie inside one
another there, and whether it belongs to the declarations. -/
structure Site where
  source : Source
  size : Nat
  levels : Nat
  inSubset : Bool
  deriving DecidableEq, Repr

namespace Site

/-- So many texts of entities may lie inside one another. -/
def levelLimit : Nat := 19

def document (size : Nat) : Site := ⟨.document, size, levelLimit, false⟩

/-- The site inside the text of an entity. -/
def enter (site : Site) (source : Source) (text : List Char) (levels : Nat) : Site :=
  ⟨source, byteLength text, levels, site.inSubset⟩

end Site

namespace Scan

variable {α : Type}

def peek : Scan (List Char) := return (← get).rest

def facts : Scan Facts := return (← get).facts

def change (f : Facts → Facts) : Scan Unit := modify fun s => { s with facts := f s.facts }

def warn : Scan Unit := change Facts.warn

def fault : Scan Unit := change Facts.fault

def next : Scan Char := fun s =>
  match s.rest with
  | c :: rest => some (c, { s with rest := rest })
  | [] => none

def read (reader : List Char → Option (α × List Char)) : Scan α := fun s =>
  (reader s.rest).map fun (a, rest) => (a, { s with rest := rest })

/-- Drops what a reader of characters drops. -/
def skip (reader : List Char → Option (List Char)) : Scan Unit := fun s =>
  (reader s.rest).map fun rest => ((), { s with rest := rest })

def read? (reader : List Char → Option (α × List Char)) : Scan (Option α) := fun s =>
  match reader s.rest with
  | some (a, rest) => some (some a, { s with rest := rest })
  | none => some (none, s)

/-- Drops a fixed text that must follow. -/
def need (text : String) : Scan Unit := skip (expect text)

/-- Drops a fixed text if it follows, and tells whether it did. -/
def accept (text : String) : Scan Bool := fun s =>
  match expect text s.rest with
  | some rest => some (true, { s with rest := rest })
  | none => some (false, s)

def blanks : Scan Unit := modify fun s => { s with rest := dropBlanks s.rest }

/-- Drops blanks, of which there must be at least one. -/
def someBlanks : Scan Unit := skip needBlanks

/-- Reads another text with what is known, to its end, and comes back. -/
def inside (text : List Char) (scan : Scan α) : Scan α := fun s =>
  match scan { s with rest := text } with
  | some (a, after) => if after.rest = [] then some (a, { after with rest := s.rest }) else none
  | none => none

/-! ## Growth -/

def referenceCost : Nat := 20

/-- References may stand for so many bytes in any case. -/
def growthAllowance : Nat := 1000000

/-- Beyond the allowance, they may stand for so many bytes for each byte that was read. -/
def growthFactor : Nat := 5

/-- Whether references at a site may stand for so many bytes. -/
def isWithinGrowth (site : Site) (rest : List Char) (total : Nat) : Bool :=
  total ≤ growthAllowance || total / growthFactor ≤ site.size - byteLength rest

/-- Counts a text that is put in the place of a reference. Nothing is counted inside an entity whose
growth is known. -/
def charge (site : Site) (extra : Nat) : Scan Unit := fun s =>
  let cost := extra + referenceCost
  let grow (e : Entity) : Entity := { e with growth := e.growth + cost }
  let counted : Option (Nat × Facts) :=
    match site.source with
    | .document =>
      let total := s.facts.growth + cost
      some (total, { s.facts with growth := total })
    | .general name =>
      ((s.facts.general.lookup name).filter fun e => !e.isMeasured).map fun e =>
        (e.growth + cost, s.facts.updateGeneral name grow)
    | .parameter name =>
      ((s.facts.parameter.lookup name).filter fun e => !e.isMeasured).map fun e =>
        (e.growth + cost, s.facts.updateParameter name grow)
  match counted with
  | none => some ((), s)
  | some (total, facts) =>
    if isWithinGrowth site s.rest total then some ((), { s with facts := facts }) else none

/-- Adds the size of its own text to the growth of an entity, which is known from then on. -/
def measured (size : Nat) (e : Entity) : Entity :=
  if e.isMeasured then e else { e with growth := e.growth + size, isMeasured := true }

/-! ## Comments and instructions -/

/-- The target of the declaration that only the head of a document can be. -/
def reservedTarget : List Char := "xml".toList

/-- The targets that have a meaning of their own although they begin like the reserved one. -/
def knownTargets : List String := ["xml-stylesheet", "xml-model"]

def instructionTarget : Scan Unit := do
  let name ← read readName
  let lower := name.toList.map Char.toLower
  if lower = reservedTarget then failure
  else if knownTargets.contains name then return
  else
    if reservedTarget.isPrefixOf lower then warn
    if name.toList.contains ':' then fault

def instruction : Scan Unit := do
  instructionTarget
  if ← accept "?>" then return
  someBlanks
  let _ ← read (readUntil "?>")

/-- Skips blanks, comments and instructions as far as they go. `limit` bounds their number. -/
def misc : (limit : Nat) → Scan Unit
  | 0 => failure
  | limit + 1 => do
    blanks
    if ← accept "<?" then
      instruction
      misc limit
    else if ← accept "<!--" then
      skip skipComment
      misc limit

end Scan
end BatchFormat.Xml
