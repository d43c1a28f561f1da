import BatchFormat.Xml.Encoding
import BatchFormat.Xml.Tag

/-!
# Documents

Reads a whole document as a tree of elements, or finds that it is not well-formed. References to
entities in content are not replaced, but what they stand for has to be well-formed too.
-/
namespace BatchFormat.Xml

def nestingLimit : Nat := 256

/-- The innermost open element, and those around it. -/
structure Nest where
  inner : Frame
  outer : List Frame

/-- The beginning of a document, or of the text of an entity. -/
def Nest.outermost : Nest := ⟨.outermost, []⟩

/-- Skips characters up to a mark that begins something else. The end of a section that holds
unmarked text must not stand among them. -/
def skipText : List Char → Option (List Char)
  | ']' :: ']' :: '>' :: _ => none
  | c :: rest => if c = '<' || c = '&' then some (c :: rest) else skipText rest
  | [] => some []

namespace Scan

/-- Reads what an entity stands for, inside so many open elements. -/
abbrev ReferenceCheck := Site → (depth : Nat) → String → Scan Unit

/-- A start tag, which opens an element inside others. -/
def opening (site : Site) (depth : Nat) (n : Nest) : Scan Nest := do
  let (frame, isEmpty) ← tag site n.inner.scope
  if depth + n.outer.length ≥ nestingLimit then failure
  else if isEmpty then return { n with inner := n.inner.add frame.close }
  else return ⟨frame, n.inner :: n.outer⟩

/-- An end tag after its mark. -/
def closing (n : Nest) : Scan Nest := do
  match n.outer with
  | [] => failure
  | parent :: outer =>
    need n.inner.written
    blanks
    need ">"
    return ⟨parent.add n.inner.close, outer⟩

/-- A reference in content, after its ampersand. -/
def referenceInContent (site : Site) (depth : Nat) (check : ReferenceCheck) : Scan Unit := do
  match Piece.ofReference (← read readReference) with
  | .char _ => return
  | .entity name =>
    match ← entity? false name with
    | none => return
    | some e =>
      if e.firstUse? = none ∨ e.text = [] then check site depth name
      charge site ((((← facts).general.lookup name).map Entity.growth).getD 0)

def piece (site : Site) (depth : Nat) (check : ReferenceCheck) (n : Nest) : Scan Nest := do
  if ← accept "<!--" then
    skip skipComment
    return n
  else if ← accept "<![CDATA[" then
    let _ ← read (readUntil "]]>")
    return n
  else if ← accept "<?" then
    instruction
    return n
  else if ← accept "<" then opening site depth n
  else if ← accept "&" then
    referenceInContent site (depth + n.outer.length) check
    return n
  else
    skip skipText
    return n

/-- Reads content while an element is open, or to the end of the text if `whole` is set. `limit`
bounds the number of pieces. -/
def content (site : Site) (depth : Nat) (check : ReferenceCheck) (whole : Bool) :
    (limit : Nat) → Nest → Scan Nest
  | 0, _ => failure
  | limit + 1, n => do
    let cs ← peek
    if n.outer.isEmpty && (!whole || cs.isEmpty) then return n
    else if cs.isEmpty then failure
    else
      let n ← if ← accept "</" then closing n else piece site depth check n
      content site depth check whole limit n

/-- Reads what an entity stands for as content, at most `levels` levels deep. What is bound outside
does not count in it. -/
def reference : (levels : Nat) → ReferenceCheck
  | 0, _, _, _ => failure
  | levels + 1, site, depth, name => do
    match (← facts).general.lookup name with
    | none => return
    | some e =>
      let text := e.text
      let site := site.enter (.general name) text levels
      let _ ← inside text
        (content site (depth + 1) (reference levels) true (text.length + 1) .outermost)
      change (·.updateGeneral name fun e =>
        { measured (byteLength text) e with firstUse? := e.firstUse?.or (some .content) })

/-- The element at the head of a document, with all that is in it. -/
def root (site : Site) : Scan Element := do
  need "<"
  let check := reference site.levels
  let n ← opening site 0 .outermost
  let n ← content site 0 check false ((← peek).length + 1) n
  match n.inner.children with
  | [root] => return root
  | _ => failure

def document (site : Site) : Scan Element := do
  let limit := (← peek).length + 1
  misc limit
  subset site
  misc limit
  let root ← root site
  misc limit
  if (← peek) = [] then return root else failure

end Scan

/-- The root of a document, if its bytes are well-formed. -/
def readDocument (bytes : Text.Bytes) : Option Element := do
  let head ← readHead bytes
  let facts := Facts.empty head.declaration.standalone
  let facts := if head.declaration.isPlainVersion then facts else facts.warn
  let facts := if head.isContradicted then facts.warn else facts
  let (root, after) ← (Scan.document (.document head.size)).run ⟨head.rest, facts⟩
  if after.facts.remarks.allow then some root else none

end BatchFormat.Xml
