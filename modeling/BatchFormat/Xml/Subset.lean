import BatchFormat.Xml.Value

/-!
# Declarations inside a document

The declarations at the head of a document: of entities, elements, attributes and kinds of outside
data. A parameter entity stands for whole declarations, never for a part of one. Declarations of
elements are checked, and otherwise have no effect.
-/
namespace BatchFormat.Xml

/-! ## Outside names -/

/-- What lies outside the document, by the address where it can be found if one is given. -/
structure Outside where
  address? : Option (List Char)
  deriving DecidableEq, Repr

namespace Scan

def isPublicChar (c : Char) : Bool :=
  c.isAlphanum || " \r\n-'()+,./:=?;!*#@$_%".toList.contains c

/-- An address, after the blanks that have to stand before it. -/
def address : Scan Outside := do
  someBlanks
  return ⟨some (← read readQuoted)⟩

/-- A reference to something outside, if one stands here. The address may be left out after a
public name only if `strict` is not set. -/
def outside? (strict : Bool) : Scan (Option Outside) := do
  if ← accept "SYSTEM" then return some (← address)
  else if ← accept "PUBLIC" then
    someBlanks
    let name ← read readQuoted
    if !name.all isPublicChar then failure
    let cs ← peek
    let follows := cs.head?.any isBlank
      && (dropBlanks cs).head?.any fun c => c = '"' || c = '\''
    if strict || follows then return some (← address)
    else
      blanks
      return some ⟨none⟩
  else return none

/-! ## Entities -/

/-- Checks the literal text of an entity. Characters given by number are replaced, references to
other entities are kept; `limit` bounds the number of characters read. -/
def entityText : (limit : Nat) → List Char → Option (List Char)
  | 0, _ => none
  | _, [] => some []
  | limit + 1, '&' :: rest => do
    let (reference, rest) ← readReference rest
    let more ← entityText limit rest
    match reference with
    | .char c => some (c :: more)
    | .entity name => some ('&' :: name.toList ++ ';' :: more)
  | limit + 1, c :: rest => if c = '%' then none else (entityText limit rest).map (c :: ·)

/-- The mark inside an address, which an entity must not have. -/
def fragmentMark : Char := '#'

def entityKind (site : Site) (isParameter : Bool) : Scan EntityKind := do
  match ← read? readQuoted with
  | some literal =>
    if site.levels = 0 then failure
    match entityText (literal.length + 1) literal with
    | some text => return .internal text
    | none => failure
  | none =>
    match ← outside? true with
    | none => failure
    | some outside =>
      if outside.address?.any fun address => address.contains fragmentMark then failure
      if isParameter then return .external
      if startsWith ">" (← peek) then return .external
      someBlanks
      if ← accept "NDATA" then
        someBlanks
        let _ ← read? readName
        return .unparsed
      else return .external

def close : Scan Unit := do
  blanks
  need ">"

def entity (site : Site) : Scan Unit := do
  someBlanks
  let isParameter ← accept "%"
  if isParameter then someBlanks
  let name ← read readName
  if name.toList.contains ':' then fault
  someBlanks
  let kind ← entityKind site isParameter
  change fun f => if isParameter then f.addParameter name kind else f.addGeneral name kind
  close

/-! ## Elements -/

def dropOccurrence : List Char → List Char
  | c :: rest => if c = '?' || c = '*' || c = '+' then rest else c :: rest
  | [] => []

def groupLimit : Nat := 256

/-- Skips the content model of an element after its opening bracket, to the end of the outermost
group. Each open group remembers its separator; `expected` says that a name or a group must
follow. -/
def skipModel : (limit : Nat) → (expected : Bool) → List (Option Char) → List Char →
    Option (List Char)
  | 0, _, _, _ => none
  | _, _, [], cs => some cs
  | limit + 1, true, groups, cs =>
    match dropBlanks cs with
    | '(' :: rest =>
      if groups.length < groupLimit then skipModel limit true (none :: groups) rest else none
    | cs =>
      match readName cs with
      | some (_, rest) => skipModel limit false groups (dropOccurrence rest)
      | none => none
  | limit + 1, false, separator :: groups, cs =>
    match dropBlanks cs with
    | ')' :: rest => skipModel limit false groups (dropOccurrence rest)
    | c :: rest =>
      if (c = ',' || c = '|') && separator.all (· = c) then
        skipModel limit true (some c :: groups) rest
      else none
    | [] => none

/-- Skips the names that may stand beside text, after the first mark. -/
def skipMixed : (limit : Nat) → (several : Bool) → List Char → Option (List Char)
  | 0, _, _ => none
  | limit + 1, several, cs =>
    match dropBlanks cs with
    | '|' :: rest => do
      let (_, rest) ← readName (dropBlanks rest)
      skipMixed limit true rest
    | ')' :: '*' :: rest => some rest
    | ')' :: rest => if several then none else some rest
    | _ => none

def skipContent (cs : List Char) : Option (List Char) :=
  match expect "EMPTY" cs, expect "ANY" cs, cs with
  | some rest, _, _ => some rest
  | none, some rest, _ => some rest
  | none, none, '(' :: rest =>
    match expect "#PCDATA" (dropBlanks rest) with
    | some rest => skipMixed (rest.length + 1) false rest
    | none => skipModel (2 * rest.length + 2) true [none] rest
  | none, none, _ => none

def element : Scan Unit := do
  someBlanks
  let name ← read readName
  someBlanks
  skip skipContent
  close
  change (·.addElement name)

/-! ## Attributes -/

/-- The names of the types of attributes, the longer ones first. -/
def attributeKinds : List (String × AttributeKind) :=
  [("CDATA", .text), ("IDREFS", .references), ("IDREF", .reference), ("ID", .id),
    ("ENTITY", .entity), ("ENTITIES", .entities), ("NMTOKENS", .tokens), ("NMTOKEN", .token)]

/-- The choices of an enumeration, after its opening bracket. -/
def readChoices (readOne : List Char → Option (String × List Char)) :
    (limit : Nat) → List Char → Option (List String × List Char)
  | 0, _ => none
  | limit + 1, cs => do
    let (choice, rest) ← readOne (dropBlanks cs)
    match dropBlanks rest with
    | '|' :: rest =>
      let (choices, rest) ← readChoices readOne limit rest
      some (choice :: choices, rest)
    | ')' :: rest => some ([choice], rest)
    | _ => none

/-- Reads the choices of an enumeration; none should be named twice. -/
def choices (readOne : List Char → Option (String × List Char)) : Scan Unit := do
  need "("
  let found ← read fun cs => readChoices readOne (cs.length + 1) cs
  let _ ← found.foldlM (fun seen choice => do
    if seen.contains choice then
      fault
      return seen
    else return choice :: seen) []

def attributeKind : Scan AttributeKind := do
  match ← read? fun cs => attributeKinds.findSome? fun (name, kind) =>
      (expect name cs).map (kind, ·) with
  | some kind => return kind
  | none =>
    if ← accept "NOTATION" then
      someBlanks
      choices readName
      return .outside
    else
      choices readToken
      return .choice

/-- The value that an attribute has where none is written, as it could be written. -/
def defaultValue (site : Site) (kind : AttributeKind) : Scan (Option String) := do
  if ← accept "#REQUIRED" then return none
  else if ← accept "#IMPLIED" then return none
  else
    if ← accept "#FIXED" then someBlanks
    let found ← value site kind.tokenized
    return some (String.ofList (found.flatMap Piece.written))

/-- The attributes declared for an element; `limit` bounds their number. -/
def rules (site : Site) (element : String) : (limit : Nat) → Scan Unit
  | 0 => failure
  | limit + 1 => do
    blanks
    if ← accept ">" then return
    let name ← read readName
    someBlanks
    let kind ← attributeKind
    someBlanks
    let given ← defaultValue site kind
    if !startsWith ">" (← peek) then someBlanks
    change (·.addRule element name kind given)
    rules site element limit

def attributes (site : Site) : Scan Unit := do
  someBlanks
  let element ← read readName
  rules site element (site.size + 1)

/-! ## The choice among declarations -/

/-- A declaration of a kind of outside data, after its keyword. -/
def outsideKind : Scan Unit := do
  someBlanks
  let name ← read readName
  if name.toList.contains ':' then fault
  someBlanks
  match ← outside? false with
  | none => failure
  | some _ =>
    close
    change (·.addOutside name)

/-- One declaration, a comment or an instruction. -/
def declaration (site : Site) : Scan Unit := do
  if ← accept "<!ENTITY" then entity site
  else if ← accept "<!ELEMENT" then element
  else if ← accept "<!ATTLIST" then attributes site
  else if ← accept "<!NOTATION" then outsideKind
  else if ← accept "<!--" then skip skipComment
  else
    need "<?"
    instruction

/-- A reference to a parameter entity after its percent sign. From here on the document is open.
`enter` reads the text of an entity. -/
def parameter (site : Site) (enter : Site → Scan Unit) : Scan Unit := do
  let name ← read readName
  need ";"
  change fun f => { f with isOpen := true }
  let f ← facts
  match f.parameter.lookup name with
  | none => if f.isLenient then warn else failure
  | some e =>
    match e.kind with
    | .internal text =>
      inside text (enter (site.enter (.parameter name) text (site.levels - 1)))
      change (·.updateParameter name (measured (byteLength text)))
      charge site ((((← facts).parameter.lookup name).map Entity.growth).getD 0)
    | _ => return

/-- Reads declarations to the bracket that ends them, or to the end of a text that stands for some
of them. -/
def declarations (enter : Site → Scan Unit) (site : Site) : (limit : Nat) → Scan Unit
  | 0 => failure
  | limit + 1 => do
    blanks
    match ← peek with
    | [] => if site.source = .document then failure else return
    | c :: _ =>
      if c = ']' && site.source = .document then return
      if ← accept "%" then parameter site enter else declaration site
      declarations enter site limit

/-- Reads the text of a parameter entity as declarations, at most `levels` levels deep. -/
def parameterText : (levels : Nat) → Site → Scan Unit
  | 0, _ => failure
  | levels + 1, site => do
    declarations (parameterText levels) site ((← peek).length + 1)

/-- Reads what a document declares at its head, if it does. -/
def subset (site : Site) : Scan Unit := do
  if ← accept "<!DOCTYPE" then
    let site := { site with inSubset := true }
    someBlanks
    let _ ← read readName
    blanks
    let outside ← outside? true
    change fun f => { f with isOpen := outside.isSome }
    blanks
    if ← accept "[" then
      declarations (parameterText Site.levelLimit) site ((← peek).length + 1)
      need "]"
      blanks
    need ">"

end Scan
end BatchFormat.Xml
