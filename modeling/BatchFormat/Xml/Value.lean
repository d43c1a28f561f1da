import BatchFormat.Xml.Scan

/-!
# Values of attributes

The value of an attribute is read as characters and references. A reference to an entity stays one
until the value is wanted as text; what it refers to is followed at once, to see that it may stand
in a value, that nothing refers to itself, and how large it would grow.
-/
namespace BatchFormat.Xml

/-- A character of a value, or a reference that is not replaced yet. -/
inductive Piece where
  | char (c : Char)
  | entity (name : String)
  deriving DecidableEq, Repr

namespace Piece

/-- A piece as it could be written in a value, where an ampersand that is no reference is given by
number. -/
def written : Piece → List Char
  | char c => if c = '&' then "&#38;".toList else [c]
  | entity name => '&' :: name.toList ++ [';']

def ofReference : Reference → Piece
  | .char c => char c
  | .entity name =>
    match predefined.lookup name with
    | some c => char c
    | none => entity name

/-- The pieces of the text of an entity; `limit` bounds their number. -/
def ofText : (limit : Nat) → List Char → Option (List Piece)
  | 0, _ => none
  | _, [] => some []
  | limit + 1, '&' :: rest => do
    let (reference, rest) ← readReference rest
    return ofReference reference :: (← ofText limit rest)
  | limit + 1, c :: rest => (ofText limit rest).map (char c :: ·)

/-- The pieces of the text of an entity, none if the text is not well-formed. -/
def all (text : List Char) : List Piece := (ofText (text.length + 1) text).getD []

/-- Makes the spaces between tokens single and drops those at the ends. -/
def joinTokens (pieces : List Piece) : List Piece :=
  let space := char ' '
  (((pieces.splitOn space).filter (· ≠ [])).intersperse [space]).flatten

end Piece

/-- Makes every line end a single line feed. -/
def plainLineEnds : List Char → List Char
  | [] => []
  | '\r' :: '\n' :: rest => '\n' :: plainLineEnds rest
  | c :: rest => (if c = '\r' then '\n' else c) :: plainLineEnds rest

namespace Facts

/-- The text that stands for an entity in a value. Line ends in it are made plain only if it was
read as content before. -/
def textInValue (e : Entity) : List Char :=
  if e.firstUse? = some .content then plainLineEnds e.text else e.text

def chainLimit (f : Facts) : Nat := f.general.length + 1

/-- Replaces the references in pieces, along chains of at most `levels` entities. -/
def expand (f : Facts) : (levels : Nat) → List Piece → List Char
  | 0, _ => []
  | levels + 1, pieces =>
    pieces.flatMap fun
      | .char c => [c]
      | .entity name =>
        match f.general.lookup name with
        | some e => expand f levels (Piece.all (textInValue e))
        | none => []

def valueText (f : Facts) (pieces : List Piece) : String :=
  String.ofList (f.expand f.chainLimit pieces)

/-- Takes note of an entity that is used in a value, and of those it refers to. -/
def noteUse : (levels : Nat) → Facts → Piece → Facts
  | _, f, .char _ => f
  | 0, f, .entity _ => f
  | levels + 1, f, .entity name =>
    match f.general.lookup name with
    | none => f
    | some e =>
      if e.firstUse?.isSome then f
      else
        let f := (Piece.all e.text).foldl (noteUse levels) f
        f.updateGeneral name fun e => { e with firstUse? := some .value }

def noteValue (f : Facts) (pieces : List Piece) : Facts :=
  pieces.foldl (noteUse f.chainLimit) f

end Facts

namespace Scan

/-- The entity that a reference in a value or in content is to. Something outside must not be
referred to in a value, nor what is no text anywhere; what is not declared is passed over in an
open document. -/
def entity? (inValue : Bool) (name : String) : Scan (Option Entity) := do
  let f ← facts
  match f.general.lookup name with
  | some e =>
    match e.kind with
    | .internal _ => return some e
    | .external => if inValue then failure else return none
    | .unparsed => failure
  | none =>
    if f.isLenient then
      warn
      return none
    else failure

def isFollowed (inSubset : Bool) (name : String) : Scan Bool := do
  return ((← facts).general.lookup name).all fun e => e.isVetted && (inSubset || e.isMeasured)

/-- What the pieces of an entity grow to, if `follow` follows the references among them. -/
def growthOf (follow : String → Scan Unit) (pieces : List Piece) : Scan Nat :=
  pieces.foldlM (fun total piece => do
    match piece with
    | .char _ => return total
    | .entity name =>
      match ← entity? true name with
      | none => return total
      | some _ =>
        follow name
        let growth := (((← facts).general.lookup name).map Entity.growth).getD 0
        return total + growth + referenceCost) 0

/-- Follows the references in an entity that is used in a value, at most `levels` levels deep, and
takes note of what it grows to. -/
def follow (inSubset : Bool) : (levels : Nat) → String → Scan Unit
  | 0, name => do
    if ← isFollowed inSubset name then return else failure
  | levels + 1, name => do
    if ← isFollowed inSubset name then return
    else
      match (← facts).general.lookup name with
      | none => return
      | some e =>
        if e.text.contains '<' then failure
        match Piece.ofText (e.text.length + 1) e.text with
        | none => failure
        | some pieces =>
          let growth ← growthOf (follow inSubset levels) pieces
          change fun f => f.updateGeneral name fun e =>
            if inSubset then { e with isVetted := true }
            else
              { e with isVetted := true, isMeasured := true, growth := byteLength e.text + growth }

/-- A reference in a value, after its ampersand. -/
def referenceInValue (site : Site) : Scan Piece := do
  let piece := Piece.ofReference (← read readReference)
  match piece with
  | .char _ => return piece
  | .entity name =>
    match ← entity? true name with
    | none => return piece
    | some _ =>
      follow site.inSubset site.levels name
      charge site ((((← facts).general.lookup name).map Entity.growth).getD 0)
      return piece

/-- The pieces of a value up to its quote, where `before` were read, the last one first. A line end
or another blank counts as one space. `limit` bounds the number of pieces. -/
def pieces (site : Site) (quote : Char) : (limit : Nat) → (before : List Piece) →
    Scan (List Piece)
  | 0, _ => failure
  | limit + 1, before => do
    match ← peek with
    | [] => failure
    | c :: rest =>
      let rest := if c = '\r' && rest.head? = some '\n' then rest.drop 1 else rest
      modify fun s => { s with rest := rest }
      if c = quote then return before.reverse
      else if c = '<' then failure
      else if c = '&' then
        let piece ← referenceInValue site
        pieces site quote limit (piece :: before)
      else pieces site quote limit (.char (if isBlank c then ' ' else c) :: before)

def value (site : Site) (tokenized : Bool) : Scan (List Piece) := do
  let quote ← next
  if quote = '"' ∨ quote = '\'' then
    let found ← pieces site quote (site.size + 1) []
    return if tokenized then Piece.joinTokens found else found
  else failure

end Scan
end BatchFormat.Xml
