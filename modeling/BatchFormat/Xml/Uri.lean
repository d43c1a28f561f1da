/-!
# References to resources

The grammar of the references that name namespaces: an absolute reference begins with a scheme, a
relative one does not. Only plain characters and escapes by number occur in either.
-/
namespace BatchFormat.Xml.Uri

def isUnreserved (c : Char) : Bool :=
  c.isAlphanum || c = '-' || c = '.' || c = '_' || c = '~'

def isSubDelimiter (c : Char) : Bool := "!$&'()*+,;=".toList.contains c

def isHex (c : Char) : Bool :=
  c.isDigit || ('a' ≤ c && c ≤ 'f') || ('A' ≤ c && c ≤ 'F')

/-- Drops characters that a part may hold, and escapes by two hexadecimal digits. -/
def dropPart (extra : Char → Bool) : List Char → List Char
  | '%' :: a :: b :: rest =>
    if isHex a && isHex b then dropPart extra rest else '%' :: a :: b :: rest
  | c :: rest =>
    if isUnreserved c || isSubDelimiter c || extra c then dropPart extra rest else c :: rest
  | [] => []

def isPathExtra (c : Char) : Bool := c = ':' || c = '@' || c = '/'

def dropMarked (mark : Char) (extra : Char → Bool) (cs : List Char) : List Char :=
  match cs with
  | c :: rest =>
    if c = mark then dropPart (fun c => isPathExtra c || c = '?' || extra c) rest else c :: rest
  | [] => []

/-- Whether nothing but a query and a fragment is left; only the fragment may hold brackets. -/
def endsAfterPath (cs : List Char) : Bool :=
  dropMarked '#' (fun c => c = '[' || c = ']') (dropMarked '?' (fun _ => false) cs) = []

/-- Drops the name of a host, which may be a number in brackets. -/
def dropHost : List Char → Option (List Char)
  | '[' :: rest =>
    match rest.dropWhile (· != ']') with
    | _ :: rest => some rest
    | [] => none
  | cs => some (dropPart (fun _ => false) cs)

def portLimit : Nat := 2147483647

/-- Drops the number of a port after its colon; one of the two cannot stand alone. -/
def dropPort : List Char → Option (List Char)
  | ':' :: rest =>
    let (digits, rest) := rest.span Char.isDigit
    let port := digits.foldl (fun n c => 10 * n + (c.toNat - '0'.toNat)) 0
    if digits = [] ∨ port > portLimit then none else some rest
  | cs => some cs

/-- Drops a user name, if one stands before the host. -/
def dropUser (cs : List Char) : List Char :=
  match dropPart (· = ':') cs with
  | '@' :: rest => rest
  | _ => cs

def afterSlashes (cs : List Char) : Bool :=
  match dropHost (dropUser cs) >>= dropPort with
  | some rest =>
    match rest with
    | '/' :: rest => endsAfterPath (dropPart isPathExtra rest)
    | rest => endsAfterPath rest
  | none => false

/-- Whether a path, or an authority with a path, is well-formed. -/
def hierarchical : List Char → Bool
  | '/' :: '/' :: rest => afterSlashes rest
  | cs => endsAfterPath (dropPart isPathExtra cs)

def isSchemePart (c : Char) : Bool := c.isAlphanum || c = '+' || c = '-' || c = '.'

/-- Whether a reference begins with a scheme. -/
def isAbsolute (cs : List Char) : Bool :=
  match cs.span isSchemePart with
  | (c :: _, ':' :: rest) => c.isAlpha && hierarchical rest
  | _ => false

/-- Whether the first segment of a path holds a colon, which would make it a scheme. -/
def startsWithScheme (cs : List Char) : Bool :=
  (cs.takeWhile fun c => c != '/' && c != '?' && c != '#').contains ':'

def isRelative (cs : List Char) : Bool :=
  (cs.head? = some '/' || !startsWithScheme cs) && hierarchical cs

def isReference (s : String) : Bool := isAbsolute s.toList || isRelative s.toList

end BatchFormat.Xml.Uri
