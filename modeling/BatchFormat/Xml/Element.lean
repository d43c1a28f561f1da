/-!
# Trees of elements

What is kept of a document: its elements with their names, attributes and order. A name belongs to
a namespace or to none.
-/
namespace BatchFormat.Xml

structure Name where
  space? : Option String
  base : String
  deriving DecidableEq, Repr

inductive Element where
  | node (name : Name) (attributes : List (Name × String)) (children : List Element)

namespace Element

def name : Element → Name
  | node name _ _ => name

def attributes : Element → List (Name × String)
  | node _ attributes _ => attributes

def children : Element → List Element
  | node _ _ children => children

/-- The value of an attribute without a namespace, empty if there is none. -/
def plainValue (e : Element) (name : String) : String :=
  (e.attributes.lookup ⟨none, name⟩).getD ""

mutual

/-- The element and all below it, each before its own children. -/
def inOrder : Element → List Element
  | node name attributes children => node name attributes children :: allInOrder children

/-- The same for elements in a row. -/
def allInOrder : List Element → List Element
  | [] => []
  | e :: rest => inOrder e ++ allInOrder rest

end

end Element
end BatchFormat.Xml
