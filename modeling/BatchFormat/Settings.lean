import BatchFormat.Path

/-!
# Formatter settings

Names with their values, as a profile gives them. Nothing here depends on what they mean.
-/
namespace BatchFormat

/-- A finite map of texts. A name keeps the position of its first value and has the latest one. -/
abbrev Values := List (String × String)

namespace Values

def get? (values : Values) (key : String) : Option String := List.lookup key values

def put (values : Values) (key value : String) : Values :=
  match values with
  | [] => [(key, value)]
  | (other, old) :: rest =>
    if other = key then (key, value) :: rest else (other, old) :: put rest key value

/-- The map in which the last of several values for one name counts. -/
def ofList (pairs : List (String × String)) : Values :=
  pairs.foldl (fun values pair => put values pair.1 pair.2) []

/-- Adds a value for a name that has none. -/
def putMissing (values : Values) (key value : String) : Values :=
  if (get? values key).isSome then values else values ++ [(key, value)]

/-- The entries in the order of their names, by code points. -/
def sorted (values : Values) : Values :=
  List.mergeSort values fun a b => decide (a.1 ≤ b.1)

end Values

structure Settings where
  values : Values
  source : Option Path
  deriving DecidableEq, Repr

namespace Settings

def empty : Settings := ⟨[], none⟩

def get? (s : Settings) (key : String) : Option String := s.values.get? key

end Settings
end BatchFormat
