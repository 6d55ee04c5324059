import LeastGrant.Fault
import LeastGrant.Json.Basic
import LeastGrant.Text.Unwritable

/-! Values read as lists and as tables. A text is the list of its code points and an object the list of
its names. A list of pairs is a table. -/
namespace LeastGrant.Json

open Text (codes spelling)

/-- The elements of a value. -/
def elements : Json → Except ValueFault (List Json)
  | arr items => .ok items
  | str text => .ok ((codes text.toList).map fun code => str (String.ofList (spelling code)))
  | obj fields => .ok (fields.map fun (name, _) => str name)
  | _ => .error .wrongSort

/-- The elements of a value that is set; any other has none. -/
def elementsIfSet (value : Json) : Except ValueFault (List Json) :=
  if value.isSet then value.elements else .ok []

/-- A table whose keys can be any scalars. -/
abbrev Table := List (Json × Json)

namespace Table

/-- Sets the value of a key: an old one keeps its place. -/
def put : Table → Json → Json → Table
  | [], key, value => [(key, value)]
  | (other, old) :: rest, key, value =>
    if other.sameScalar key then (other, value) :: rest else (other, old) :: put rest key value

def get? (table : Table) (name : String) : Option Json :=
  (table.find? fun (key, _) => key.sameScalar (str name)).map Prod.snd

def getOrNull (table : Table) (name : String) : Json := (table.get? name).getD null

/-- The entries of the first table, and those of the second over them. -/
def override (below above : Table) : Table :=
  above.foldl (fun table (key, value) => table.put key value) below

end Table

/-- The key and the value in a pair. -/
def asPair (value : Json) : Except ValueFault (Json × Json) := do
  match ← value.elements with
  | [key, value] => if key.isScalar then .ok (key, value) else .error .wrongSort
  | _ => .error .wrongShape

/-- A value as a table: an object, or a list of pairs. What is not set is an empty table. -/
def asTable : Json → Except ValueFault Table
  | obj fields => .ok (fields.map fun (name, value) => (str name, value))
  | value => do
    let items ← value.elementsIfSet
    let pairs ← items.mapM asPair
    .ok (Table.override [] pairs)

end LeastGrant.Json
