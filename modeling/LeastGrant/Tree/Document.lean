import LeastGrant.Json.Basic
import LeastGrant.Tree.Node

/-! Trees as documents: a list of nodes in pre-order, each a list of its kind, whether it is named,
its role, the bytes where it starts and stops, and the number of its children. -/
namespace LeastGrant.TreeEntry

/-- A number that counts or measures. -/
def count? : Json → Option Nat
  | .int n => if 0 ≤ n then some n.toNat else none
  | _ => none

def ofJson? : Json → Option TreeEntry
  | .arr [.str kind, named, .str role, start, stop, children] => do
    some ⟨kind, named.isSet, role, ← count? start, ← count? stop, ← count? children⟩
  | _ => none

/-- The entries of a tree; a document that is no list of nodes has none. -/
def listOfJson : Json → List TreeEntry
  | .arr items => (items.mapM ofJson?).getD []
  | _ => []

def toJson (entry : TreeEntry) : Json :=
  .arr [.str entry.kind, .int (if entry.named then 1 else 0), .str entry.role, .int entry.start,
    .int entry.stop, .int entry.children]

theorem ofJson?_toJson (entry : TreeEntry) : ofJson? entry.toJson = some entry := by
  rcases entry with ⟨kind, _ | _, role, start, stop, children⟩ <;>
    simp [ofJson?, toJson, count?, Json.isSet]

end LeastGrant.TreeEntry
