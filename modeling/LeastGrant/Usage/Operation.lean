/-! What calls do to tables. Any use of a model reads its table; the methods of a model that write say
whether they insert, update or delete rows. -/
namespace LeastGrant

/-- The ways in which a table is written. -/
structure Writes where
  insert : Bool
  update : Bool
  delete : Bool
  deriving DecidableEq, Repr

namespace Writes

def none : Writes := ⟨false, false, false⟩

/-- The writes of either. -/
def or (a b : Writes) : Writes := ⟨a.insert || b.insert, a.update || b.update, a.delete || b.delete⟩

@[simp] theorem or_none (a : Writes) : a.or none = a := by simp [or, none]

@[simp] theorem none_or (a : Writes) : none.or a = a := by simp [or, none]

theorem or_comm (a b : Writes) : a.or b = b.or a := by simp [or, Bool.or_comm]

theorem or_assoc (a b c : Writes) : (a.or b).or c = a.or (b.or c) := by simp [or, Bool.or_assoc]

@[simp] theorem or_self (a : Writes) : a.or a = a := by simp [or]

def inserting : Writes := ⟨true, false, false⟩

def updating : Writes := ⟨false, true, false⟩

def deleting : Writes := ⟨false, false, true⟩

/-- The writes that a word names; other words name none. -/
def ofWord : String → Writes
  | "INSERT" => inserting
  | "UPDATE" => updating
  | "DELETE" => deleting
  | _ => none

/-- The words for some writes, in a fixed order. -/
def words (writes : Writes) : List String :=
  (if writes.insert then ["INSERT"] else []) ++ (if writes.update then ["UPDATE"] else []) ++
    (if writes.delete then ["DELETE"] else [])

theorem foldr_ofWord_words (writes : Writes) :
    (writes.words.map ofWord).foldr or none = writes := by
  rcases writes with ⟨_ | _, _ | _, _ | _⟩ <;> rfl

end Writes

/-- The helper methods for associations. -/
inductive Mixin where
  | add
  | create
  | set
  | remove
  deriving DecidableEq, Repr

/-- The helper of a name. -/
def Mixin.ofName? : String → Option Mixin
  | "$add" => some add
  | "$create" => some create
  | "$set" => some set
  | "$remove" => some remove
  | _ => none

/-- What a write method of a model does to its table. -/
def Writes.ofMethod? : String → Option Writes
  | "build" | "bulkCreate" | "create" | "findCreateFind" | "findOrBuild" | "findOrCreate" =>
    some inserting
  | "bulkUpdate" | "decrement" | "increment" | "restore" | "save" | "set" | "update" =>
    some updating
  | "upsert" => some ⟨true, true, false⟩
  | "destroy" => some deleting
  | _ => Option.none

/-- A method whose calls may write. -/
inductive TrackedMethod where
  | write (writes : Writes)
  | mixin (mixin : Mixin)
  deriving DecidableEq, Repr

/-- The tracked method of a name. -/
def TrackedMethod.ofName? (name : String) : Option TrackedMethod :=
  match Mixin.ofName? name with
  | some helper => some (.mixin helper)
  | none => (Writes.ofMethod? name).map .write

/-- The writes to the target of an association and to its join model, if it has one. Without a join
model the link is a column of the target. -/
def Mixin.writes : Mixin → (hasJoin : Bool) → Writes × Writes
  | add, true => (.none, .inserting)
  | create, true => (.inserting, .inserting)
  | set, true => (.none, ⟨true, true, true⟩)
  | remove, true => (.none, .deleting)
  | create, false => (.inserting, .none)
  | _, false => (.updating, .none)

end LeastGrant
