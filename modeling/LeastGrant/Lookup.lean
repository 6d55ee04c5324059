import LeastGrant.Json.Basic

/-! Lookups that should find something: a model by a known name, a record, the base of a type, a
position in a list. The steps of an analysis leave open what happens where one misses. A function with
an `M` at the end of its name takes its steps in any way to treat such lookups; the function of the
same name without it goes on with nothing, as the analysis does. -/
namespace LeastGrant

/-- What a lookup misses. -/
inductive LookupFault where
  | model (name : String)
  | record (name : String)
  | base
  | position (position : Nat)
  | key (value : Json)

/-- A way to take the steps of an analysis, with what happens where a lookup misses. -/
class Lookups (m : Type → Type) extends Monad m, LawfulMonad m where
  /-- What a lookup found. The fault is what it misses if it found nothing. -/
  expect {α : Type} (fault : LookupFault) (found : Option α) : m (Option α)
  /-- A lookup that finds something has no other effect. -/
  expect_some {α : Type} (fault : LookupFault) (item : α) :
    expect fault (some item) = pure (some item)

namespace Lookups

/-- A lookup that misses gives nothing. -/
instance : Lookups Id where
  expect _ found := found
  expect_some _ _ := rfl

/-- A lookup that misses is the end. -/
instance : Lookups (Except LookupFault) where
  expect fault found :=
    match found with
    | some item => .ok (some item)
    | none => .error fault
  expect_some _ _ := rfl

variable {m : Type → Type} [Lookups m] {α : Type}

/-- The item at a position that should be in the list. -/
def element (items : List α) (position : Nat) : m (Option α) :=
  expect (.position position) items[position]?

/-- The first item, if there is any. -/
def first? (items : List α) : m (Option α) :=
  if items.isEmpty then return none else element items 0

theorem element_eq_pure {items : List α} {position : Nat} {item : α}
    (h : items[position]? = some item) : element items position = (pure (some item) : m _) := by
  rw [element, h, expect_some]

theorem first?_eq_pure (items : List α) : first? items = (pure items.head? : m (Option α)) := by
  cases items with
  | nil => rfl
  | cons item rest => exact element_eq_pure rfl

end Lookups

end LeastGrant
