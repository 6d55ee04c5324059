import LeastGrant.Decimal.Double

/-! Values of a JSON document. Whole numbers are unbounded, other numbers are doubles, and an object
keeps its fields in the order in which their names first occur. -/
namespace LeastGrant

open Decimal

inductive Json where
  | null
  | bool (b : Bool)
  | int (n : Int)
  | float (x : Double)
  | str (s : String)
  | arr (items : List Json)
  | obj (fields : List (String × Json))
  deriving Inhabited, Repr

namespace Json

/-- The fields of an object. -/
abbrev Fields := List (String × Json)

/-- The value of a field. -/
def Fields.get? (fields : Fields) (name : String) : Option Json :=
  fields.lookup name

/-- Sets a field: an old one keeps its place, a new one goes to the end. -/
def Fields.put : Fields → String → Json → Fields
  | [], name, value => [(name, value)]
  | (key, old) :: rest, name, value =>
    if key == name then (key, value) :: rest else (key, old) :: Fields.put rest name value

theorem Fields.get?_put (fields : Fields) (name other : String) (value : Json) :
    (fields.put name value).get? other =
      if other == name then some value else fields.get? other := by
  induction fields with
  | nil => cases h : other == name <;> simp [Fields.put, Fields.get?, List.lookup_cons, h]
  | cons field rest ih =>
    obtain ⟨key, old⟩ := field
    simp only [Fields.get?] at ih ⊢
    by_cases hk : key = name
    · subst hk
      cases ho : other == key <;> simp [Fields.put, List.lookup_cons, ho]
    · simp only [Fields.put, beq_eq_false_iff_ne.mpr hk, Bool.false_eq_true, if_false]
      by_cases ho : other = key
      · subst ho
        simp [hk]
      · simp [List.lookup_cons, beq_eq_false_iff_ne.mpr ho, ih]

/-- The field of a value; a value that is no object has none. -/
def get? : Json → String → Option Json
  | obj fields, name => Fields.get? fields name
  | _, _ => none

/-- The field of a value, null if it is missing. -/
def getOrNull (value : Json) (name : String) : Json :=
  (value.get? name).getD null

/-- Whether a value counts as set: null, false, zero and everything empty do not. -/
def isSet : Json → Bool
  | null => false
  | bool b => b
  | int n => n != 0
  | float x => !x.isZero
  | str s => s != ""
  | arr items => !items.isEmpty
  | obj fields => !fields.isEmpty

/-- The value itself if it is set, otherwise another one. -/
def orElse (value other : Json) : Json :=
  if value.isSet then value else other

theorem orElse_isSet (value other : Json) (h : other.isSet = true) :
    (value.orElse other).isSet = true := by
  unfold orElse
  split <;> assumption

/-- Whether a value can be a key: arrays and objects cannot. -/
def isScalar : Json → Bool
  | arr _ => false
  | obj _ => false
  | _ => true

/-- Whole numbers among the scalars; true and false count as one and zero. -/
def asInt? : Json → Option Int
  | bool b => some (if b then 1 else 0)
  | int n => some n
  | _ => none

/-- Equality of scalars: numbers are compared by value, whatever their form. -/
def sameScalar (a b : Json) : Bool :=
  match a, b with
  | null, null => true
  | str s, str t => s == t
  | float x, float y => x.equals y
  | float x, b => match b.asInt? with
    | some n => x.equalsInt n
    | none => false
  | a, float y => match a.asInt? with
    | some n => y.equalsInt n
    | none => false
  | a, b => match a.asInt?, b.asInt? with
    | some m, some n => m == n
    | _, _ => false

/-- Equality of keys: like that of scalars, but what is no number is one key. -/
def sameKey (a b : Json) : Bool :=
  match a, b with
  | float x, float y => x.equals y || (x.isNaN && y.isNaN)
  | a, b => sameScalar a b

mutual
/-- Equality of values: arrays element by element, objects whatever the order of their fields. -/
def same : Json → Json → Bool
  | arr as, b => match b with
    | arr bs => sameItems as bs
    | _ => false
  | obj fs, b => match b with
    | obj gs => fs.length == gs.length && sameFields fs gs
    | _ => false
  | a, b => sameScalar a b

def sameItems : List Json → List Json → Bool
  | [], bs => bs.isEmpty
  | a :: as, bs => match bs with
    | [] => false
    | b :: bs => same a b && sameItems as bs

def sameFields : List (String × Json) → List (String × Json) → Bool
  | [], _ => true
  | (name, a) :: fs, gs => (match gs.lookup name with
    | some b => same a b
    | none => false) && sameFields fs gs
end

mutual
/-- Whether two values are one and the same, in the order of their fields as well. -/
def identical : Json → Json → Bool
  | null, null => true
  | bool a, bool b => a == b
  | int m, int n => m == n
  | float x, float y => x == y
  | str s, str t => s == t
  | arr as, arr bs => identicalItems as bs
  | obj fs, obj gs => identicalFields fs gs
  | _, _ => false

def identicalItems : List Json → List Json → Bool
  | [], [] => true
  | a :: as, b :: bs => identical a b && identicalItems as bs
  | _, _ => false

def identicalFields : List (String × Json) → List (String × Json) → Bool
  | [], [] => true
  | (name, a) :: fs, (other, b) :: gs => name == other && identical a b && identicalFields fs gs
  | _, _ => false
end

mutual
theorem identical_iff : ∀ a b : Json, identical a b = true ↔ a = b
  | arr as, b => by cases b <;> simp [identical, identicalItems_iff]
  | obj fs, b => by cases b <;> simp [identical, identicalFields_iff]
  | null, b | bool _, b | int _, b | float _, b | str _, b => by cases b <;> simp [identical]

theorem identicalItems_iff : ∀ as bs : List Json, identicalItems as bs = true ↔ as = bs
  | [], bs => by cases bs <;> simp [identicalItems]
  | a :: as, bs => by
    cases bs with
    | nil => simp [identicalItems]
    | cons b bs => simp [identicalItems, identical_iff a b, identicalItems_iff as bs]

theorem identicalFields_iff : ∀ fs gs : List (String × Json), identicalFields fs gs = true ↔ fs = gs
  | [], gs => by cases gs <;> simp [identicalFields]
  | (name, a) :: fs, gs => by
    cases gs with
    | nil => simp [identicalFields]
    | cons g gs =>
      simp [identicalFields, identical_iff a g.2, identicalFields_iff fs gs, Prod.ext_iff]
end

instance : DecidableEq Json := fun a b => decidable_of_iff _ (identical_iff a b)

end Json

end LeastGrant
