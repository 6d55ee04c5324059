import LeastGrant.Proofs.KeyedList
import Mathlib.Data.List.Induction

/-! Stores after a run of uses. A record collects the writes of all uses of its model, keeps the
table of the first one, and stands where the first one put it. -/
namespace LeastGrant

/-- The ways of writing, one at a time. -/
inductive Operation where
  | insert
  | update
  | delete
  deriving DecidableEq, Repr

namespace Writes

def does (writes : Writes) : Operation → Bool
  | .insert => writes.insert
  | .update => writes.update
  | .delete => writes.delete

@[simp] theorem does_none (operation : Operation) : none.does operation = false := by
  cases operation <;> rfl

@[simp] theorem does_or (a b : Writes) (operation : Operation) :
    (a.or b).does operation = (a.does operation || b.does operation) := by
  cases operation <;> rfl

theorem ext_does {a b : Writes} (same : ∀ operation, a.does operation = b.does operation) :
    a = b := by
  have insert := same .insert
  have update := same .update
  have delete := same .delete
  cases a
  cases b
  simp_all [does]

/-- All writes of a list together. -/
def total (all : List Writes) : Writes := all.foldr or none

theorem does_total (all : List Writes) (operation : Operation) :
    (total all).does operation = true ↔ ∃ writes ∈ all, writes.does operation = true := by
  induction all with
  | nil => simp [total]
  | cons writes rest ih =>
    rw [total, List.foldr_cons, ← total, does_or, Bool.or_eq_true, ih]
    simp

end Writes

/-- What some uses write to a model. -/
def writesTo (uses : List Use) (name : String) : Writes :=
  .total ((uses.filter fun use => use.entity == name).map Use.writes)

theorem writesTo_cons (use : Use) (uses : List Use) (name : String) :
    writesTo (use :: uses) name =
      if use.entity = name then use.writes.or (writesTo uses name) else writesTo uses name := by
  by_cases h : use.entity = name
  · simp [writesTo, h, Writes.total]
  · simp [writesTo, h]

theorem does_writesTo (uses : List Use) (name : String) (operation : Operation) :
    (writesTo uses name).does operation = true ↔
      ∃ use ∈ uses, use.entity = name ∧ use.writes.does operation = true := by
  simp only [writesTo, Writes.does_total, List.mem_map, List.mem_filter, beq_iff_eq]
  constructor
  · rintro ⟨_, ⟨use, ⟨member, names⟩, rfl⟩, does⟩
    exact ⟨use, member, names, does⟩
  · rintro ⟨use, member, names, does⟩
    exact ⟨use.writes, ⟨use, ⟨member, names⟩, rfl⟩, does⟩

/-- What is written depends on which uses there are, and not on their order. -/
theorem writesTo_congr {uses others : List Use} (same : ∀ use, use ∈ uses ↔ use ∈ others)
    (name : String) : writesTo uses name = writesTo others name := by
  apply Writes.ext_does
  intro operation
  rw [Bool.eq_iff_iff]
  simp only [does_writesTo, same]

namespace UsageStore

theorem eq_of_records {store other : UsageStore} (same : store.records = other.records) :
    store = other := by
  cases store
  cases other
  cases same
  rfl

theorem entity_of_get? {store : UsageStore} {name : String} {record : UsageRecord}
    (h : store.get? name = some record) : record.entity = name := by
  simpa using List.find?_some h

theorem mem_of_get? {store : UsageStore} {name : String} {record : UsageRecord}
    (h : store.get? name = some record) : record ∈ store.records :=
  List.mem_of_find?_eq_some h

theorem mem_records {store : UsageStore} {record : UsageRecord} :
    record ∈ store.records ↔ store.get? record.entity = some record :=
  ⟨find?_key_of_mem UsageRecord.entity store.distinct, mem_of_get?⟩

theorem has_iff {store : UsageStore} {name : String} :
    store.has name = true ↔ name ∈ store.names := by
  simp [has, get?, names]

theorem has_iff_record {store : UsageStore} {name : String} :
    store.has name = true ↔ ∃ record ∈ store.records, record.entity = name := by
  rw [has_iff, names, List.mem_map]

/-- The record of a model does not depend on the order of the records. -/
theorem get?_of_perm {store other : UsageStore} (same : other.records.Perm store.records)
    (name : String) : other.get? name = store.get? name := by
  apply Option.ext
  intro record
  constructor
  · intro found
    rw [← entity_of_get? found]
    exact mem_records.mp (same.mem_iff.mp (mem_of_get? found))
  · intro found
    rw [← entity_of_get? found]
    exact mem_records.mp (same.mem_iff.mpr (mem_of_get? found))

theorem get?_eq_none {store : UsageStore} {name : String} :
    store.get? name = none ↔ name ∉ store.names := by
  rw [← has_iff, has]
  simp

/-- A use marks the record of its model, or is the whole record of a model that had none. -/
theorem get?_add (store : UsageStore) (use : Use) (name : String) :
    (store.add use).get? name =
      if use.entity = name then
        some (((store.get? name).map fun record => record.mark use.writes).getD (.ofUse use))
      else store.get? name := by
  by_cases known : (store.records.any fun record => record.entity == use.entity) = true
  · have marked : (store.add use).get? name = (store.mark use.entity use.writes).get? name := by
      simp [get?, add, mark, addUse, known]
    rw [marked, get?_mark]
    cases found : store.get? name with
    | none =>
      have absent : use.entity ≠ name := by
        rintro rfl
        have present : use.entity ∈ store.names := by simpa [names] using known
        exact get?_eq_none.mp found present
      simp [absent]
    | some record =>
      rw [← entity_of_get? found]
      by_cases same : use.entity = record.entity
      · simp [same]
      · simp [same, Ne.symm same]
  · have grown : (store.add use).get? name =
        (store.get? name).or
          ([UsageRecord.ofUse use].find? fun record => record.entity == name) := by
      simp [get?, add, addUse, known, List.find?_append]
    rw [grown]
    by_cases same : use.entity = name
    · have absent : store.get? name = none := by
        rw [get?_eq_none]
        simpa [names, ← same] using known
      simp [absent, same, UsageRecord.ofUse]
    · simp [same, UsageRecord.ofUse]

/-- What a model has after some uses: its old record with all writes added, or else a record with
the table of the first use. -/
theorem get?_foldl_add (uses : List Use) (store : UsageStore) (name : String) :
    (uses.foldl add store).get? name =
      match store.get? name with
      | some record => some (record.mark (writesTo uses name))
      | none => (uses.find? fun use => use.entity == name).map fun first =>
          ⟨name, first.table, true, writesTo uses name⟩ := by
  induction uses generalizing store with
  | nil => cases h : store.get? name <;> simp [writesTo, Writes.total, h]
  | cons use rest ih =>
    rw [List.foldl_cons, ih, get?_add, writesTo_cons]
    by_cases same : use.entity = name
    · cases h : store.get? name with
      | none => simp [same, UsageRecord.ofUse, UsageRecord.mark]
      | some record => simp [same, UsageRecord.mark_mark]
    · cases h : store.get? name <;> simp [same]

theorem mem_names_foldl_add (uses : List Use) (store : UsageStore) (name : String) :
    name ∈ (uses.foldl add store).names ↔ name ∈ store.names ∨ name ∈ uses.map Use.entity := by
  induction uses generalizing store with
  | nil => simp
  | cons use rest ih =>
    rw [List.foldl_cons, ih, names_add]
    split
    · rename_i known
      simp only [List.map_cons, List.mem_cons]
      constructor
      · tauto
      · rintro (old | rfl | later) <;> tauto
    · simp only [List.mem_append, List.map_cons, List.mem_cons]
      tauto

/-- Whether a model is written in a certain way. -/
def does (store : UsageStore) (name : String) (operation : Operation) : Bool :=
  ((store.get? name).map fun record => record.writes.does operation).getD false

theorem has_ofUses (uses : List Use) (name : String) :
    (ofUses uses).has name = true ↔ ∃ use ∈ uses, use.entity = name := by
  rw [has_iff, ofUses, mem_names_foldl_add]
  simp

/-- A record made of uses alone: its writes are theirs, and its table is that of one of them. -/
theorem record_of_mem_ofUses {uses : List Use} {record : UsageRecord}
    (member : record ∈ (ofUses uses).records) :
    record.select = true ∧ record.writes = writesTo uses record.entity ∧
      ∃ use ∈ uses, use.entity = record.entity ∧ use.table = record.table := by
  have found := mem_records.mp member
  have none : empty.get? record.entity = Option.none := rfl
  rw [ofUses, get?_foldl_add, none] at found
  obtain ⟨use, first, same⟩ := Option.map_eq_some_iff.mp found
  have named : use.entity = record.entity := by simpa using List.find?_some first
  refine ⟨?_, ?_, use, List.mem_of_find?_eq_some first, named, ?_⟩ <;> rw [← same]

/-- Uses of models that have no record leave the old records where they are. -/
theorem records_foldl_add_of_fresh (uses : List Use) (store : UsageStore)
    (fresh : ∀ use ∈ uses, use.entity ∉ store.names) :
    (uses.foldl add store).records = store.records ++ (ofUses uses).records := by
  induction uses using List.reverseRecOn with
  | nil => simp [ofUses, empty]
  | append_singleton rest use ih =>
    have before := ih fun other member => fresh other (List.mem_append_left _ member)
    have unknown : (store.records.any fun record => record.entity == use.entity) = false := by
      have absent := fresh use (by simp)
      simpa [names] using absent
    have kept : markAll use.entity use.writes store.records = store.records := by
      rw [markAll]
      conv_rhs => rw [← List.map_id store.records]
      apply List.map_congr_left
      intro record member
      have other : record.entity ≠ use.entity := fun same =>
        fresh use (by simp) (same ▸ List.mem_map_of_mem member)
      rw [if_neg other, id]
    rw [ofUses] at before ⊢
    simp only [List.foldl_append, List.foldl_cons, List.foldl_nil, add, addUse, before,
      List.any_append, unknown, Bool.false_or]
    split
    · rw [markAll, List.map_append, ← markAll, ← markAll, kept]
    · rw [List.append_assoc]

end UsageStore

end LeastGrant
