import LeastGrant.Entity.Registry
import LeastGrant.Usage.Operation

/-! Usage stores: one record for each model that is used, in the order of first use. Adding a use
never removes a record or a flag, and merging two stores adds the records of the second as uses. -/
namespace LeastGrant

/-- One use of a model: its table is read, and possibly written. -/
structure Use where
  entity : String
  table : Json
  writes : Writes

def Use.of (entity : Entity) (writes : Writes) : Use := ⟨entity.name, entity.table, writes⟩

/-- What is known on the use of a model. -/
structure UsageRecord where
  entity : String
  table : Json
  select : Bool
  writes : Writes
  deriving DecidableEq

namespace UsageRecord

/-- The record of a single use. -/
def ofUse (use : Use) : UsageRecord := ⟨use.entity, use.table, true, use.writes⟩

/-- The use that a record stands for. -/
def use (record : UsageRecord) : Use := ⟨record.entity, record.table, record.writes⟩

def mark (record : UsageRecord) (writes : Writes) : UsageRecord :=
  { record with writes := record.writes.or writes }

@[simp] theorem mark_none (record : UsageRecord) : record.mark .none = record := by
  simp [mark]

theorem mark_mark (record : UsageRecord) (a b : Writes) :
    (record.mark a).mark b = record.mark (a.or b) := by
  simp [mark, Writes.or_assoc]

end UsageRecord

/-- Marks the records of a name. -/
def markAll (name : String) (writes : Writes) (records : List UsageRecord) : List UsageRecord :=
  records.map fun record => if record.entity = name then record.mark writes else record

/-- Adds a use to some records: to the record of its model, or as a new record at the end. -/
def addUse (records : List UsageRecord) (use : Use) : List UsageRecord :=
  if records.any fun record => record.entity == use.entity then
    markAll use.entity use.writes records
  else records ++ [.ofUse use]

/-- Puts a record in the place of the one of its model, or at the end. -/
def putRecord (records : List UsageRecord) (new : UsageRecord) : List UsageRecord :=
  if records.any fun record => record.entity == new.entity then
    records.map fun record => if record.entity = new.entity then new else record
  else records ++ [new]

@[simp] theorem markAll_names (name : String) (writes : Writes) (records : List UsageRecord) :
    (markAll name writes records).map UsageRecord.entity = records.map UsageRecord.entity := by
  simp only [markAll, List.map_map]
  apply List.map_congr_left
  intro record _
  simp only [Function.comp]
  split <;> rfl

/-- The names after a use: the new name comes last, a known one changes nothing. -/
theorem addUse_names (records : List UsageRecord) (use : Use) :
    (addUse records use).map UsageRecord.entity =
      if use.entity ∈ records.map UsageRecord.entity then records.map UsageRecord.entity
      else records.map UsageRecord.entity ++ [use.entity] := by
  have h : (records.any fun record => record.entity == use.entity) =
      decide (use.entity ∈ records.map UsageRecord.entity) := by
    rw [Bool.eq_iff_iff]
    simp
  simp only [addUse, h, decide_eq_true_eq]
  split
  · simp
  · simp [UsageRecord.ofUse]

theorem putRecord_names (records : List UsageRecord) (new : UsageRecord) :
    (putRecord records new).map UsageRecord.entity =
      if new.entity ∈ records.map UsageRecord.entity then records.map UsageRecord.entity
      else records.map UsageRecord.entity ++ [new.entity] := by
  have h : (records.any fun record => record.entity == new.entity) =
      decide (new.entity ∈ records.map UsageRecord.entity) := by
    rw [Bool.eq_iff_iff]
    simp
  simp only [putRecord, h, decide_eq_true_eq]
  split
  · simp only [List.map_map]
    apply List.map_congr_left
    intro record _
    simp only [Function.comp]
    split <;> simp_all
  · simp

theorem nodup_extend {names : List String} (name : String) (h : names.Nodup) :
    (if name ∈ names then names else names ++ [name]).Nodup := by
  split
  · exact h
  · rename_i absent
    rw [List.nodup_append]
    refine ⟨h, by simp, fun a ha b hb => ?_⟩
    simp only [List.mem_singleton] at hb
    subst hb
    exact fun e => absent (e ▸ ha)

/-- A usage store. No model has two records. -/
structure UsageStore where
  records : List UsageRecord
  distinct : (records.map UsageRecord.entity).Nodup

namespace UsageStore

def empty : UsageStore := ⟨[], List.nodup_nil⟩

def names (store : UsageStore) : List String := store.records.map UsageRecord.entity

def get? (store : UsageStore) (name : String) : Option UsageRecord :=
  store.records.find? fun record => record.entity == name

def has (store : UsageStore) (name : String) : Bool := (store.get? name).isSome

/-- Adds a use. -/
def add (store : UsageStore) (use : Use) : UsageStore where
  records := addUse store.records use
  distinct := by
    rw [addUse_names]
    exact nodup_extend _ store.distinct

/-- Sets the record of a model; an old one loses its contents and keeps its place. -/
def put (store : UsageStore) (record : UsageRecord) : UsageStore where
  records := putRecord store.records record
  distinct := by
    rw [putRecord_names]
    exact nodup_extend _ store.distinct

/-- Marks the record of a model, if there is one. -/
def mark (store : UsageStore) (name : String) (writes : Writes) : UsageStore where
  records := markAll name writes store.records
  distinct := by
    rw [markAll_names]
    exact store.distinct

def ofUses (uses : List Use) : UsageStore := uses.foldl add empty

def ofRecords (records : List UsageRecord) : UsageStore := records.foldl put empty

/-- The records of both; a model of the second store that the first one knows keeps the table of the
first. -/
def merge (store other : UsageStore) : UsageStore :=
  (other.records.map UsageRecord.use).foldl add store

@[simp] theorem names_empty : empty.names = [] := rfl

theorem names_add (store : UsageStore) (use : Use) :
    (store.add use).names =
      if use.entity ∈ store.names then store.names else store.names ++ [use.entity] :=
  addUse_names store.records use

theorem names_mark (store : UsageStore) (name : String) (writes : Writes) :
    (store.mark name writes).names = store.names :=
  markAll_names ..

theorem find?_markAll (name other : String) (writes : Writes) (records : List UsageRecord) :
    (markAll name writes records).find? (fun record => record.entity == other) =
      (records.find? fun record => record.entity == other).map fun record =>
        if record.entity = name then record.mark writes else record := by
  induction records with
  | nil => rfl
  | cons record rest ih =>
    have same : (if record.entity = name then record.mark writes else record).entity =
        record.entity := by split <;> rfl
    have tail : (rest.map fun record => if record.entity = name then record.mark writes else record) =
        markAll name writes rest := rfl
    simp only [markAll, List.map_cons, List.find?_cons, same]
    split
    · rfl
    · rw [tail, ih]

/-- What a mark does to a record: it adds its writes to the record of its name. -/
theorem get?_mark (store : UsageStore) (name other : String) (writes : Writes) :
    (store.mark name writes).get? other =
      (store.get? other).map fun record =>
        if record.entity = name then record.mark writes else record :=
  find?_markAll name other writes store.records

end UsageStore

end LeastGrant
