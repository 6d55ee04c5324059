import LeastGrant.Grants.Statement
import LeastGrant.Proofs.JoinedTexts
import LeastGrant.Proofs.RunStates
import LeastGrant.Proofs.SavedRegistry
import LeastGrant.Usage.StoreFile

/-! Usage stores that have been saved. A saved store is read back as it was if the names of its models and
tables are texts that are read back. -/
namespace LeastGrant

open Json

theorem putRecord_eq {records : List UsageRecord} (new : UsageRecord)
    (distinct : (records.map UsageRecord.entity).Nodup) :
    putRecord records new = putByKey UsageRecord.entity records new := by
  induction records with
  | nil => rfl
  | cons old rest ih =>
    rw [List.map_cons, List.nodup_cons] at distinct
    rw [putByKey, ← ih distinct.2]
    by_cases same : old.entity = new.entity
    · have others : rest.map (fun record => if record.entity = new.entity then new else record) =
          rest := by
        refine (List.map_congr_left fun record member => if_neg fun again => ?_).trans (List.map_id' _)
        rw [same, ← again] at distinct
        exact distinct.1 (List.mem_map_of_mem member)
      simp [putRecord, same, others]
    · simp only [putRecord, List.any_cons, beq_eq_false_iff_ne.mpr same, Bool.false_or, List.map_cons,
        if_neg same, Bool.false_eq_true, if_false]
      split <;> rfl

namespace UsageRecord

/-- A record that reads its table, whose name is a text. -/
def Textual (record : UsageRecord) : Prop :=
  record.select = true ∧ ∃ table, record.table = .str table

/-- The names in a record are read back from the texts in which they are saved. -/
def ReadsBack (record : UsageRecord) : Prop :=
  (Json.str record.entity).ReadsBack ∧ record.table.ReadsBack

/-- The field of a record in a document. -/
def toField (record : UsageRecord) : String × Json := (record.entity, record.toJson)

variable {record : UsageRecord}

theorem ofJson_toField (textual : record.Textual) :
    UsageRecord.ofJson record.toField.1 record.toField.2 = .ok record := by
  obtain ⟨entity, table, select, writes⟩ := record
  obtain ⟨rfl, text, rfl⟩ := textual
  rfl

theorem faithful_toJson (textual : record.Textual) (back : record.ReadsBack) :
    record.toJson.Faithful := by
  have names : ∀ name ∈ ["table", "isSelect", "isInsert", "isUpdate", "isDelete"],
      asRead name = name := by decide
  simp only [List.forall_mem_cons] at names
  obtain ⟨table, select, insert, update, delete, -⟩ := names
  obtain ⟨-, text, named⟩ := textual
  have kept : asRead text = text := readsBack_str.mp (named ▸ back.2)
  simp [toJson, named, Faithful, FaithfulFields, table, select, insert, update, delete, kept]

end UsageRecord

namespace UsageStore

def Textual (store : UsageStore) : Prop := ∀ record ∈ store.records, record.Textual

def ReadsBack (store : UsageStore) : Prop := ∀ record ∈ store.records, record.ReadsBack

theorem records_put (store : UsageStore) (new : UsageRecord) :
    (store.put new).records = putByKey UsageRecord.entity store.records new :=
  putRecord_eq new store.distinct

theorem records_ofRecords (records : List UsageRecord) :
    (ofRecords records).records = records.foldl (putByKey UsageRecord.entity) [] := by
  have run (store : UsageStore) : (records.foldl put store).records =
      records.foldl (putByKey UsageRecord.entity) store.records := by
    induction records generalizing store with
    | nil => rfl
    | cons record rest ih => rw [List.foldl_cons, ih, records_put, List.foldl_cons]
  exact run empty

theorem ofRecords_records (store : UsageStore) : ofRecords store.records = store := by
  apply eq_of_records
  rw [records_ofRecords]
  exact foldl_putByKey_of_nodup UsageRecord.entity store.distinct

theorem ofJson_toJson {store : UsageStore} (textual : store.Textual) :
    ofJson store.toJson = .ok store := by
  have fields : store.toJson = .obj (store.records.map UsageRecord.toField) := rfl
  rw [fields, ofJson]
  refine (congrArg (Except.map ofRecords) (mapM_map_ok (g := id) fun record member =>
    UsageRecord.ofJson_toField (textual record member))).trans ?_
  rw [List.map_id, Except.map, ofRecords_records]

theorem faithful_toJson {store : UsageStore} (textual : store.Textual) (back : store.ReadsBack) :
    store.toJson.Faithful := by
  have names : (store.records.map UsageRecord.toField).map Prod.fst =
      store.records.map UsageRecord.entity :=
    List.map_map
  have fields (records : List UsageRecord) (each : ∀ record ∈ records, record ∈ store.records) :
      FaithfulFields (records.map UsageRecord.toField) := by
    induction records with
    | nil => trivial
    | cons record rest ih =>
      obtain ⟨first, others⟩ := List.forall_mem_cons.mp each
      exact ⟨readsBack_str.mp (back record first).1,
        UsageRecord.faithful_toJson (textual record first) (back record first), ih others⟩
  exact ⟨names ▸ store.distinct, fields store.records fun _ => id⟩

/-- A store that has been saved is read back as it was. -/
theorem load_of_save {store : UsageStore} (textual : store.Textual) (back : store.ReadsBack)
    {folder after : Folder} {path : Path} (saves : store.save folder path = (.ok (), after)) :
    load after path = .ok store := by
  obtain ⟨text, reads, holds⟩ := read_of_write rfl (faithful_toJson textual back) saves
  rw [load, reads]
  dsimp only
  rw [holds]
  dsimp only
  rw [ofJson_toJson textual]

end UsageStore

end LeastGrant
