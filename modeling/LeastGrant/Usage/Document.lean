import LeastGrant.Usage.Store
import LeastGrant.Json.Printer

/-! Usage stores as documents: an object with the records by the names of their models. -/
namespace LeastGrant

open Text

/-- Why a document is no usage store. -/
inductive StoreError where
  | notObject
  | badRecord (entity : String)
  deriving DecidableEq, Repr

def StoreError.message : StoreError → String
  | .notObject => "A usage store must be a JSON object keyed by model name"
  | .badRecord entity => s!"Usage record for {quoted entity} needs a string 'table' field"

/-- The record of a model in a document. It needs a table; what counts as set sets a flag. -/
def UsageRecord.ofJson (entity : String) (value : Json) : Except StoreError UsageRecord :=
  match value.get? "table" with
  | some (.str table) =>
    .ok ⟨entity, .str table, true,
      ⟨(value.getOrNull "isInsert").isSet, (value.getOrNull "isUpdate").isSet,
        (value.getOrNull "isDelete").isSet⟩⟩
  | _ => .error (.badRecord entity)

def UsageRecord.toJson (record : UsageRecord) : Json :=
  .obj [("table", record.table), ("isSelect", .bool true), ("isInsert", .bool record.writes.insert),
    ("isUpdate", .bool record.writes.update), ("isDelete", .bool record.writes.delete)]

namespace UsageStore

def ofJson : Json → Except StoreError UsageStore
  | .obj fields =>
    (fields.mapM fun (name, value) => UsageRecord.ofJson name value).map ofRecords
  | _ => .error .notObject

def toJson (store : UsageStore) : Json :=
  .obj (store.records.map fun record => (record.entity, record.toJson))

/-- Equality of stores whatever the order of their records. -/
def same (store other : UsageStore) : Bool := store.toJson.same other.toJson

/-- The store in a message. -/
def shown (store : UsageStore) : String := "UsageStore(" ++ store.toJson.shown ++ ")"

end UsageStore

end LeastGrant
