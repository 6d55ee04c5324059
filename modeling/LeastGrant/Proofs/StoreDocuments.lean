import LeastGrant.Proofs.SavedGrants

/-! Documents of usage stores. A document is read exactly if it is an object whose entries are objects with
a text for their table; otherwise the first entry that is none of them is named. What is read are the
entries in their order, reduced to a table and three flags, and no document of such a store is reduced
further. -/
namespace LeastGrant

open Decimal

namespace Json

/-- A value that does not count as set. -/
inductive Unset : Json → Prop
  | null : Unset .null
  | no : Unset (.bool false)
  | zero : Unset (.int 0)
  | float {x : Double} (zero : x.magnitude = 0) : Unset (.float x)
  | text : Unset (.str "")
  | list : Unset (.arr [])
  | object : Unset (.obj [])

theorem isSet_eq_false_iff {value : Json} : value.isSet = false ↔ value.Unset := by
  constructor
  · intro h
    cases value with
    | null => exact .null
    | bool b =>
      cases (show b = false from h)
      exact .no
    | int n =>
      cases (show n = 0 by simpa [isSet] using h)
      exact .zero
    | float x => exact .float (by simpa [isSet, Double.isZero] using h)
    | str s =>
      cases (show s = "" by simpa [isSet] using h)
      exact .text
    | arr items =>
      cases (show items = [] by simpa [isSet] using h)
      exact .list
    | obj fields =>
      cases (show fields = [] by simpa [isSet] using h)
      exact .object
  · intro h
    cases h with
    | float zero => simp [isSet, Double.isZero, zero]
    | _ => rfl

/-- A field of a value is there and counts as set. -/
def Flags (value : Json) (name : String) : Prop :=
  ∃ flag, value.get? name = some flag ∧ ¬flag.Unset

theorem isSet_getOrNull_iff {value : Json} {name : String} :
    (value.getOrNull name).isSet = true ↔ value.Flags name := by
  rw [getOrNull, Flags]
  cases value.get? name with
  | none => simp [isSet]
  | some flag => simp [← isSet_eq_false_iff]

/-- A value that is an object with a text for its table. -/
def HoldsTable (value : Json) : Prop :=
  ∃ fields table, value = .obj fields ∧ Fields.get? fields "table" = some (.str table)

theorem holdsTable_iff {value : Json} :
    value.HoldsTable ↔ ∃ table, value.get? "table" = some (.str table) := by
  cases value with
  | obj fields => simp [HoldsTable, get?]
  | _ => simp [HoldsTable, get?]

end Json

section Steps

variable {ε α β : Type} {f : α → Except ε β} {items : List α}

theorem mapM_of_error {front back : List α} {item : α} {fault : ε}
    (before : ∀ other ∈ front, ∃ result, f other = .ok result) (fails : f item = .error fault) :
    (front ++ item :: back).mapM f = .error fault := by
  induction front with
  | nil =>
    rw [List.nil_append, List.mapM_cons, fails]
    rfl
  | cons first front ih =>
    obtain ⟨⟨result, reads⟩, others⟩ := List.forall_mem_cons.mp before
    rw [List.cons_append, List.mapM_cons, reads, ih others]
    rfl

theorem exists_of_mapM_error {fault : ε} (h : items.mapM f = .error fault) :
    ∃ front item back, items = front ++ item :: back ∧
      (∀ other ∈ front, ∃ result, f other = .ok result) ∧ f item = .error fault := by
  induction items with
  | nil => cases h
  | cons item rest ih =>
    rw [List.mapM_cons] at h
    cases first : f item with
    | error other =>
      rw [first] at h
      cases h
      exact ⟨[], item, rest, rfl, List.forall_mem_nil _, first⟩
    | ok result =>
      cases later : rest.mapM f with
      | ok results =>
        rw [first, later] at h
        cases h
      | error other =>
        rw [first, later] at h
        cases h
        obtain ⟨front, bad, back, rfl, before, fails⟩ := ih later
        exact ⟨item :: front, bad, back, rfl, List.forall_mem_cons.mpr ⟨⟨result, first⟩, before⟩,
          fails⟩

theorem exists_mapM_ok_iff :
    (∃ results, items.mapM f = .ok results) ↔ ∀ item ∈ items, ∃ result, f item = .ok result := by
  constructor
  · intro h item member
    obtain ⟨results, reads⟩ := h
    obtain ⟨result, -, holds⟩ := exists_of_forall₂ (forall₂_of_mapM reads).flip member
    exact ⟨result, holds⟩
  · intro each
    cases reads : items.mapM f with
    | ok results => exact ⟨results, rfl⟩
    | error fault =>
      obtain ⟨front, item, back, rfl, -, fails⟩ := exists_of_mapM_error reads
      obtain ⟨result, holds⟩ := each item (by simp)
      rw [fails] at holds
      cases holds

end Steps

namespace UsageRecord

/-- A record as an entry of a document gives it. It always reads its table, and no other fields count
than those named here. -/
structure ReadFrom (record : UsageRecord) (name : String) (value : Json) : Prop where
  entity : record.entity = name
  table : ∃ table, value.get? "table" = some (.str table) ∧ record.table = .str table
  select : record.select = true
  insert : record.writes.insert = true ↔ value.Flags "isInsert"
  update : record.writes.update = true ↔ value.Flags "isUpdate"
  delete : record.writes.delete = true ↔ value.Flags "isDelete"

variable {name : String} {value : Json}

theorem ofJson_eq_ok_iff {record : UsageRecord} :
    UsageRecord.ofJson name value = .ok record ↔ record.ReadFrom name value := by
  unfold UsageRecord.ofJson
  constructor
  · intro h
    split at h
    · rename_i table found
      cases h
      exact ⟨rfl, ⟨table, found, rfl⟩, rfl, Json.isSet_getOrNull_iff, Json.isSet_getOrNull_iff,
        Json.isSet_getOrNull_iff⟩
    · cases h
  · intro h
    obtain ⟨entity, own, select, insert, update, delete⟩ := record
    obtain ⟨rfl, ⟨table, found, rfl⟩, rfl, inserts, updates, deletes⟩ := h
    rw [found, Except.ok.injEq]
    rw [← Json.isSet_getOrNull_iff, ← Bool.eq_iff_iff] at inserts updates deletes
    rw [← inserts, ← updates, ← deletes]

theorem ofJson_eq_error_iff {fault : StoreError} :
    UsageRecord.ofJson name value = .error fault ↔ ¬value.HoldsTable ∧ fault = .badRecord name := by
  rw [Json.holdsTable_iff]
  unfold UsageRecord.ofJson
  split
  · rename_i table found
    simp [found]
  · rename_i other
    have none : ¬∃ table, value.get? "table" = some (.str table) := fun h =>
      h.elim fun table found => other table found
    simp [none, eq_comm]

theorem exists_ofJson_iff :
    (∃ record, UsageRecord.ofJson name value = .ok record) ↔ value.HoldsTable := by
  rw [Json.holdsTable_iff]
  constructor
  · intro h
    obtain ⟨record, reads⟩ := h
    obtain ⟨table, found, -⟩ := (ofJson_eq_ok_iff.mp reads).table
    exact ⟨table, found⟩
  · intro h
    obtain ⟨table, found⟩ := h
    unfold UsageRecord.ofJson
    rw [found]
    exact ⟨_, rfl⟩

end UsageRecord

namespace UsageStore

variable {document : Json} {fields : Json.Fields} {store : UsageStore}

theorem ofJson_obj (fields : Json.Fields) :
    ofJson (.obj fields) =
      (fields.mapM fun field => UsageRecord.ofJson field.1 field.2).map ofRecords := rfl

theorem exists_ofJson_iff :
    (∃ store, ofJson document = .ok store) ↔
      ∃ fields, document = .obj fields ∧ ∀ entry ∈ fields, entry.2.HoldsTable := by
  constructor
  · intro h
    obtain ⟨store, reads⟩ := h
    obtain ⟨fields, rfl, -⟩ := exists_of_ofJson reads
    obtain ⟨records, each, -⟩ := ok_of_map reads
    refine ⟨fields, rfl, fun entry member => ?_⟩
    exact UsageRecord.exists_ofJson_iff.mp (exists_mapM_ok_iff.mp ⟨records, each⟩ entry member)
  · intro h
    obtain ⟨fields, rfl, tables⟩ := h
    obtain ⟨records, each⟩ : ∃ records,
        fields.mapM (fun field => UsageRecord.ofJson field.1 field.2) = .ok records :=
      exists_mapM_ok_iff.mpr fun entry member => UsageRecord.exists_ofJson_iff.mpr (tables entry member)
    exact ⟨ofRecords records, by rw [ofJson_obj, each]; rfl⟩

/-- An object that cannot be read is refused for its first entry without a table. -/
theorem exists_of_ofJson_error {fault : StoreError} (h : ofJson (.obj fields) = .error fault) :
    ∃ front name value back, fields = front ++ (name, value) :: back ∧
      (∀ entry ∈ front, entry.2.HoldsTable) ∧ ¬value.HoldsTable ∧ fault = .badRecord name := by
  rw [ofJson_obj] at h
  cases each : fields.mapM fun field => UsageRecord.ofJson field.1 field.2 with
  | ok records =>
    rw [each] at h
    cases h
  | error first =>
    rw [each] at h
    cases h
    obtain ⟨front, bad, back, rfl, before, fails⟩ := exists_of_mapM_error each
    obtain ⟨lacks, named⟩ := UsageRecord.ofJson_eq_error_iff.mp fails
    exact ⟨front, bad.1, bad.2, back, rfl,
      fun entry member => UsageRecord.exists_ofJson_iff.mp (before entry member), lacks, named⟩

theorem ofJson_eq_notObject_iff :
    ofJson document = .error .notObject ↔ ∀ fields, document ≠ .obj fields := by
  cases document with
  | obj fields =>
    refine ⟨fun h => ?_, fun other => absurd rfl (other fields)⟩
    obtain ⟨front, name, value, back, -, -, -, named⟩ := exists_of_ofJson_error h
    cases named
  | _ => exact ⟨fun _ _ => Json.noConfusion, fun _ => rfl⟩

theorem ofJson_eq_badRecord_iff {name : String} :
    ofJson document = .error (.badRecord name) ↔
      ∃ front value back, document = .obj (front ++ (name, value) :: back) ∧
        (∀ entry ∈ front, entry.2.HoldsTable) ∧ ¬value.HoldsTable := by
  constructor
  · intro h
    cases document with
    | obj fields =>
      obtain ⟨front, bad, value, back, rfl, tables, lacks, named⟩ := exists_of_ofJson_error h
      cases named
      exact ⟨front, value, back, rfl, tables, lacks⟩
    | _ => cases h
  · intro h
    obtain ⟨front, value, back, rfl, tables, lacks⟩ := h
    have fails : UsageRecord.ofJson name value = .error (.badRecord name) :=
      UsageRecord.ofJson_eq_error_iff.mpr ⟨lacks, rfl⟩
    have stops : (front ++ (name, value) :: back).mapM
        (fun field => UsageRecord.ofJson field.1 field.2) = .error (.badRecord name) :=
      mapM_of_error (fun entry member => UsageRecord.exists_ofJson_iff.mpr (tables entry member)) fails
    rw [ofJson_obj, stops]
    rfl

/-- The records of a store are the entries of its document, one by one. -/
theorem forall₂_of_ofJson (distinct : (fields.map Prod.fst).Nodup)
    (reads : ofJson (.obj fields) = .ok store) :
    List.Forall₂ (fun entry record => record.ReadFrom entry.1 entry.2) fields store.records := by
  obtain ⟨records, each, rfl⟩ := ok_of_map reads
  have related := forall₂_of_mapM each
  have names : records.map UsageRecord.entity = fields.map Prod.fst :=
    map_key_of_forall₂ related fun _ _ given => (UsageRecord.ofJson_eq_ok_iff.mp given).entity
  have kept : (ofRecords records).records = records := by
    rw [records_ofRecords]
    exact foldl_putByKey_of_nodup UsageRecord.entity (by rwa [List.nil_append, names])
  rw [kept]
  exact related.imp fun _ _ given => UsageRecord.ofJson_eq_ok_iff.mp given

/-- A document is read exactly if it is an object whose entries are objects with a text for their table.
Anything else that is no object is refused as such, and an object for its first entry of another sort.
The store that is read has the names of the document in their order, with the flags that its entries set,
and is read again from its own document. So that document stays as it is when it is read and written. -/
theorem ofJson_exact (document : Json) :
    ((∃ store, ofJson document = .ok store) ↔
      ∃ fields, document = .obj fields ∧ ∀ entry ∈ fields, entry.2.HoldsTable) ∧
    (ofJson document = .error .notObject ↔ ∀ fields, document ≠ .obj fields) ∧
    (∀ name, ofJson document = .error (.badRecord name) ↔
      ∃ front value back, document = .obj (front ++ (name, value) :: back) ∧
        (∀ entry ∈ front, entry.2.HoldsTable) ∧ ¬value.HoldsTable) ∧
    ∀ store, ofJson document = .ok store →
      (document.WellFormed → ∃ fields, document = .obj fields ∧ store.names = fields.map Prod.fst ∧
        List.Forall₂ (fun entry record => record.ReadFrom entry.1 entry.2) fields store.records) ∧
      ofJson store.toJson = .ok store ∧
      (ofJson store.toJson).map toJson = .ok store.toJson := by
  refine ⟨exists_ofJson_iff, ofJson_eq_notObject_iff, fun name => ofJson_eq_badRecord_iff,
    fun store reads => ?_⟩
  have again := ofJson_toJson (textual_ofJson reads)
  refine ⟨fun valid => ?_, again, by rw [again]; rfl⟩
  obtain ⟨fields, rfl, -⟩ := exists_of_ofJson reads
  have related := forall₂_of_ofJson valid.1 reads
  exact ⟨fields, rfl, map_key_of_forall₂ related fun _ _ given => given.entity, related⟩

/-- A document whose flags are no truth values: a list counts as set, a negative zero and an empty text do
not, and the flag for reading is ignored. -/
def lenient : Json :=
  .obj [("User", .obj [("isSelect", .bool false), ("table", .str "users"), ("isInsert", .arr [.null]),
    ("isUpdate", .float ⟨0x8000000000000000⟩), ("isDelete", .str "")]),
    ("Post", .obj [("table", .str "posts")])]

def lenientStore : UsageStore :=
  .ofRecords [⟨"User", .str "users", true, ⟨true, false, false⟩⟩,
    ⟨"Post", .str "posts", true, ⟨false, false, false⟩⟩]

theorem ofJson_exact_lenient :
    lenient.WellFormed ∧ ofJson lenient = .ok lenientStore ∧
    (∃ fields, lenient = .obj fields ∧ lenientStore.names = fields.map Prod.fst ∧
      List.Forall₂ (fun entry record => record.ReadFrom entry.1 entry.2) fields lenientStore.records) ∧
    ofJson lenientStore.toJson = .ok lenientStore ∧
    ofJson (.obj [("User", .obj [("table", .str "users")]), ("Post", .str "posts"), ("Tag", .null)]) =
      .error (.badRecord "Post") := by
  have valid : lenient.WellFormed := by
    simp [lenient, Json.WellFormed, Json.WellFormedFields, Json.WellFormedItems]
  have reads : ofJson lenient = .ok lenientStore := rfl
  have table : Json.HoldsTable (.obj [("table", .str "users")]) := ⟨_, "users", rfl, rfl⟩
  have none : ¬Json.HoldsTable (.str "posts") := by simp [Json.HoldsTable]
  obtain ⟨-, -, -, read⟩ := ofJson_exact lenient
  refine ⟨valid, reads, (read _ reads).1 valid, (read _ reads).2.1, ?_⟩
  refine ((ofJson_exact _).2.2.1 "Post").mpr ⟨[_], _, [_], rfl, ?_, none⟩
  exact List.forall_mem_singleton.mpr table

end UsageStore

end LeastGrant
