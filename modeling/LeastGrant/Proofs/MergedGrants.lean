import LeastGrant.Grants.Statement
import LeastGrant.Proofs.Store

/-! What a merged store grants. Records are merged by the names of models, but granted by tables. A
model keeps the table of the first store that has it, so stores that give one model several tables
lose the later tables, and their privileges go to the first one. Stores that agree on tables grant
together what each of them grants. -/
namespace LeastGrant

def Operation.word : Operation → String
  | .insert => "INSERT"
  | .update => "UPDATE"
  | .delete => "DELETE"

/-- A privilege on a table. -/
inductive Privilege where
  | read
  | write (operation : Operation)
  deriving DecidableEq, Repr

namespace Privilege

def word : Privilege → String
  | read => "SELECT"
  | write operation => operation.word

/-- All privileges, in the order of the statements. -/
def all : List Privilege := [read, write .insert, write .update, write .delete]

theorem mem_all (privilege : Privilege) : privilege ∈ all := by
  rcases privilege with _ | _ | _ | _ <;> simp [all]

end Privilege

namespace UsageRecord

/-- Whether a record needs a privilege. -/
def needs (record : UsageRecord) : Privilege → Bool
  | .read => record.select
  | .write operation => record.writes.does operation

theorem privileges_eq (record : UsageRecord) :
    record.privileges = (Privilege.all.filter record.needs).map Privilege.word := by
  obtain ⟨entity, table, select, insert, update, delete⟩ := record
  cases select <;> cases insert <;> cases update <;> cases delete <;> rfl

end UsageRecord

/-- The statement that grants a privilege on a table. -/
def grantLine (options : GrantOptions) (privilege : Privilege) (table : String) : String :=
  "GRANT " ++ privilege.word ++ " ON " ++ table ++ " TO " ++ options.account ++ ";"

/-- A store grants a privilege on a table: the statement for it is among its statements. -/
def UsageStore.Grants (store : UsageStore) (options : GrantOptions) (privilege : Privilege)
    (table : String) : Prop :=
  grantLine options privilege table ∈ grantStatements store options

instance (store : UsageStore) (options : GrantOptions) (privilege : Privilege) (table : String) :
    Decidable (store.Grants options privilege table) :=
  inferInstanceAs (Decidable (_ ∈ grantStatements store options))

section Statements

variable {options : GrantOptions}

/-- The statement tells the privilege and the table: the words begin with different letters, and the
same text follows every table. -/
theorem grantLine_inj {a b : Privilege} {s t : String} :
    grantLine options a s = grantLine options b t ↔ a = b ∧ s = t := by
  constructor
  · intro same
    have letters := congrArg String.toList same
    have tables : a = b ∧ s.toList = t.toList := by
      clear same
      rcases a with _ | _ | _ | _ <;> rcases b with _ | _ | _ | _ <;>
        simp_all [grantLine, Privilege.word, Operation.word, String.toList_append]
    exact ⟨tables.1, String.toList_inj.mp tables.2⟩
  · rintro ⟨rfl, rfl⟩
    rfl

theorem mem_grants {record : UsageRecord} {privilege : Privilege} {table : String} :
    grantLine options privilege table ∈ record.grants options ↔
      record.needs privilege = true ∧ record.table.plain = table := by
  have lines : record.grants options =
      (Privilege.all.filter record.needs).map fun other =>
        grantLine options other record.table.plain := by
    rw [UsageRecord.grants, UsageRecord.privileges_eq, List.map_map]
    rfl
  simp only [lines, List.mem_map, List.mem_filter, grantLine_inj]
  constructor
  · rintro ⟨_, ⟨-, needed⟩, rfl, same⟩
    exact ⟨needed, same⟩
  · rintro ⟨needed, same⟩
    exact ⟨privilege, ⟨privilege.mem_all, needed⟩, rfl, same⟩

/-- A store grants what its records need. The statements around the grants are none of them. -/
theorem UsageStore.grants_iff {store : UsageStore} {privilege : Privilege} {table : String} :
    store.Grants options privilege table ↔
      ∃ record ∈ store.records, record.needs privilege = true ∧ record.table.plain = table := by
  have revokes : grantLine options privilege table ≠
      "REVOKE SELECT, INSERT, UPDATE, DELETE ON *.* FROM " ++ options.account ++ ";" := by
    intro same
    have letters := congrArg String.toList same
    simp [grantLine, String.toList_append] at letters
  have flushes : grantLine options privilege table ≠ "FLUSH PRIVILEGES;" := by
    intro same
    have letters := congrArg String.toList same
    simp [grantLine, String.toList_append] at letters
  rw [Grants, grantStatements]
  simp only [List.mem_append, List.mem_ite_nil_right, List.mem_singleton, revokes, flushes,
    and_false, false_or, or_false, List.mem_flatMap, mem_grants]

end Statements

namespace UsageStore

/-- The first record of a model in some stores. -/
def firstRecord? (stores : List UsageStore) (name : String) : Option UsageRecord :=
  stores.findSome? fun store => store.get? name

/-- Merging stores in order is one run of the uses that their records stand for. -/
theorem foldl_merge (stores : List UsageStore) (store : UsageStore) :
    stores.foldl merge store =
      (stores.flatMap fun other => other.records.map UsageRecord.use).foldl add store := by
  rw [List.foldl_flatMap]
  rfl

/-- A merged record has the table of the first store that knows its model, and the writes of all. -/
theorem get?_foldl_merge (stores : List UsageStore) (name : String) :
    (stores.foldl merge empty).get? name = (firstRecord? stores name).map fun first =>
      ⟨name, first.table, true,
        writesTo (stores.flatMap fun store => store.records.map UsageRecord.use) name⟩ := by
  have first : ((stores.flatMap fun store => store.records.map UsageRecord.use).find? fun use =>
      use.entity == name) = (firstRecord? stores name).map UsageRecord.use := by
    rw [List.find?_flatMap, firstRecord?, List.map_findSome?]
    simp only [List.find?_map, Function.comp_def]
    rfl
  have fresh : empty.get? name = none := rfl
  rw [foldl_merge, get?_foldl_add, fresh, first, Option.map_map]
  rfl

theorem firstRecord?_of_mem {stores : List UsageStore} {store : UsageStore} {record : UsageRecord}
    (member : store ∈ stores) (known : record ∈ store.records) :
    ∃ first, firstRecord? stores record.entity = some first := by
  rw [← Option.isSome_iff_exists, firstRecord?, List.isSome_findSome?, List.any_eq_true]
  exact ⟨store, member, by rw [mem_records.mp known]; rfl⟩

theorem mem_of_firstRecord? {stores : List UsageStore} {name : String} {first : UsageRecord}
    (h : firstRecord? stores name = some first) :
    ∃ store ∈ stores, first ∈ store.records ∧ first.entity = name := by
  obtain ⟨store, member, found⟩ := List.exists_of_findSome?_eq_some h
  exact ⟨store, member, mem_of_get? found, entity_of_get? found⟩

/-- Every record of some stores reads its table. -/
def AllRead (stores : List UsageStore) : Prop :=
  ∀ store ∈ stores, ∀ record ∈ store.records, record.select = true

/-- Records of one model in some stores have the same table. -/
def AgreeOnTables (stores : List UsageStore) : Prop :=
  ∀ store ∈ stores, ∀ record ∈ store.records, ∀ other ∈ stores, ∀ also ∈ other.records,
    record.entity = also.entity → record.table.plain = also.table.plain

variable {stores : List UsageStore} {options : GrantOptions}

theorem does_writesTo_uses {name : String} {operation : Operation} :
    (writesTo (stores.flatMap fun store => store.records.map UsageRecord.use) name).does
        operation = true ↔
      ∃ store ∈ stores, ∃ record ∈ store.records, record.entity = name ∧
        record.writes.does operation = true := by
  simp only [does_writesTo, List.mem_flatMap, List.mem_map]
  constructor
  · rintro ⟨_, ⟨store, member, record, known, rfl⟩, named, does⟩
    exact ⟨store, member, record, known, named, does⟩
  · rintro ⟨store, member, record, known, named, does⟩
    exact ⟨record.use, ⟨store, member, record, known, rfl⟩, named, does⟩

/-- A merged record needs what some record of its model needs. -/
theorem needs_merged (reads : AllRead stores) {name : String} {first : UsageRecord}
    (found : firstRecord? stores name = some first) (privilege : Privilege) :
    UsageRecord.needs ⟨name, first.table, true,
        writesTo (stores.flatMap fun store => store.records.map UsageRecord.use) name⟩ privilege =
      true ↔
      ∃ store ∈ stores, ∃ record ∈ store.records, record.entity = name ∧
        record.needs privilege = true := by
  cases privilege with
  | write operation => exact does_writesTo_uses
  | read =>
    obtain ⟨store, member, known, named⟩ := mem_of_firstRecord? found
    exact ⟨fun _ => ⟨store, member, first, known, named, reads store member first known⟩,
      fun _ => rfl⟩

/-- A merged store grants, on the table that a model has in the first store that knows it, what the
records of this model in all stores need. -/
theorem grants_foldl_merge (reads : AllRead stores) {privilege : Privilege} {table : String} :
    (stores.foldl merge empty).Grants options privilege table ↔
      ∃ name first, firstRecord? stores name = some first ∧ first.table.plain = table ∧
        ∃ store ∈ stores, ∃ record ∈ store.records, record.entity = name ∧
          record.needs privilege = true := by
  rw [grants_iff]
  constructor
  · rintro ⟨record, known, needed, rfl⟩
    have merged := mem_records.mp known
    rw [get?_foldl_merge] at merged
    obtain ⟨first, found, same⟩ := Option.map_eq_some_iff.mp merged
    rw [← same] at needed
    exact ⟨record.entity, first, found, by rw [← same], (needs_merged reads found privilege).mp needed⟩
  · rintro ⟨name, first, found, rfl, needed⟩
    have merged := get?_foldl_merge stores name
    rw [found] at merged
    exact ⟨_, mem_of_get? merged, (needs_merged reads found privilege).mpr needed, rfl⟩

/-- What a merged store grants: on the table that a model has in the first store that knows it, all
that the records of this model need. Where the stores agree on the tables, this is what the single
stores grant, no less and no more. -/
theorem merged_grants_exact (stores : List UsageStore) (options : GrantOptions)
    (reads : AllRead stores) :
    (∀ privilege table, (stores.foldl merge empty).Grants options privilege table ↔
      ∃ name first, firstRecord? stores name = some first ∧ first.table.plain = table ∧
        ∃ store ∈ stores, ∃ record ∈ store.records, record.entity = name ∧
          record.needs privilege = true) ∧
    (AgreeOnTables stores → ∀ privilege table,
      (stores.foldl merge empty).Grants options privilege table ↔
        ∃ store ∈ stores, store.Grants options privilege table) := by
  refine ⟨fun privilege table => grants_foldl_merge reads, fun agree privilege table => ?_⟩
  have sameTable {store : UsageStore} {record first : UsageRecord} (member : store ∈ stores)
      (known : record ∈ store.records) (found : firstRecord? stores record.entity = some first) :
      record.table.plain = first.table.plain := by
    obtain ⟨other, alsoMember, alsoKnown, named⟩ := mem_of_firstRecord? found
    exact agree store member record known other alsoMember first alsoKnown named.symm
  simp only [grants_foldl_merge reads, grants_iff]
  constructor
  · rintro ⟨_, first, found, rfl, store, member, record, known, rfl, needed⟩
    exact ⟨store, member, record, known, needed, sameTable member known found⟩
  · rintro ⟨store, member, record, known, needed, rfl⟩
    obtain ⟨first, found⟩ := firstRecord?_of_mem member known
    exact ⟨record.entity, first, found, (sameTable member known found).symm, store, member, record,
      known, rfl, needed⟩

/-- Two services that share the table `roles`. -/
def sharingStores : List UsageStore :=
  [.ofUses [⟨"Role", .str "roles", .none⟩], .ofUses [⟨"Role", .str "roles", .deleting⟩]]

theorem merged_grants_exact_sharing :
    AllRead sharingStores ∧ AgreeOnTables sharingStores ∧
      ((sharingStores.foldl merge empty).Grants (.ofUser "app") (.write .delete) "roles" ↔
        ∃ store ∈ sharingStores, store.Grants (.ofUser "app") (.write .delete) "roles") := by
  have reads : AllRead sharingStores := by
    simp [AllRead, sharingStores, ofUses, add, addUse, empty, UsageRecord.ofUse]
  have agree : AgreeOnTables sharingStores := by
    simp [AgreeOnTables, sharingStores, ofUses, add, addUse, empty, UsageRecord.ofUse]
  exact ⟨reads, agree,
    (merged_grants_exact sharingStores (.ofUser "app") reads).2 agree (.write .delete) "roles"⟩

/-- Two services that each have a table of their own for the model `User`. -/
def clashingStores : List UsageStore :=
  [.ofUses [⟨"User", .str "users", .none⟩], .ofUses [⟨"User", .str "app_users", .inserting⟩]]

theorem allRead_clashing : AllRead clashingStores := by
  simp [AllRead, clashingStores, ofUses, add, addUse, empty, UsageRecord.ofUse]

/-- The second service loses the table that it reads, and the table of the first one gets rows that
no service wants. -/
theorem clashing_loses_and_adds :
    ((∃ store ∈ clashingStores, store.Grants (.ofUser "app") .read "app_users") ∧
      ¬(clashingStores.foldl merge empty).Grants (.ofUser "app") .read "app_users") ∧
    (clashingStores.foldl merge empty).Grants (.ofUser "app") (.write .insert) "users" ∧
      ¬∃ store ∈ clashingStores, store.Grants (.ofUser "app") (.write .insert) "users" := by
  decide +kernel

theorem merged_grants_not_union :
    ¬∀ (stores : List UsageStore) (options : GrantOptions), AllRead stores →
      ∀ privilege table, (stores.foldl merge empty).Grants options privilege table ↔
        ∃ store ∈ stores, store.Grants options privilege table := by
  intro union
  have same := union clashingStores (.ofUser "app") allRead_clashing
  obtain ⟨⟨alone, lost⟩, -⟩ := clashing_loses_and_adds
  exact lost ((same .read "app_users").mpr alone)

end UsageStore

end LeastGrant
