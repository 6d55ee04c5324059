import LeastGrant.Proofs.CallOutcome
import LeastGrant.Proofs.RunStates
import Mathlib.Data.List.Perm.Lattice

/-! Visits of several groups of files. A visit adds use after use to one store; merging takes two
finished stores and adds the records of the second. Both come to the same: what a later group adds
use by use, the merge adds at once. So the order of the files decides on the order of the records and
on nothing else. -/
namespace LeastGrant

namespace UsageStore

theorem filterMap_names (store : UsageStore) : store.names.filterMap store.get? = store.records := by
  have each : ∀ record ∈ store.records, (store.get? ∘ UsageRecord.entity) record = some record :=
    fun record member => mem_records.mp member
  rw [names, List.filterMap_map, List.filterMap_congr each, List.filterMap_some]

/-- A store is given by the order of its models and by what it says on each of them. -/
theorem eq_of_names_of_get? {store other : UsageStore} (order : store.names = other.names)
    (same : ∀ name, store.get? name = other.get? name) : store = other := by
  apply eq_of_records
  have lookup : store.get? = other.get? := funext same
  rw [← filterMap_names store, ← filterMap_names other, order, lookup]

theorem names_foldl_add (uses : List Use) (store : UsageStore) :
    (uses.foldl add store).names = (uses.map Use.entity).foldl (fun names name =>
      if name ∈ names then names else names ++ [name]) store.names := by
  induction uses generalizing store with
  | nil => rfl
  | cons use rest ih => rw [List.foldl_cons, ih, names_add, List.map_cons, List.foldl_cons]

theorem writesTo_records (store : UsageStore) (name : String) :
    writesTo (store.records.map UsageRecord.use) name =
      ((store.get? name).map UsageRecord.writes).getD .none := by
  apply Writes.ext_does
  intro operation
  rw [Bool.eq_iff_iff, does_writesTo]
  cases found : store.get? name with
  | none =>
    simp only [Option.map_none, Option.getD_none, Writes.does_none, Bool.false_eq_true, iff_false]
    rintro ⟨use, member, named, -⟩
    obtain ⟨record, known, rfl⟩ := List.mem_map.mp member
    exact get?_eq_none.mp found (named ▸ List.mem_map_of_mem known)
  | some record =>
    constructor
    · rintro ⟨use, member, named, does⟩
      obtain ⟨other, known, rfl⟩ := List.mem_map.mp member
      have same := mem_records.mp known
      rw [show other.entity = name from named, found] at same
      cases same
      exact does
    · intro does
      exact ⟨record.use, List.mem_map_of_mem (mem_of_get? found), entity_of_get? found, does⟩

/-- A merged store marks what it has with the writes of the other store, and takes from it what it
lacks. -/
theorem get?_merge (store other : UsageStore) (name : String) :
    (store.merge other).get? name =
      (store.get? name).elim
        ((other.get? name).map fun record => ⟨name, record.table, true, record.writes⟩)
        fun record => some (record.mark (((other.get? name).map UsageRecord.writes).getD .none)) := by
  rw [merge, get?_foldl_add, writesTo_records]
  cases store.get? name with
  | some record => rfl
  | none =>
    have lookup : other.records.find? ((fun use : Use => use.entity == name) ∘ UsageRecord.use) =
        other.get? name := rfl
    rw [List.find?_map, lookup]
    cases other.get? name <;> rfl

theorem names_merge (store other : UsageStore) :
    (store.merge other).names = other.names.foldl (fun names name =>
      if name ∈ names then names else names ++ [name]) store.names := by
  rw [merge, names_foldl_add, List.map_map]
  rfl

theorem mem_names_merge (store other : UsageStore) (name : String) :
    name ∈ (store.merge other).names ↔ name ∈ store.names ∨ name ∈ other.names := by
  rw [merge, mem_names_foldl_add, List.map_map]
  rfl

/-- One more use of the second store is one more use after the merge. -/
theorem merge_add (store other : UsageStore) (use : Use) :
    store.merge (other.add use) = (store.merge other).add use := by
  by_cases known : use.entity ∈ other.names
  · apply eq_of_names_of_get?
    · have kept : (other.add use).names = other.names := by rw [names_add, if_pos known]
      have merged := (mem_names_merge store other use.entity).mpr (.inr known)
      rw [names_merge, kept, ← names_merge, names_add, if_pos merged]
    · intro name
      rw [get?_merge, get?_add, get?_add, get?_merge]
      by_cases same : use.entity = name
      · subst same
        cases found : other.get? use.entity with
        | none => exact absurd known (get?_eq_none.mp found)
        | some record =>
          cases store.get? use.entity with
          | none => simp [UsageRecord.mark]
          | some old => simp [UsageRecord.mark, Writes.or_assoc]
      · simp only [if_neg same]
  · -- The record of an unknown model comes last, and so does the use that it stands for.
    have last : (other.add use).records = other.records ++ [.ofUse use] := by
      have absent : (other.records.any fun record => record.entity == use.entity) = false := by
        simpa [names] using known
      simp [add, addUse, absent]
    rw [merge, last, List.map_append, List.foldl_append]
    rfl

theorem foldl_add_eq_merge (uses : List Use) (store : UsageStore) :
    uses.foldl add store = store.merge (ofUses uses) := by
  induction uses using List.reverseRecOn with
  | nil => rfl
  | append_singleton rest use ih =>
    have run : ofUses (rest ++ [use]) = (ofUses rest).add use := by simp [ofUses]
    rw [List.foldl_append, ih, run, merge_add]
    rfl

/-- Where all uses have the tables of a registry, so have the records. -/
theorem get?_ofUses {registry : Registry} {uses : List Use}
    (known : ∀ use ∈ uses, ∃ entity, registry.find? use.entity = some entity ∧
      use.table = entity.table) (name : String) :
    (ofUses uses).get? name =
      if name ∈ uses.map Use.entity then
        (registry.find? name).map fun entity => ⟨name, entity.table, true, writesTo uses name⟩
      else none := by
  have fresh : empty.get? name = none := rfl
  rw [ofUses, get?_foldl_add, fresh]
  cases first : uses.find? fun use => use.entity == name with
  | none =>
    have absent : name ∉ uses.map Use.entity := by simpa using first
    simp [absent]
  | some use =>
    have member := List.mem_of_find?_eq_some first
    have named : use.entity = name := by simpa using List.find?_some first
    obtain ⟨entity, found, table⟩ := known use member
    subst named
    rw [if_pos (List.mem_map_of_mem member), found, Option.map_some, Option.map_some, table]

theorem perm_of_get? {store other : UsageStore}
    (same : ∀ name, store.get? name = other.get? name) : store.records.Perm other.records := by
  rw [List.perm_ext_iff_of_nodup store.distinct.of_map other.distinct.of_map]
  intro record
  rw [mem_records, mem_records, same]

end UsageStore

theorem get?_completeJoins_congr (registry : Registry) {store other : UsageStore}
    (same : ∀ name, store.get? name = other.get? name) (name : String) :
    (completeJoins registry store).1.get? name = (completeJoins registry other).1.get? name := by
  have uses := (joinUses_of_perm registry (UsageStore.perm_of_get? same)).1
  rw [completeJoins_eq, completeJoins_eq, uses]
  simp only [UsageStore.get?_foldl_add, same]

section Visits

variable (index : CodeIndex) (registry : Registry) (only : Option String)

theorem visited_append (a b : List SourceFile) : visited (a ++ b) = visited a ++ visited b := by
  simp [visited]

theorem visited_perm {files other : List SourceFile} (same : files.Perm other) :
    (visited files).Perm (visited other) :=
  (same.filter _).flatMap_right _

/-- What a visit of some files adds to the store, use by use. -/
def visitUses (files : List SourceFile) : List Use :=
  (visited files).flatMap fun visit => (findingAt index registry only visit.1 visit.2).uses

theorem traverse_store_eq (files : List SourceFile) :
    (traverse index registry only files).store = .ofUses (visitUses index registry only files) :=
  traverse_store index registry only files

theorem get?_traverse (files : List SourceFile) (name : String) :
    (traverse index registry only files).store.get? name =
      if name ∈ (visitUses index registry only files).map Use.entity then
        (registry.find? name).map fun entity =>
          ⟨name, entity.table, true, writesTo (visitUses index registry only files) name⟩
      else none := by
  rw [traverse_store_eq]
  apply UsageStore.get?_ofUses
  intro use member
  obtain ⟨visit, -, found⟩ := List.mem_flatMap.mp member
  exact table_of_mem_findingAt found

/-- The store of two groups of files is that of the first merged with that of the second, and the
diagnostics of the first come before those of the second. In whatever order files are visited, the
stores agree on every model, also after the pass over join models. -/
theorem traverse_homomorphism :
    (∀ a b : List SourceFile,
      (traverse index registry only (a ++ b)).store =
          (traverse index registry only a).store.merge (traverse index registry only b).store ∧
        (traverse index registry only (a ++ b)).diagnostics =
          (traverse index registry only a).diagnostics ++
            (traverse index registry only b).diagnostics) ∧
    ∀ files other : List SourceFile, files.Perm other → ∀ name,
      (traverse index registry only files).store.get? name =
          (traverse index registry only other).store.get? name ∧
        (completeJoins registry (traverse index registry only files).store).1.get? name =
          (completeJoins registry (traverse index registry only other).store).1.get? name := by
  refine ⟨fun a b => ⟨?_, ?_⟩, fun files other same name => ?_⟩
  · rw [traverse_store, traverse_store, traverse_store, visited_append, List.flatMap_append,
      UsageStore.ofUses, List.foldl_append, UsageStore.foldl_add_eq_merge]
    rfl
  · simp only [Analysis.diagnostics, traverse_eq, findings_append, List.flatMap_append,
      Note.diagnostics_append]
  · have uses : (visitUses index registry only files).Perm (visitUses index registry only other) :=
      (visited_perm same).flatMap_right _
    have mapping (name : String) : (traverse index registry only files).store.get? name =
        (traverse index registry only other).store.get? name := by
      rw [get?_traverse, get?_traverse, writesTo_congr fun _ => uses.mem_iff]
      simp only [(uses.map Use.entity).mem_iff]
    exact ⟨mapping name, get?_completeJoins_congr registry mapping name⟩

end Visits

/-- The statement `import { Deep } from './deep';`. -/
def importDeep : Node :=
  .mk ⟨.importStatement, true, none, 0, 30, 1, 1, "import \x7b Deep \x7d from './deep';"⟩
    [.mk ⟨.importClause, true, none, 7, 15, 1, 8, "\x7b Deep \x7d"⟩
      [.mk ⟨.namedImports, true, none, 7, 15, 1, 8, "\x7b Deep \x7d"⟩
        [.mk ⟨.importSpecifier, true, none, 9, 13, 1, 10, "Deep"⟩
          [.mk ⟨.identifier, true, some .name, 9, 13, 1, 10, "Deep"⟩ []]]],
      .mk ⟨.stringLiteral, true, some .source, 21, 29, 1, 22, "'./deep'"⟩ []]

def importingFile : SourceFile := .ofTree ⟨0, ["deep.ts"]⟩ none importDeep

def addingFile : SourceFile := .ofTree ⟨0, ["friends.ts"]⟩ none addFriend

/-- A visit of the two files, with the import first. -/
def deepFirst : Analysis :=
  traverse (.ofFiles []) nestedRegistry none [importingFile, addingFile]

/-- The same visit with the call first. -/
def friendsFirst : Analysis :=
  traverse (.ofFiles []) nestedRegistry none [addingFile, importingFile]

theorem traverse_homomorphism_friends :
    [importingFile, addingFile].Perm [addingFile, importingFile] ∧
      deepFirst.store.names = ["Deep", "A", "Friend"] ∧
      friendsFirst.store.names = ["A", "Friend", "Deep"] ∧
      ∀ name, deepFirst.store.get? name = friendsFirst.store.get? name ∧
        (completeJoins nestedRegistry deepFirst.store).1.get? name =
          (completeJoins nestedRegistry friendsFirst.store).1.get? name := by
  have swapped : [importingFile, addingFile].Perm [addingFile, importingFile] := .swap _ _ []
  refine ⟨swapped, ?_, ?_, (traverse_homomorphism _ nestedRegistry none).2 _ _ swapped⟩
  · rw [deepFirst, traverse_store]
    rfl
  · rw [friendsFirst, traverse_store]
    rfl

end LeastGrant
