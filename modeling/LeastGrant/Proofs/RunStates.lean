import LeastGrant.Proofs.Exactness
import LeastGrant.Proofs.JoinCompletion
import Mathlib.Data.List.Chain

/-! The stores that a run goes through: the empty one, one after each visited node, and one after
each association that the pass over join models looks at. All records are those of registered models,
and a later store only adds to an earlier one. -/
namespace LeastGrant

/-- An earlier record of a model against a later one, to which nothing but writes may have been
added. -/
structure UsageRecord.GrowsTo (earlier later : UsageRecord) : Prop where
  entity : later.entity = earlier.entity
  table : later.table = earlier.table
  select : later.select = earlier.select
  writes : ∀ operation, earlier.writes.does operation = true → later.writes.does operation = true

namespace UsageRecord.GrowsTo

theorem refl (record : UsageRecord) : record.GrowsTo record :=
  ⟨rfl, rfl, rfl, fun _ => id⟩

theorem trans {a b c : UsageRecord} (early : a.GrowsTo b) (late : b.GrowsTo c) : a.GrowsTo c where
  entity := late.entity.trans early.entity
  table := late.table.trans early.table
  select := late.select.trans early.select
  writes operation does := late.writes operation (early.writes operation does)

theorem mark (record : UsageRecord) (writes : Writes) : record.GrowsTo (record.mark writes) where
  entity := rfl
  table := rfl
  select := rfl
  writes operation does := by simp [UsageRecord.mark, does]

theorem markIf (record : UsageRecord) (name : String) (writes : Writes) :
    record.GrowsTo (if record.entity = name then record.mark writes else record) := by
  split
  · exact mark record writes
  · exact refl record

end UsageRecord.GrowsTo

namespace UsageStore

/-- A later store has each record of an earlier one at its old position. -/
def GrowsTo (earlier later : UsageStore) : Prop :=
  ∀ (position : Nat) (record : UsageRecord), earlier.records[position]? = some record →
    ∃ new, later.records[position]? = some new ∧ record.GrowsTo new

theorem GrowsTo.refl (store : UsageStore) : store.GrowsTo store :=
  fun _ record found => ⟨record, found, .refl record⟩

theorem GrowsTo.trans {a b c : UsageStore} (early : a.GrowsTo b) (late : b.GrowsTo c) :
    a.GrowsTo c := by
  intro position record found
  obtain ⟨between, foundBetween, grows⟩ := early position record found
  obtain ⟨last, foundLast, growsOn⟩ := late position between foundBetween
  exact ⟨last, foundLast, grows.trans growsOn⟩

instance : Trans GrowsTo GrowsTo GrowsTo where
  trans := GrowsTo.trans

theorem growsTo_add (store : UsageStore) (use : Use) : store.GrowsTo (store.add use) := by
  intro position record found
  by_cases known : (store.records.any fun record => record.entity == use.entity) = true
  · have marked : (store.add use).records = markAll use.entity use.writes store.records := by
      simp [add, addUse, known]
    rw [marked, markAll, List.getElem?_map, found]
    exact ⟨_, rfl, .markIf record use.entity use.writes⟩
  · have grown : (store.add use).records = store.records ++ [.ofUse use] := by
      simp [add, addUse, known]
    have inside := (List.getElem?_eq_some_iff.mp found).1
    rw [grown, List.getElem?_append_left inside]
    exact ⟨record, found, .refl record⟩

theorem growsTo_foldl_add (uses : List Use) (store : UsageStore) :
    store.GrowsTo (uses.foldl add store) := by
  induction uses generalizing store with
  | nil => exact .refl store
  | cons use rest ih => exact (growsTo_add store use).trans (ih (store.add use))

/-- Each record is found under its own name, and no other name leads to it. It belongs to a model of
the registry, with the table of that model, and reads it. -/
structure Registered (registry : Registry) (store : UsageStore) : Prop where
  keyed : ∀ name record, store.get? name = some record → record.entity = name
  listed : ∀ record ∈ store.records, store.get? record.entity = some record
  known : ∀ record ∈ store.records, ∃ entity, registry.find? record.entity = some entity ∧
    record.table = entity.table
  reads : ∀ record ∈ store.records, record.select = true
  once : store.names.Nodup

/-- The parts of the invariant that the store itself does not see to. -/
theorem Registered.of_records {registry : Registry} {store : UsageStore}
    (known : ∀ record ∈ store.records, ∃ entity, registry.find? record.entity = some entity ∧
      record.table = entity.table)
    (reads : ∀ record ∈ store.records, record.select = true) : store.Registered registry where
  keyed _ _ := entity_of_get?
  listed _ := mem_records.mp
  known := known
  reads := reads
  once := store.distinct

theorem registered_empty (registry : Registry) : empty.Registered registry :=
  .of_records (by simp [empty]) (by simp [empty])

/-- After a use, a record is an old one with more writes, or the record of the use. -/
theorem mem_records_add {store : UsageStore} {use : Use} {record : UsageRecord}
    (member : record ∈ (store.add use).records) :
    (∃ old ∈ store.records, old.GrowsTo record) ∨ record = .ofUse use := by
  rw [add] at member
  simp only [addUse] at member
  split at member
  · obtain ⟨old, known, rfl⟩ := List.mem_map.mp member
    exact .inl ⟨old, known, .markIf old use.entity use.writes⟩
  · rcases List.mem_append.mp member with known | new
    · exact .inl ⟨record, known, .refl record⟩
    · exact .inr (List.mem_singleton.mp new)

theorem Registered.add {registry : Registry} {store : UsageStore} {use : Use}
    (before : store.Registered registry)
    (known : ∃ entity, registry.find? use.entity = some entity ∧ use.table = entity.table) :
    (store.add use).Registered registry := by
  refine .of_records (fun record member => ?_) (fun record member => ?_)
  · rcases mem_records_add member with ⟨old, there, grows⟩ | rfl
    · rw [grows.entity, grows.table]
      exact before.known old there
    · exact known
  · rcases mem_records_add member with ⟨old, there, grows⟩ | rfl
    · rw [grows.select]
      exact before.reads old there
    · rfl

theorem Registered.foldl_add {registry : Registry} {store : UsageStore} {uses : List Use}
    (before : store.Registered registry)
    (known : ∀ use ∈ uses, ∃ entity, registry.find? use.entity = some entity ∧
      use.table = entity.table) :
    (uses.foldl UsageStore.add store).Registered registry := by
  induction uses generalizing store with
  | nil => exact before
  | cons use rest ih =>
    exact ih (before.add (known use List.mem_cons_self))
      fun other member => known other (List.mem_cons_of_mem _ member)

end UsageStore

section Steps

variable {registry : Registry}

/-- A node contributes to models of the registry, with their tables. -/
theorem table_of_mem_findingAt {index : CodeIndex} {only : Option String} {file : SourceFile}
    {place : Place} {use : Use} (h : use ∈ (findingAt index registry only file place).uses) :
    ∃ entity, registry.find? use.entity = some entity ∧ use.table = entity.table := by
  obtain ⟨_, entity, writes, rfl, contributes⟩ :=
    ((findingAt_enumerates index registry only file place).mem_iff use).mp h
  exact ⟨entity, contributes.find?_name, rfl⟩

theorem table_of_mem_findings {index : CodeIndex} {only : Option String} {files : List SourceFile}
    {finding : Finding} (found : finding ∈ findings index registry only files) {use : Use}
    (h : use ∈ finding.uses) :
    ∃ entity, registry.find? use.entity = some entity ∧ use.table = entity.table := by
  rw [findings_eq] at found
  obtain ⟨visit, -, rfl⟩ := List.mem_map.mp found
  exact table_of_mem_findingAt h

/-- A step of the pass leaves the store as it is, or adds one use of a join model. -/
theorem joinStep_cases (registry : Registry) (discovered : List String) (source : String)
    (state : UsageStore × List Note) (association : Association) :
    (joinStep registry discovered source state association).1 = state.1 ∨
      ∃ join writes, association.JoinsThrough registry join ∧
        (joinStep registry discovered source state association).1 =
          state.1.add (.of join writes) := by
  have step : (joinStep registry discovered source state association).1 =
      Finding.addTo state.1
        (Id.run (joinFindingM registry discovered state.1 source association)) := rfl
  rw [step, joinFindingM, Id.run_bind]
  split
  · exact .inl rfl
  · rename_i target _
    split
    · exact .inl rfl
    · exact .inl rfl
    · rename_i join joined
      split
      · exact .inl rfl
      · exact .inr ⟨join, target.writes, joinEntity_eq_some.mp joined, rfl⟩

theorem growsTo_joinStep (registry : Registry) (discovered : List String) (source : String)
    (state : UsageStore × List Note) (association : Association) :
    state.1.GrowsTo (joinStep registry discovered source state association).1 := by
  rcases joinStep_cases registry discovered source state association with same | ⟨_, _, -, added⟩
  · rw [same]
    exact .refl state.1
  · rw [added]
    exact state.1.growsTo_add _

theorem registered_joinStep {discovered : List String} {source : String}
    {state : UsageStore × List Note} {association : Association}
    (before : state.1.Registered registry) :
    (joinStep registry discovered source state association).1.Registered registry := by
  rcases joinStep_cases registry discovered source state association with
    same | ⟨join, writes, ⟨-, name, -, found⟩, added⟩
  · rw [same]
    exact before
  · rw [added]
    exact before.add ⟨join, Registry.find?_name_of_get? found, rfl⟩

end Steps

section Trace

variable {σ α : Type}

/-- What holds at the start and is kept by each step holds all along. -/
theorem forall_mem_scanl {P : σ → Prop} {step : σ → α → σ} {items : List α} {start : σ}
    (first : P start) (keeps : ∀ item ∈ items, ∀ state, P state → P (step state item)) :
    ∀ state ∈ items.scanl step start, P state := by
  induction items generalizing start with
  | nil => simpa using first
  | cons item rest ih =>
    rw [List.scanl_cons, List.forall_mem_cons]
    exact ⟨first, ih (keeps item List.mem_cons_self start first)
      fun other member => keeps other (List.mem_cons_of_mem _ member)⟩

/-- What relates each state to the next relates the neighbours of a run. -/
theorem isChain_scanl {R : σ → σ → Prop} {step : σ → α → σ}
    (each : ∀ state item, R state (step state item)) (items : List α) (start : σ) :
    (items.scanl step start).IsChain R := by
  induction items generalizing start with
  | nil => simp
  | cons item rest ih =>
    rw [List.scanl_cons, List.isChain_cons]
    refine ⟨fun next isNext => ?_, ih _⟩
    have head : (rest.scanl step (step start item)).head? = some (step start item) := by
      cases rest <;> simp
    rw [head] at isNext
    cases isNext
    exact each start item

end Trace

section Run

/-- The stores of a visit: the empty one, and one after each visited node. -/
def visitStates (index : CodeIndex) (registry : Registry) (only : Option String)
    (files : List SourceFile) : List UsageStore :=
  (findings index registry only files).scanl Finding.addTo .empty

/-- The stores of the pass over join models: the one before it, and one after each association that
the pass looks at. -/
def passStates (registry : Registry) (store : UsageStore) : List UsageStore :=
  ((joinCandidates registry store).scanl
    (fun state candidate => joinStep registry store.names candidate.1 state candidate.2)
    (store, [])).map Prod.fst

/-- The stores of a whole run. -/
def runStates (registry : Registry) (only : Option String) (files : List SourceFile) :
    List UsageStore :=
  visitStates (.ofFiles files) registry only files ++
    passStates registry (traverse (.ofFiles files) registry only files).store

variable (registry : Registry) (only : Option String) (files : List SourceFile)

theorem getLast?_visitStates (index : CodeIndex) :
    (visitStates index registry only files).getLast? =
      some (traverse index registry only files).store := by
  rw [visitStates, List.getLast?_scanl]
  rfl

theorem getLast?_passStates (store : UsageStore) :
    (passStates registry store).getLast? = some (completeJoins registry store).1 := by
  rw [passStates, List.getLast?_map, List.getLast?_scanl, completeJoins_eq_foldl]
  rfl

theorem head?_passStates (store : UsageStore) :
    (passStates registry store).head? = some store := by
  rw [passStates]
  cases joinCandidates registry store <;> simp

theorem getLast?_runStates :
    (runStates registry only files).getLast? = some (analyze registry only files).store := by
  rw [runStates, List.getLast?_append, getLast?_passStates]
  rfl

theorem registered_visitStates (index : CodeIndex) :
    ∀ store ∈ visitStates index registry only files, store.Registered registry :=
  forall_mem_scanl (UsageStore.registered_empty registry)
    fun _ found _ before => before.foldl_add fun _ => table_of_mem_findings found

theorem registered_passStates {registry : Registry} {store : UsageStore}
    (before : store.Registered registry) :
    ∀ later ∈ passStates registry store, later.Registered registry := by
  intro later member
  obtain ⟨state, reached, rfl⟩ := List.mem_map.mp member
  exact forall_mem_scanl (P := fun state => state.1.Registered registry) before
    (fun _ _ _ => registered_joinStep) state reached

theorem registered_runStates :
    ∀ store ∈ runStates registry only files, store.Registered registry := by
  intro store member
  have visits := registered_visitStates registry only files (.ofFiles files)
  rcases List.mem_append.mp member with visit | pass
  · exact visits store visit
  · have last := List.mem_of_getLast? (getLast?_visitStates registry only files (.ofFiles files))
    exact registered_passStates (visits _ last) store pass

/-- Each store of a run grows to the next. The last store of the visit is the first of the
pass. -/
theorem isChain_runStates :
    (runStates registry only files).IsChain UsageStore.GrowsTo := by
  rw [runStates, List.isChain_append]
  refine ⟨?_, ?_, ?_⟩
  · exact isChain_scanl (fun store finding => store.growsTo_foldl_add finding.uses) _ _
  · rw [passStates, List.isChain_map]
    exact isChain_scanl (fun state candidate =>
      growsTo_joinStep registry _ candidate.1 state candidate.2) _ _
  · intro last isLast first isFirst
    rw [getLast?_visitStates] at isLast
    rw [head?_passStates] at isFirst
    cases isLast
    cases isFirst
    exact .refl _

/-- Over a whole run all records belong to registered models, under their names, with their tables
and the read flag, and no model has two. Between an earlier and a later store of the run no record
goes or moves, and no flag is taken back. -/
theorem runStates_sound :
    (runStates registry only files).head? = some .empty ∧
    (runStates registry only files).getLast? = some (analyze registry only files).store ∧
    (∀ store ∈ runStates registry only files, store.Registered registry) ∧
    (runStates registry only files).Pairwise UsageStore.GrowsTo := by
  refine ⟨?_, getLast?_runStates registry only files, registered_runStates registry only files,
    (isChain_runStates registry only files).pairwise⟩
  rw [runStates, visitStates]
  cases findings (.ofFiles files) registry only files <;> simp

end Run

end LeastGrant
