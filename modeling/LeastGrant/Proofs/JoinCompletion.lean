import LeastGrant.Analysis.Join
import LeastGrant.Proofs.BuiltRegistry
import LeastGrant.Proofs.Contribution
import LeastGrant.Proofs.Store
import Mathlib.Data.List.Sort
import Mathlib.Order.Basic

/-! What the pass over join models adds to a store. The pass writes to the store that it reads, but
all that it reads are the records from before the pass, and all that it writes are others. So what
it finds at an association depends on the first store alone. -/
namespace LeastGrant

/-- What the pass finds at an association of `source`, if it looks at the records of `store`. -/
def joinFinding (registry : Registry) (store : UsageStore) (source : String)
    (association : Association) : Finding :=
  Id.run (joinFindingM registry store.names store source association)

/-- The associations that the pass looks at, with the models that declare them. -/
def joinCandidates (registry : Registry) (store : UsageStore) : List (String × Association) :=
  (sortedNames store).flatMap fun source =>
    (registry.manyToMany source).map fun association => (source, association)

def joinUses (registry : Registry) (store : UsageStore) : List Use :=
  (joinCandidates registry store).flatMap fun candidate =>
    (joinFinding registry store candidate.1 candidate.2).uses

def joinNotes (registry : Registry) (store : UsageStore) : List Note :=
  (joinCandidates registry store).flatMap fun candidate =>
    (joinFinding registry store candidate.1 candidate.2).notes

section Pass

variable {registry : Registry} {store : UsageStore}

theorem fresh_of_mem_joinFinding {source : String} {association : Association} {use : Use}
    (h : use ∈ (joinFinding registry store source association).uses) :
    use.entity ∉ store.names := by
  rw [joinFinding, joinFindingM, Id.run_bind] at h
  split at h
  · cases h
  · split at h
    · cases h
    · cases h
    · split at h
      · cases h
      · rename_i unknown
        rw [List.mem_singleton.mp h]
        simpa [Use.of] using unknown

/-- One step of the pass, at a point where the first records are still as they were. -/
theorem joinStep_eq {source : String} {association : Association} {state : UsageStore × List Note}
    (kept : ∀ name ∈ store.names, state.1.get? name = store.get? name) :
    joinStep registry store.names source state association =
      (Finding.addTo state.1 (joinFinding registry store source association),
        state.2 ++ (joinFinding registry store source association).notes) := by
  -- Of the store only the record of a discovered target is read, and that is a first record.
  have target : discoveredTarget? store.names state.1 association =
      discoveredTarget? store.names store association := by
    rw [discoveredTarget?_eq, discoveredTarget?_eq]
    cases association.targetName? with
    | none => rfl
    | some name =>
      simp only [Option.bind_some]
      split
      · rename_i known
        exact kept name (by simpa using known)
      · rfl
  have same : Id.run (joinFindingM registry store.names state.1 source association) =
      joinFinding registry store source association := by
    rw [joinFinding, joinFindingM, joinFindingM, Id.run_bind, Id.run_bind, run_discoveredTargetM?,
      run_discoveredTargetM?, target]
  rw [joinStep, joinStepM, Id.run_bind, same]
  rfl

theorem get?_addTo_joinFinding {source name : String} {association : Association}
    (before : UsageStore) (known : name ∈ store.names) :
    (Finding.addTo before (joinFinding registry store source association)).get? name =
      before.get? name := by
  have others : ∀ use ∈ (joinFinding registry store source association).uses, use.entity ≠ name :=
    fun use member same => fresh_of_mem_joinFinding member (same ▸ known)
  rw [Finding.addTo]
  generalize (joinFinding registry store source association).uses = uses at others
  induction uses generalizing before with
  | nil => rfl
  | cons use rest ih =>
    have other := others use List.mem_cons_self
    rw [List.foldl_cons, ih _ fun later member => others later (List.mem_cons_of_mem _ member),
      UsageStore.get?_add, if_neg other]

/-- The steps of the pass together. The invariant is that the first records are as they were. -/
theorem foldl_joinStep (candidates : List (String × Association)) (state : UsageStore × List Note)
    (kept : ∀ name ∈ store.names, state.1.get? name = store.get? name) :
    candidates.foldl (fun state candidate =>
        joinStep registry store.names candidate.1 state candidate.2) state =
      ((candidates.flatMap fun candidate =>
          (joinFinding registry store candidate.1 candidate.2).uses).foldl UsageStore.add state.1,
        state.2 ++ candidates.flatMap fun candidate =>
          (joinFinding registry store candidate.1 candidate.2).notes) := by
  induction candidates generalizing state with
  | nil => simp
  | cons candidate rest ih =>
    rw [List.foldl_cons, joinStep_eq kept, ih]
    · simp [Finding.addTo, List.foldl_append]
    · intro name known
      rw [get?_addTo_joinFinding _ known, kept name known]

/-- The pass as one loop over the associations. -/
theorem completeJoins_eq_foldl (registry : Registry) (store : UsageStore) :
    completeJoins registry store = (joinCandidates registry store).foldl
      (fun state candidate => joinStep registry store.names candidate.1 state candidate.2)
      (store, []) := by
  rw [completeJoins_eq_loops, joinCandidates, List.foldl_flatMap]
  simp only [List.foldl_map]

theorem completeJoins_eq (registry : Registry) (store : UsageStore) :
    completeJoins registry store =
      ((joinUses registry store).foldl UsageStore.add store, joinNotes registry store) := by
  rw [completeJoins_eq_foldl]
  exact foldl_joinStep _ (store, []) fun _ _ => rfl

/-- The pass keeps all records in place and adds its own at the end. -/
theorem records_completeJoins (registry : Registry) (store : UsageStore) :
    (completeJoins registry store).1.records =
      store.records ++ (UsageStore.ofUses (joinUses registry store)).records := by
  rw [completeJoins_eq]
  apply UsageStore.records_foldl_add_of_fresh
  intro use member
  obtain ⟨candidate, -, found⟩ := List.mem_flatMap.mp member
  exact fresh_of_mem_joinFinding found

theorem completeJoins_unchanged_iff (registry : Registry) (store : UsageStore) :
    (completeJoins registry store).1.records = store.records ↔
      ∀ name, name ∉ (UsageStore.ofUses (joinUses registry store)).names := by
  rw [records_completeJoins, List.append_right_eq_self, ← List.eq_nil_iff_forall_not_mem,
    UsageStore.names, List.map_eq_nil_iff]

end Pass

section Added

/-- The graph of a registry has a many-to-many association between two models that joins through
`join`. -/
def Registry.Links (registry : Registry) (source target : String) (join : Entity) : Prop :=
  ∃ association ∈ registry.manyToMany source,
    association.target = .str target ∧ association.JoinsThrough registry join

variable {registry : Registry} {store : UsageStore}

theorem mem_joinCandidates {source : String} {association : Association} :
    (source, association) ∈ joinCandidates registry store ↔
      store.has source = true ∧ association ∈ registry.manyToMany source := by
  have names : source ∈ sortedNames store ↔ store.has source = true := by
    rw [sortedNames, List.mem_mergeSort, UsageStore.has_iff]
  simp only [joinCandidates, List.mem_flatMap, List.mem_map, Prod.mk.injEq]
  constructor
  · rintro ⟨_, known, _, declared, rfl, rfl⟩
    exact ⟨names.mp known, declared⟩
  · rintro ⟨known, declared⟩
    exact ⟨source, names.mpr known, association, declared, rfl, rfl⟩

theorem discoveredTarget?_eq_some {association : Association} {record : UsageRecord} :
    discoveredTarget? store.names store association = some record ↔
      association.target = .str record.entity ∧ record ∈ store.records := by
  rw [discoveredTarget?_eq, Association.targetName?, UsageStore.mem_records]
  cases association.target with
  | str name =>
    constructor
    · intro found
      simp only [Option.bind_some] at found
      split at found
      · have same := UsageStore.entity_of_get? found
        rw [same]
        exact ⟨rfl, found⟩
      · cases found
    · rintro ⟨⟨⟩, found⟩
      have known : record.entity ∈ store.names := List.mem_map_of_mem (UsageStore.mem_of_get? found)
      simp [known, found]
  | _ => simp

theorem mem_uses_joinFinding {source : String} {association : Association} {use : Use} :
    use ∈ (joinFinding registry store source association).uses ↔
      ∃ target ∈ store.records, ∃ join, association.target = .str target.entity ∧
        association.JoinsThrough registry join ∧ store.has join.name = false ∧
        use = .of join target.writes := by
  have unknown (join : Entity) : join.name ∉ store.names ↔ store.has join.name = false := by
    rw [← UsageStore.has_iff, Bool.not_eq_true]
  constructor
  · intro member
    have fresh := fresh_of_mem_joinFinding member
    rw [joinFinding, joinFindingM, Id.run_bind] at member
    split at member
    · cases member
    · rename_i target found
      split at member
      · cases member
      · cases member
      · rename_i join joined
        split at member
        · cases member
        · obtain rfl := List.mem_singleton.mp member
          obtain ⟨leads, used⟩ := discoveredTarget?_eq_some.mp found
          exact ⟨target, used, join, leads, joinEntity_eq_some.mp joined, (unknown join).mp fresh,
            rfl⟩
  · rintro ⟨target, used, join, leads, joins, absent, rfl⟩
    have found := discoveredTarget?_eq_some.mpr ⟨leads, used⟩
    have joined : joinEntity registry source association = .ok (some join) :=
      joinEntity_eq_some.mpr joins
    have fresh := (unknown join).mpr absent
    simp [joinFinding, joinFindingM, found, joined, fresh]

/-- The uses that the pass adds: where two models in use are linked through a model without a
record, this model is written as the target. -/
theorem mem_joinUses {use : Use} :
    use ∈ joinUses registry store ↔ ∃ source ∈ store.records, ∃ target ∈ store.records, ∃ join,
      registry.Links source.entity target.entity join ∧ store.has join.name = false ∧
        use = .of join target.writes := by
  simp only [joinUses, List.mem_flatMap, Prod.exists, mem_joinCandidates, mem_uses_joinFinding]
  constructor
  · rintro ⟨name, association, ⟨known, declared⟩, target, used, join, leads, joins, absent, rfl⟩
    obtain ⟨source, member, rfl⟩ := UsageStore.has_iff_record.mp known
    exact ⟨source, member, target, used, join, ⟨association, declared, leads, joins⟩, absent, rfl⟩
  · rintro ⟨source, member, target, used, join, ⟨association, declared, leads, joins⟩, absent, rfl⟩
    have known := UsageStore.has_iff_record.mpr ⟨source, member, rfl⟩
    exact ⟨source.entity, association, ⟨known, declared⟩, target, used, join, leads, joins, absent,
      rfl⟩

theorem mem_names_joinUses {name : String} :
    name ∈ (UsageStore.ofUses (joinUses registry store)).names ↔ store.has name = false ∧
      ∃ source ∈ store.records, ∃ target ∈ store.records, ∃ join,
        registry.Links source.entity target.entity join ∧ join.name = name := by
  rw [← UsageStore.has_iff, UsageStore.has_ofUses]
  simp only [mem_joinUses]
  constructor
  · rintro ⟨_, ⟨source, own, target, used, join, links, absent, rfl⟩, rfl⟩
    exact ⟨absent, source, own, target, used, join, links, rfl⟩
  · rintro ⟨absent, source, own, target, used, join, links, rfl⟩
    exact ⟨_, ⟨source, own, target, used, join, links, absent, rfl⟩, rfl⟩

/-- A model without a record is written as the targets that are linked through it. -/
theorem does_writesTo_joinUses {name : String} (absent : store.has name = false)
    (operation : Operation) :
    (writesTo (joinUses registry store) name).does operation = true ↔
      ∃ source ∈ store.records, ∃ target ∈ store.records, ∃ join,
        registry.Links source.entity target.entity join ∧ join.name = name ∧
          target.writes.does operation = true := by
  simp only [does_writesTo, mem_joinUses]
  constructor
  · rintro ⟨_, ⟨source, own, target, used, join, links, -, rfl⟩, named, does⟩
    exact ⟨source, own, target, used, join, links, named, does⟩
  · rintro ⟨source, own, target, used, join, links, rfl, does⟩
    exact ⟨_, ⟨source, own, target, used, join, links, absent, rfl⟩, rfl, does⟩

/-- The table in a new record is that of its model in the registry. -/
theorem table_of_mem_joinUses {use : Use} (h : use ∈ joinUses registry store) :
    ∃ join, registry.find? use.entity = some join ∧ use.table = join.table := by
  obtain ⟨_, _, target, _, join, ⟨_, _, _, _, _, _, found⟩, _, same⟩ := mem_joinUses.mp h
  subst same
  exact ⟨join, Registry.find?_name_of_get? found, rfl⟩

end Added

section Order

variable {store other : UsageStore}

theorem sortedNames_of_perm (same : other.records.Perm store.records) :
    sortedNames other = sortedNames store := by
  have sorted (names : List String) :
      (names.mergeSort fun a b => decide (a ≤ b)).Pairwise (· ≤ ·) :=
    List.pairwise_mergeSort' (· ≤ ·) names
  have perm : (sortedNames other).Perm (sortedNames store) :=
    (List.mergeSort_perm _ _).trans ((same.map UsageRecord.entity).trans
      (List.mergeSort_perm _ _).symm)
  exact perm.eq_of_pairwise (fun a b _ _ => String.le_antisymm) (sorted _) (sorted _)

/-- What the pass finds does not depend on the order of the records. -/
theorem joinFinding_of_perm (registry : Registry) (same : other.records.Perm store.records) :
    joinFinding registry other = joinFinding registry store := by
  funext source association
  have contains (name : String) : other.names.contains name = store.names.contains name := by
    rw [Bool.eq_iff_iff, List.contains_iff_mem, List.contains_iff_mem]
    exact (same.map UsageRecord.entity).mem_iff
  simp only [joinFinding, joinFindingM, Id.run_bind, run_discoveredTargetM?, discoveredTarget?_eq,
    contains, UsageStore.get?_of_perm same]

theorem joinUses_of_perm (registry : Registry) (same : other.records.Perm store.records) :
    joinUses registry other = joinUses registry store ∧
      joinNotes registry other = joinNotes registry store := by
  simp only [joinUses, joinNotes, joinCandidates, sortedNames_of_perm same,
    joinFinding_of_perm registry same, and_self]

end Order

section Exact

/-- A model of a registry declares an association to `target` that joins through `join`. -/
def Registry.DeclaresLink (registry : Registry) (source target : String) (join : Entity) : Prop :=
  ∃ entity, registry.find? source = some entity ∧ ∃ association ∈ entity.associations,
    association.target = .str target ∧ association.JoinsThrough registry join

theorem Registry.Built.links_iff {registry : Registry} (built : registry.Built)
    {source target : String} {join : Entity} :
    registry.Links source target join ↔ registry.DeclaresLink source target join := by
  rw [Registry.Links, Registry.DeclaresLink]
  simp only [built.mem_manyToMany]
  constructor
  · rintro ⟨association, ⟨entity, found, declared, _⟩, leads, joins⟩
    exact ⟨entity, found, association, declared, leads, joins⟩
  · rintro ⟨entity, found, association, declared, leads, joins⟩
    exact ⟨association, ⟨entity, found, declared, joins.1⟩, leads, joins⟩

/-- The pass over join models keeps all records as they are and where they are. It adds a record for
just those models without one through which an association between two models in use joins, with the
table of the registry and the writes to all targets of such associations. What it adds and what it
reports do not depend on the order of the records. -/
theorem completeJoins_exact {registry : Registry} (built : registry.Built) (store : UsageStore) :
    ∃ added : List UsageRecord,
      (completeJoins registry store).1.records = store.records ++ added ∧
      (∀ name, name ∈ added.map UsageRecord.entity ↔ store.has name = false ∧
        ∃ source ∈ store.records, ∃ target ∈ store.records, ∃ join,
          registry.DeclaresLink source.entity target.entity join ∧ join.name = name) ∧
      (∀ record ∈ added,
        (∃ join, registry.find? record.entity = some join ∧ record.table = join.table) ∧
        record.select = true ∧
        ∀ operation, record.writes.does operation = true ↔
          ∃ source ∈ store.records, ∃ target ∈ store.records, ∃ join,
            registry.DeclaresLink source.entity target.entity join ∧ join.name = record.entity ∧
              target.writes.does operation = true) ∧
      ∀ other : UsageStore, other.records.Perm store.records →
        (completeJoins registry other).1.records = other.records ++ added ∧
          Note.diagnostics (completeJoins registry other).2 =
            Note.diagnostics (completeJoins registry store).2 := by
  simp only [← built.links_iff]
  refine ⟨(UsageStore.ofUses (joinUses registry store)).records,
    records_completeJoins registry store, fun name => mem_names_joinUses,
    fun record member => ?_, fun other same => ?_⟩
  · have absent := (mem_names_joinUses.mp (List.mem_map_of_mem member)).1
    obtain ⟨select, writes, use, known, named, table⟩ := UsageStore.record_of_mem_ofUses member
    rw [writes, ← table]
    exact ⟨named ▸ table_of_mem_joinUses known, select, does_writesTo_joinUses absent⟩
  · obtain ⟨uses, notes⟩ := joinUses_of_perm registry same
    constructor
    · rw [records_completeJoins, uses]
    · rw [completeJoins_eq, completeJoins_eq, notes]

/-- `A` is linked to itself through `Friend`, and `Friend` to `A` through `Deep`. -/
def nestedJoins : Json :=
  .obj [("models", .obj [
    ("A", .obj [("associations", .obj [("friends", .obj [("type", .str "BelongsToMany"),
      ("target", .str "A"), ("through", .str "Friend")])])]),
    ("Friend", .obj [("associations", .obj [("x", .obj [("type", .str "BelongsToMany"),
      ("target", .str "A"), ("through", .str "Deep")])])]),
    ("Deep", .obj [])])]

def nestedRegistry : Registry :=
  .ofEntities [
    ⟨"A", .str "A", [⟨"friends", .belongsToMany, .str "A", .str "Friend"⟩], .null, .str "."⟩,
    ⟨"Friend", .str "Friend", [⟨"x", .belongsToMany, .str "A", .str "Deep"⟩], .null, .str "."⟩,
    .bare "Deep"]

theorem ofJson_nestedJoins : Registry.ofJson nestedJoins = .ok nestedRegistry := rfl

theorem nestedRegistry_built : nestedRegistry.Built := by
  refine .ofDocument ?_ ofJson_nestedJoins
  simp [nestedJoins, Json.WellFormed, Json.WellFormedFields]

/-- A store in which `A` alone is used, and gets new rows. -/
def onlyA : UsageStore := .ofUses [⟨"A", .str "a", .inserting⟩]

theorem names_completeJoins_onlyA :
    (completeJoins nestedRegistry onlyA).1.names = ["A", "Friend"] := by
  decide +kernel

theorem declaresLink_nested :
    nestedRegistry.DeclaresLink "A" "A"
      ⟨"Friend", .str "Friend", [⟨"x", .belongsToMany, .str "A", .str "Deep"⟩], .null, .str "."⟩ :=
  ⟨⟨"A", .str "A", [⟨"friends", .belongsToMany, .str "A", .str "Friend"⟩], .null, .str "."⟩, rfl,
    ⟨"friends", .belongsToMany, .str "A", .str "Friend"⟩, List.mem_cons_self, rfl, rfl,
    "Friend", rfl, rfl⟩

theorem completeJoins_exact_nested : nestedRegistry.Built ∧ ∃ added : List UsageRecord,
    (completeJoins nestedRegistry onlyA).1.records = onlyA.records ++ added ∧
      added.map UsageRecord.entity = ["Friend"] ∧
      ∀ record ∈ added, record.select = true ∧ record.writes.does .insert = true := by
  obtain ⟨added, records, -, contents, -⟩ := completeJoins_exact nestedRegistry_built onlyA
  have names : onlyA.names ++ added.map UsageRecord.entity = ["A", "Friend"] := by
    rw [← names_completeJoins_onlyA, UsageStore.names, UsageStore.names, records, List.map_append]
  have added_names : added.map UsageRecord.entity = ["Friend"] := List.append_cancel_left names
  refine ⟨nestedRegistry_built, added, records, added_names, ?_⟩
  intro record member
  obtain ⟨-, select, does⟩ := contents record member
  have named : "Friend" = record.entity := by
    have known : record.entity ∈ added.map UsageRecord.entity := List.mem_map_of_mem member
    rw [added_names, List.mem_singleton] at known
    exact known.symm
  have own : ⟨"A", .str "a", true, .inserting⟩ ∈ onlyA.records := List.mem_cons_self
  exact ⟨select, (does .insert).mpr ⟨_, own, _, own, _, declaresLink_nested, named, rfl⟩⟩

end Exact

section Again

variable {registry : Registry} {store : UsageStore}

theorem has_completeJoins_of_links {source target : String} {join : Entity}
    (links : registry.Links source target join) (own : store.has source = true)
    (used : store.has target = true) : (completeJoins registry store).1.has join.name = true := by
  rw [UsageStore.has_iff, UsageStore.names, records_completeJoins, List.map_append, List.mem_append]
  by_cases known : store.has join.name = true
  · exact .inl (UsageStore.has_iff.mp known)
  · obtain ⟨sourceRecord, sourceMember, rfl⟩ := UsageStore.has_iff_record.mp own
    obtain ⟨targetRecord, targetMember, rfl⟩ := UsageStore.has_iff_record.mp used
    exact .inr (mem_names_joinUses.mpr ⟨Bool.eq_false_iff.mpr known, sourceRecord, sourceMember,
      targetRecord, targetMember, join, links, rfl⟩)

/-- A second pass only adds join models of associations with an end that the first pass added. -/
theorem mem_names_joinUses_again {name : String} :
    name ∈ (UsageStore.ofUses (joinUses registry (completeJoins registry store).1)).names ↔
      (completeJoins registry store).1.has name = false ∧ ∃ source target join,
        (completeJoins registry store).1.has source = true ∧
        (completeJoins registry store).1.has target = true ∧
        (store.has source = false ∨ store.has target = false) ∧
        registry.Links source target join ∧ join.name = name := by
  rw [mem_names_joinUses]
  constructor
  · rintro ⟨absent, source, own, target, used, join, links, rfl⟩
    have sourceUsed := UsageStore.has_iff_record.mpr ⟨source, own, rfl⟩
    have targetUsed := UsageStore.has_iff_record.mpr ⟨target, used, rfl⟩
    refine ⟨absent, source.entity, target.entity, join, sourceUsed, targetUsed, ?_, links, rfl⟩
    by_contra both
    rw [not_or, Bool.not_eq_false, Bool.not_eq_false] at both
    rw [has_completeJoins_of_links links both.1 both.2] at absent
    cases absent
  · rintro ⟨absent, source, target, join, own, used, -, links, rfl⟩
    obtain ⟨sourceRecord, sourceMember, rfl⟩ := UsageStore.has_iff_record.mp own
    obtain ⟨targetRecord, targetMember, rfl⟩ := UsageStore.has_iff_record.mp used
    exact ⟨absent, sourceRecord, sourceMember, targetRecord, targetMember, join, links, rfl⟩

/-- A second pass keeps all records of the first one, flags included. It adds records for join
models of associations that were not exercised before the first pass, since that added one of their
ends. So it changes nothing if and only if all these join models have records. -/
theorem completeJoins_again (registry : Registry) (store : UsageStore) :
    let first := (completeJoins registry store).1
    let second := (completeJoins registry first).1
    (∃ added : List UsageRecord, second.records = first.records ++ added ∧
      ∀ name, name ∈ added.map UsageRecord.entity ↔ first.has name = false ∧
        ∃ source target join, first.has source = true ∧ first.has target = true ∧
          (store.has source = false ∨ store.has target = false) ∧
          registry.Links source target join ∧ join.name = name) ∧
    (second.records = first.records ↔ ∀ source target join, registry.Links source target join →
      first.has source = true → first.has target = true →
      store.has source = false ∨ store.has target = false → first.has join.name = true) := by
  intro first second
  refine ⟨⟨_, records_completeJoins registry first, fun name => mem_names_joinUses_again⟩, ?_⟩
  rw [completeJoins_unchanged_iff]
  constructor
  · intro none source target join links own used new
    by_contra absent
    exact none join.name (mem_names_joinUses_again.mpr
      ⟨Bool.eq_false_iff.mpr absent, source, target, join, own, used, new, links, rfl⟩)
  · intro all name member
    obtain ⟨absent, source, target, join, own, used, new, links, rfl⟩ :=
      mem_names_joinUses_again.mp member
    have known : first.has join.name = true := all source target join links own used new
    rw [known] at absent
    cases absent

theorem links_nested : nestedRegistry.Links "Friend" "A" (.bare "Deep") :=
  nestedRegistry_built.links_iff.mpr
    ⟨⟨"Friend", .str "Friend", [⟨"x", .belongsToMany, .str "A", .str "Deep"⟩], .null, .str "."⟩,
      rfl, ⟨"x", .belongsToMany, .str "A", .str "Deep"⟩, List.mem_cons_self, rfl, rfl, "Deep", rfl, rfl⟩

/-- The second pass comes to `Friend`, which the first one added, and finds `Deep` behind it. -/
theorem completeJoins_not_idempotent :
    ¬∀ (registry : Registry) (store : UsageStore),
      (completeJoins registry (completeJoins registry store).1).1.records =
        (completeJoins registry store).1.records := by
  intro idempotent
  have first (name : String) : (completeJoins nestedRegistry onlyA).1.has name = true ↔
      name ∈ ["A", "Friend"] := by
    rw [UsageStore.has_iff, names_completeJoins_onlyA]
  have absent : (completeJoins nestedRegistry onlyA).1.has "Deep" = false :=
    Bool.eq_false_iff.mpr fun known => absurd ((first "Deep").mp known) (by decide)
  have added : "Deep" ∈ (UsageStore.ofUses
      (joinUses nestedRegistry (completeJoins nestedRegistry onlyA).1)).names :=
    mem_names_joinUses_again.mpr ⟨absent, "Friend", "A", .bare "Deep",
      (first "Friend").mpr (by simp), (first "A").mpr (by simp), .inl rfl, links_nested, rfl⟩
  exact (completeJoins_unchanged_iff _ _).mp (idempotent nestedRegistry onlyA) "Deep" added

end Again

end LeastGrant
