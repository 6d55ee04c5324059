import LeastGrant.Analysis.Finding

/-! Usage of join models. Code never names the join model of a many-to-many association, yet writing
to a target writes to it. A join model without a record gets one, with the writes of all targets that
are used. -/
namespace LeastGrant

/-- The names of the models in use, sorted. -/
def sortedNames (store : UsageStore) : List String :=
  store.names.mergeSort fun a b => decide (a ≤ b)

section Pass

variable {m : Type → Type} [Lookups m]

/-- The record of the target of an association, if the target is among the discovered models. -/
def discoveredTargetM? (discovered : List String) (store : UsageStore) (association : Association) :
    m (Option UsageRecord) := do
  match ← association.targetKeyM? with
  | some name =>
    if discovered.contains name then Lookups.expect (.record name) (store.get? name)
    else return none
  | none => return none

def discoveredTarget? (discovered : List String) (store : UsageStore) (association : Association) :
    Option UsageRecord :=
  Id.run (discoveredTargetM? discovered store association)

@[simp] theorem run_discoveredTargetM? (discovered : List String) (store : UsageStore)
    (association : Association) :
    Id.run (discoveredTargetM? discovered store association) =
      discoveredTarget? discovered store association :=
  rfl

theorem discoveredTarget?_eq (discovered : List String) (store : UsageStore)
    (association : Association) :
    discoveredTarget? discovered store association = association.targetName?.bind fun name =>
      if discovered.contains name then store.get? name else none := by
  rw [discoveredTarget?, discoveredTargetM?, Id.run_bind, association.run_targetKeyM?]
  cases association.targetName? with
  | none => rfl
  | some name =>
    dsimp only [Option.bind_some]
    split <;> rfl

/-- What is found at an association of `source`. Only models that were discovered before the pass
count as used, and their records are left alone. -/
def joinFindingM (registry : Registry) (discovered : List String) (store : UsageStore)
    (source : String) (association : Association) : m Finding := do
  match ← discoveredTargetM? discovered store association with
  | none => return .nothing
  | some target =>
    match joinEntity registry source association with
    | .error problem => return ⟨[], [.diagnosed ⟨problem, none, none⟩]⟩
    | .ok none => return .nothing
    | .ok (some join) =>
      if discovered.contains join.name then return .nothing
      else return ⟨[.of join target.writes],
        [.joinEntityInferred join.name source association.target]⟩

/-- Looks at one association of `source`. -/
def joinStepM (registry : Registry) (discovered : List String) (source : String)
    (state : UsageStore × List Note) (association : Association) : m (UsageStore × List Note) := do
  let found ← joinFindingM registry discovered state.1 source association
  return (found.addTo state.1, state.2 ++ found.notes)

def joinStep (registry : Registry) (discovered : List String) (source : String)
    (state : UsageStore × List Note) (association : Association) : UsageStore × List Note :=
  Id.run (joinStepM registry discovered source state association)

/-- Looks at all many-to-many associations of a model. -/
def joinsOfM (registry : Registry) (discovered : List String) (state : UsageStore × List Note)
    (source : String) : m (UsageStore × List Note) :=
  (registry.manyToMany source).foldlM (joinStepM registry discovered source) state

/-- Adds the usage of join models. -/
def completeJoinsM (registry : Registry) (store : UsageStore) : m (UsageStore × List Note) :=
  (sortedNames store).foldlM (joinsOfM registry store.names) (store, [])

def completeJoins (registry : Registry) (store : UsageStore) : UsageStore × List Note :=
  Id.run (completeJoinsM registry store)

theorem completeJoins_eq_loops (registry : Registry) (store : UsageStore) :
    completeJoins registry store = (sortedNames store).foldl (fun state source =>
      (registry.manyToMany source).foldl (joinStep registry store.names source) state)
      (store, []) := by
  rw [completeJoins, completeJoinsM, List.idRun_foldlM]
  congr 1
  funext state source
  rw [joinsOfM, List.idRun_foldlM]
  rfl

end Pass

end LeastGrant
