import LeastGrant.Analysis.Run
import LeastGrant.Proofs.SavedRegistry

/-! Analyses with a registry that was saved and read again. No function of an analysis can tell it
from the first one: models keep their names and tables, associations their targets and join names,
and the text of a join reference is shown only where it was kept. -/
namespace LeastGrant

variable (registry : Registry)

section Lookup

namespace Registry

@[simp] theorem find?_resaved (name : String) :
    registry.resaved.find? name = (registry.find? name).map Entity.resaved := by
  rw [find?, find?, resaved, List.find?_map]
  rfl

@[simp] theorem get?_resaved (name : String) :
    registry.resaved.get? name = (registry.get? name).map Entity.resaved := by
  rw [get?, get?, find?_resaved]
  split <;> rfl

@[simp] theorem has_resaved (name : String) : registry.resaved.has name = registry.has name := by
  rw [has, has, find?_resaved, Option.isSome_map]

theorem outEdges_resaved (source : String) :
    registry.resaved.outEdges source = (registry.outEdges source).map Edge.resaved := by
  have target (edge : Edge) : edge.resaved.target = edge.target := rfl
  have start (edge : Edge) : edge.resaved.source = edge.source := rfl
  simp only [outEdges, resaved, List.filter_map, List.map_map, Function.comp_def, target, start,
    List.map_flatMap]

theorem manyToMany_resaved (source : String) :
    registry.resaved.manyToMany source = (registry.manyToMany source).map Association.resaved := by
  have kind (association : Association) :
      association.resaved.isManyToMany = association.isManyToMany := rfl
  simp only [manyToMany, outEdges_resaved, List.map_map, List.filter_map, Function.comp_def,
    Edge.resaved, kind]

end Registry

theorem Entity.association?_resaved (entity : Entity) (name : String) :
    entity.resaved.association? name = (entity.association? name).map Association.resaved := by
  rw [association?, association?, resaved, List.find?_map]
  rfl

@[simp] theorem Use.of_resaved (entity : Entity) (writes : Writes) :
    Use.of entity.resaved writes = Use.of entity writes := by
  rw [Use.of, Use.of, entity.table_resaved, entity.name_resaved]

end Lookup

section Resolving

namespace Strategy

theorem registered?_resaved : registered? registry.resaved = registered? registry := by
  funext text
  rw [registered?, registered?, registry.has_resaved]

theorem heritageModelM?_resaved {m : Type → Type} [Lookups m] :
    heritageModelM? registry.resaved = (heritageModelM? registry : Declaration → m _) := by
  have entry : entryModelM? registry.resaved = (entryModelM? registry : Heritage → m _) := by
    funext entry
    simp only [entryModelM?, registered?_resaved]
  funext declaration
  rw [heritageModelM?, heritageModelM?, entry]

theorem answer?_resaved (receiver : Receiver) (strategy : Strategy) :
    strategy.answer? registry.resaved receiver = strategy.answer? registry receiver := by
  cases strategy <;>
    simp only [answer?, answerM?, registered?_resaved, heritageModelM?_resaved]

theorem notes_resaved (receiver : Receiver) (strategy : Strategy) :
    strategy.notes registry.resaved receiver = strategy.notes registry receiver := by
  cases strategy <;> simp only [notes, heritageModel?, heritageModelM?_resaved]

end Strategy

theorem resolve_resaved (receiver : Receiver) (strategies : List Strategy) :
    resolve registry.resaved receiver strategies =
      ⟨(resolve registry receiver strategies).entity.map Entity.resaved,
        (resolve registry receiver strategies).notes⟩ := by
  induction strategies with
  | nil => rfl
  | cons strategy rest ih =>
    have again := Strategy.answer?_resaved registry receiver strategy
    cases answered : strategy.answer? registry receiver with
    | some name =>
      rw [resolve_of_answer answered, resolve_of_answer (again.trans answered),
        registry.find?_resaved, Strategy.notes_resaved]
    | none =>
      rw [resolve_of_silent answered, resolve_of_silent (again.trans answered), ih,
        Strategy.notes_resaved]

end Resolving

section Joins

theorem joinEntity_of_joinName? (source : String) {association : Association} {name : String}
    (h : association.joinName? = some name) :
    joinEntity registry source association =
      if association.kind = .belongsToMany then
        (registry.get? name).elim (.error (.throughUnresolved name association.name source))
          fun join => .ok (some join)
      else .ok none := by
  have given : association.through ≠ .null := by
    intro null
    simp [Association.joinName?, JoinReference.name?, null] at h
  unfold joinEntity
  split
  · rename_i null
    exact absurd null given
  · rename_i kind _
    rw [h, if_pos kind]
    dsimp only
    cases registry.get? name <;> rfl
  · rename_i other _
    have single : association.kind ≠ .belongsToMany := fun many => other many
    rw [if_neg single]

/-- The join model is found by its name alone, and a reference that is no name is kept as it is. -/
theorem joinEntity_resaved (source : String) (association : Association) :
    joinEntity registry.resaved source association.resaved =
      (joinEntity registry source association).map (Option.map Entity.resaved) := by
  cases named : association.joinName? with
  | some name =>
    have again : association.resaved.joinName? = some name := by
      rw [association.joinName?_resaved, named]
    rw [joinEntity_of_joinName? _ source named, joinEntity_of_joinName? _ source again,
      registry.get?_resaved, association.kind_resaved, association.name_resaved]
    split
    · cases registry.get? name <;> rfl
    · rfl
  | none =>
    rw [Association.resaved_of_joinName?_none named]
    unfold joinEntity
    rw [named]
    split <;> rfl

theorem targetEntity?_resaved (association : Association) :
    targetEntity? registry.resaved association.resaved =
      (targetEntity? registry association).map Entity.resaved := by
  have name : association.resaved.targetName? = association.targetName? := rfl
  rw [targetEntity?_eq, targetEntity?_eq, name]
  cases association.targetName? with
  | none => rfl
  | some name => exact registry.get?_resaved name

theorem joinStep_resaved (discovered : List String) (source : String)
    (state : UsageStore × List Note) (association : Association) :
    joinStep registry.resaved discovered source state association.resaved =
      joinStep registry discovered source state association := by
  have target : discoveredTarget? discovered state.1 association.resaved =
      discoveredTarget? discovered state.1 association := rfl
  have found : Id.run (joinFindingM registry.resaved discovered state.1 source association.resaved) =
      Id.run (joinFindingM registry discovered state.1 source association) := by
    rw [joinFindingM, joinFindingM, Id.run_bind, Id.run_bind, run_discoveredTargetM?,
      run_discoveredTargetM?, target, joinEntity_resaved]
    cases joinEntity registry source association with
    | error problem => rfl
    | ok join => cases join <;> simp [Except.map]
  rw [joinStep, joinStep, joinStepM, joinStepM, Id.run_bind, Id.run_bind, found]

theorem completeJoins_resaved (store : UsageStore) :
    completeJoins registry.resaved store = completeJoins registry store := by
  simp only [completeJoins_eq_loops, Registry.manyToMany_resaved, List.foldl_map, joinStep_resaved]

end Joins

section Findings

theorem mixinUses_resaved (mixin : Mixin) (target : Entity) (join : Option Entity) :
    mixinUses mixin target.resaved (join.map Entity.resaved) = mixinUses mixin target join := by
  cases join <;> simp [mixinUses]

theorem readUses_resaved (join : Option Entity) :
    ((join.map Entity.resaved).toList.map fun entity => Use.of entity .none) =
      join.toList.map fun entity => Use.of entity .none := by
  cases join <;> simp

theorem helperFinding_resaved (entity : Entity) (method : String) (call : Place)
    (file : SourceFile) (association : Association) (target : Entity) :
    helperFinding registry.resaved entity.resaved method call file association.resaved
        target.resaved =
      helperFinding registry entity method call file association target := by
  have alone (mixin : Mixin) : mixinUses mixin target.resaved none = mixinUses mixin target none :=
    mixinUses_resaved mixin target none
  simp only [helperFinding, joinEntity_resaved, entity.name_resaved]
  cases joinEntity registry entity.name association with
  | error problem => simp [Except.map, alone]
  | ok join => simp [Except.map, mixinUses_resaved, readUses_resaved]

theorem associationCall_resaved (entity : Entity) (method : String) (call : Place)
    (file : SourceFile) :
    associationCall registry.resaved entity.resaved method call file =
      associationCall registry entity method call file := by
  have named (first : Node) :
      Id.run (namedAssociationM registry.resaved entity.resaved method call file first) =
        Id.run (namedAssociationM registry entity method call file first) := by
    rw [namedAssociationM, namedAssociationM]
    split
    · rfl
    · rename_i name _
      rw [entity.association?_resaved]
      cases entity.association? name with
      | none => rfl
      | some association =>
        simp only [Option.map_some, Id.run_bind, run_targetEntityM?, targetEntity?_resaved]
        cases targetEntity? registry association with
        | none => rfl
        | some target => exact helperFinding_resaved registry entity method call file association target
  rw [associationCall, associationCall, associationCallM, associationCallM]
  split
  · rfl
  · rw [Id.run_bind, Id.run_bind]
    split
    · exact named _
    · rfl

theorem importFinding_resaved (only : Option String) (statement : Node) :
    importFinding registry.resaved only statement = importFinding registry only statement := by
  have imported : importedEntity? registry.resaved =
      fun name => (importedEntity? registry name).map Entity.resaved := by
    funext name
    rw [importedEntity?, importedEntity?, registry.get?_resaved, registry.get?_resaved]
    cases registry.get? name.exported <;> rfl
  have uses (names : List ImportedName) :
      (names.filterMap fun name => (importedEntity? registry name).map Entity.resaved).map
          (Use.of · .none) =
        (names.filterMap (importedEntity? registry)).map (Use.of · .none) := by
    rw [← List.map_filterMap, List.map_map]
    simp only [Function.comp_def, Use.of_resaved]
  rw [importFinding, importFinding, imported, uses]

theorem callFinding_resaved (index : CodeIndex) (file : SourceFile) (call : Place) :
    callFinding index registry.resaved file call = callFinding index registry file call := by
  rw [callFinding, callFinding, callFindingM, callFindingM]
  split
  · rfl
  · split
    · rfl
    · rename_i tracked _
      simp only [Id.run_bind, Receiver.run_ofM, run_resolveM, resolve_resaved]
      cases (resolve registry _ Strategy.all).entity with
      | none => rfl
      | some entity => cases tracked <;> simp [associationCall_resaved]

theorem findingAt_resaved (index : CodeIndex) (only : Option String) (file : SourceFile) :
    findingAt index registry.resaved only file = findingAt index registry only file := by
  funext place
  rw [findingAt, findingAt, findingAtM, findingAtM, importFinding_resaved]
  split
  · rfl
  · exact callFinding_resaved registry index file place
  · rfl

end Findings

theorem analyze_resaved (only : Option String) (files : List SourceFile) :
    analyze registry.resaved only files = analyze registry only files := by
  simp only [analyze_eq, traverse_eq, findings_eq_flatMap, findingAt_resaved, completeJoins_resaved]

section Agreement

/-- Associations that no analysis tells apart by what they link and through which model. -/
structure Association.Agrees (first second : Association) : Prop where
  name : second.name = first.name
  kind : second.kind = first.kind
  target : second.target = first.target
  joinName : second.joinName? = first.joinName?

structure Entity.Agrees (first second : Entity) : Prop where
  name : second.name = first.name
  table : second.table = first.table
  associations : List.Forall₂ Association.Agrees first.associations second.associations

structure Edge.Agrees (first second : Edge) : Prop where
  source : second.source = first.source
  target : second.target = first.target
  association : first.association.Agrees second.association

theorem Association.agrees_resaved (association : Association) :
    association.Agrees association.resaved where
  name := rfl
  kind := rfl
  target := rfl
  joinName := association.joinName?_resaved

theorem forall₂_map_self {α β : Type} {R : α → β → Prop} {f : α → β}
    (agrees : ∀ item, R item (f item)) (items : List α) : List.Forall₂ R items (items.map f) := by
  rw [List.forall₂_map_right_iff, List.forall₂_same]
  exact fun item _ => agrees item

theorem Entity.agrees_resaved (entity : Entity) : entity.Agrees entity.resaved where
  name := rfl
  table := entity.table_resaved
  associations := forall₂_map_self Association.agrees_resaved entity.associations

theorem Edge.agrees_resaved (edge : Edge) : edge.Agrees edge.resaved where
  source := rfl
  target := rfl
  association := edge.association.agrees_resaved

theorem Registry.allEdges_resaved :
    registry.resaved.allEdges = registry.allEdges.map Edge.resaved := by
  rw [allEdges, allEdges, List.map_flatMap]
  apply List.flatMap_congr
  intro node _
  cases node with
  | str source => exact registry.outEdges_resaved source
  | _ => rfl

/-- A registry that is saved can be read again. What is read has the same models with the same
tables, the same associations and the same graph, all in the same order, and so every analysis gives
the same with it. Saved again, it is the same document. -/
theorem saved_registry_equivalent {registry : Registry} (built : registry.Built) :
    ∃ again, Registry.ofJson registry.toJson = .ok again ∧
      List.Forall₂ Entity.Agrees registry.entities again.entities ∧
      again.nodes = registry.nodes ∧
      List.Forall₂ Edge.Agrees registry.edges again.edges ∧
      List.Forall₂ Edge.Agrees registry.allEdges again.allEdges ∧
      (∀ only files, analyze again only files = analyze registry only files) ∧
      again.toJson = registry.toJson := by
  refine ⟨registry.resaved, built.ofJson_toJson, ?_, rfl, ?_, ?_, ?_, registry.toJson_resaved⟩
  · exact forall₂_map_self Entity.agrees_resaved registry.entities
  · exact forall₂_map_self Edge.agrees_resaved registry.edges
  · rw [registry.allEdges_resaved]
    exact forall₂_map_self Edge.agrees_resaved registry.allEdges
  · exact analyze_resaved registry

/-- Users are friends through a model that options name, and their schema is empty. -/
def friendships : Json :=
  .obj [("models", .obj [
    ("User", .obj [("tableName", .str "users"), ("schema", .str ""), ("delimiter", .str "_"),
      ("associations", .obj [("friends", .obj [("type", .str "many-to-many"),
        ("target", .str "User"), ("through", .obj [("model", .str "Friendship")])])])]),
    ("Friendship", .obj [])])]

def friendshipRegistry : Registry :=
  .ofEntities [
    ⟨"User", .str "users",
      [⟨"friends", .belongsToMany, .str "User", .obj [("model", .str "Friendship")]⟩],
      .str "", .str "_"⟩,
    .bare "Friendship"]

theorem friendshipRegistry_built : friendshipRegistry.Built := by
  have read : Registry.ofJson friendships = .ok friendshipRegistry := rfl
  refine .ofDocument ?_ read
  simp [friendships, Json.WellFormed, Json.WellFormedFields]

theorem saved_registry_equivalent_friendships : friendshipRegistry.Built ∧
    ∃ again, Registry.ofJson friendshipRegistry.toJson = .ok again ∧
      again.names = ["User", "Friendship"] ∧
      ∀ only files, analyze again only files = analyze friendshipRegistry only files := by
  obtain ⟨again, read, entities, -, -, -, analyses, -⟩ :=
    saved_registry_equivalent friendshipRegistry_built
  have names : again.names = friendshipRegistry.names :=
    map_key_of_forall₂ entities fun _ _ agrees => agrees.name
  exact ⟨friendshipRegistry_built, again, read, names, analyses⟩

end Agreement

end LeastGrant
