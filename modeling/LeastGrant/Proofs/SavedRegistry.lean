import LeastGrant.Proofs.BuiltRegistry

/-! Registries that are saved as documents and read again. Saving writes the name of a join model in
place of the reference to it, and leaves out a schema that is not set together with its delimiter.
What is read back differs in these only, and saving it again gives the same document. -/
namespace LeastGrant

section Resaved

/-- An association after it is saved and read again: a join reference that can be used is the name of
the join model. -/
def Association.resaved (association : Association) : Association :=
  { association with
    through := match association.joinName? with
      | some name => .str name
      | none => association.through }

/-- A model after it is saved and read again: a schema that is not set is gone, with its delimiter. -/
def Entity.resaved (entity : Entity) : Entity :=
  { entity with
    associations := entity.associations.map Association.resaved
    schema := if entity.schema.isSet then entity.schema else .null
    delimiter := if entity.schema.isSet then entity.delimiter else .str "." }

def Edge.resaved (edge : Edge) : Edge := { edge with association := edge.association.resaved }

def Registry.resaved (registry : Registry) : Registry where
  entities := registry.entities.map Entity.resaved
  nodes := registry.nodes
  edges := registry.edges.map Edge.resaved

theorem Json.isSet_null : Json.null.isSet = false := rfl

namespace Association

variable (association : Association)

@[simp] theorem name_resaved : association.resaved.name = association.name := rfl

@[simp] theorem kind_resaved : association.resaved.kind = association.kind := rfl

@[simp] theorem target_resaved : association.resaved.target = association.target := rfl

variable {association}

theorem resaved_of_joinName?_none (h : association.joinName? = none) :
    association.resaved = association := by
  rw [resaved, h]

theorem through_resaved {name : String} (h : association.joinName? = some name) :
    association.resaved.through = .str name := by
  rw [resaved, h]

variable (association)

@[simp] theorem joinName?_resaved : association.resaved.joinName? = association.joinName? := by
  cases named : association.joinName? with
  | some name =>
    rw [joinName?, through_resaved named]
    rfl
  | none => rw [resaved_of_joinName?_none named, named]

end Association

namespace Entity

variable (entity : Entity)

@[simp] theorem name_resaved : entity.resaved.name = entity.name := rfl

@[simp] theorem isSet_schema_resaved : entity.resaved.schema.isSet = entity.schema.isSet := by
  by_cases set : entity.schema.isSet = true
  · simp only [resaved, if_pos set]
  · have unset : entity.resaved.schema = .null := if_neg set
    rw [unset, Bool.eq_false_iff.mpr set, Json.isSet_null]

theorem table_resaved : entity.resaved.table = entity.table := by
  rw [table, table, isSet_schema_resaved]
  split
  · rename_i set
    simp only [resaved, if_pos set]
  · rfl

end Entity

end Resaved

namespace Registry

section Document

/-- A reference that names a model is not null, so the field is there. -/
theorem throughFields_of_joinName? {association : Association} {name : String}
    (h : association.joinName? = some name) :
    throughFields association = [("through", .str name)] := by
  rw [throughFields, h]
  split
  · rename_i null
    simp [Association.joinName?, JoinReference.name?, null] at h
  · rfl

theorem throughFields_resaved (association : Association) :
    throughFields association.resaved = throughFields association := by
  cases named : association.joinName? with
  | none => rw [Association.resaved_of_joinName?_none named]
  | some name =>
    have again : association.resaved.joinName? = some name := by
      rw [association.joinName?_resaved, named]
    rw [throughFields_of_joinName? named, throughFields_of_joinName? again]

theorem associationJson_resaved (association : Association) :
    associationJson association.resaved = associationJson association := by
  rw [associationJson, throughFields_resaved]
  rfl

theorem entityJson_resaved (entity : Entity) : entityJson entity.resaved = entityJson entity := by
  have associations : (entity.resaved.associations.map fun a => (a.name, associationJson a)) =
      entity.associations.map fun a => (a.name, associationJson a) := by
    simp only [Entity.resaved, List.map_map, Function.comp_def, associationJson_resaved,
      Association.name_resaved]
  rw [entityJson, entityJson, associations, Entity.isSet_schema_resaved]
  split
  · rename_i set
    simp only [Entity.resaved, if_pos set]
  · rfl

/-- Saving what was read back gives the same document. -/
theorem toJson_resaved (registry : Registry) : registry.resaved.toJson = registry.toJson := by
  simp only [toJson, resaved, List.map_map, Function.comp_def, entityJson_resaved,
    Entity.name_resaved]

end Document

section Graph

theorem putEntity_resaved (entities : List Entity) (new : Entity) :
    putEntity (entities.map Entity.resaved) new.resaved =
      (putEntity entities new).map Entity.resaved := by
  induction entities with
  | nil => rfl
  | cons old rest ih =>
    simp only [List.map_cons, putEntity, Entity.name_resaved, ih]
    split <;> rfl

theorem addEdge_resaved (edges : List Edge) (source : String) (association : Association) :
    addEdge (edges.map Edge.resaved) source association.resaved =
      (addEdge edges source association).map Edge.resaved := by
  have isAt (edge : Edge) (target : Json) (name : String) :
      Edge.isAt edge.resaved source target name = Edge.isAt edge source target name := rfl
  have known : ((edges.map Edge.resaved).find? fun edge =>
      edge.source == source && edge.target.sameKey association.target) =
      (edges.find? fun edge =>
        edge.source == source && edge.target.sameKey association.target).map Edge.resaved := by
    rw [List.find?_map]
    rfl
  simp only [addEdge, Association.target_resaved, Association.name_resaved, List.any_map,
    Function.comp_def, isAt, known, Option.map_map]
  split
  · simp only [List.map_map, Function.comp_def, isAt]
    apply List.map_congr_left
    intro edge _
    split <;> rfl
  · rw [List.map_append]
    rfl

theorem add_resaved (registry : Registry) (entity : Entity) :
    registry.resaved.add entity.resaved = (registry.add entity).resaved := by
  have edges (associations : List Association) (edges : List Edge) :
      (associations.map Association.resaved).foldl (fun edges a => addEdge edges entity.name a)
        (edges.map Edge.resaved) =
        (associations.foldl (fun edges a => addEdge edges entity.name a) edges).map Edge.resaved := by
    induction associations generalizing edges with
    | nil => rfl
    | cons association rest ih => rw [List.map_cons, List.foldl_cons, addEdge_resaved, ih]; rfl
  have associations : entity.resaved.associations = entity.associations.map .resaved := rfl
  simp only [add, resaved, putEntity_resaved, Entity.name_resaved, associations, edges,
    List.foldl_map, Association.target_resaved]

theorem ofEntities_resaved (entities : List Entity) :
    ofEntities (entities.map Entity.resaved) = (ofEntities entities).resaved := by
  have run (registry : Registry) :
      (entities.map Entity.resaved).foldl add registry.resaved =
        (entities.foldl add registry).resaved := by
    induction entities generalizing registry with
    | nil => rfl
    | cons entity rest ih => rw [List.map_cons, List.foldl_cons, add_resaved, ih]; rfl
  exact run empty

theorem entities_ofEntities (entities : List Entity) :
    (ofEntities entities).entities = entities.foldl putEntity [] := by
  have run (registry : Registry) :
      (entities.foldl add registry).entities = entities.foldl putEntity registry.entities := by
    induction entities generalizing registry with
    | nil => rfl
    | cons entity rest ih => rw [List.foldl_cons, ih]; rfl
  exact run empty

theorem mem_of_mem_ofEntities {entities : List Entity} {entity : Entity}
    (h : entity ∈ (ofEntities entities).entities) : entity ∈ entities := by
  rw [entities_ofEntities, putEntity_eq] at h
  exact (mem_of_mem_foldl_putByKey Entity.name h).resolve_right (by simp)

end Graph

end Registry

section Reading

theorem bind_of_ok {ε α β : Type} {first : Except ε α} {next : α → Except ε β} {value : α}
    (h : first = .ok value) : (first >>= next) = next value := by
  rw [h]
  rfl

theorem mapM_map_ok {ε α β γ : Type} {items : List α} {key : α → β} {f : β → Except ε γ}
    {g : α → γ} (each : ∀ item ∈ items, f (key item) = .ok (g item)) :
    (items.map key).mapM f = .ok (items.map g) := by
  induction items with
  | nil => rfl
  | cons item rest ih =>
    have others := ih fun other member => each other (List.mem_cons_of_mem _ member)
    rw [List.map_cons, List.mapM_cons, each item List.mem_cons_self, others]
    rfl

theorem forM_ok {ε α : Type} {check : α → Except ε Unit} {items : List α}
    (each : ∀ item ∈ items, check item = .ok ()) : items.forM check = .ok () := by
  induction items with
  | nil => rfl
  | cons item rest ih =>
    have others := ih fun other member => each other (List.mem_cons_of_mem _ member)
    rw [List.forM_eq_forM] at others ⊢
    rw [List.forM_cons, each item List.mem_cons_self]
    exact others

theorem AssociationKind.ofText?_name (kind : AssociationKind) : ofText? kind.name = some kind := by
  cases kind <;> rfl

theorem Association.ofJson_associationJson (model : String) (association : Association) :
    Association.ofJson model association.name (Registry.associationJson association) =
      .ok association.resaved := by
  have target : (Registry.associationJson association).get? "target" = some association.target := by
    simp [Registry.associationJson, Json.get?, Json.Fields.get?, List.lookup_cons]
  have type : (Registry.associationJson association).get? "type" =
      some (.str association.kind.name) := by
    simp [Registry.associationJson, Json.get?, Json.Fields.get?]
  have through : (Registry.associationJson association).getOrNull "through" =
      association.resaved.through := by
    have fields : (Registry.associationJson association).getOrNull "through" =
        (Json.Fields.get? (Registry.throughFields association) "through").getD .null := by
      simp [Registry.associationJson, Json.getOrNull, Json.get?, Json.Fields.get?,
        List.lookup_cons]
    rw [fields]
    cases named : association.joinName? with
    | some name =>
      rw [Registry.throughFields_of_joinName? named, Association.through_resaved named]
      rfl
    | none =>
      rw [Association.resaved_of_joinName?_none named, Registry.throughFields, named]
      cases association.through <;> rfl
  rw [Association.ofJson, target, type, through]
  simp [AssociationKind.ofJson, AssociationKind.ofText?_name, Association.resaved]

/-- A model that can be saved: what is read in place of an unset table or delimiter is what it had,
and its associations can be edges of the graph. -/
structure Entity.Savable (entity : Entity) : Prop where
  tableName : entity.tableName.orElse (.str entity.name) = entity.tableName
  delimiter : entity.delimiter.isSet = true
  targets : ∀ association ∈ entity.associations, association.checkTarget = .ok ()

theorem Registry.entityJson_getOrNull (entity : Entity) :
    (entityJson entity).getOrNull "tableName" = entity.tableName ∧
      (entityJson entity).getOrNull "schema" = entity.resaved.schema ∧
      (entityJson entity).getOrNull "delimiter" =
        (if entity.schema.isSet then entity.delimiter else .null) ∧
      (entityJson entity).getOrNull "associations" =
        .obj (entity.associations.map fun a => (a.name, associationJson a)) := by
  by_cases set : entity.schema.isSet = true <;>
    simp [entityJson, Entity.resaved, Json.getOrNull, Json.get?, Json.Fields.get?,
      List.lookup_cons, set]

theorem Entity.ofJson_entityJson {entity : Entity} (savable : entity.Savable) :
    Entity.ofJson entity.name (Registry.entityJson entity) = .ok entity.resaved := by
  obtain ⟨tableName, schema, delimiter, associations⟩ := Registry.entityJson_getOrNull entity
  have delimited : ((Registry.entityJson entity).getOrNull "delimiter").orElse (.str ".") =
      entity.resaved.delimiter := by
    by_cases set : entity.schema.isSet = true
    · simp [delimiter, set, Json.orElse, savable.delimiter, Entity.resaved]
    · simp [delimiter, set, Json.orElse, Json.isSet_null, Entity.resaved]
  obtain ⟨fields, object⟩ : ∃ fields, Registry.entityJson entity = .obj fields := ⟨_, rfl⟩
  rw [object] at tableName schema delimited associations ⊢
  have given : Entity.associationFields (.obj fields) =
      .ok (entity.associations.map fun a => (a.name, Registry.associationJson a)) := by
    rw [Entity.associationFields, associations]
  refine (bind_of_ok given).trans ((bind_of_ok (mapM_map_ok fun association _ =>
    association.ofJson_associationJson entity.name)).trans ?_)
  rw [tableName, schema, delimited, savable.tableName]
  rfl

theorem Registry.ofJson_toJson {registry : Registry}
    (savable : ∀ entity ∈ registry.entities, entity.Savable) :
    Registry.ofJson registry.toJson = .ok (ofEntities (registry.entities.map .resaved)) := by
  have models : registry.toJson.get? "models" =
      some (.obj (registry.entities.map fun entity => (entity.name, entityJson entity))) := by
    simp [toJson, Json.get?, Json.Fields.get?]
  have checked : ((registry.entities.map Entity.resaved).forM fun entity =>
      entity.associations.forM Association.checkTarget) = .ok () := by
    apply forM_ok
    intro _ member
    obtain ⟨entity, known, rfl⟩ := List.mem_map.mp member
    apply forM_ok
    intro _ declared
    obtain ⟨association, given, rfl⟩ := List.mem_map.mp declared
    exact (savable entity known).targets association given
  rw [ofJson, models]
  refine Eq.trans (bind_of_ok ?_) (bind_of_ok checked)
  exact mapM_map_ok fun entity member => Entity.ofJson_entityJson (savable entity member)

end Reading

section Building

theorem Json.orElse_self (value : Json) : value.orElse value = value := ite_self value

theorem Json.orElse_orElse (value other : Json) :
    (value.orElse other).orElse other = value.orElse other := by
  by_cases set : value.isSet = true
  · simp [orElse, set]
  · simp [orElse, set]

theorem Json.str_orElse {text : String} (h : text ≠ "") (other : Json) :
    (Json.str text).orElse other = .str text := by
  simp [orElse, isSet, h]

theorem Association.checkTarget_str {association : Association} {name : String}
    (h : association.target = .str name) : association.checkTarget = .ok () := by
  rw [checkTarget, h]
  rfl

theorem Association.checkTarget_rename (models : List ModelClass) (literals : List String)
    (association : Association) :
    (association.rename models literals).checkTarget = association.checkTarget := by
  obtain ⟨name, kind, target, through⟩ := association
  cases target <;> rfl

namespace Entity

theorem savable_of_ofJson {name : String} {spec : Json} {entity : Entity}
    (read : Entity.ofJson name spec = .ok entity)
    (targets : ∀ association ∈ entity.associations, association.checkTarget = .ok ()) :
    entity.Savable := by
  unfold Entity.ofJson at read
  split at read
  · obtain ⟨fields, -, read⟩ := ok_of_bind read
    obtain ⟨associations, -, read⟩ := ok_of_bind read
    cases read
    exact ⟨Json.orElse_orElse _ _, Json.orElse_isSet _ _ rfl, targets⟩
  · cases read

theorem plural_ne_empty (name : String) : plural name ≠ "" := by
  unfold plural
  dsimp only
  split
  · simp
  · split <;> simp

theorem savable_bare (name : String) : (bare name).Savable where
  tableName := Json.orElse_self _
  delimiter := rfl
  targets := by simp [bare]

theorem Savable.rename {entity : Entity} (h : entity.Savable) (models : List ModelClass)
    (literals : List String) : (entity.rename models literals).Savable where
  tableName := h.tableName
  delimiter := h.delimiter
  targets := by
    intro _ member
    obtain ⟨association, known, rfl⟩ := List.mem_map.mp member
    rw [Association.checkTarget_rename]
    exact h.targets association known

end Entity

theorem ne_empty_of_nonempty? {given : Option String} {text : String}
    (h : nonempty? given = some text) : text ≠ "" := by
  unfold nonempty? at h
  split at h
  · split at h
    · cases h
    · cases h
      assumption
  · cases h

theorem ModelClass.savable_of_ofPlace? {file : SourceFile} {place : Place} {model : ModelClass}
    (h : ModelClass.ofPlace? file place = some model) : model.entity.Savable := by
  have targets : ∀ association ∈ model.entity.associations, association.checkTarget = .ok () := by
    intro association member
    obtain ⟨name, target⟩ := (ModelClass.fromClass_of_ofPlace? h).targets association member
    exact Association.checkTarget_str target
  unfold ModelClass.ofPlace? at h
  split at h
  · dsimp only at h
    split at h
    · rename_i options _ _
      cases h
      refine ⟨?_, rfl, targets⟩
      dsimp only
      cases given : nonempty? (options.literal? "tableName") with
      | some table => exact Json.str_orElse (ne_empty_of_nonempty? given) _
      | none =>
        rw [Option.getD_none]
        split
        · exact Json.orElse_self _
        · exact Json.str_orElse (Entity.plural_ne_empty _) _
    · cases h
  · cases h

namespace Registry

theorem savable_of_ofJson {document : Json} {registry : Registry}
    (h : Registry.ofJson document = .ok registry) :
    ∀ entity ∈ registry.entities, entity.Savable := by
  unfold Registry.ofJson at h
  split at h
  · obtain ⟨entities, each, h⟩ := ok_of_bind h
    obtain ⟨_, checked, h⟩ := ok_of_bind h
    cases h
    intro entity member
    have given := mem_of_mem_ofEntities member
    obtain ⟨model, -, read⟩ := exists_of_forall₂ (forall₂_of_mapM each) given
    exact Entity.savable_of_ofJson read (ok_of_forM (ok_of_forM checked entity given))
  · cases h

theorem Built.savable {registry : Registry} (h : registry.Built) :
    ∀ entity ∈ registry.entities, entity.Savable := by
  cases h with
  | ofDocument _ read => exact savable_of_ofJson read
  | loaded load =>
    obtain ⟨document, -, read⟩ := exists_document_of_load load
    exact savable_of_ofJson read
  | ofClasses files =>
    intro entity member
    refine forall_mem_modelEntities ?_ (fun _ literals savable => savable.rename _ literals)
      Entity.savable_bare entity (mem_of_mem_ofEntities member)
    intro model known
    obtain ⟨file, -, here⟩ := List.mem_flatMap.mp known
    obtain ⟨place, -, found⟩ := List.mem_filterMap.mp here
    exact ModelClass.savable_of_ofPlace? found

/-- A registry that is saved and read again. -/
theorem Built.ofJson_toJson {registry : Registry} (h : registry.Built) :
    Registry.ofJson registry.toJson = .ok registry.resaved := by
  rw [Registry.ofJson_toJson h.savable]
  obtain ⟨entities, proper, rfl⟩ := h.proper
  rw [(ofEntities_proper proper).1, ofEntities_resaved]

end Registry

end Building

end LeastGrant
