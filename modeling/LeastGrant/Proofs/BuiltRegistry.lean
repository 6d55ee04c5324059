import LeastGrant.Project.ModelSources
import LeastGrant.Proofs.RegistryGraph
import LeastGrant.Proofs.WellFormedJson
import Mathlib.Data.List.Forall2

/-! Where registries come from: a document, or the classes of some files. Either way the models are
proper, so the graph of the registry shows just the associations that the models declare. -/
namespace LeastGrant

section Checks

variable {ε α β : Type}

theorem ok_of_bind {first : Except ε α} {next : α → Except ε β} {result : β}
    (h : (first >>= next) = .ok result) : ∃ value, first = .ok value ∧ next value = .ok result := by
  cases first with
  | error fault => cases h
  | ok value => exact ⟨value, rfl, h⟩

theorem forall₂_of_mapM {f : α → Except ε β} {items : List α} {results : List β}
    (h : items.mapM f = .ok results) :
    List.Forall₂ (fun item result => f item = .ok result) items results := by
  induction items generalizing results with
  | nil =>
    cases h
    exact .nil
  | cons item rest ih =>
    rw [List.mapM_cons] at h
    obtain ⟨result, first, h⟩ := ok_of_bind h
    obtain ⟨later, others, h⟩ := ok_of_bind h
    cases h
    exact .cons first (ih others)

theorem ok_of_forM {check : α → Except ε Unit} {items : List α} (h : items.forM check = .ok ()) :
    ∀ item ∈ items, check item = .ok () := by
  induction items with
  | nil => simp
  | cons item rest ih =>
    rw [List.forM_eq_forM, List.forM_cons] at h
    obtain ⟨_, first, h⟩ := ok_of_bind h
    intro other member
    rcases List.mem_cons.mp member with rfl | later
    · exact first
    · exact ih h other later

/-- Where each result takes the key of its item, the keys are kept. -/
theorem map_key_of_forall₂ {R : α → β → Prop} {key : α → String} {name : β → String}
    {items : List α} {results : List β} (related : List.Forall₂ R items results)
    (keeps : ∀ item result, R item result → name result = key item) :
    results.map name = items.map key := by
  induction related with
  | nil => rfl
  | cons first _ ih => rw [List.map_cons, List.map_cons, ih, keeps _ _ first]

theorem exists_of_forall₂ {R : α → β → Prop} {items : List α} {results : List β}
    (related : List.Forall₂ R items results) {result : β} (member : result ∈ results) :
    ∃ item ∈ items, R item result := by
  induction related with
  | nil => cases member
  | cons first _ ih =>
    rcases List.mem_cons.mp member with rfl | later
    · exact ⟨_, List.mem_cons_self, first⟩
    · obtain ⟨item, known, holds⟩ := ih later
      exact ⟨item, List.mem_cons_of_mem _ known, holds⟩

end Checks

section FromDocument

theorem Association.name_ofJson {model name : String} {value : Json} {association : Association}
    (h : Association.ofJson model name value = .ok association) : association.name = name := by
  unfold Association.ofJson at h
  split at h
  · split at h
    · cases h
      rfl
    · cases h
  · cases h

theorem Entity.nodup_associationFields {spec : Json} {fields : Json.Fields}
    (wellFormed : spec.WellFormed) (h : Entity.associationFields spec = .ok fields) :
    (fields.map Prod.fst).Nodup := by
  unfold Entity.associationFields Json.getOrNull at h
  cases found : spec.get? "associations" with
  | none =>
    rw [found] at h
    cases h
    exact List.nodup_nil
  | some value =>
    have inner := wellFormed.of_get? found
    rw [found] at h
    cases value with
    | obj given =>
      cases h
      exact inner.1
    | _ =>
      dsimp only [Option.getD_some] at h
      split at h <;> cases h
      exact List.nodup_nil

/-- A model of a document has the name under which it is given, and so do its associations. -/
theorem Entity.names_ofJson {name : String} {spec : Json} {entity : Entity}
    (h : Entity.ofJson name spec = .ok entity) :
    entity.name = name ∧
      (spec.WellFormed → (entity.associations.map Association.name).Nodup) := by
  unfold Entity.ofJson at h
  split at h
  · obtain ⟨fields, read, h⟩ := ok_of_bind h
    obtain ⟨associations, each, h⟩ := ok_of_bind h
    cases h
    have names : associations.map Association.name = fields.map Prod.fst :=
      map_key_of_forall₂ (forall₂_of_mapM each) fun _ _ given => Association.name_ofJson given
    refine ⟨rfl, fun wellFormed => ?_⟩
    rw [names]
    exact Entity.nodup_associationFields wellFormed read
  · cases h

theorem Association.scalar_of_checkTarget {association : Association}
    (h : association.checkTarget = .ok ()) : association.target.isScalar = true := by
  unfold Association.checkTarget at h
  split at h
  · cases h
  · split at h
    · assumption
    · cases h

theorem Registry.proper_of_ofJson {document : Json} {registry : Registry}
    (wellFormed : document.WellFormed) (h : Registry.ofJson document = .ok registry) :
    ∃ entities, ProperEntities entities ∧ registry = ofEntities entities := by
  unfold Registry.ofJson at h
  split at h
  · rename_i models given
    have inner := wellFormed.of_get? given
    have specs := Json.wellFormedFields_iff.mp inner.2
    obtain ⟨entities, each, h⟩ := ok_of_bind h
    obtain ⟨_, checked, h⟩ := ok_of_bind h
    cases h
    have related := forall₂_of_mapM each
    refine ⟨entities, ⟨?_, ?_, ?_⟩, rfl⟩
    · have names : entities.map Entity.name = models.map Prod.fst :=
        map_key_of_forall₂ related fun _ _ read => (Entity.names_ofJson read).1
      rw [names]
      exact inner.1
    · intro entity member
      obtain ⟨model, known, read⟩ := exists_of_forall₂ related member
      exact (Entity.names_ofJson read).2 (specs model known)
    · intro entity member association declared
      have each := ok_of_forM (ok_of_forM checked entity member)
      exact Association.scalar_of_checkTarget (each association declared)
  · cases h

/-- The document in a file gives each name once, since a name that comes again replaces the first.
-/
theorem Registry.exists_document_of_load {folder : Folder} {path : Path} {registry : Registry}
    (h : Registry.load folder path = .ok registry) :
    ∃ document : Json, document.WellFormed ∧ Registry.ofJson document = .ok registry := by
  unfold Registry.load at h
  split at h
  · cases h
  · cases h
  · cases h
  · cases h
  · split at h
    · cases h
    · rename_i read
      exact ⟨_, Json.wellFormed_of_read read, h⟩

end FromDocument

section FromClasses

theorem Association.str_of_ofField? {field : Place} {association : Association}
    {literal : Option String} (h : Association.ofField? field = some (association, literal)) :
    ∃ name, association.target = .str name := by
  obtain ⟨decorator, -, found⟩ := List.exists_of_findSome?_eq_some h
  unfold Association.ofDecorator? at found
  dsimp only at found
  split at found
  · cases found
    exact ⟨_, rfl⟩
  · cases found

theorem str_of_mem_classAssociations {place : Place} {found : Association × Option String}
    (h : found ∈ classAssociations place) : ∃ name, found.1.target = .str name := by
  unfold classAssociations at h
  split at h
  · obtain ⟨field, -, declares⟩ := List.mem_filterMap.mp h
    exact Association.str_of_ofField? declares
  · cases h

/-- A class gives each association one name, and names its target. -/
structure Entity.FromClass (entity : Entity) : Prop where
  distinct : (entity.associations.map Association.name).Nodup
  targets : ∀ association ∈ entity.associations, ∃ name, association.target = .str name

theorem ModelClass.fromClass_of_ofPlace? {file : SourceFile} {place : Place} {model : ModelClass}
    (h : ModelClass.ofPlace? file place = some model) : model.entity.FromClass := by
  unfold ModelClass.ofPlace? at h
  split at h
  · dsimp only at h
    split at h
    · cases h
      dsimp only
      rw [Entity.putAssociation_eq]
      refine ⟨nodup_foldl_putByKey Association.name _ List.nodup_nil, ?_⟩
      intro association member
      rcases mem_of_mem_foldl_putByKey Association.name member with declared | old
      · obtain ⟨found, known, rfl⟩ := List.mem_map.mp declared
        exact str_of_mem_classAssociations known
      · cases old
    · cases h
  · cases h

theorem Entity.FromClass.rename {entity : Entity} (h : entity.FromClass) (models : List ModelClass)
    (literals : List String) : (entity.rename models literals).FromClass where
  distinct := by
    have same : Association.name ∘ Association.rename models literals = Association.name := rfl
    rw [Entity.rename, List.map_map, same]
    exact h.distinct
  targets := by
    intro association member
    obtain ⟨old, known, rfl⟩ := List.mem_map.mp member
    obtain ⟨name, target⟩ := h.targets old known
    exact ⟨modelNameOf models name, by simp only [Association.rename, target]⟩

namespace Registry

theorem names_addImplicit (entities : List Entity) (name : String) :
    (addImplicit entities name).map Entity.name =
      if name ∈ entities.map Entity.name then entities.map Entity.name
      else entities.map Entity.name ++ [name] := by
  by_cases known : name ∈ entities.map Entity.name
  · have any : (entities.any fun entity => entity.name == name) = true := by simpa using known
    rw [addImplicit, if_pos any, if_pos known]
  · have none : ¬(entities.any fun entity => entity.name == name) = true := by simpa using known
    rw [addImplicit, if_neg none, if_neg known]
    simp [Entity.bare]

theorem mem_of_mem_addImplicit {entities : List Entity} {name : String} {entity : Entity}
    (h : entity ∈ addImplicit entities name) : entity ∈ entities ∨ entity = .bare name := by
  rw [addImplicit] at h
  split at h
  · exact .inl h
  · simpa using h

theorem nodup_foldl_addImplicit (literals : List String) {entities : List Entity}
    (distinct : (entities.map Entity.name).Nodup) :
    ((literals.foldl addImplicit entities).map Entity.name).Nodup := by
  induction literals generalizing entities with
  | nil => exact distinct
  | cons name rest ih =>
    apply ih
    rw [names_addImplicit]
    exact nodup_extend name distinct

theorem forall_mem_foldl_addImplicit {P : Entity → Prop} (bare : ∀ name, P (.bare name))
    (literals : List String) {entities : List Entity} (all : ∀ entity ∈ entities, P entity) :
    ∀ entity ∈ literals.foldl addImplicit entities, P entity := by
  induction literals generalizing entities with
  | nil => exact all
  | cons name rest ih =>
    apply ih
    intro entity member
    rcases mem_of_mem_addImplicit member with old | rfl
    · exact all entity old
    · exact bare name

/-- The models that some classes declare, under the names of the registry, and then the models that
are only named. -/
def modelEntities (models : List ModelClass) : List Entity :=
  (models.flatMap ModelClass.literals).foldl addImplicit
    (((models.map ModelClass.entity).foldl putEntity []).map
      (Entity.rename models (models.flatMap ModelClass.literals)))

theorem ofModels_eq (models : List ModelClass) :
    ofModels models = ofEntities (modelEntities models) := rfl

/-- What holds of the models of classes, whatever their classes are renamed to, and of models that
are only named, holds of all models. -/
theorem forall_mem_modelEntities {P : Entity → Prop} {models : List ModelClass}
    (declared : ∀ model ∈ models, P model.entity)
    (renamed : ∀ entity literals, P entity → P (Entity.rename models literals entity))
    (bare : ∀ name, P (.bare name)) : ∀ entity ∈ modelEntities models, P entity := by
  apply forall_mem_foldl_addImplicit bare
  intro _ member
  obtain ⟨entity, kept, rfl⟩ := List.mem_map.mp member
  apply renamed
  rw [putEntity_eq] at kept
  rcases mem_of_mem_foldl_putByKey Entity.name kept with given | old
  · obtain ⟨model, known, rfl⟩ := List.mem_map.mp given
    exact declared model known
  · cases old

theorem nodup_modelEntities (models : List ModelClass) :
    ((modelEntities models).map Entity.name).Nodup := by
  apply nodup_foldl_addImplicit
  have names : (((models.map ModelClass.entity).foldl putEntity []).map Entity.name).Nodup := by
    rw [putEntity_eq]
    exact nodup_foldl_putByKey Entity.name _ List.nodup_nil
  simpa [Function.comp_def, Entity.rename] using names

theorem proper_ofModels {models : List ModelClass}
    (declared : ∀ model ∈ models, model.entity.FromClass) :
    ∃ entities, ProperEntities entities ∧ ofModels models = ofEntities entities := by
  have all : ∀ entity ∈ modelEntities models, entity.FromClass :=
    forall_mem_modelEntities declared (fun _ literals h => h.rename models literals)
      fun name => ⟨List.nodup_nil, by simp [Entity.bare]⟩
  refine ⟨modelEntities models, ⟨nodup_modelEntities models,
    fun entity member => (all entity member).distinct, ?_⟩, ofModels_eq models⟩
  intro entity member association declares
  obtain ⟨name, target⟩ := (all entity member).targets association declares
  rw [target]
  rfl

theorem proper_of_extract (files : List SourceFile) :
    ∃ entities, ProperEntities entities ∧ (extract files).1 = ofEntities entities := by
  apply proper_ofModels
  intro model member
  obtain ⟨file, -, here⟩ := List.mem_flatMap.mp member
  obtain ⟨place, -, found⟩ := List.mem_filterMap.mp here
  exact ModelClass.fromClass_of_ofPlace? found

end Registry

end FromClasses

/-- How a registry comes about: from a document, in which no name comes twice, from a file, or from
classes. -/
inductive Registry.Built : Registry → Prop
  | ofDocument {document : Json} {registry : Registry} (wellFormed : document.WellFormed)
      (read : Registry.ofJson document = .ok registry) : Built registry
  | loaded {folder : Folder} {path : Path} {registry : Registry}
      (load : Registry.load folder path = .ok registry) : Built registry
  | ofClasses (files : List SourceFile) : Built (Registry.extract files).1

theorem Registry.Built.proper {registry : Registry} (h : registry.Built) :
    ∃ entities, ProperEntities entities ∧ registry = ofEntities entities := by
  cases h with
  | ofDocument wellFormed read => exact proper_of_ofJson wellFormed read
  | loaded load =>
    obtain ⟨document, wellFormed, read⟩ := exists_document_of_load load
    exact proper_of_ofJson wellFormed read
  | ofClasses files => exact proper_of_extract files

/-- The graph of a registry shows the many-to-many associations that its models declare. -/
theorem Registry.Built.mem_manyToMany {registry : Registry} (h : registry.Built) {name : String}
    {association : Association} :
    association ∈ registry.manyToMany name ↔
      ∃ entity, registry.find? name = some entity ∧
        association ∈ entity.associations ∧ association.kind = .belongsToMany := by
  obtain ⟨entities, proper, rfl⟩ := h.proper
  exact mem_manyToMany_ofEntities proper

end LeastGrant
