import LeastGrant.Proofs.SavedRegistry

/-! What the references between model classes become in a registry. A decorator names the target of
an association by a class, and its join model by a class or by a string. Classes are replaced by the
names under which their models are registered, all at once, and of several classes of one name the
last one counts. A join model that is named by a string is registered under this string. -/
namespace LeastGrant

section Last

variable {α β : Type}

/-- The last of some items that satisfies `p`. -/
def IsLast (p : α → Prop) (items : List α) (last : α) : Prop :=
  p last ∧ ∃ before after, items = before ++ last :: after ∧ ∀ other ∈ after, ¬p other

theorem IsLast.mem {p : α → Prop} {items : List α} {last : α} (h : IsLast p items last) :
    last ∈ items := by
  obtain ⟨-, before, after, rfl, -⟩ := h
  simp

variable [BEq β] [LawfulBEq β] (key : α → β)

theorem find?_reverse_key {items : List α} {name : β} {last : α} :
    (items.reverse.find? fun item => key item == name) = some last ↔
      IsLast (fun item => key item = name) items last := by
  rw [List.find?_eq_some_iff_append, IsLast, beq_iff_eq]
  refine and_congr_right fun _ => ⟨fun h => ?_, fun h => ?_⟩
  · obtain ⟨after, before, split, none⟩ := h
    refine ⟨before.reverse, after.reverse, ?_, fun other member => ?_⟩
    · rw [← List.reverse_reverse items, split]
      simp
    · simpa using none other (List.mem_reverse.mp member)
  · obtain ⟨before, after, rfl, none⟩ := h
    refine ⟨after.reverse, before.reverse, by simp, fun other member => ?_⟩
    simpa using none other (List.mem_reverse.mp member)

theorem find?_reverse_key_none {items : List α} {name : β} :
    (items.reverse.find? fun item => key item == name) = none ↔
      ∀ item ∈ items, key item ≠ name := by
  simp

theorem isLast_of_filter {items : List α} {name : β} {last : α}
    (only : (items.filter fun item => key item == name) = [last]) :
    IsLast (fun item => key item = name) items last := by
  rw [← find?_reverse_key, ← List.head?_filter, List.filter_reverse, only]
  rfl

theorem exists_isLast {items : List α} {name : β} (h : ∃ item ∈ items, key item = name) :
    ∃ last, IsLast (fun item => key item = name) items last := by
  cases found : items.reverse.find? fun item => key item == name with
  | some last => exact ⟨last, (find?_reverse_key key).mp found⟩
  | none =>
    obtain ⟨item, member, same⟩ := h
    exact absurd same ((find?_reverse_key_none key).mp found item member)

end Last

section Written

namespace Node

/-- Whether a decorator declares an association. -/
def isAssociationDecorator (decorator : Node) : Bool :=
  (AssociationKind.ofName? decorator.decoratorCall.1).isSome && !decorator.decoratorCall.2.isEmpty

/-- The name of the association that a decorator of a field declares. -/
def associationName (decorator field : Node) : String :=
  (nonempty? ((decoratorOptions decorator.decoratorCall.2).literal? "as")).getD
    (field.childText .name)

/-- The target that a decorator names: the text of its first argument, without the function around
it. -/
def associationTarget? (decorator : Node) : Option String :=
  decorator.decoratorCall.2.head?.map fun first => first.unwrapThunk.text

/-- The expression for the join model: the second argument, unless this is an object, or an option.
-/
def joinExpression? (decorator : Node) : Option Node :=
  match decorator.decoratorCall.2 with
  | _ :: second :: _ =>
    if second.kind = .objectLiteral then
      (decoratorOptions decorator.decoratorCall.2).get? "through"
    else some second
  | _ => (decoratorOptions decorator.decoratorCall.2).get? "through"

/-- What names the join model in an expression: itself, or the model of an object, without the
functions around them. -/
def joinModelOf? (expression : Node) : Option Node :=
  if expression.unwrapThunk.kind = .objectLiteral then
    (expression.unwrapThunk.properties.get? "model").map unwrapThunk
  else some expression.unwrapThunk

/-- What names the join model in a decorator. -/
def joinModel? (decorator : Node) : Option Node := decorator.joinExpression?.bind joinModelOf?

/-- The join model that a decorator names by a string. -/
def joinLiteral? (decorator : Node) : Option String :=
  decorator.joinModel?.bind fun model => nonempty? model.stringValue?

/-- The join model that a decorator names by a class. -/
def joinClass? (decorator : Node) : Option String :=
  decorator.joinModel?.bind fun model =>
    if (nonempty? model.stringValue?).isNone then some model.text else none

end Node

namespace Place

/-- The decorator of a field that declares an association. -/
def associationDecorator? (field : Place) : Option Node :=
  field.decorators.find? Node.isAssociationDecorator

/-- The name of the association that a field declares. -/
def associationName? (field : Place) : Option String :=
  field.associationDecorator?.map fun decorator => decorator.associationName field.node

/-- The fields in the body of a class. -/
def modelFields (place : Place) : List Place :=
  match place.child? .body with
  | some body => body.children.filter fun member =>
      member.node.named && member.kind == .publicFieldDefinition
  | none => []

end Place

/-- The models that the classes of some files declare, with the places of the classes. -/
def modelPlaces (files : List SourceFile) : List (Place × ModelClass) :=
  files.flatMap fun file => (Place.all file.root).filterMap fun place =>
    (ModelClass.ofPlace? file place).map (Prod.mk place)

/-- The models that the classes of some files declare. -/
def modelClasses (files : List SourceFile) : List ModelClass := files.flatMap ModelClass.ofFile

/-- The join models that the classes of some files name by strings. -/
def joinLiterals (files : List SourceFile) : List String :=
  (modelPlaces files).flatMap fun entry => entry.1.modelFields.filterMap fun field =>
    field.associationDecorator?.bind fun decorator =>
      if AssociationKind.ofName? decorator.decoratorCall.1 = some .belongsToMany then
        decorator.joinLiteral?
      else none

/-- Where an association of a registry is declared: by a decorator of the last field of the name, in
the last class that declares the model. -/
inductive Origin (files : List SourceFile) (model name : String) : Node → Prop
  | intro {place field : Place} {declared : ModelClass} {decorator : Node}
      (isClass : IsLast (fun entry => entry.2.entity.name = model) (modelPlaces files)
        (place, declared))
      (isField : IsLast (fun field => field.associationName? = some name) place.modelFields field)
      (decorates : field.associationDecorator? = some decorator) :
      Origin files model name decorator

end Written

section Read

/-- A join reference names a model, directly or in an object. -/
def Refers (reference : Json) (name : String) : Prop :=
  reference = .str name ∨ reference = .obj [("model", .str name)]

theorem joinName?_of_refers {association : Association} {name : String}
    (refers : Refers association.through name) (nonempty : name ≠ "") :
    association.joinName? = some name := by
  rcases refers with direct | inObject
  · rw [Association.joinName?, direct]
    rfl
  · rw [Association.joinName?, inObject]
    simp [JoinReference.name?, Json.Fields.get?, nonempty]

theorem nonempty?_eq_some {text : Option String} {value : String} :
    nonempty? text = some value ↔ text = some value ∧ value ≠ "" := by
  cases text with
  | none => simp [nonempty?]
  | some text =>
    by_cases empty : text = ""
    · simp [nonempty?, empty]
    · rw [nonempty?, if_neg empty]
      refine ⟨fun same => ⟨same, Option.some.inj same ▸ empty⟩, And.left⟩

namespace JoinMention

theorem ofModel_eq {wrap : String → Json} (wraps : ∀ name, Refers (wrap name) name) (model : Node) :
    Refers (ofModel wrap model).reference ((nonempty? model.stringValue?).getD model.text) ∧
      (ofModel wrap model).literal = nonempty? model.stringValue? :=
  ⟨wraps _, rfl⟩

theorem ofNode_eq (expression : Node) :
    (∀ model, expression.joinModelOf? = some model →
      Refers (ofNode expression).reference ((nonempty? model.stringValue?).getD model.text)) ∧
    (ofNode expression).literal =
      expression.joinModelOf?.bind fun model => nonempty? model.stringValue? := by
  rw [ofNode, Node.joinModelOf?]
  by_cases isObject : expression.unwrapThunk.kind = .objectLiteral
  · rw [if_pos isObject, if_pos isObject]
    cases expression.unwrapThunk.properties.get? "model" with
    | none => exact ⟨by simp, rfl⟩
    | some model =>
      refine ⟨fun other same => ?_, rfl⟩
      cases same
      exact (ofModel_eq (fun name => .inr rfl) _).1
  · rw [if_neg isObject, if_neg isObject]
    refine ⟨fun other same => ?_, rfl⟩
    cases same
    exact (ofModel_eq (fun name => .inl rfl) _).1

/-- The join model that a decorator names, as it is read. -/
def ofDecorator (decorator : Node) : JoinMention :=
  ofArguments decorator.decoratorCall.2 (decoratorOptions decorator.decoratorCall.2)

theorem ofDecorator_eq (decorator : Node) :
    ofDecorator decorator = decorator.joinExpression?.elim none ofNode := by
  rw [ofDecorator, Node.joinExpression?]
  generalize decoratorOptions decorator.decoratorCall.2 = options
  cases decorator.decoratorCall.2 with
  | nil => cases found : options.get? "through" <;> simp [ofArguments, found]
  | cons first rest =>
    cases rest with
    | nil => cases found : options.get? "through" <;> simp [ofArguments, found]
    | cons second rest =>
      by_cases isObject : second.kind = .objectLiteral
      · cases found : options.get? "through" <;> simp [ofArguments, found, isObject]
      · simp [ofArguments, isObject]

theorem refers_ofDecorator {decorator model : Node} (names : decorator.joinModel? = some model) :
    Refers (ofDecorator decorator).reference
      ((nonempty? model.stringValue?).getD model.text) := by
  obtain ⟨expression, written, means⟩ := Option.bind_eq_some_iff.mp names
  rw [ofDecorator_eq, written]
  exact (ofNode_eq expression).1 model means

theorem literal_ofDecorator (decorator : Node) :
    (ofDecorator decorator).literal = decorator.joinLiteral? := by
  rw [ofDecorator_eq, Node.joinLiteral?, Node.joinModel?]
  cases decorator.joinExpression? with
  | none => rfl
  | some expression => exact (ofNode_eq expression).2

end JoinMention

namespace Association

/-- The association that a decorator is read as, before anything is renamed. -/
structure ReadAs (field decorator : Node) (association : Association) : Prop where
  name : association.name = decorator.associationName field
  kind : AssociationKind.ofName? decorator.decoratorCall.1 = some association.kind
  target : ∃ target, decorator.associationTarget? = some target ∧ association.target = .str target
  through : association.kind = .belongsToMany →
    association.through = (JoinMention.ofDecorator decorator).reference

theorem isSome_ofDecorator? (field decorator : Node) :
    (ofDecorator? field decorator).isSome = decorator.isAssociationDecorator := by
  rw [ofDecorator?, Node.isAssociationDecorator]
  dsimp only
  split
  · rename_i kind first rest known arguments
    simp [known, arguments]
  · rename_i unknown
    cases known : AssociationKind.ofName? decorator.decoratorCall.1 with
    | none => simp
    | some kind =>
      cases arguments : decorator.decoratorCall.2 with
      | nil => simp
      | cons first rest => exact absurd arguments (unknown kind first rest known)

theorem ofField?_eq (field : Place) :
    ofField? field = field.associationDecorator?.bind (ofDecorator? field.node) := by
  rw [ofField?, findSome?_eq_find?_bind, Place.associationDecorator?]
  simp only [isSome_ofDecorator?]

theorem readAs_of_ofDecorator? {field decorator : Node} {association : Association}
    {literal : Option String} (h : ofDecorator? field decorator = some (association, literal)) :
    association.ReadAs field decorator ∧
      literal = if AssociationKind.ofName? decorator.decoratorCall.1 = some .belongsToMany then
        decorator.joinLiteral? else none := by
  rw [ofDecorator?] at h
  dsimp only at h
  split at h
  · rename_i kind first rest known arguments
    cases h
    have target : decorator.associationTarget? = some first.unwrapThunk.text := by
      simp [Node.associationTarget?, arguments]
    refine ⟨⟨rfl, known, ⟨_, target, rfl⟩, fun many => ?_⟩, ?_⟩
    · dsimp only at many ⊢
      rw [if_pos many]
      rfl
    · rw [known]
      by_cases many : kind = .belongsToMany
      · rw [if_pos many, if_pos (congrArg some many), ← JoinMention.literal_ofDecorator]
        rfl
      · rw [if_neg many, if_neg (fun same => many (Option.some.inj same))]
        rfl
  · cases h

theorem exists_read_of_decorator {field : Place} {decorator : Node}
    (found : field.associationDecorator? = some decorator) :
    ∃ association literal, ofDecorator? field.node decorator = some (association, literal) := by
  have declares : decorator.isAssociationDecorator = true := List.find?_some found
  rw [← isSome_ofDecorator? field.node] at declares
  obtain ⟨⟨association, literal⟩, read⟩ := Option.isSome_iff_exists.mp declares
  exact ⟨association, literal, read⟩

end Association

theorem Place.associationName?_eq (field : Place) :
    field.associationName? = (Association.ofField? field).map fun found => found.1.name := by
  rw [Association.ofField?_eq, associationName?]
  cases found : field.associationDecorator? with
  | none => rfl
  | some decorator =>
    obtain ⟨association, literal, read⟩ := Association.exists_read_of_decorator found
    rw [Option.bind_some, read, Option.map_some, Option.map_some,
      (Association.readAs_of_ofDecorator? read).1.name]

theorem classAssociations_eq (place : Place) :
    classAssociations place = place.modelFields.filterMap Association.ofField? := by
  rw [classAssociations, Place.modelFields]
  cases place.child? .body <;> rfl

/-- What a class is read as. -/
structure ModelClass.ReadAs (place : Place) (model : ModelClass) : Prop where
  className : model.className ≠ ""
  name : model.entity.name ≠ ""
  associations : model.entity.associations =
    ((classAssociations place).map Prod.fst).foldl Entity.putAssociation []
  literals : model.literals = (classAssociations place).filterMap Prod.snd

theorem ModelClass.readAs_of_ofPlace? {file : SourceFile} {place : Place} {model : ModelClass}
    (h : ModelClass.ofPlace? file place = some model) : model.ReadAs place := by
  rw [ofPlace?] at h
  split at h
  · dsimp only at h
    split at h
    · rename_i known _
      obtain ⟨same, named⟩ := nonempty?_eq_some.mp known
      rw [← Option.some.inj same] at named
      cases h
      refine ⟨named, ?_, rfl, rfl⟩
      dsimp only
      cases own : nonempty? _ with
      | none => exact named
      | some name => exact (nonempty?_eq_some.mp own).2
    · cases h
  · cases h

theorem readAs_of_mem_modelPlaces {files : List SourceFile} {entry : Place × ModelClass}
    (h : entry ∈ modelPlaces files) : entry.2.ReadAs entry.1 := by
  obtain ⟨file, -, here⟩ := List.mem_flatMap.mp h
  obtain ⟨place, -, found⟩ := List.mem_filterMap.mp here
  obtain ⟨model, read, rfl⟩ := Option.map_eq_some_iff.mp found
  exact ModelClass.readAs_of_ofPlace? read

theorem modelPlaces_eq (files : List SourceFile) :
    modelPlaces files = files.flatMap fun file =>
      (Place.walk (fun _ => false) [] file.root).filterMap fun place =>
        (ModelClass.ofPlace? file place).map (Prod.mk place) := by
  simp only [modelPlaces, Place.all_eq_walk]

theorem modelClasses_eq (files : List SourceFile) :
    modelClasses files = files.flatMap fun file =>
      (Place.walk (fun _ => false) [] file.root).filterMap (ModelClass.ofPlace? file) := by
  refine List.flatMap_congr fun file _ => ?_
  rw [ModelClass.ofFile, Place.all_eq_walk]

theorem modelPlaces_map_snd (files : List SourceFile) :
    (modelPlaces files).map Prod.snd = modelClasses files := by
  rw [modelPlaces, modelClasses, List.map_flatMap]
  refine List.flatMap_congr fun file _ => ?_
  rw [List.map_filterMap, ModelClass.ofFile]
  refine List.filterMap_congr fun place _ => ?_
  rw [Option.map_map]
  exact Option.map_id'

/-- The join models named by strings are what the classes are read to name so. -/
theorem joinLiterals_eq (files : List SourceFile) :
    joinLiterals files = (modelClasses files).flatMap ModelClass.literals := by
  rw [joinLiterals, ← modelPlaces_map_snd, List.flatMap_map]
  refine List.flatMap_congr fun entry member => ?_
  rw [(readAs_of_mem_modelPlaces member).literals, classAssociations_eq, List.filterMap_filterMap]
  refine List.filterMap_congr fun field _ => ?_
  rw [Association.ofField?_eq]
  cases found : field.associationDecorator? with
  | none => rfl
  | some decorator =>
    obtain ⟨association, literal, read⟩ := Association.exists_read_of_decorator found
    rw [Option.bind_some, Option.bind_some, read, (Association.readAs_of_ofDecorator? read).2]
    rfl

/-- The association of a name is that of the last field of this name. -/
theorem ModelClass.ReadAs.association? {place : Place} {model : ModelClass}
    (readAs : model.ReadAs place) (name : String) :
    model.entity.association? name =
      (place.modelFields.reverse.find? fun field => field.associationName? == some name).bind
        fun field => (Association.ofField? field).map Prod.fst := by
  rw [Entity.association?, readAs.associations, Entity.putAssociation_eq, find?_foldl_putByKey,
    List.find?_nil, Option.or_none, classAssociations_eq, List.map_filterMap,
    ← List.filterMap_reverse, List.find?_filterMap]
  have same (field : Place) : (((Association.ofField? field).map Prod.fst).any fun association =>
      association.name == name) = (field.associationName? == some name) := by
    rw [Place.associationName?_eq]
    cases Association.ofField? field <;> simp
  simp only [same]

end Read

section Renamed

variable (models : List ModelClass) (literals : List String)

variable {models} in
theorem modelNameOf_of_isLast {className : String} {last : ModelClass}
    (h : IsLast (fun model => model.className = className) models last) :
    modelNameOf models className = last.entity.name := by
  rw [modelNameOf, (find?_reverse_key ModelClass.className).mpr h]

theorem Association.refers_rename {association : Association} {name : String}
    (refers : Refers association.through name) :
    Refers (association.rename models literals).through
      (if name ∈ literals then name else modelNameOf models name) := by
  rcases refers with direct | inObject
  · left
    simp [rename, direct]
  · right
    simp [rename, inObject]

theorem Entity.association?_rename (entity : Entity) (name : String) :
    (entity.rename models literals).association? name =
      (entity.association? name).map (Association.rename models literals) := by
  rw [Entity.association?, Entity.rename, List.find?_map]
  rfl

end Renamed

section Registered

namespace Registry

theorem find?_addImplicit (entities : List Entity) (literal name : String) :
    ((addImplicit entities literal).find? fun entity => entity.name == name) =
      (entities.find? fun entity => entity.name == name).or
        (if name = literal then some (.bare name) else none) := by
  rw [addImplicit]
  split
  · rename_i known
    by_cases same : name = literal
    · subst same
      obtain ⟨entity, found⟩ := Option.isSome_iff_exists.mp (List.find?_isSome.mpr
        (by simpa using known : ∃ entity, entity ∈ entities ∧ (entity.name == name) = true))
      rw [found]
      rfl
    · rw [if_neg same, Option.or_none]
  · rw [List.find?_append]
    by_cases same : name = literal
    · simp [same, Entity.bare]
    · simp [same, Ne.symm same, Entity.bare]

/-- A model that is only named is found if no other of its name is. -/
theorem find?_foldl_addImplicit (literals : List String) (entities : List Entity) (name : String) :
    ((literals.foldl addImplicit entities).find? fun entity => entity.name == name) =
      (entities.find? fun entity => entity.name == name).or
        (if name ∈ literals then some (.bare name) else none) := by
  induction literals generalizing entities with
  | nil => simp
  | cons literal rest ih =>
    rw [List.foldl_cons, ih, find?_addImplicit, Option.or_assoc]
    by_cases here : name = literal <;> by_cases later : name ∈ rest <;> simp [here, later]

/-- The model of a name in a registry that is read from classes: what the last class says that
declares it, or a model that is only named. -/
theorem find?_extract (files : List SourceFile) (name : String) :
    (extract files).1.find? name =
      (((modelClasses files).reverse.find? fun model => model.entity.name == name).map fun model =>
        model.entity.rename (modelClasses files) (joinLiterals files)).or
        (if name ∈ joinLiterals files then some (.bare name) else none) := by
  have entities : (extract files).1.entities = modelEntities (modelClasses files) := by
    show (ofModels (modelClasses files)).entities = _
    rw [ofModels_eq, entities_ofEntities, putEntity_eq,
      foldl_putByKey_of_nodup Entity.name (nodup_modelEntities _), List.nil_append]
  rw [find?, entities, modelEntities, ← joinLiterals_eq, find?_foldl_addImplicit, List.find?_map,
    putEntity_eq]
  have declared := find?_foldl_putByKey Entity.name ((modelClasses files).map ModelClass.entity) []
    name
  rw [List.find?_nil, Option.or_none, ← List.map_reverse, List.find?_map] at declared
  -- Renaming changes what a model refers to, not the name under which it is found.
  have kept : (fun entity : Entity => entity.name == name) ∘
      Entity.rename (modelClasses files) (joinLiterals files) = fun entity => entity.name == name :=
    rfl
  rw [kept, declared, Option.map_map]
  rfl

variable {files : List SourceFile} {name : String}

theorem find?_extract_of_isLast {declared : ModelClass}
    (h : IsLast (fun model => model.entity.name = name) (modelClasses files) declared) :
    (extract files).1.find? name =
      some (declared.entity.rename (modelClasses files) (joinLiterals files)) := by
  rw [find?_extract, (find?_reverse_key fun model : ModelClass => model.entity.name).mpr h]
  rfl

theorem find?_extract_of_literal
    (undeclared : ∀ model ∈ modelClasses files, model.entity.name ≠ name)
    (named : name ∈ joinLiterals files) : (extract files).1.find? name = some (.bare name) := by
  rw [find?_extract,
    (find?_reverse_key_none fun model : ModelClass => model.entity.name).mpr undeclared,
    if_pos named]
  rfl

theorem has_extract {model : ModelClass} (member : model ∈ modelClasses files) :
    (extract files).1.has model.entity.name = true := by
  obtain ⟨last, isLast⟩ := exists_isLast (fun model => model.entity.name) ⟨model, member, rfl⟩
  rw [has, find?_extract_of_isLast isLast]
  rfl

end Registry

theorem IsLast.map {α β : Type} {f : α → β} {p : β → Prop} {items : List α} {last : α}
    (h : IsLast (fun item => p (f item)) items last) : IsLast p (items.map f) (f last) := by
  obtain ⟨here, before, after, rfl, none⟩ := h
  refine ⟨here, before.map f, after.map f, by simp, ?_⟩
  simpa using none

variable {files : List SourceFile} {model name : String} {decorator : Node}

theorem isLast_modelClasses {entry : Place × ModelClass}
    (h : IsLast (fun entry => entry.2.entity.name = model) (modelPlaces files) entry) :
    IsLast (fun declared => declared.entity.name = model) (modelClasses files) entry.2 := by
  rw [← modelPlaces_map_snd]
  exact IsLast.map (p := fun declared : ModelClass => declared.entity.name = model) h

/-- An association that is declared stands in the registry, as its decorator is read and then
renamed. -/
theorem Origin.exists_association (origin : Origin files model name decorator) :
    ∃ entity written field, (Registry.extract files).1.find? model = some entity ∧
      entity.association? name =
        some (Association.rename (modelClasses files) (joinLiterals files) written) ∧
      written.ReadAs field decorator := by
  obtain ⟨isClass, isField, decorates⟩ := origin
  rename_i place field declared
  have readAs := readAs_of_mem_modelPlaces isClass.mem
  have named : field.associationName? = some name := isField.1
  rw [Place.associationName?_eq] at named
  obtain ⟨⟨written, literal⟩, read, -⟩ := Option.map_eq_some_iff.mp named
  refine ⟨_, written, field.node, Registry.find?_extract_of_isLast (isLast_modelClasses isClass),
    ?_, ?_⟩
  · rw [Entity.association?_rename, readAs.association?,
      (find?_reverse_key Place.associationName?).mpr isField, Option.bind_some, read]
    rfl
  · rw [Association.ofField?_eq, decorates, Option.bind_some] at read
    exact (Association.readAs_of_ofDecorator? read).1

/-- Every association of the registry is declared. -/
theorem exists_origin {entity : Entity} {association : Association}
    (found : (Registry.extract files).1.find? model = some entity)
    (declares : entity.association? name = some association) :
    ∃ decorator, Origin files model name decorator := by
  by_cases known : ∃ declared ∈ modelPlaces files, declared.2.entity.name = model
  · obtain ⟨⟨place, declared⟩, isClass⟩ :=
      exists_isLast (fun entry : Place × ModelClass => entry.2.entity.name) known
    rw [Registry.find?_extract_of_isLast (isLast_modelClasses isClass)] at found
    cases found
    rw [Entity.association?_rename,
      (readAs_of_mem_modelPlaces isClass.mem).association?] at declares
    obtain ⟨written, read, -⟩ := Option.map_eq_some_iff.mp declares
    obtain ⟨field, isField, reads⟩ := Option.bind_eq_some_iff.mp read
    obtain ⟨⟨written, literal⟩, reads, -⟩ := Option.map_eq_some_iff.mp reads
    rw [Association.ofField?_eq] at reads
    obtain ⟨decorator, decorates, -⟩ := Option.bind_eq_some_iff.mp reads
    exact ⟨decorator, .intro isClass ((find?_reverse_key Place.associationName?).mp isField)
      decorates⟩
  · have undeclared : ∀ declared ∈ modelClasses files, declared.entity.name ≠ model := by
      intro declared member same
      rw [← modelPlaces_map_snd] at member
      obtain ⟨entry, inPlaces, rfl⟩ := List.mem_map.mp member
      exact known ⟨entry, inPlaces, same⟩
    rw [Registry.find?_extract,
      (find?_reverse_key_none fun model : ModelClass => model.entity.name).mpr undeclared] at found
    -- A model that is only named has no associations.
    split at found
    · cases found
      cases declares
    · cases found

theorem Origin.mem_joinLiterals {literal : String} (origin : Origin files model name decorator)
    (many : AssociationKind.ofName? decorator.decoratorCall.1 = some .belongsToMany)
    (written : decorator.joinLiteral? = some literal) : literal ∈ joinLiterals files := by
  obtain ⟨isClass, isField, decorates⟩ := origin
  refine List.mem_flatMap.mpr ⟨_, isClass.mem, List.mem_filterMap.mpr ⟨_, isField.mem, ?_⟩⟩
  rw [decorates, Option.bind_some, if_pos many, written]

/-- The name of a join model that a decorator names by a class. -/
theorem Origin.joinName?_of_class {className : String} {declared : ModelClass}
    (origin : Origin files model name decorator)
    (many : AssociationKind.ofName? decorator.decoratorCall.1 = some .belongsToMany)
    (written : decorator.joinClass? = some className)
    (only : ((modelClasses files).filter fun declared => declared.className == className) =
      [declared]) :
    ∃ entity association, (Registry.extract files).1.find? model = some entity ∧
      entity.association? name = some association ∧
      association.joinName? =
        some (if className ∈ joinLiterals files then className else declared.entity.name) := by
  obtain ⟨entity, association, field, found, declares, readAs⟩ := origin.exists_association
  have isLast := isLast_of_filter ModelClass.className only
  obtain ⟨entry, inPlaces, rfl⟩ :=
    List.mem_map.mp ((modelPlaces_map_snd files).symm ▸ isLast.mem)
  have named := readAs_of_mem_modelPlaces inPlaces
  have refers : Refers association.through className := by
    obtain ⟨node, names, text⟩ := Option.bind_eq_some_iff.mp written
    obtain ⟨unwritten, same⟩ := Option.ite_none_right_eq_some.mp text
    have mentions := JoinMention.refers_ofDecorator names
    rw [Option.isNone_iff_eq_none.mp unwritten, Option.getD_none, Option.some.inj same] at mentions
    rwa [readAs.through (Option.some.inj (readAs.kind.symm.trans many))]
  have renamed := Association.refers_rename (modelClasses files) (joinLiterals files) refers
  rw [modelNameOf_of_isLast isLast] at renamed
  refine ⟨entity, _, found, declares, joinName?_of_refers renamed ?_⟩
  split
  · exact isLast.1 ▸ named.className
  · exact named.name

end Registered

/-- In a registry that is read from classes the references point at its models. The associations are
those that decorators declare. Where a decorator names a class of models as target, the target is
the model of the last class of this name. Where it names the join model by a string, this is the
name of the join model, be it declared by a class or only named. -/
theorem extract_points_at_models (files : List SourceFile) :
    (∀ model entity name association, (Registry.extract files).1.find? model = some entity →
      entity.association? name = some association →
        ∃ decorator, Origin files model name decorator) ∧
    ∀ model name decorator, Origin files model name decorator →
      ∃ entity association, (Registry.extract files).1.find? model = some entity ∧
        entity.association? name = some association ∧
        AssociationKind.ofName? decorator.decoratorCall.1 = some association.kind ∧
        (∀ target last, decorator.associationTarget? = some target →
          IsLast (fun declared => declared.className = target) (modelClasses files) last →
            association.target = .str last.entity.name ∧
              (Registry.extract files).1.has last.entity.name = true) ∧
        ∀ literal, association.kind = .belongsToMany → decorator.joinLiteral? = some literal →
          association.joinName? = some literal ∧
          (∀ declared,
            IsLast (fun declared => declared.entity.name = literal) (modelClasses files) declared →
              (Registry.extract files).1.find? literal =
                some (declared.entity.rename (modelClasses files) (joinLiterals files))) ∧
          ((∀ declared ∈ modelClasses files, declared.entity.name ≠ literal) →
            (Registry.extract files).1.find? literal = some (.bare literal)) := by
  refine ⟨fun model entity name association => exists_origin, fun model name decorator origin => ?_⟩
  obtain ⟨entity, written, field, found, declares, readAs⟩ := origin.exists_association
  refine ⟨entity, _, found, declares, readAs.kind, fun target last named isLast => ?_,
    fun literal many named => ?_⟩
  · obtain ⟨other, namedToo, target_eq⟩ := readAs.target
    cases named.symm.trans namedToo
    refine ⟨?_, Registry.has_extract isLast.mem⟩
    rw [Association.rename, target_eq]
    exact congrArg Json.str (modelNameOf_of_isLast isLast)
  · have isMany : written.kind = .belongsToMany := many
    have member : literal ∈ joinLiterals files :=
      origin.mem_joinLiterals (readAs.kind.trans (congrArg some isMany)) named
    obtain ⟨model, names, value⟩ := Option.bind_eq_some_iff.mp named
    have refers := JoinMention.refers_ofDecorator names
    rw [value, Option.getD_some, ← readAs.through isMany] at refers
    have renamed := Association.refers_rename (modelClasses files) (joinLiterals files) refers
    rw [if_pos member] at renamed
    exact ⟨joinName?_of_refers renamed (nonempty?_eq_some.mp value).2,
      fun declared => Registry.find?_extract_of_isLast,
      fun undeclared => Registry.find?_extract_of_literal undeclared member⟩

/-! Classes with decorators, each file in one line. -/
namespace Decorated

open Node (inLine)

def table (start : Nat) : Node :=
  inLine .decorator none start "@Table" [inLine .identifier none (start + 1) "Table" []]

/-- The decorator `@Table` with a name for the model, which is one letter. -/
def tableNamed (start : Nat) (model : String) : Node :=
  let option := inLine .pair none (start + 9) ("modelName: '" ++ model ++ "'")
    [inLine .propertyIdentifier (some .key) (start + 9) "modelName" [],
      inLine .stringLiteral (some .value) (start + 20) ("'" ++ model ++ "'") []]
  let options := inLine .objectLiteral none (start + 7) ("\x7b " ++ option.text ++ " \x7d") [option]
  let call := inLine .callExpression none (start + 1) ("Table(" ++ options.text ++ ")")
    [inLine .identifier (some .function) (start + 1) "Table" [],
      inLine .arguments (some .arguments) (start + 6) ("(" ++ options.text ++ ")") [options]]
  inLine .decorator none start ("@" ++ call.text) [call]

def thunk (name : String) (start : Nat) : Node :=
  inLine .arrowFunction none start ("() => " ++ name)
    [inLine (.other "formal_parameters") (some .parameters) start "()" [],
      inLine .identifier (some .body) (start + 6) name []]

def literal (value : String) (start : Nat) : Node :=
  inLine .stringLiteral none start ("'" ++ value ++ "'") []

/-- The decorator `@BelongsToMany`, whose target is one letter. -/
def belongsToMany (start : Nat) (target : String) (joinAt : Nat → Node) : Node :=
  let join := joinAt (start + 24)
  let list := "(() => " ++ target ++ ", " ++ join.text ++ ")"
  inLine .decorator none start ("@BelongsToMany" ++ list)
    [inLine .callExpression none (start + 1) ("BelongsToMany" ++ list)
      [inLine .identifier (some .function) (start + 1) "BelongsToMany" [],
        inLine .arguments (some .arguments) (start + 14) list [thunk target (start + 15), join]]]

def field (start : Nat) (decorator : Node) (name : String) : Node :=
  inLine .publicFieldDefinition none start (decorator.text ++ " " ++ name)
    [decorator,
      inLine .propertyIdentifier (some .name) (start + decorator.text.length + 1) name []]

def classOf (start : Nat) (decorator : Node) (name : String) (fields : List Node) : Node :=
  let body := "\x7b " ++ String.join (fields.map fun field => field.text ++ "; ") ++ "\x7d"
  inLine .classDeclaration none start (decorator.text ++ " class " ++ name ++ " " ++ body)
    [decorator,
      inLine .typeIdentifier (some .name) (start + decorator.text.length + 7) name [],
      inLine .classBody (some .body) (start + decorator.text.length + name.length + 8) body fields]

def fileOf (classes : List Node) : SourceFile :=
  .ofTree ⟨0, ["models.ts"]⟩ none
    (inLine .program none 0 (" ".intercalate (classes.map Node.text)) classes)

end Decorated

/-! Two classes that take each other's names as models. -/
namespace Swapped

open Decorated

def toB : Node := belongsToMany 37 "B" (literal "ab")

def classes : List Node :=
  [classOf 0 (tableNamed 0 "B") "A" [field 37 toB "x"], classOf 72 (tableNamed 72 "A") "B" []]

def files : List SourceFile := [fileOf classes]

theorem origin_x : Origin files "B" "x" toB := by
  refine .intro ⟨?_, [], [_], (modelPlaces_eq files).trans rfl, ?_⟩ ⟨?_, [], [], rfl, ?_⟩ ?_
  · rfl
  · decide +kernel
  · rfl
  · simp
  · rfl

end Swapped

theorem extract_points_at_models_swapped : ∃ entity association,
    (Registry.extract Swapped.files).1.find? "B" = some entity ∧
      entity.association? "x" = some association ∧ association.target = .str "A" ∧
      (Registry.extract Swapped.files).1.has "A" = true ∧ association.joinName? = some "ab" ∧
      (Registry.extract Swapped.files).1.find? "ab" = some (.bare "ab") := by
  obtain ⟨entity, association, found, declares, kind, target, join⟩ :=
    (extract_points_at_models Swapped.files).2 _ _ _ Swapped.origin_x
  have many : association.kind = .belongsToMany := (Option.some.inj kind).symm
  have renamed := target "B" _ rfl
    (isLast_of_filter ModelClass.className (by rw [modelClasses_eq]; rfl))
  obtain ⟨named, -, undeclared⟩ := join "ab" many rfl
  refine ⟨entity, association, found, declares, renamed.1, renamed.2, named, undeclared ?_⟩
  rw [modelClasses_eq]
  decide +kernel

/-- A join model that is named by a class has the name of the model of this class, unless some
string names a join model just like the class. In this case the name of the class stays. -/
theorem class_join_follows_model_iff {files : List SourceFile} {model name className : String}
    {decorator : Node} {declared : ModelClass}
    (origin : Origin files model name decorator)
    (many : AssociationKind.ofName? decorator.decoratorCall.1 = some .belongsToMany)
    (written : decorator.joinClass? = some className)
    (only : ((modelClasses files).filter fun declared => declared.className == className) =
      [declared]) :
    ∃ entity association, (Registry.extract files).1.find? model = some entity ∧
      entity.association? name = some association ∧
      (association.joinName? = some declared.entity.name ↔
        declared.entity.name = className ∨ className ∉ joinLiterals files) ∧
      (className ∈ joinLiterals files → association.joinName? = some className) := by
  obtain ⟨entity, association, found, declares, named⟩ :=
    origin.joinName?_of_class many written only
  refine ⟨entity, association, found, declares, ?_⟩
  rw [named]
  by_cases literal : className ∈ joinLiterals files
  · simp [literal, eq_comm]
  · simp [literal]

/-! A class whose name is given to a join model as a class and as a string. -/
namespace Mixed

open Decorated

def byText : Node := belongsToMany 63 "T" (literal "JoinModel")

def byClass : Node := belongsToMany 103 "T" (thunk "JoinModel")

def classes : List Node :=
  [classOf 0 (tableNamed 0 "J") "JoinModel" [],
    classOf 46 (table 46) "P" [field 63 byText "a", field 103 byClass "b"]]

def files : List SourceFile := [fileOf classes]

theorem origin_b : Origin files "P" "b" byClass := by
  refine .intro ⟨?_, [_], [], (modelPlaces_eq files).trans rfl, ?_⟩ ⟨?_, [_], [], rfl, ?_⟩ ?_
  · rfl
  · simp
  · rfl
  · simp
  · rfl

theorem joinClass?_byClass : byClass.joinClass? = some "JoinModel" := rfl

theorem joinModel_mem : "JoinModel" ∈ joinLiterals files := by
  rw [joinLiterals, modelPlaces_eq]
  decide +kernel

theorem exists_joinModel : ∃ declared,
    ((modelClasses files).filter fun declared => declared.className == "JoinModel") = [declared] ∧
      declared.entity.name = "J" := by
  rw [modelClasses_eq]
  exact ⟨_, rfl, rfl⟩

end Mixed

theorem class_join_follows_model_iff_b : ∃ entity association,
    (Registry.extract Mixed.files).1.find? "P" = some entity ∧
      entity.association? "b" = some association ∧
      association.joinName? = some "JoinModel" := by
  obtain ⟨declared, only, -⟩ := Mixed.exists_joinModel
  obtain ⟨entity, association, found, declares, -, named⟩ :=
    class_join_follows_model_iff Mixed.origin_b rfl Mixed.joinClass?_byClass only
  exact ⟨entity, association, found, declares, named Mixed.joinModel_mem⟩

/-- A join model that is named by a class need not have the name of the model of this class, even if
no other class has this name. -/
theorem class_join_not_always_model : ¬∀ files model name decorator className declared,
    Origin files model name decorator →
      AssociationKind.ofName? decorator.decoratorCall.1 = some .belongsToMany →
      decorator.joinClass? = some className →
      ((modelClasses files).filter fun declared => declared.className == className) = [declared] →
        ∃ entity association, (Registry.extract files).1.find? model = some entity ∧
          entity.association? name = some association ∧
          association.joinName? = some declared.entity.name := by
  intro follows
  obtain ⟨declared, only, name_eq⟩ := Mixed.exists_joinModel
  obtain ⟨entity, association, found, declares, followed⟩ :=
    follows _ _ _ _ _ _ Mixed.origin_b rfl Mixed.joinClass?_byClass only
  obtain ⟨sameEntity, sameAssociation, foundToo, declaresToo, named⟩ :=
    Mixed.origin_b.joinName?_of_class rfl Mixed.joinClass?_byClass only
  cases found.symm.trans foundToo
  cases declares.symm.trans declaresToo
  rw [if_pos Mixed.joinModel_mem, followed, name_eq] at named
  exact absurd named (by decide)

end LeastGrant
