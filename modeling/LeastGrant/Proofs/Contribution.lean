import LeastGrant.Analysis.Finding

/-! What a node contributes to the usage of the models, said by the parts of the node and by the model
that its receiver stands for. An import contributes a read of each model that it names. A call of a
write method contributes its writes to the model of the receiver. A call of a helper contributes to
the target of the association that it names, and to the join model if the association has one. -/
namespace LeastGrant

/-- An association joins through a model: it is many-to-many, and its reference names the model. -/
def Association.JoinsThrough (registry : Registry) (association : Association) (join : Entity) :
    Prop :=
  association.kind = .belongsToMany ∧
    ∃ name, association.joinName? = some name ∧ registry.get? name = some join

/-- An association leads to a model: its target is the name of the model. -/
def Association.LeadsTo (registry : Registry) (association : Association) (target : Entity) :
    Prop :=
  ∃ name, association.target = .str name ∧ registry.get? name = some target

theorem targetEntity?_eq_some {registry : Registry} {association : Association} {target : Entity} :
    targetEntity? registry association = some target ↔ association.LeadsTo registry target := by
  rw [targetEntity?_eq, Association.targetName?, Association.LeadsTo]
  cases association.target <;> simp

theorem joinEntity_eq_some {registry : Registry} {source : String} {association : Association}
    {join : Entity} :
    joinEntity registry source association = .ok (some join) ↔
      association.JoinsThrough registry join := by
  rw [joinEntity, Association.JoinsThrough]
  split
  · rename_i kind through
    simp [Association.joinName?, JoinReference.name?, through]
  · rename_i kind _
    rw [kind]
    cases named : association.joinName? with
    | none => simp
    | some name => cases found : registry.get? name <;> simp [found]
  · rename_i other _
    simp only [Except.ok.injEq, reduceCtorEq, false_iff, not_and]
    intro kind
    cases through : association.through <;> simp_all

/-- The writes of a helper to the target of an association, and to its join model if it has one. -/
inductive HelperEffect : (method : String) → (target : Writes) → (join : Option Writes) → Prop
  | addJoined : HelperEffect "$add" .none (some .inserting)
  | addDirect : HelperEffect "$add" .updating none
  | createJoined : HelperEffect "$create" .inserting (some .inserting)
  | createDirect : HelperEffect "$create" .inserting none
  | setJoined : HelperEffect "$set" .none (some ⟨true, true, true⟩)
  | setDirect : HelperEffect "$set" .updating none
  | removeJoined : HelperEffect "$remove" .none (some .deleting)
  | removeDirect : HelperEffect "$remove" .updating none

theorem Mixin.eq_of_ofName? {method : String} {mixin : Mixin}
    (h : Mixin.ofName? method = some mixin) :
    method = "$add" ∧ mixin = .add ∨ method = "$create" ∧ mixin = .create ∨
      method = "$set" ∧ mixin = .set ∨ method = "$remove" ∧ mixin = .remove := by
  unfold Mixin.ofName? at h
  split at h <;> simp_all

theorem helperEffect_iff {method : String} {target : Writes} {join : Option Writes} :
    HelperEffect method target join ↔
      ∃ mixin, Mixin.ofName? method = some mixin ∧
        mixin.writes join.isSome = (target, join.getD .none) := by
  constructor
  · rintro (_ | _)
    · exact ⟨.add, rfl, rfl⟩
    · exact ⟨.add, rfl, rfl⟩
    · exact ⟨.create, rfl, rfl⟩
    · exact ⟨.create, rfl, rfl⟩
    · exact ⟨.set, rfl, rfl⟩
    · exact ⟨.set, rfl, rfl⟩
    · exact ⟨.remove, rfl, rfl⟩
    · exact ⟨.remove, rfl, rfl⟩
  · rintro ⟨mixin, named, writes⟩
    rcases Mixin.eq_of_ofName? named with ⟨rfl, rfl⟩ | ⟨rfl, rfl⟩ | ⟨rfl, rfl⟩ | ⟨rfl, rfl⟩ <;>
      cases join <;> cases writes <;> constructor

/-- No helper is a write method as well. -/
theorem Writes.ofMethod?_of_mixin {method : String} {mixin : Mixin}
    (h : Mixin.ofName? method = some mixin) : Writes.ofMethod? method = Option.none := by
  rcases Mixin.eq_of_ofName? h with ⟨rfl, -⟩ | ⟨rfl, -⟩ | ⟨rfl, -⟩ | ⟨rfl, -⟩ <;> rfl

/-- An expression stands for a model. -/
def StandsFor (index : CodeIndex) (registry : Registry) (file : SourceFile) (expression : Place)
    (entity : Entity) : Prop :=
  (resolve registry (.of index file expression) Strategy.all).entity = some entity

/-- A call of the shape `receiver.method(...)`: what is called is a member of the receiver, and the
member is given by its plain name. -/
inductive CallsMember (call receiver : Place) (method : String) : Prop
  | intro {callee property : Place}
      (calls : call.child? .function = some callee)
      (access : callee.kind = .memberExpression)
      (object : callee.child? .object = some receiver)
      (member : callee.child? .property = some property)
      (plain : property.kind = .propertyIdentifier)
      (named : property.text = method)

theorem memberCall?_eq_some {call receiver : Place} {method : String} :
    call.memberCall? = some (receiver, method) ↔ CallsMember call receiver method := by
  constructor
  · intro found
    unfold Place.memberCall? at found
    split at found
    · rename_i callee calls
      split at found
      · rename_i access
        split at found
        · rename_i object property holds member
          obtain ⟨plain, same⟩ := Option.ite_none_right_eq_some.mp found
          obtain ⟨rfl, named⟩ := Prod.mk.inj (Option.some.inj same)
          exact .intro calls access holds member plain named
        · cases found
      · cases found
    · cases found
  · rintro ⟨calls, access, object, member, plain, rfl⟩
    simp [Place.memberCall?, calls, access, object, member, plain]

/-- A place is a call of a method on an expression that stands for a model. -/
def CallOn (index : CodeIndex) (registry : Registry) (file : SourceFile) (place : Place)
    (method : String) (entity : Entity) : Prop :=
  place.kind = .callExpression ∧ ∃ receiver, CallsMember place receiver method ∧
    StandsFor index registry file receiver entity

/-- The arguments of a call on an instance of `source` name an association that leads to `target`:
there are at least two, and the first is the name as a literal. -/
inductive NamesAssociation (registry : Registry) (call : Place) (source : Entity)
    (association : Association) (target : Entity) : Prop
  | intro {first second : Place} {rest : List Place} {name : String}
      (arguments : call.arguments = first :: second :: rest)
      (literal : first.node.stringValue? = some name)
      (named : source.association? name = some association)
      (leads : association.LeadsTo registry target)

/-- The module filter lets an import pass: there is no filter, or the import names no module that
can be read, or it names the wanted one. -/
def PassesFilter (only : Option String) (statement : Node) : Prop :=
  ∀ wanted actual, only = some wanted →
    (statement.child? .source).bind Node.stringValue? = some actual → actual = wanted

/-- A name in an import stands for a model: by the exported name, or else by the local one. -/
def ImportedName.StandsFor (registry : Registry) (name : ImportedName) (entity : Entity) : Prop :=
  registry.get? name.exported = some entity ∨
    registry.get? name.exported = none ∧
      ∃ localName, name.aliasName = some localName ∧ registry.get? localName = some entity

/-- What the node at a place contributes: writes to a model. What one node contributes has an order,
told by the turn: an import goes through its names, a helper comes to the target before the join
model. -/
inductive Contributes (index : CodeIndex) (registry : Registry) (only : Option String)
    (file : SourceFile) (place : Place) : (turn : Nat) → Entity → Writes → Prop
  | imported {turn : Nat} {name : ImportedName} {entity : Entity}
      (statement : place.kind = .importStatement) (passes : PassesFilter only place.node)
      (named : place.node.importedNames[turn]? = some name)
      (stands : name.StandsFor registry entity) :
      Contributes index registry only file place turn entity .none
  | written {method : String} {entity : Entity} {writes : Writes}
      (call : CallOn index registry file place method entity)
      (does : Writes.ofMethod? method = some writes) :
      Contributes index registry only file place 0 entity writes
  | direct {method : String} {source target : Entity} {association : Association} {writes : Writes}
      (call : CallOn index registry file place method source)
      (names : NamesAssociation registry place source association target)
      (alone : ∀ join, ¬association.JoinsThrough registry join)
      (effect : HelperEffect method writes none) :
      Contributes index registry only file place 0 target writes
  | target {method : String} {source target join : Entity} {association : Association}
      {writes joinWrites : Writes}
      (call : CallOn index registry file place method source)
      (names : NamesAssociation registry place source association target)
      (joins : association.JoinsThrough registry join)
      (effect : HelperEffect method writes (some joinWrites)) :
      Contributes index registry only file place 0 target writes
  | join {method : String} {source target join : Entity} {association : Association}
      {writes targetWrites : Writes}
      (call : CallOn index registry file place method source)
      (names : NamesAssociation registry place source association target)
      (joins : association.JoinsThrough registry join)
      (effect : HelperEffect method targetWrites (some writes)) :
      Contributes index registry only file place 1 join writes

theorem importCounts_iff {only : Option String} {statement : Node} :
    importCounts only statement = true ↔ PassesFilter only statement := by
  unfold importCounts PassesFilter
  cases only with
  | none => simp
  | some wanted => cases (statement.child? .source).bind Node.stringValue? <;> simp

theorem importedEntity?_eq_some {registry : Registry} {name : ImportedName} {entity : Entity} :
    importedEntity? registry name = some entity ↔ name.StandsFor registry entity := by
  unfold importedEntity? ImportedName.StandsFor
  cases exported : registry.get? name.exported with
  | some other => simp
  | none =>
    cases localName : name.aliasName with
    | none => simp [Registry.get?]
    | some text => simp

/-- What a call of a helper on an instance of `source` can come to. Without a usable join model only
the target is written. -/
inductive HelperOutcome (registry : Registry) (source : Entity) (mixin : Mixin) (method : String)
    (call : Place) (file : SourceFile) : Finding → Prop
  | tooFew (few : call.arguments.length < 2) :
      HelperOutcome registry source mixin method call file .nothing
  | notLiteral {first : Place} (given : first ∈ call.arguments.head?)
      (unreadable : first.node.stringValue? = none) :
      HelperOutcome registry source mixin method call file
        (.problem (.associationNameNotLiteral source.name method first.text) file first.node)
  | notFound {first : Place} {name : String} (given : first ∈ call.arguments.head?)
      (literal : first.node.stringValue? = some name) (unknown : source.association? name = none) :
      HelperOutcome registry source mixin method call file
        (.problem (.associationNotFound name source.name) file first.node)
  | noTarget {first : Place} {name : String} {association : Association}
      (given : first ∈ call.arguments.head?) (literal : first.node.stringValue? = some name)
      (named : source.association? name = some association)
      (nowhere : ∀ target, ¬association.LeadsTo registry target) :
      HelperOutcome registry source mixin method call file
        (.problem (.targetNotRegistered association.target name source.name) file call.node)
  | alone {association : Association} {target : Entity}
      (names : NamesAssociation registry call source association target)
      (none : joinEntity registry source.name association = .ok none) :
      HelperOutcome registry source mixin method call file
        ⟨[.of target (mixin.writes false).1], []⟩
  | broken {association : Association} {target : Entity} {problem : Problem}
      (names : NamesAssociation registry call source association target)
      (error : joinEntity registry source.name association = .error problem) :
      HelperOutcome registry source mixin method call file
        (Finding.append (.problem problem file call.node) ⟨[.of target (mixin.writes false).1], []⟩)
  | joined {association : Association} {target join : Entity}
      (names : NamesAssociation registry call source association target)
      (found : joinEntity registry source.name association = .ok (some join)) :
      HelperOutcome registry source mixin method call file
        ⟨[.of target (mixin.writes true).1, .of join (mixin.writes true).2], []⟩

theorem associationCall_outcome (registry : Registry) (source : Entity) {mixin : Mixin}
    {method : String} (call : Place) (file : SourceFile)
    (helper : Mixin.ofName? method = some mixin) :
    HelperOutcome registry source mixin method call file
      (associationCall registry source method call file) := by
  rw [associationCall]
  rcases call.few_or_two_arguments with few | ⟨first, second, rest, arguments⟩
  · rw [associationCallM_of_few _ _ _ _ few]
    exact .tooFew few
  rw [associationCallM_of_two _ _ _ _ arguments, namedAssociationM]
  have given : first ∈ call.arguments.head? := by simp [arguments]
  cases literal : first.node.stringValue? with
  | none => exact .notLiteral given literal
  | some name =>
    cases named : source.association? name with
    | none =>
      simp only [named]
      exact .notFound given literal named
    | some association =>
      simp only [named, Id.run_bind, run_targetEntityM?]
      cases leads : targetEntity? registry association with
      | none =>
        refine .noTarget given literal named fun target leadsTo => ?_
        rw [targetEntity?_eq_some.mpr leadsTo] at leads
        cases leads
      | some target =>
        have names : NamesAssociation registry call source association target :=
          .intro arguments literal named (targetEntity?_eq_some.mp leads)
        simp only [Id.run_pure, helperFinding, helper]
        cases join : joinEntity registry source.name association with
        | error problem => exact .broken names join
        | ok found =>
          cases found with
          | none => exact .alone names join
          | some entity => exact .joined names join

theorem TrackedMethod.ofName?_eq_mixin {method : String} {mixin : Mixin} :
    TrackedMethod.ofName? method = some (.mixin mixin) ↔ Mixin.ofName? method = some mixin := by
  unfold TrackedMethod.ofName?
  cases Mixin.ofName? method <;> simp

theorem TrackedMethod.ofName?_eq_write {method : String} {writes : Writes} :
    TrackedMethod.ofName? method = some (.write writes) ↔
      Writes.ofMethod? method = some writes := by
  unfold TrackedMethod.ofName?
  cases helper : Mixin.ofName? method with
  | none => simp
  | some mixin => simp [Writes.ofMethod?_of_mixin helper]

section Calls

variable {index : CodeIndex} {registry : Registry} {file : SourceFile} {call receiver : Place}
  {method : String}

theorem callFinding_of_write {entity : Entity} {writes : Writes}
    (member : CallsMember call receiver method)
    (stands : StandsFor index registry file receiver entity)
    (does : Writes.ofMethod? method = some writes) :
    callFinding index registry file call =
      ⟨[.of entity writes], (resolve registry (.of index file receiver) Strategy.all).notes⟩ := by
  rw [StandsFor] at stands
  rw [callFinding, callFindingM, memberCall?_eq_some.mpr member]
  simp only [TrackedMethod.ofName?_eq_write.mpr does, Id.run_bind, Receiver.run_ofM, run_resolveM,
    stands]
  exact congrArg (Finding.mk [.of entity writes]) (List.append_nil _)

theorem callFinding_of_helper {source : Entity} {mixin : Mixin}
    (member : CallsMember call receiver method)
    (stands : StandsFor index registry file receiver source)
    (helper : Mixin.ofName? method = some mixin) :
    callFinding index registry file call =
      Finding.append ⟨[], (resolve registry (.of index file receiver) Strategy.all).notes⟩
        (associationCall registry source method call file) := by
  rw [StandsFor] at stands
  rw [callFinding, callFindingM, memberCall?_eq_some.mpr member]
  simp only [TrackedMethod.ofName?_eq_mixin.mpr helper, Id.run_bind, Receiver.run_ofM, run_resolveM,
    stands]
  rfl

theorem callFinding_of_unresolved {tracked : TrackedMethod}
    (member : CallsMember call receiver method)
    (known : TrackedMethod.ofName? method = some tracked)
    (none : (resolve registry (.of index file receiver) Strategy.all).entity = none) :
    callFinding index registry file call =
      ⟨[], (resolve registry (.of index file receiver) Strategy.all).notes⟩ := by
  rw [callFinding, callFindingM, memberCall?_eq_some.mpr member]
  simp only [known, Id.run_bind, Receiver.run_ofM, run_resolveM, none]
  exact congrArg (Finding.mk []) (List.append_nil _)

/-- Calls of other methods, and calls of anything but a member, are passed over. -/
theorem callFinding_of_untracked
    (untracked : ∀ receiver method, CallsMember call receiver method →
      TrackedMethod.ofName? method = none) :
    callFinding index registry file call = .nothing := by
  unfold callFinding callFindingM
  split
  · rfl
  · rename_i receiver method member
    rw [untracked receiver method (memberCall?_eq_some.mp member)]
    rfl

/-- A call of a write method is one use of the model that the receiver stands for. -/
theorem uses_callFinding_of_write {entity : Entity} {writes : Writes}
    (member : CallsMember call receiver method)
    (stands : StandsFor index registry file receiver entity)
    (does : Writes.ofMethod? method = some writes) :
    (callFinding index registry file call).uses = [.of entity writes] := by
  rw [callFinding_of_write member stands does]

theorem uses_callFinding_of_helper {source : Entity} {mixin : Mixin}
    (member : CallsMember call receiver method)
    (stands : StandsFor index registry file receiver source)
    (helper : Mixin.ofName? method = some mixin) :
    (callFinding index registry file call).uses =
      (associationCall registry source method call file).uses := by
  rw [callFinding_of_helper member stands helper]
  rfl

theorem associationCall_of_names {source target : Entity} {association : Association}
    (names : NamesAssociation registry call source association target) :
    associationCall registry source method call file =
      helperFinding registry source method call file association target := by
  obtain ⟨arguments, literal, named, leads⟩ := names
  rw [associationCall, associationCallM_of_two _ _ _ _ arguments, namedAssociationM, literal]
  simp only [named, Id.run_bind, run_targetEntityM?, targetEntity?_eq_some.mpr leads, Id.run_pure]

theorem uses_associationCall_of_join {source target join : Entity} {association : Association}
    {mixin : Mixin} (names : NamesAssociation registry call source association target)
    (joins : association.JoinsThrough registry join) (helper : Mixin.ofName? method = some mixin) :
    (associationCall registry source method call file).uses =
      [.of target (mixin.writes true).1, .of join (mixin.writes true).2] := by
  rw [associationCall_of_names names]
  simp [helperFinding, helper, joinEntity_eq_some.mpr joins, Finding.append, Finding.nothing,
    mixinUses]

theorem uses_associationCall_of_alone {source target : Entity} {association : Association}
    {mixin : Mixin} (names : NamesAssociation registry call source association target)
    (alone : ∀ join, ¬association.JoinsThrough registry join)
    (helper : Mixin.ofName? method = some mixin) :
    (associationCall registry source method call file).uses =
      [.of target (mixin.writes false).1] := by
  rw [associationCall_of_names names]
  simp only [helperFinding, helper]
  cases join : joinEntity registry source.name association with
  | error problem => simp [Finding.append, Finding.problem, mixinUses]
  | ok found =>
    cases found with
    | none => simp [Finding.append, Finding.nothing, mixinUses]
    | some entity => exact absurd (joinEntity_eq_some.mp join) (alone entity)

/-- Each contribution of a call is the use at its turn. -/
theorem use_of_contributes {only : Option String} {turn : Nat} {entity : Entity} {writes : Writes}
    (isCall : call.kind = .callExpression)
    (h : Contributes index registry only file call turn entity writes) :
    (callFinding index registry file call).uses[turn]? = some (.of entity writes) := by
  cases h with
  | imported statement => rw [isCall] at statement; cases statement
  | written on does =>
    obtain ⟨-, receiver, member, stands⟩ := on
    rw [uses_callFinding_of_write member stands does]
    rfl
  | direct on names alone effect =>
    obtain ⟨-, receiver, member, stands⟩ := on
    obtain ⟨mixin, helper, effects⟩ := helperEffect_iff.mp effect
    rw [uses_callFinding_of_helper member stands helper,
      uses_associationCall_of_alone names alone helper]
    simp only [Option.isSome_none] at effects
    simp [effects]
  | target on names joins effect =>
    obtain ⟨-, receiver, member, stands⟩ := on
    obtain ⟨mixin, helper, effects⟩ := helperEffect_iff.mp effect
    rw [uses_callFinding_of_helper member stands helper,
      uses_associationCall_of_join names joins helper]
    simp only [Option.isSome_some] at effects
    simp [effects]
  | join on names joins effect =>
    obtain ⟨-, receiver, member, stands⟩ := on
    obtain ⟨mixin, helper, effects⟩ := helperEffect_iff.mp effect
    rw [uses_callFinding_of_helper member stands helper,
      uses_associationCall_of_join names joins helper]
    simp only [Option.isSome_some] at effects
    simp [effects]

theorem contributes_of_helper_use (only : Option String) {source : Entity} {mixin : Mixin}
    {finding : Finding} {turn : Nat} {use : Use}
    (on : CallOn index registry file call method source)
    (helper : Mixin.ofName? method = some mixin)
    (outcome : HelperOutcome registry source mixin method call file finding)
    (h : finding.uses[turn]? = some use) :
    ∃ entity writes, use = .of entity writes ∧
      Contributes index registry only file call turn entity writes := by
  -- Without a join model the target is written, whether or not a problem is reported.
  have direct {association : Association} {target : Entity}
      (names : NamesAssociation registry call source association target)
      (alone : ∀ join, joinEntity registry source.name association ≠ .ok (some join))
      (single : [Use.of target (mixin.writes false).1][turn]? = some use) :
      ∃ entity writes, use = .of entity writes ∧
        Contributes index registry only file call turn entity writes := by
    obtain ⟨rfl, rfl⟩ : turn = 0 ∧ use = .of target (mixin.writes false).1 := by
      cases turn <;> simp_all
    refine ⟨target, _, rfl, .direct on names (fun join joins => ?_)
      (helperEffect_iff.mpr ⟨mixin, helper, ?_⟩)⟩
    · exact alone join (joinEntity_eq_some.mpr joins)
    · cases mixin <;> rfl
  cases outcome with
  | tooFew => simp [Finding.nothing] at h
  | notLiteral => simp [Finding.problem] at h
  | notFound => simp [Finding.problem] at h
  | noTarget => simp [Finding.problem] at h
  | alone names none => exact direct names (by simp [none]) h
  | broken names error => exact direct names (by simp [error]) h
  | @joined association target join names found =>
    have joins := joinEntity_eq_some.mp found
    have effect : HelperEffect method (mixin.writes true).1 (some (mixin.writes true).2) :=
      helperEffect_iff.mpr ⟨mixin, helper, rfl⟩
    match turn, h with
    | 0, h =>
      cases h
      exact ⟨target, _, rfl, .target on names joins effect⟩
    | 1, h =>
      cases h
      exact ⟨join, _, rfl, .join on names joins effect⟩

/-- Each use in what is found at a call is a contribution of the call. -/
theorem contributes_of_use (only : Option String) {turn : Nat} {use : Use}
    (isCall : call.kind = .callExpression)
    (h : (callFinding index registry file call).uses[turn]? = some use) :
    ∃ entity writes, use = .of entity writes ∧
      Contributes index registry only file call turn entity writes := by
  by_cases untracked : ∀ receiver method, CallsMember call receiver method →
      TrackedMethod.ofName? method = none
  · rw [callFinding_of_untracked untracked] at h
    cases h
  simp only [Classical.not_forall] at untracked
  obtain ⟨receiver, method, member, tracked⟩ := untracked
  obtain ⟨known, tracked⟩ := Option.ne_none_iff_exists'.mp tracked
  cases found : (resolve registry (.of index file receiver) Strategy.all).entity with
  | none =>
    rw [callFinding_of_unresolved member tracked found] at h
    cases h
  | some source =>
    have on : CallOn index registry file call method source := ⟨isCall, receiver, member, found⟩
    cases known with
    | write writes =>
      have does := TrackedMethod.ofName?_eq_write.mp tracked
      rw [uses_callFinding_of_write member found does] at h
      obtain ⟨rfl, rfl⟩ : turn = 0 ∧ use = .of source writes := by
        cases turn <;> simp_all
      exact ⟨source, writes, rfl, .written on does⟩
    | mixin mixin =>
      have helper := TrackedMethod.ofName?_eq_mixin.mp tracked
      rw [uses_callFinding_of_helper member found helper] at h
      exact contributes_of_helper_use only on helper
        (associationCall_outcome registry source call file helper) h

end Calls

namespace Registry

variable {registry : Registry} {name : String} {entity : Entity}

theorem find?_name (h : registry.find? name = some entity) :
    registry.find? entity.name = some entity := by
  have named : entity.name = name := by simpa using List.find?_some h
  rw [named, h]

theorem find?_name_of_get? (h : registry.get? name = some entity) :
    registry.find? entity.name = some entity := by
  rw [get?] at h
  split at h
  · cases h
  · exact find?_name h

end Registry

theorem find?_name_of_resolve {registry : Registry} {receiver : Receiver}
    {strategies : List Strategy} {entity : Entity}
    (h : (resolve registry receiver strategies).entity = some entity) :
    registry.find? entity.name = some entity := by
  induction strategies with
  | nil => cases h
  | cons strategy rest ih =>
    cases answered : strategy.answer? registry receiver with
    | some name =>
      rw [resolve_of_answer answered] at h
      exact Registry.find?_name h
    | none =>
      rw [resolve_of_silent answered] at h
      exact ih h

/-- Only models of the registry get contributions. -/
theorem Contributes.find?_name {index : CodeIndex} {registry : Registry} {only : Option String}
    {file : SourceFile} {place : Place} {turn : Nat} {entity : Entity} {writes : Writes}
    (h : Contributes index registry only file place turn entity writes) :
    registry.find? entity.name = some entity := by
  have leads {call : Place} {source target : Entity} {association : Association}
      (names : NamesAssociation registry call source association target) :
      registry.find? target.name = some target := by
    obtain ⟨-, -, -, name, -, found⟩ := names
    exact Registry.find?_name_of_get? found
  cases h with
  | imported _ _ _ stands =>
    rcases stands with found | ⟨-, _, -, found⟩ <;> exact Registry.find?_name_of_get? found
  | written on =>
    obtain ⟨-, _, -, stands⟩ := on
    exact find?_name_of_resolve stands
  | direct _ names => exact leads names
  | target _ names => exact leads names
  | join _ _ joins =>
    obtain ⟨-, _, -, found⟩ := joins
    exact Registry.find?_name_of_get? found

end LeastGrant
