import LeastGrant.Analysis.Resolve
import LeastGrant.Usage.Store

/-! What single nodes of a source contribute to the usage of the models. Only two shapes contribute:
an import of models by name, and a call of a tracked method. -/
namespace LeastGrant

/-- Uses of models, and notes. -/
structure Finding where
  uses : List Use
  notes : List Note

namespace Finding

def nothing : Finding := ⟨[], []⟩

def append (a b : Finding) : Finding := ⟨a.uses ++ b.uses, a.notes ++ b.notes⟩

def problem (problem : Problem) (file : SourceFile) (node : Node) : Finding :=
  ⟨[], [.diagnosed ⟨problem, some (file.location node), some node.text⟩]⟩

def diagnostics (finding : Finding) : List Diagnostic := Note.diagnostics finding.notes

/-- Adds the uses of a finding to a store. -/
def addTo (store : UsageStore) (finding : Finding) : UsageStore :=
  finding.uses.foldl UsageStore.add store

end Finding

/-- The join model of an association: none where there is none to find, otherwise a model or what is
wrong with the reference. `source` is the name of the model that declares the association. -/
def joinEntity (registry : Registry) (source : String) (association : Association) :
    Except Problem (Option Entity) :=
  match association.kind, association.through with
  | .belongsToMany, .null => .ok none
  | .belongsToMany, through =>
    match association.joinName? with
    | none => .error (.throughInvalid through association.name source)
    | some name =>
      match registry.get? name with
      | some entity => .ok (some entity)
      | none => .error (.throughUnresolved name association.name source)
  | _, _ => .ok none

/-- The uses that a helper method makes of the target of an association and of its join model. -/
def mixinUses (mixin : Mixin) (target : Entity) : Option Entity → List Use
  | some join =>
    [.of target (mixin.writes true).1, .of join (mixin.writes true).2]
  | none => [.of target (mixin.writes false).1]

/-- What a call of a method on an instance of a model does to the models of an association with a
target. A method that is no helper is a problem of its own, and reads the models all the same. -/
def helperFinding (registry : Registry) (entity : Entity) (method : String) (call : Place)
    (file : SourceFile) (association : Association) (target : Entity) : Finding :=
  let join := joinEntity registry entity.name association
  let joinProblem := match join with
    | .ok _ => Finding.nothing
    | .error problem => .problem problem file call.node
  let joined := match join with
    | .ok found => found
    | .error _ => none
  match Mixin.ofName? method with
  | some mixin => Finding.append joinProblem ⟨mixinUses mixin target joined, []⟩
  | none =>
    Finding.append (Finding.append joinProblem
      ⟨.of target .none :: (joined.toList.map fun entity => .of entity .none), []⟩)
      (.problem (.unknownMixin method) file call.node)

section Associations

variable {m : Type → Type} [Lookups m]

/-- The target of an association as a key among names. Values with parts cannot be keys at all, and
other values than texts are keys that no name equals. -/
def Association.targetKeyM? (association : Association) : m (Option String) := do
  let key := if association.target.isScalar then some association.targetName? else none
  return (← Lookups.expect (.key association.target) key).join

/-- A value that cannot be a key is no name either. -/
@[simp] theorem Association.run_targetKeyM? (association : Association) :
    Id.run association.targetKeyM? = association.targetName? := by
  show Option.join (if association.target.isScalar then some association.targetName? else none) = _
  rw [targetName?]
  cases association.target <;> rfl

/-- The model that an association leads to. -/
def targetEntityM? (registry : Registry) (association : Association) : m (Option Entity) := do
  if association.target.isSet then return (← association.targetKeyM?).bind registry.get?
  else return none

def targetEntity? (registry : Registry) (association : Association) : Option Entity :=
  Id.run (targetEntityM? registry association)

@[simp] theorem run_targetEntityM? (registry : Registry) (association : Association) :
    Id.run (targetEntityM? registry association) = targetEntity? registry association :=
  rfl

theorem targetEntity?_eq (registry : Registry) (association : Association) :
    targetEntity? registry association = association.targetName?.bind registry.get? := by
  rw [targetEntity?, targetEntityM?]
  split
  · rw [Id.run_bind, association.run_targetKeyM?, Id.run_pure]
  · rename_i unset
    rw [Association.targetName?]
    cases target : association.target with
    | str name =>
      have empty : name = "" := by simpa [target, Json.isSet] using unset
      rw [empty]
      rfl
    | _ => rfl

/-- A call on an instance of a model, where `first` should name an association. -/
def namedAssociationM (registry : Registry) (entity : Entity) (method : String) (call : Place)
    (file : SourceFile) (first : Node) : m Finding := do
  match first.stringValue? with
  | none => return .problem (.associationNameNotLiteral entity.name method first.text) file first
  | some name =>
    match entity.association? name with
    | none => return .problem (.associationNotFound name entity.name) file first
    | some association =>
      match ← targetEntityM? registry association with
      | none =>
        return .problem (.targetNotRegistered association.target name entity.name) file call.node
      | some target => return helperFinding registry entity method call file association target

/-- A call on an instance of a model with the name of an association as first argument. -/
def associationCallM (registry : Registry) (entity : Entity) (method : String) (call : Place)
    (file : SourceFile) : m Finding := do
  let arguments := call.arguments.map Place.node
  if arguments.length < 2 then return .nothing
  else
    match ← Lookups.element arguments 0 with
    | some first => namedAssociationM registry entity method call file first
    | none => return .nothing

theorem Place.few_or_two_arguments (call : Place) :
    call.arguments.length < 2 ∨ ∃ first second rest, call.arguments = first :: second :: rest := by
  rcases call.arguments with _ | ⟨first, _ | ⟨second, rest⟩⟩
  · exact .inl (by simp)
  · exact .inl (by simp)
  · exact .inr ⟨first, second, rest, rfl⟩

theorem associationCallM_of_few (registry : Registry) (entity : Entity) (method : String)
    {call : Place} (file : SourceFile) (few : call.arguments.length < 2) :
    associationCallM registry entity method call file = (pure .nothing : m Finding) := by
  rw [associationCallM, List.length_map, if_pos few]

theorem associationCallM_of_two (registry : Registry) (entity : Entity) (method : String)
    {call first second : Place} {rest : List Place} (file : SourceFile)
    (arguments : call.arguments = first :: second :: rest) :
    associationCallM registry entity method call file =
      (namedAssociationM registry entity method call file first.node : m Finding) := by
  rw [associationCallM, arguments]
  exact (congrArg (· >>= _) (Lookups.element_eq_pure rfl)).trans (pure_bind _ _)

def associationCall (registry : Registry) (entity : Entity) (method : String) (call : Place)
    (file : SourceFile) : Finding :=
  Id.run (associationCallM registry entity method call file)

@[simp] theorem run_associationCallM (registry : Registry) (entity : Entity) (method : String)
    (call : Place) (file : SourceFile) :
    Id.run (associationCallM registry entity method call file) =
      associationCall registry entity method call file :=
  rfl

end Associations

/-- The model of an imported name: that of the exported name, or else that of the local one. -/
def importedEntity? (registry : Registry) (name : ImportedName) : Option Entity :=
  (registry.get? name.exported).orElse fun _ => registry.get? (name.aliasName.getD "")

/-- Whether an import counts: its module is the one asked for, or it has no readable module. -/
def importCounts (only : Option String) (statement : Node) : Bool :=
  match only, (statement.child? .source).bind Node.stringValue? with
  | some wanted, some actual => actual == wanted
  | _, _ => true

/-- An import reads the models that it names. -/
def importFinding (registry : Registry) (only : Option String) (statement : Node) : Finding :=
  if importCounts only statement then
    ⟨(statement.importedNames.filterMap (importedEntity? registry)).map (Use.of · .none), []⟩
  else .nothing

section Calls

variable {m : Type → Type} [Lookups m]

/-- A call of a tracked method writes to the model of its receiver, or through an association. -/
def callFindingM (index : CodeIndex) (registry : Registry) (file : SourceFile) (call : Place) :
    m Finding := do
  match call.memberCall? with
  | none => return .nothing
  | some (receiver, method) =>
    match TrackedMethod.ofName? method with
    | none => return .nothing
    | some tracked =>
      let resolution ← resolveM registry (← Receiver.ofM index file receiver) Strategy.all
      let found ← match resolution.entity, tracked with
        | none, _ => pure .nothing
        | some entity, .write writes => pure ⟨[.of entity writes], []⟩
        | some entity, .mixin _ => associationCallM registry entity method call file
      return Finding.append ⟨[], resolution.notes⟩ found

def callFinding (index : CodeIndex) (registry : Registry) (file : SourceFile) (call : Place) :
    Finding :=
  Id.run (callFindingM index registry file call)

/-- What a node contributes. -/
def findingAtM (index : CodeIndex) (registry : Registry) (only : Option String)
    (file : SourceFile) (place : Place) : m Finding := do
  match place.kind with
  | .importStatement => return importFinding registry only place.node
  | .callExpression => callFindingM index registry file place
  | _ => return .nothing

def findingAt (index : CodeIndex) (registry : Registry) (only : Option String) (file : SourceFile)
    (place : Place) : Finding :=
  Id.run (findingAtM index registry only file place)

theorem findingAt_of_import (index : CodeIndex) (registry : Registry) (only : Option String)
    (file : SourceFile) {place : Place} (statement : place.kind = .importStatement) :
    findingAt index registry only file place = importFinding registry only place.node := by
  rw [findingAt, findingAtM, statement]
  rfl

end Calls

end LeastGrant
