import LeastGrant.Proofs.CallOutcome
import LeastGrant.Proofs.LocalNames
import LeastGrant.Proofs.RunStates
import LeastGrant.Proofs.SavedRegistry

/-! An analysis finds whatever it looks up. Its steps leave open what happens where a lookup of a
model, of a record, of the base of a heritage entry or of a position in a list misses, or where a key
is none that a table can have. On files that name the types they extend nothing of this happens, and
so all ways to take the steps are the same: they do nothing but give what the analysis gives. -/
namespace LeastGrant

variable {m : Type → Type} [Lookups m]

section Loops

variable {α β σ : Type}

theorem findSomeM?_eq_pure {f : α → m (Option β)} {g : α → Id (Option β)} {items : List α}
    (each : ∀ item ∈ items, f item = pure (Id.run (g item))) :
    items.findSomeM? f = pure (Id.run (items.findSomeM? g)) := by
  induction items with
  | nil => rfl
  | cons item rest ih =>
    have others := ih fun other member => each other (List.mem_cons_of_mem _ member)
    rw [List.findSomeM?, List.findSomeM?, each item List.mem_cons_self, pure_bind, Id.run_bind]
    cases Id.run (g item) with
    | none => exact others
    | some found => rfl

theorem mapM_eq_pure {f : α → m β} {g : α → Id β} {items : List α}
    (each : ∀ item ∈ items, f item = pure (Id.run (g item))) :
    items.mapM f = pure (Id.run (items.mapM g)) := by
  induction items with
  | nil => rfl
  | cons item rest ih =>
    have others := ih fun other member => each other (List.mem_cons_of_mem _ member)
    rw [List.mapM_cons, List.mapM_cons, each item List.mem_cons_self, pure_bind, others, pure_bind]
    rfl

/-- A loop whose steps find what they look up in the states that satisfy `P`, and lead to such states
again. -/
theorem foldlM_eq_pure {P : σ → Prop} {f : σ → α → m σ} {g : σ → α → Id σ} {items : List α}
    (each : ∀ item ∈ items, ∀ state, P state →
      f state item = pure (Id.run (g state item)) ∧ P (Id.run (g state item)))
    {start : σ} (first : P start) :
    items.foldlM f start = pure (Id.run (items.foldlM g start)) ∧
      P (Id.run (items.foldlM g start)) := by
  induction items generalizing start with
  | nil => exact ⟨rfl, first⟩
  | cons item rest ih =>
    obtain ⟨step, next⟩ := each item List.mem_cons_self start first
    obtain ⟨run, last⟩ := ih (fun other member => each other (List.mem_cons_of_mem _ member)) next
    refine ⟨?_, last⟩
    rw [List.foldlM_cons, step, pure_bind]
    exact run

end Loops

theorem Registry.Built.scalar {registry : Registry} {name : String} {entity : Entity}
    (built : registry.Built) (found : registry.find? name = some entity) :
    ∀ association ∈ entity.associations, association.target.isScalar = true := by
  obtain ⟨entities, proper, rfl⟩ := built.proper
  exact proper.scalar entity (Registry.find?_ofEntities proper |>.mp found).1

theorem UsageStore.GrowsTo.has {earlier later : UsageStore} (grows : earlier.GrowsTo later)
    {name : String} (h : earlier.has name = true) : later.has name = true := by
  obtain ⟨record, member, rfl⟩ := has_iff_record.mp h
  obtain ⟨position, found⟩ := List.mem_iff_getElem?.mp member
  obtain ⟨new, foundNew, grown⟩ := grows position record found
  exact has_iff_record.mpr ⟨new, List.mem_of_getElem? foundNew, grown.entity⟩

section Types

theorem Heritage.baseNameM?_eq_pure {entry : Heritage} (h : entry.base.isSome = true) :
    entry.baseNameM? = (pure entry.baseName? : m _) := by
  obtain ⟨node, known⟩ := Option.isSome_iff_exists.mp h
  rw [baseName?, baseNameM?, baseNameM?, known, Lookups.expect_some, Lookups.expect_some,
    pure_bind]
  rfl

/-- Every entry in the heritage of a declaration has a base. -/
def Declaration.Named (declaration : Declaration) : Prop :=
  ∀ entry ∈ Heritage.ofDeclaration declaration.node, entry.base.isSome = true

namespace CodeIndex

def Named (index : CodeIndex) : Prop := ∀ declaration ∈ index.declarations, declaration.Named

variable {index : CodeIndex}

theorem mem_declarations {type : String} {declaration : Declaration}
    (h : declaration ∈ index.declarationsOf type) : declaration ∈ index.declarations :=
  (List.mem_filter.mp h).1

theorem memberM?_eq_pure (named : index.Named) (steps : Nat) (type name : String) :
    index.memberM? steps type name = (pure (index.member? steps type name) : m _) := by
  induction steps generalizing type with
  | zero => rfl
  | succ steps ih =>
    rw [member?, memberM?, memberM?]
    refine findSomeM?_eq_pure fun declaration member => ?_
    by_cases members : declaration.hasMembers = true
    · rw [if_pos members, if_pos members]
      cases Member.inDeclaration? declaration.node name with
      | some found => rfl
      | none =>
        refine findSomeM?_eq_pure fun entry listed => ?_
        rw [Heritage.baseNameM?_eq_pure (named declaration (mem_declarations member) entry listed),
          pure_bind, Id.run_bind, Heritage.run_baseNameM?]
        cases entry.baseName? with
        | none => rfl
        | some base => exact ih base
    · rw [if_neg members, if_neg members]
      rfl

theorem fieldTypeM_eq_pure (named : index.Named) (steps : Nat) (owner : Option StaticType)
    (name : String) :
    index.fieldTypeM steps owner name = (pure (index.fieldType steps owner name) : m _) := by
  rw [fieldType, fieldTypeM, fieldTypeM]
  cases owner.bind StaticType.symbol with
  | none => rfl
  | some type =>
    dsimp only
    rw [memberM?_eq_pure named, pure_bind, Id.run_bind, run_memberM?]
    rcases index.member? steps type name with _ | _ | _ <;> rfl

theorem methodTypeM_eq_pure (named : index.Named) (steps : Nat) (owner : Option StaticType)
    (name : String) :
    index.methodTypeM steps owner name = (pure (index.methodType steps owner name) : m _) := by
  cases owner with
  | none => rfl
  | some owner =>
    rw [methodType, methodTypeM, methodTypeM]
    cases owner.symbol with
    | none => rfl
    | some type =>
      dsimp only
      rw [memberM?_eq_pure named, pure_bind, Id.run_bind, run_memberM?]
      rcases index.member? steps type name with _ | _ | _ <;> rfl

/-- There is a last operand if there are two. -/
theorem castTypeM_eq_pure (expression : Node) :
    castTypeM expression = (pure (Id.run (castTypeM expression)) : m _) := by
  rw [castTypeM, castTypeM]
  by_cases two : 1 < expression.operands.length
  · have inside : expression.operands.length - 1 < expression.operands.length := by omega
    have last := List.getElem?_eq_getElem inside
    rw [if_pos two, if_pos two, Lookups.element_eq_pure last, Lookups.element_eq_pure last, pure_bind]
    rfl
  · rw [if_neg two, if_neg two]
    rfl

theorem assertedTypeM_eq_pure (expression : Node) :
    assertedTypeM expression = (pure (Id.run (assertedTypeM expression)) : m _) := by
  rw [assertedTypeM, assertedTypeM]
  cases expression.namedChildren.find? fun child => child.kind == .typeArguments with
  | none => rfl
  | some list =>
    dsimp only
    rw [Lookups.first?_eq_pure, Lookups.first?_eq_pure, pure_bind]
    rfl

end CodeIndex

namespace TypeSource

variable {index : CodeIndex}

theorem ofPlaceM_eq_pure (index : CodeIndex) (path : Path) (place : Place) :
    ofPlaceM index path place = (pure (ofPlace index path place) : m _) := by
  rw [ofPlace, ofPlaceM, ofPlaceM]
  cases place.kind with
  | parenthesizedExpression | nonNullExpression | satisfiesExpression | awaitExpression =>
    dsimp only
    rw [Lookups.first?_eq_pure, Lookups.first?_eq_pure, pure_bind]
    rfl
  | asExpression =>
    dsimp only
    rw [CodeIndex.castTypeM_eq_pure, pure_bind]
    rfl
  | typeAssertion =>
    dsimp only
    rw [CodeIndex.assertedTypeM_eq_pure, pure_bind]
    rfl
  | _ => rfl

theorem deriveM_eq_pure (named : index.Named) (steps : Nat) (found : Option StaticType)
    (source : TypeSource) :
    source.deriveM index steps found = (pure (source.derive index steps found) : m _) := by
  cases source with
  | field _ name => exact CodeIndex.fieldTypeM_eq_pure named steps found name
  | result _ name => exact CodeIndex.methodTypeM_eq_pure named (steps + 1) found name
  | _ => rfl

end TypeSource

theorem CodeIndex.typeWithinM_eq_pure {index : CodeIndex} (named : index.Named) (path : Path)
    (steps : Nat) (place : Place) :
    index.typeWithinM path steps place = (pure (index.typeWithin path steps place) : m _) := by
  induction steps generalizing place with
  | zero => rfl
  | succ steps ih =>
    rw [typeWithin_succ, typeWithinM, TypeSource.ofPlaceM_eq_pure, pure_bind]
    cases (TypeSource.ofPlace index path place).next? with
    | none => exact TypeSource.deriveM_eq_pure named steps none _
    | some next =>
      dsimp only [Option.bind_some]
      rw [ih, pure_bind]
      exact TypeSource.deriveM_eq_pure named steps _ _

end Types

section Steps

variable {index : CodeIndex} {registry : Registry}

theorem Receiver.ofM_eq_pure (named : index.Named) (file : SourceFile) (place : Place) :
    ofM index file place = (pure (of index file place) : m _) := by
  rw [of, ofM, ofM, CodeIndex.typeWithinM_eq_pure named, pure_bind]
  rfl

namespace Strategy

theorem entryModelM?_eq_pure {entry : Heritage} (h : entry.base.isSome = true) :
    entryModelM? registry entry = (pure (Id.run (entryModelM? registry entry)) : m _) := by
  obtain ⟨node, known⟩ := Option.isSome_iff_exists.mp h
  rw [entryModelM?, entryModelM?]
  cases entry.arguments.findSome? fun argument => registered? registry argument.text with
  | some name => rfl
  | none =>
    dsimp only
    rw [known, Lookups.expect_some, Lookups.expect_some, pure_bind, pure_bind]
    dsimp only
    cases node.kind <;> rfl

theorem answerM?_eq_pure {receiver : Receiver}
    (named : ∀ declaration ∈ receiver.declarations, declaration.Named) (strategy : Strategy) :
    strategy.answerM? registry receiver = (pure (strategy.answer? registry receiver) : m _) := by
  cases strategy with
  | heritage =>
    refine findSomeM?_eq_pure fun declaration member => ?_
    rw [heritageModelM?, heritageModelM?]
    split
    · exact findSomeM?_eq_pure fun entry listed =>
        entryModelM?_eq_pure (named declaration member entry listed)
    · rfl
  | _ => rfl

end Strategy

/-- A strategy that answers names a model of the registry. -/
theorem resolveM_eq_pure {receiver : Receiver}
    (named : ∀ declaration ∈ receiver.declarations, declaration.Named) (strategies : List Strategy) :
    resolveM registry receiver strategies = (pure (resolve registry receiver strategies) : m _) := by
  induction strategies with
  | nil => rfl
  | cons strategy rest ih =>
    rw [resolveM, Strategy.answerM?_eq_pure named, pure_bind]
    cases answered : strategy.answer? registry receiver with
    | none =>
      dsimp only
      rw [ih, pure_bind, resolve_of_silent answered]
    | some name =>
      obtain ⟨entity, found⟩ := Option.isSome_iff_exists.mp (Strategy.has_of_answer? answered)
      dsimp only
      rw [found, Lookups.expect_some, pure_bind, resolve_of_answer answered, found]

theorem Association.targetKeyM?_eq_pure {association : Association}
    (h : association.target.isScalar = true) :
    association.targetKeyM? = (pure association.targetName? : m _) := by
  rw [targetKeyM?, if_pos h, Lookups.expect_some, pure_bind]
  rfl

theorem targetEntityM?_eq_pure {association : Association}
    (h : association.target.isScalar = true) :
    targetEntityM? registry association = (pure (targetEntity? registry association) : m _) := by
  rw [targetEntity?, targetEntityM?, targetEntityM?]
  split
  · rw [Association.targetKeyM?_eq_pure h, pure_bind, Id.run_bind, association.run_targetKeyM?]
    rfl
  · rfl

theorem associationCallM_eq_pure {entity : Entity}
    (scalar : ∀ association ∈ entity.associations, association.target.isScalar = true)
    (method : String) (call : Place) (file : SourceFile) :
    associationCallM registry entity method call file =
      (pure (associationCall registry entity method call file) : m _) := by
  rw [associationCall]
  rcases call.few_or_two_arguments with few | ⟨first, second, rest, given⟩
  · rw [associationCallM_of_few _ _ _ _ few, associationCallM_of_few _ _ _ _ few]
    rfl
  · rw [associationCallM_of_two _ _ _ _ given, associationCallM_of_two _ _ _ _ given,
      namedAssociationM, namedAssociationM]
    cases first.node.stringValue? with
    | none => rfl
    | some name =>
      dsimp only
      cases known : entity.association? name with
      | none => rfl
      | some association =>
        have declared : association ∈ entity.associations := List.mem_of_find?_eq_some known
        dsimp only
        rw [targetEntityM?_eq_pure (scalar association declared), pure_bind, Id.run_bind,
          run_targetEntityM?]
        cases targetEntity? registry association <;> rfl

theorem mem_declarations_of_receiver {file : SourceFile} {place : Place} {declaration : Declaration}
    (h : declaration ∈ (Receiver.of index file place).declarations) :
    declaration ∈ index.declarations := by
  rw [Receiver.declarations_of] at h
  cases named : (index.typeOf file.path place).bind StaticType.symbol with
  | none =>
    rw [named] at h
    exact absurd h List.not_mem_nil
  | some symbol =>
    rw [named] at h
    exact CodeIndex.mem_declarations h

theorem callFindingM_eq_pure (built : registry.Built) (named : index.Named) (file : SourceFile)
    (call : Place) :
    callFindingM index registry file call =
      (pure (callFinding index registry file call) : m _) := by
  rw [callFinding, callFindingM, callFindingM]
  cases call.memberCall? with
  | none => rfl
  | some parts =>
    obtain ⟨place, method⟩ := parts
    dsimp only
    cases TrackedMethod.ofName? method with
    | none => rfl
    | some tracked =>
      have listed : ∀ declaration ∈ (Receiver.of index file place).declarations,
          declaration.Named :=
        fun declaration member => named declaration (mem_declarations_of_receiver member)
      dsimp only
      rw [Receiver.ofM_eq_pure named, pure_bind, resolveM_eq_pure listed, pure_bind, Id.run_bind,
        Id.run_bind, Receiver.run_ofM, run_resolveM]
      cases stands : (resolve registry (.of index file place) Strategy.all).entity with
      | none =>
        dsimp only
        rw [pure_bind]
        rfl
      | some entity =>
        cases tracked with
        | write writes =>
          dsimp only
          rw [pure_bind]
          rfl
        | mixin helper =>
          have scalar := Registry.Built.scalar built (find?_name_of_resolve stands)
          dsimp only
          rw [associationCallM_eq_pure scalar, pure_bind]
          rfl

theorem findingAtM_eq_pure (built : registry.Built) (named : index.Named) (only : Option String)
    (file : SourceFile) (place : Place) :
    findingAtM index registry only file place =
      (pure (findingAt index registry only file place) : m _) := by
  rw [findingAt, findingAtM, findingAtM]
  cases place.kind with
  | callExpression => exact callFindingM_eq_pure built named file place
  | _ => rfl

theorem traverseM_eq_pure (built : registry.Built) (named : index.Named) (only : Option String)
    (files : List SourceFile) :
    traverseM index registry only files = (pure (traverse index registry only files) : m _) := by
  have found : findingsM index registry only files =
      (pure (findings index registry only files) : m _) := by
    rw [findings, findingsM, findingsM, mapM_eq_pure fun file _ =>
      mapM_eq_pure fun place _ => findingAtM_eq_pure built named only file place, pure_bind]
    rfl
  rw [traverseM, found, pure_bind, traverse_eq]

theorem joinFindingM_eq_pure {store later : UsageStore} (source : String) {association : Association}
    (scalar : association.target.isScalar = true) (grows : store.GrowsTo later) :
    joinFindingM registry store.names later source association =
      (pure (Id.run (joinFindingM registry store.names later source association)) : m _) := by
  have target : discoveredTargetM? store.names later association =
      (pure (discoveredTarget? store.names later association) : m _) := by
    rw [discoveredTarget?_eq, discoveredTargetM?, Association.targetKeyM?_eq_pure scalar, pure_bind]
    cases association.targetName? with
    | none => rfl
    | some name =>
      dsimp only [Option.bind_some]
      split
      · rename_i known
        have there : store.has name = true :=
          UsageStore.has_iff.mpr (List.contains_iff_mem.mp known)
        obtain ⟨record, found⟩ := Option.isSome_iff_exists.mp (grows.has there)
        rw [found, Lookups.expect_some]
      · rfl
  rw [joinFindingM, joinFindingM, target, pure_bind, Id.run_bind, run_discoveredTargetM?]
  cases discoveredTarget? store.names later association with
  | none => rfl
  | some target =>
    dsimp only
    rcases joinEntity registry source association with problem | _ | join
    · rfl
    · rfl
    · dsimp only
      split <;> rfl

/-- The pass keeps all records of the store that it starts with, and looks up no others. -/
theorem completeJoinsM_eq_pure (built : registry.Built) (store : UsageStore) :
    completeJoinsM registry store = (pure (completeJoins registry store) : m _) := by
  have start : store.GrowsTo ((store, []) : UsageStore × List Note).1 := .refl store
  refine (foldlM_eq_pure (P := fun state => store.GrowsTo state.1)
    (fun source _ state grows => ?_) start).1
  refine foldlM_eq_pure (P := fun between : UsageStore × List Note => store.GrowsTo between.1)
    (fun association listed between grown => ?_) grows
  obtain ⟨entity, found, declared, -⟩ := built.mem_manyToMany.mp listed
  refine ⟨?_, grown.trans (growsTo_joinStep registry store.names source between association)⟩
  rw [joinStepM, joinFindingM_eq_pure source (built.scalar found association declared) grown,
    pure_bind]
  rfl

theorem analyzeM_eq_pure (built : registry.Built) {files : List SourceFile}
    (named : (CodeIndex.ofFiles files).Named) (only : Option String) :
    analyzeM registry only files = (pure (analyze registry only files) : m _) := by
  rw [analyzeM, traverseM_eq_pure built named only files, pure_bind, completeJoinsM_eq_pure built,
    pure_bind, analyze_eq]

end Steps

section Trees

namespace Node

theorem mem_preorderAll {node : Node} {trees : List Node} :
    node ∈ preorderAll trees ↔ ∃ tree ∈ trees, node ∈ tree.preorder := by
  induction trees with
  | nil => simp [preorderAll]
  | cons tree rest ih => simp [preorderAll, ih]

mutual
theorem mem_preorder_of_child {node child : Node} (below : child ∈ node.children) (root : Node)
    (h : node ∈ root.preorder) : child ∈ root.preorder := by
  cases root with
  | mk label children =>
    rw [preorder, List.mem_cons] at h ⊢
    right
    rcases h with rfl | h
    · exact mem_preorderAll.mpr ⟨child, below, by rw [preorder_eq]; exact List.mem_cons_self⟩
    · exact mem_preorderAll_of_child below children h

theorem mem_preorderAll_of_child {node child : Node} (below : child ∈ node.children)
    (trees : List Node) (h : node ∈ preorderAll trees) : child ∈ preorderAll trees := by
  cases trees with
  | nil => simp [preorderAll] at h
  | cons tree rest =>
    rw [preorderAll, List.mem_append] at h ⊢
    rcases h with h | h
    · exact .inl (mem_preorder_of_child below tree h)
    · exact .inr (mem_preorderAll_of_child below rest h)
end

/-- Each generic type in a clause that extends or implements types has a name. -/
def HeritageNamed (root : Node) : Prop :=
  ∀ clause ∈ root.preorder,
    clause.kind = .extendsClause ∨ clause.kind = .implementsClause ∨
      clause.kind = .extendsTypeClause →
    ∀ type ∈ clause.children, type.kind = .genericType → (type.child? .name).isSome = true

instance (root : Node) : Decidable root.HeritageNamed :=
  inferInstanceAs (Decidable (∀ clause ∈ root.preorder, _ → ∀ type ∈ clause.children, _ → _))

end Node

namespace Heritage

theorem isSome_base_ofTypes {clause : Node}
    (named : ∀ type ∈ clause.children, type.kind = .genericType → (type.child? .name).isSome = true) :
    ∀ entry ∈ ofTypes clause, entry.base.isSome = true := by
  intro entry member
  obtain ⟨type, operand, rfl⟩ := List.mem_map.mp member
  rw [ofType]
  split
  · rename_i generic
    exact named type (List.mem_of_mem_filter operand) generic
  · rfl

theorem isSome_base_extend {entries : List Heritage}
    (before : ∀ entry ∈ entries, entry.base.isSome = true) (operand : Node) :
    ∀ entry ∈ extend entries operand, entry.base.isSome = true := by
  cases entries with
  | nil => simp [extend]
  | cons last earlier =>
    have kept := List.forall_mem_cons.mp before
    rw [extend]
    split
    · exact List.forall_mem_cons.mpr ⟨kept.1, kept.2⟩
    · exact List.forall_mem_cons.mpr ⟨rfl, before⟩

theorem isSome_base_ofExpressions (clause : Node) :
    ∀ entry ∈ ofExpressions clause, entry.base.isSome = true := by
  have all (operands : List Node) {entries : List Heritage}
      (before : ∀ entry ∈ entries, entry.base.isSome = true) :
      ∀ entry ∈ operands.foldl extend entries, entry.base.isSome = true := by
    induction operands generalizing entries with
    | nil => exact before
    | cons operand rest ih => exact ih (isSome_base_extend before operand)
  intro entry member
  exact all clause.operands (by simp) entry (List.mem_reverse.mp member)

theorem isSome_base_ofClassHeritage {root heritage : Node} (named : root.HeritageNamed)
    (inside : heritage ∈ root.preorder) :
    ∀ entry ∈ ofClassHeritage heritage, entry.base.isSome = true := by
  intro entry member
  rw [ofClassHeritage] at member
  split at member
  · obtain ⟨clause, operand, member⟩ := List.mem_flatMap.mp member
    have below := Node.mem_preorder_of_child (List.mem_of_mem_filter operand) root inside
    split at member
    · exact isSome_base_ofExpressions clause entry member
    · rename_i kind
      exact isSome_base_ofTypes (named clause below (.inr (.inl kind))) entry member
    · exact absurd member List.not_mem_nil
  · obtain ⟨operand, -, rfl⟩ := List.mem_map.mp member
    rfl

theorem isSome_base_ofDeclaration {root declaration : Node} (named : root.HeritageNamed)
    (inside : declaration ∈ root.preorder) :
    ∀ entry ∈ ofDeclaration declaration, entry.base.isSome = true := by
  intro entry member
  obtain ⟨child, listed, member⟩ := List.mem_flatMap.mp member
  have below := Node.mem_preorder_of_child (List.mem_of_mem_filter listed) root inside
  split at member
  · exact isSome_base_ofClassHeritage named below entry member
  · rename_i kind
    exact isSome_base_ofTypes (named child below (.inr (.inr kind))) entry member
  · rename_i kind
    exact isSome_base_ofTypes (named child below (.inl kind)) entry member
  · exact absurd member List.not_mem_nil

end Heritage

theorem CodeIndex.named_ofFiles {files : List SourceFile}
    (named : ∀ file ∈ files, file.root.HeritageNamed) : (CodeIndex.ofFiles files).Named := by
  intro declaration member
  obtain ⟨file, given, member⟩ := List.mem_flatMap.mp member
  obtain ⟨node, inside, declares⟩ := List.mem_filterMap.mp member
  have same : declaration.node = node := by
    unfold Declaration.ofNode? at declares
    split at declares
    · dsimp only at declares
      split at declares
      · cases declares
      · cases declares
        rfl
    · cases declares
  rw [Declaration.Named, same]
  exact Heritage.isSome_base_ofDeclaration (named file given) inside

end Trees

/-- On a registry that was read from a document or a file or made from classes, an analysis of files
whose generic base types have names finds a model for each name that a strategy answers, a record for
each target that is in use, and every node that it goes to: taken so that they stop at a lookup that
misses, its steps never stop. -/
theorem analyze_finds_lookups {registry : Registry} (built : registry.Built) (only : Option String)
    {files : List SourceFile} (named : ∀ file ∈ files, file.root.HeritageNamed) :
    (analyzeM registry only files : Except LookupFault Analysis) =
      .ok (analyze registry only files) :=
  analyzeM_eq_pure built (CodeIndex.named_ofFiles named) only

namespace BrokenOff

open Node (word)

/-- The type `G<A>`, in which the part with the role of the name may be lost. -/
def generic (name : Option Role) : Node :=
  .mk ⟨.genericType, true, none, 20, 24, 1, 21, "G<A>"⟩
    [word .typeIdentifier name 20 "G",
      .mk ⟨.typeArguments, true, some .typeArguments, 21, 24, 1, 22, "<A>"⟩
        [word .typeIdentifier none 22 "A"]]

def interfaceM (name : Option Role) : Node :=
  .mk ⟨.interfaceDeclaration, true, none, 0, 27, 1, 1, "interface M extends G<A> {}"⟩
    [word .typeIdentifier (some .name) 10 "M",
      .mk ⟨.extendsTypeClause, true, none, 12, 24, 1, 13, "extends G<A>"⟩ [generic name]]

def callDestroy : Node :=
  .mk ⟨.callExpression, true, none, 28, 39, 1, 29, "m.destroy()"⟩
    [.mk ⟨.memberExpression, true, some .function, 28, 37, 1, 29, "m.destroy"⟩
      [word .identifier (some .object) 28 "m",
        word .propertyIdentifier (some .property) 30 "destroy"],
      word .arguments (some .arguments) 37 "()"]

def variableM : Node :=
  .mk ⟨.variableDeclarator, true, none, 41, 45, 1, 42, "m: M"⟩
    [word .identifier (some .name) 41 "m", Colliding.annotation .type 42 "M"]

/-- The source breaks off after an opening bracket, which leaves an error and an empty node. -/
def program (name : Option Role) : Node :=
  .mk ⟨.program, true, none, 0, 48, 1, 1, "interface M extends G<A> {} m.destroy(), m: M; ("⟩
    [interfaceM name, callDestroy, variableM, word (.other "ERROR") none 47 "(",
      word .identifier none 48 ""]

def file (name : Option Role) : SourceFile := .ofTree ⟨0, ["m.ts"]⟩ none (program name)

theorem analyze_finds_lookups_brokenOff :
    nestedRegistry.Built ∧ (program (some .name)).HeritageNamed ∧
      (analyzeM nestedRegistry none [file (some .name)] : Except LookupFault Analysis) =
        .ok (analyze nestedRegistry none [file (some .name)]) := by
  have named : (program (some .name)).HeritageNamed := by decide +kernel
  have each : ∀ given ∈ [file (some .name)], given.root.HeritageNamed := by
    intro given member
    cases List.mem_singleton.mp member
    exact named
  exact ⟨nestedRegistry_built, named, analyze_finds_lookups nestedRegistry_built none each⟩

-- without the name of `G`, the lookup of a member of `M` stops
example : (CodeIndex.ofFiles [file none]).memberM? 1 "M" "destroy" =
    Except.error LookupFault.base := by
  rfl

end BrokenOff

end LeastGrant
