import LeastGrant.Proofs.Contribution
import LeastGrant.Proofs.LocalNames

/-! Imported models as receivers of calls. An import stands for the model of the exported name, or
else for that of the local one. A call sees the local name first, and comes to the exported name by
the type of the import. The two part where both names are models. -/
namespace LeastGrant

namespace Binding

theorem smallest?_cons (binding : Binding) (rest : List Binding) :
    smallest? (binding :: rest) = some ((smallest? rest).elim binding fun other =>
      if other.size < binding.size then other else binding) := by
  rw [smallest?]
  cases smallest? rest with
  | none => rfl
  | some other =>
    simp only [Option.elim_some]
    split <;> rfl

theorem smallest?_eq_none {bindings : List Binding} : smallest? bindings = none ↔ bindings = [] := by
  cases bindings with
  | nil => simp [smallest?]
  | cons binding rest => simp [smallest?_cons]

theorem size_le_of_smallest? {bindings : List Binding} {least : Binding}
    (found : smallest? bindings = some least) : ∀ binding ∈ bindings, least.size ≤ binding.size := by
  induction bindings generalizing least with
  | nil => simp
  | cons first rest ih =>
    rw [smallest?_cons, Option.some_inj] at found
    cases later : smallest? rest with
    | none =>
      rw [smallest?_eq_none] at later
      simp_all [smallest?]
    | some other =>
      have others := ih later
      rw [later, Option.elim_some] at found
      simp only [List.mem_cons, forall_eq_or_imp]
      split at found
      · subst found
        exact ⟨by omega, others⟩
      · subst found
        exact ⟨by omega, fun binding member => by have := others binding member; omega⟩

/-- A binding is the smallest if each that is no larger is this one again. -/
theorem smallest?_eq_some {bindings : List Binding} {own : Binding} (member : own ∈ bindings)
    (alone : ∀ binding ∈ bindings, binding.size ≤ own.size → binding = own) :
    smallest? bindings = some own := by
  cases found : smallest? bindings with
  | none => simp [smallest?_eq_none.mp found] at member
  | some least =>
    have smaller := size_le_of_smallest? found own member
    rw [alone least (smallest?_mem _ _ found) smaller]

/-- What a name in an import binds in the whole file. -/
def ofImported (root : Node) (name : ImportedName) : Binding :=
  inScope name.localName (.imported name.exported) root

theorem ofImported_mem_ofImport {root statement : Node} {name : ImportedName}
    (member : name ∈ statement.importedNames) : ofImported root name ∈ ofImport root statement := by
  rw [Node.importedNames] at member
  rw [ofImport]
  cases clause : statement.importClause? with
  | none => simp [clause] at member
  | some found =>
    simp only [clause, List.mem_flatMap, List.mem_filter, beq_iff_eq] at member
    obtain ⟨part, ⟨child, kind⟩, listed⟩ := member
    refine List.mem_flatMap.mpr ⟨part, child, ?_⟩
    rw [ofImportPart, kind]
    exact List.mem_map_of_mem listed

end Binding

/-- At a place, the local name of an import of the file means this import: the place is the bare
name, and each binding of the name around it that reaches no further than the file is the import. -/
structure MeansImport (file : SourceFile) (name : ImportedName) (place : Place) : Prop where
  imported : ∃ statement ∈ Place.all file.root,
    statement.kind = .importStatement ∧ name ∈ statement.node.importedNames
  bare : place.kind = .identifier
  named : place.text = name.localName
  inFile : (Binding.ofImported file.root name).covers place.node.start = true
  unshadowed : ∀ binding ∈ Binding.ofFile file, binding.name = name.localName →
    binding.covers place.node.start = true →
      binding.size ≤ (Binding.ofImported file.root name).size →
        binding = Binding.ofImported file.root name

namespace MeansImport

variable {files : List SourceFile} {file : SourceFile} {name : ImportedName} {place : Place}

theorem lookup_eq (means : MeansImport file name place)
    (distinct : (files.map fun file => file.path.text).Nodup) (member : file ∈ files) :
    (CodeIndex.ofFiles files).lookup file.path place.text place.node.start =
      some (.ofImported file.root name) := by
  rw [CodeIndex.lookup, CodeIndex.bindingsOf_ofFiles distinct member, means.named]
  apply Binding.smallest?_eq_some
  · obtain ⟨statement, here, kind, listed⟩ := means.imported
    have bound : Binding.ofImported file.root name ∈ Binding.ofFile file := by
      refine List.mem_flatMap.mpr ⟨statement, here, ?_⟩
      rw [Binding.ofPlace, kind]
      exact Binding.ofImported_mem_ofImport listed
    rw [List.mem_filter, means.inFile, Bool.and_true, beq_iff_eq]
    exact ⟨bound, rfl⟩
  · intro binding known
    rw [List.mem_filter, Bool.and_eq_true, beq_iff_eq] at known
    exact means.unshadowed binding known.1 known.2.1 known.2.2

theorem typeOf_eq (means : MeansImport file name place)
    (distinct : (files.map fun file => file.path.text).Nodup) (member : file ∈ files) :
    (CodeIndex.ofFiles files).typeOf file.path place =
      some (.classNamed (CodeIndex.exportedName name.exported name.localName)) := by
  rw [CodeIndex.typeOf, maxSteps, CodeIndex.typeWithin_succ, TypeSource.ofPlace_of_name means.bare,
    TypeSource.ofName, means.lookup_eq distinct member]
  rfl

/-- A place that means an import stands for the model of the local name, or else for the model of
the import. -/
theorem standsFor (means : MeansImport file name place)
    (distinct : (files.map fun file => file.path.text).Nodup) (member : file ∈ files)
    {registry : Registry} {entity : Entity} (found : importedEntity? registry name = some entity) :
    StandsFor (.ofFiles files) registry file place
      ((registry.find? name.localName).getD entity) := by
  have literal : Strategy.answer? registry (.of (.ofFiles files) file place) .literalName =
      Strategy.registered? registry name.localName := by
    rw [Strategy.answer?, ← means.named]
    exact if_pos means.bare
  rw [StandsFor, Strategy.all]
  cases known : registry.find? name.localName with
  | some other =>
    have answered : Strategy.answer? registry (.of (.ofFiles files) file place) .literalName =
        some name.localName := by
      simp [literal, Strategy.registered?, Registry.has, known]
    rw [resolve_of_answer answered]
    exact known
  | none =>
    -- The local name is no model, so the import stands for the model of the exported name.
    have exported : name.exported ≠ "" ∧ registry.find? name.exported = some entity := by
      rcases importedEntity?_eq_some.mp found with own | ⟨-, localName, renamed, own⟩
      · simpa [Registry.get?] using own
      · have same : name.localName = localName := by simp [ImportedName.localName, renamed]
        rw [← same, Registry.get?, known] at own
        simp at own
    have typed : Strategy.answer? registry (.of (.ofFiles files) file place) .staticType =
        some name.exported := by
      rw [Strategy.answer?, Strategy.answerM?, Receiver.type_of, means.typeOf_eq distinct member,
        CodeIndex.exportedName, if_neg exported.1]
      simp [StaticType.symbol, StaticType.classNamed, Strategy.registered?, Registry.has, exported.2]
    have silent : Strategy.answer? registry (.of (.ofFiles files) file place) .literalName =
        none := by
      simp [literal, Strategy.registered?, Registry.has, known]
    rw [resolve_of_silent silent, resolve_of_answer typed]
    exact exported.2

end MeansImport

/-- A call on an imported name writes to the model of the local name, or else to the model of the
import. So call and import agree exactly where the local name is no other model. -/
theorem call_agrees_with_import {files : List SourceFile}
    (distinct : (files.map fun file => file.path.text).Nodup) {file : SourceFile}
    (member : file ∈ files) {registry : Registry} {name : ImportedName} {receiver : Place}
    {entity : Entity} (means : MeansImport file name receiver)
    (found : importedEntity? registry name = some entity) :
    (StandsFor (.ofFiles files) registry file receiver entity ↔
      ∀ other, registry.find? name.localName = some other → other = entity) ∧
    StandsFor (.ofFiles files) registry file receiver
      ((registry.find? name.localName).getD entity) ∧
    ∀ call method writes, CallsMember call receiver method →
      Writes.ofMethod? method = some writes →
      (callFinding (.ofFiles files) registry file call).uses =
        [.of ((registry.find? name.localName).getD entity) writes] := by
  have stands := means.standsFor distinct member found
  refine ⟨⟨fun agrees other known => ?_, fun same => ?_⟩, stands,
    fun call method writes calls does => uses_callFinding_of_write calls stands does⟩
  · rw [known] at stands
    exact Option.some_inj.mp (stands.symm.trans agrees)
  · cases known : registry.find? name.localName with
    | none => simpa [known] using stands
    | some other => simpa [known, same other known] using stands

/-! A file that imports `User` under a name of four letters, and creates a row by that name. -/
namespace Renamed

def specifier (localName : String) : Node :=
  .mk ⟨.importSpecifier, true, none, 9, 21, 1, 10, "User as " ++ localName⟩
    [Node.word .identifier (some .name) 9 "User",
      Node.word .identifier (some .alias) 17 localName]

def names (localName : String) : Node :=
  .mk ⟨.namedImports, true, none, 7, 23, 1, 8, "\x7b User as " ++ localName ++ " \x7d"⟩
    [specifier localName]

def clause (localName : String) : Node :=
  .mk ⟨.importClause, true, none, 7, 23, 1, 8, (names localName).text⟩ [names localName]

def statement (localName : String) : Node :=
  .mk ⟨.importStatement, true, none, 0, 40, 1, 1,
      "import " ++ (names localName).text ++ " from './models';"⟩
    [clause localName, Node.word .stringLiteral (some .source) 29 "'./models'"]

def object (localName : String) : Node :=
  .mk ⟨.identifier, true, some .object, 41, 45, 2, 1, localName⟩ []

def callee (localName : String) : Node :=
  .mk ⟨.memberExpression, true, some .function, 41, 52, 2, 1, localName ++ ".create"⟩
    [object localName, .mk ⟨.propertyIdentifier, true, some .property, 46, 52, 2, 6, "create"⟩ []]

def call (localName : String) : Node :=
  .mk ⟨.callExpression, true, none, 41, 54, 2, 1, localName ++ ".create()"⟩
    [callee localName, .mk ⟨.arguments, true, some .arguments, 52, 54, 2, 12, "()"⟩ []]

def program (localName : String) : Node :=
  .mk ⟨.program, true, none, 0, 54, 1, 1,
      (statement localName).text ++ "\n" ++ (call localName).text⟩
    [statement localName, call localName]

def file (localName : String) : SourceFile := .ofTree ⟨0, ["a.ts"]⟩ none (program localName)

def created (localName : String) : Place :=
  ⟨call localName, [⟨program localName, [statement localName]⟩]⟩

def receiver (localName : String) : Place :=
  ⟨object localName, ⟨callee localName, []⟩ :: ⟨call localName, []⟩ :: (created localName).frames⟩

def registry : Registry := .ofEntities [.bare "User", .bare "Role"]

theorem means (localName : String) :
    MeansImport (file localName) ⟨"User", some localName⟩ (receiver localName) where
  imported := by
    refine ⟨⟨statement localName, [⟨program localName, []⟩]⟩, ?_, rfl, ?_⟩
    · rw [Place.all_eq_walk]
      exact List.mem_of_getElem? (i := 1) rfl
    · exact List.mem_singleton.mpr rfl
  bare := rfl
  named := rfl
  inFile := rfl
  unshadowed binding member _ _ _ := by
    rw [Binding.ofFile, Place.all_eq_walk] at member
    exact List.mem_singleton.mp member

theorem callsMember (localName : String) :
    CallsMember (created localName) (receiver localName) "create" :=
  memberCall?_eq_some.mp rfl

end Renamed

theorem call_agrees_with_import_crew :
    ([Renamed.file "Crew"].map fun file => file.path.text).Nodup ∧
      MeansImport (Renamed.file "Crew") ⟨"User", some "Crew"⟩ (Renamed.receiver "Crew") ∧
      importedEntity? Renamed.registry ⟨"User", some "Crew"⟩ = some (.bare "User") ∧
      CallsMember (Renamed.created "Crew") (Renamed.receiver "Crew") "create" ∧
      Writes.ofMethod? "create" = some .inserting ∧
      (callFinding (.ofFiles [Renamed.file "Crew"]) Renamed.registry (Renamed.file "Crew")
        (Renamed.created "Crew")).uses = [.of (.bare "User") .inserting] := by
  have distinct : ([Renamed.file "Crew"].map fun file => file.path.text).Nodup := by simp
  have found : importedEntity? Renamed.registry ⟨"User", some "Crew"⟩ = some (.bare "User") := rfl
  obtain ⟨-, -, uses⟩ := call_agrees_with_import distinct (List.mem_singleton.mpr rfl)
    (Renamed.means "Crew") found
  exact ⟨distinct, Renamed.means "Crew", found, Renamed.callsMember "Crew", rfl,
    uses _ _ _ (Renamed.callsMember "Crew") rfl⟩

/-- Under the name of another model, the import means `User` and the call means `Role`. -/
theorem call_disagrees_with_import :
    ¬∀ (files : List SourceFile) (file : SourceFile) (registry : Registry) (name : ImportedName)
      (call receiver : Place) (method : String) (writes : Writes) (entity : Entity),
      (files.map fun file => file.path.text).Nodup → file ∈ files →
        MeansImport file name receiver → CallsMember call receiver method →
        Writes.ofMethod? method = some writes → importedEntity? registry name = some entity →
        (resolve registry (.of (.ofFiles files) file receiver) Strategy.all).entity =
          some entity := by
  intro agree
  have distinct : ([Renamed.file "Role"].map fun file => file.path.text).Nodup := by simp
  have found : importedEntity? Renamed.registry ⟨"User", some "Role"⟩ = some (.bare "User") := rfl
  have asImported := agree [Renamed.file "Role"] _ _ _ (Renamed.created "Role") _ "create" .inserting
    _ distinct (List.mem_singleton.mpr rfl) (Renamed.means "Role") (Renamed.callsMember "Role") rfl
    found
  have asCalled := (Renamed.means "Role").standsFor distinct (List.mem_singleton.mpr rfl) found
  have same := asCalled.symm.trans asImported
  exact absurd (congrArg (Option.map Entity.name) same) (by decide)

end LeastGrant
