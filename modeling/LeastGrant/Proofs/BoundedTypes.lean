import LeastGrant.Proofs.KeyedList
import LeastGrant.Proofs.LocalNames

/-! What the bound on steps does to the type of an expression. Each rule of typing asks for the type
of at most one other expression, so the rules lead along a way from expression to expression, and
the type is worked out on the way back. With fewer steps the way may not be walked to its end, and
then there is no type. If it is, only a member that is looked up on the way back can be another one:
the search for it goes up the heritage with the steps that are left. -/
namespace LeastGrant

section Search

/-- A declaration that the search for a member comes to, with its height in the heritage. -/
structure Ancestor where
  node : Node
  height : Nat

namespace Ancestor

/-- Whether a declaration has a member of a name in its own body. -/
def declares (name : String) (ancestor : Ancestor) : Bool :=
  (Member.inDeclaration? ancestor.node name).isSome

def raised (ancestor : Ancestor) : Ancestor := { ancestor with height := ancestor.height + 1 }

end Ancestor

namespace CodeIndex

/-- The declarations below a height that the search for a member of a type comes to, in order. -/
def searched (index : CodeIndex) : (bound : Nat) → (type : String) → List Ancestor
  | 0, _ => []
  | bound + 1, type =>
    (index.declarationsOf type).flatMap fun declaration =>
      if declaration.hasMembers then
        ⟨declaration.node, 0⟩ :: (Heritage.ofDeclaration declaration.node).flatMap fun entry =>
          entry.baseName?.elim [] fun base => (index.searched bound base).map Ancestor.raised
      else []

variable (index : CodeIndex)

/-- The member of a type is that of the first declaration with such a member. -/
theorem member?_eq_findSome? (bound : Nat) (type name : String) :
    index.member? bound type name =
      (index.searched bound type).findSome? fun ancestor =>
        Member.inDeclaration? ancestor.node name := by
  induction bound generalizing type with
  | zero => rfl
  | succ bound ih =>
    rw [member?_succ, searched, findSome?_flatMap]
    congr 1
    funext declaration
    split
    · rw [memberFrom?, List.findSome?_cons, findSome?_flatMap]
      cases Member.inDeclaration? declaration.node name with
      | some member => rfl
      | none =>
        refine congrArg (List.findSome? · _) (funext fun entry => ?_)
        cases entry.baseName? with
        | none => rfl
        | some base =>
          rw [Option.elim_some, List.findSome?_map]
          exact ih base
    · rfl

theorem member?_eq_find?_bind (bound : Nat) (type name : String) :
    index.member? bound type name =
      ((index.searched bound type).find? (Ancestor.declares name)).bind fun ancestor =>
        Member.inDeclaration? ancestor.node name := by
  rw [member?_eq_findSome?, findSome?_eq_find?_bind]
  rfl

/-- A lower bound leaves the declarations below it, in the same order. -/
theorem searched_eq_filter (bound extra : Nat) (type : String) :
    index.searched bound type =
      (index.searched (bound + extra) type).filter fun ancestor => ancestor.height < bound := by
  induction bound generalizing type with
  | zero => simp [searched]
  | succ bound ih =>
    rw [Nat.succ_add, searched, searched, List.filter_flatMap]
    refine List.flatMap_congr fun declaration _ => ?_
    split
    · rw [List.filter_cons_of_pos (by simp), List.filter_flatMap]
      congr 1
      refine List.flatMap_congr fun entry _ => ?_
      cases entry.baseName? with
      | none => rfl
      | some base =>
        rw [Option.elim_some, Option.elim_some, ih base]
        simp [List.filter_map, Function.comp_def, Ancestor.raised]
    · rfl

/-- The first declaration with a member is too high for a bound, though not for a greater one. -/
def CutShort (bound extra : Nat) (type name : String) : Prop :=
  ∃ ancestor, (index.searched (bound + extra) type).find? (Ancestor.declares name) = some ancestor ∧
    bound ≤ ancestor.height

/-- A search that is not cut short finds the same with a greater bound. -/
theorem member?_add {bound extra : Nat} {type name : String}
    (whole : ¬index.CutShort bound extra type name) :
    index.member? (bound + extra) type name = index.member? bound type name := by
  rw [member?_eq_find?_bind, member?_eq_find?_bind, searched_eq_filter index bound extra,
    List.find?_filter]
  cases found : (index.searched (bound + extra) type).find? (Ancestor.declares name) with
  | none =>
    have nowhere := List.find?_eq_none.mp found
    rw [List.find?_eq_none.mpr fun ancestor member => ?_]
    simp [nowhere ancestor member]
  | some ancestor =>
    have low : ancestor.height < bound :=
      Nat.lt_of_not_le fun high => whole ⟨ancestor, found, high⟩
    obtain ⟨declares, before, after, split, earlier⟩ := List.find?_eq_some_iff_append.mp found
    -- What comes first with the greater bound is below the lower one, and so comes first there too.
    rw [List.find?_eq_some_iff_append.mpr ⟨?_, before, after, split, ?_⟩]
    · simp [low, declares]
    · intro other member
      have undeclared := earlier other member
      rw [Bool.not_eq_true'] at undeclared
      simp [undeclared]

/-- Some declaration below the bound has the member. -/
def Answered (bound : Nat) (type name : String) : Prop :=
  ∃ ancestor ∈ index.searched bound type, ancestor.declares name

theorem answered_of_member? {bound : Nat} {type name : String} {member : Member}
    (found : index.member? bound type name = some member) : index.Answered bound type name := by
  rw [member?_eq_find?_bind] at found
  obtain ⟨ancestor, first, -⟩ := Option.bind_eq_some_iff.mp found
  exact ⟨ancestor, List.mem_of_find?_eq_some first, List.find?_some first⟩

/-- The type of a field changes with the bound only if the search for it is cut short and answered
by another declaration. -/
theorem fieldType_add {bound extra : Nat} {owner type : StaticType} {name : String}
    (found : index.fieldType bound (some owner) name = some type)
    (changed : index.fieldType (bound + extra) (some owner) name ≠ some type) :
    ∃ symbol, owner.symbol = some symbol ∧ index.CutShort bound extra symbol name ∧
      index.Answered bound symbol name := by
  rw [fieldType, fieldTypeM, Option.bind_some] at found changed
  cases named : owner.symbol with
  | none => simp [named] at found
  | some symbol =>
    simp only [named, Id.run_bind, run_memberM?] at found changed
    refine ⟨symbol, rfl, by_contra fun whole => changed ?_, ?_⟩
    · rwa [member?_add index whole]
    · cases member : index.member? bound symbol name with
      | none => simp [member] at found
      | some found => exact answered_of_member? index member

/-- The type of the result of a method changes with the bound only if the search for it is cut short
and answered by another declaration or by a finder. -/
theorem methodType_add {bound extra : Nat} {owner type : StaticType} {name : String}
    (found : index.methodType bound (some owner) name = some type)
    (changed : index.methodType (bound + extra) (some owner) name ≠ some type) :
    ∃ symbol, owner.symbol = some symbol ∧ index.CutShort bound extra symbol name ∧
      (index.Answered bound symbol name ∨
        owner.isClass = true ∧ (finderType? symbol name).isSome = true) := by
  rw [methodType, methodTypeM] at found changed
  cases named : owner.symbol with
  | none => simp [named] at found
  | some symbol =>
    simp only [named, Id.run_bind, run_memberM?] at found changed
    refine ⟨symbol, rfl, by_contra fun whole => changed ?_, ?_⟩
    · rwa [member?_add index whole]
    · cases member : index.member? bound symbol name with
      | some found => exact .inl (answered_of_member? index member)
      | none =>
        simp only [member] at found
        obtain ⟨isClass, finder⟩ := Option.ite_none_right_eq_some.mp found
        exact .inr ⟨isClass, by rw [finder]; rfl⟩

end CodeIndex

end Search

section Way

theorem TypeSource.derive_none {source : TypeSource} {place : Place} (next : source.next? = some place)
    (index : CodeIndex) (steps : Nat) : source.derive index steps none = none := by
  cases source with
  | given type => cases next
  | _ => rfl

variable (index : CodeIndex) (path : Path)

/-- The expressions that are asked for their types one after the other, with the steps that are left
for each. -/
inductive OnWay : (steps : Nat) → Place → (left : Nat) → Place → Prop
  | here {steps : Nat} {place : Place} : OnWay steps place steps place
  | onward {steps left : Nat} {place next goal : Place}
      (asks : (TypeSource.ofPlace index path place).next? = some next)
      (rest : OnWay steps next left goal) : OnWay (steps + 1) place left goal

variable {index path}

theorem OnWay.trans {steps left last : Nat} {place goal final : Place}
    (way : OnWay index path steps place left goal) (more : OnWay index path left goal last final) :
    OnWay index path steps place last final := by
  induction way with
  | here => exact more
  | onward asks _ ih => exact .onward asks (ih more)

variable (index path)

/-- A type that an expression has in some steps is the one that it has in more. -/
def KeepsType (extra steps : Nat) (place : Place) : Prop :=
  ∀ type, index.typeWithin path steps place = some type →
    index.typeWithin path (steps + extra) place = some type

/-- What follows from the type of the next expression in some steps also follows in more. -/
def KeepsLookup (extra : Nat) : (steps : Nat) → Place → Prop
  | 0, _ => True
  | steps + 1, place => ∀ owner type,
      (TypeSource.ofPlace index path place).next?.bind (index.typeWithin path steps) = some owner →
      (TypeSource.ofPlace index path place).derive index steps (some owner) = some type →
        (TypeSource.ofPlace index path place).derive index (steps + extra) (some owner) = some type

/-- A member is looked up, its first declaration is out of reach, and something else answers. -/
inductive Misled (extra : Nat) : (steps : Nat) → Place → Prop
  | field {steps : Nat} {place object : Place} {name symbol : String} {owner : StaticType}
      (reads : TypeSource.ofPlace index path place = .field object name)
      (owned : index.typeWithin path steps object = some owner)
      (named : owner.symbol = some symbol) (cut : index.CutShort steps extra symbol name)
      (answered : index.Answered steps symbol name) : Misled extra (steps + 1) place
  | result {steps : Nat} {place object : Place} {name symbol : String} {owner : StaticType}
      (calls : TypeSource.ofPlace index path place = .result object name)
      (owned : index.typeWithin path steps object = some owner)
      (named : owner.symbol = some symbol) (cut : index.CutShort (steps + 1) extra symbol name)
      (answered : index.Answered (steps + 1) symbol name ∨
        owner.isClass = true ∧ (finderType? symbol name).isSome = true) :
      Misled extra (steps + 1) place

variable {index path} {extra : Nat}

theorem misled_of_not_keepsLookup {steps : Nat} {place : Place}
    (lost : ¬KeepsLookup index path extra steps place) : Misled index path extra steps place := by
  cases steps with
  | zero => exact absurd trivial lost
  | succ steps =>
    rw [KeepsLookup] at lost
    push Not at lost
    obtain ⟨owner, type, owned, found, changed⟩ := lost
    cases source : TypeSource.ofPlace index path place with
    | field object name =>
      rw [source] at owned found changed
      obtain ⟨symbol, named, cut, answered⟩ := index.fieldType_add found changed
      exact .field source owned named cut answered
    | result object name =>
      rw [source] at owned found changed
      change index.methodType (steps + extra + 1) (some owner) name ≠ some type at changed
      rw [Nat.add_right_comm steps extra 1] at changed
      obtain ⟨symbol, named, cut, answered⟩ := index.methodType_add found changed
      exact .result source owned named cut answered
    -- The other rules do not look at the steps.
    | given _ | value _ | element _ | awaited _ =>
      rw [source] at found changed
      exact absurd found changed

/-- One step: the type is kept if the type of the next expression is, and what follows from it. -/
theorem keepsType_succ {steps : Nat} {place : Place}
    (lookup : KeepsLookup index path extra (steps + 1) place)
    (next : ∀ inner, (TypeSource.ofPlace index path place).next? = some inner →
      KeepsType index path extra steps inner) :
    KeepsType index path extra (steps + 1) place := by
  intro type found
  rw [Nat.add_right_comm steps 1 extra, CodeIndex.typeWithin_succ]
  rw [CodeIndex.typeWithin_succ] at found
  cases asks : (TypeSource.ofPlace index path place).next? with
  -- Without another expression to ask, the type is given and the steps do not count.
  | none =>
    rw [asks, Option.bind_none] at found
    cases source : TypeSource.ofPlace index path place with
    | given given =>
      rw [source] at found
      exact found
    | _ =>
      rw [source] at asks
      cases asks
  | some inner =>
    rw [asks, Option.bind_some] at found
    cases owned : index.typeWithin path steps inner with
    | none =>
      rw [owned, TypeSource.derive_none asks] at found
      cases found
    | some owner =>
      rw [owned] at found
      rw [Option.bind_some, next inner asks owner owned]
      refine lookup owner type ?_ found
      rw [asks, Option.bind_some, owned]

theorem keepsType_of_lookups {steps : Nat} {place : Place}
    (lookups : ∀ left goal, OnWay index path steps place left goal →
      KeepsLookup index path extra left goal) : KeepsType index path extra steps place := by
  induction steps generalizing place with
  | zero =>
    intro type found
    cases found
  | succ steps ih =>
    exact keepsType_succ (lookups _ _ .here) fun inner asks =>
      ih fun left goal way => lookups left goal (.onward asks way)

theorem keepsType_of_not_misled {steps : Nat} {place : Place}
    (straight : ∀ left goal, OnWay index path steps place left goal →
      ¬Misled index path extra left goal) : KeepsType index path extra steps place :=
  keepsType_of_lookups fun left goal way =>
    Classical.byContradiction fun lost => straight left goal way (misled_of_not_keepsLookup lost)

theorem keepsLookup_of_types {steps : Nat} {place : Place}
    (types : ∀ left goal, OnWay index path steps place left goal →
      KeepsType index path extra left goal) : KeepsLookup index path extra steps place := by
  cases steps with
  | zero => trivial
  | succ steps =>
    intro owner type owned found
    obtain ⟨inner, asks, ownedInner⟩ := Option.bind_eq_some_iff.mp owned
    have kept := types _ _ .here type
    have keptInner := types steps inner (.onward asks .here) owner ownedInner
    rw [Nat.add_right_comm steps 1 extra, CodeIndex.typeWithin_succ, CodeIndex.typeWithin_succ,
      owned, asks, Option.bind_some, keptInner] at kept
    exact kept found

variable (index path)

/-- An expression in layers that do not change what it is: parentheses, assertions that it is there
or of some type, and names of variables with it as their value. -/
inductive Wraps : (layers : Nat) → (outer inner : Place) → Prop
  | bare {place : Place} : Wraps 0 place place
  | around {layers : Nat} {outer middle inner : Place}
      (kind : outer.kind = .parenthesizedExpression ∨ outer.kind = .nonNullExpression ∨
        outer.kind = .satisfiesExpression)
      (operand : outer.operands.head? = some middle) (within : Wraps layers middle inner) :
      Wraps (layers + 1) outer inner
  | named {layers : Nat} {outer middle inner : Place} {binding : Binding}
      (kind : outer.kind = .identifier)
      (bound : index.lookup path outer.text outer.node.start = some binding)
      (meaning : binding.meaning = .value middle) (within : Wraps layers middle inner) :
      Wraps (layers + 1) outer inner

variable {index path}

theorem typeWithin_of_value {outer inner : Place}
    (source : TypeSource.ofPlace index path outer = .value inner) (steps : Nat) :
    index.typeWithin path steps outer = index.typeWithin path (steps - 1) inner := by
  cases steps with
  | zero => rfl
  | succ steps =>
    rw [CodeIndex.typeWithin_succ, source]
    rfl

/-- Each layer takes one step. -/
theorem Wraps.typeWithin_eq {layers : Nat} {outer inner : Place}
    (wraps : Wraps index path layers outer inner) (steps : Nat) :
    index.typeWithin path steps outer = index.typeWithin path (steps - layers) inner := by
  induction wraps generalizing steps with
  | bare => rfl
  | @around layers outer middle inner kind operand within ih =>
    have source : TypeSource.ofPlace index path outer = .value middle := by
      rw [TypeSource.ofPlace, TypeSource.ofPlaceM]
      rcases kind with kind | kind | kind <;>
        rw [kind, Lookups.first?_eq_pure, operand] <;> rfl
    rw [typeWithin_of_value source, ih, Nat.sub_sub, Nat.add_comm]
  | @named layers outer middle inner binding kind bound meaning within ih =>
    have source : TypeSource.ofPlace index path outer = .value middle := by
      rw [TypeSource.ofPlace_of_name kind, TypeSource.ofName, bound]
      dsimp only
      rw [meaning]
    rw [typeWithin_of_value source, ih, Nat.sub_sub, Nat.add_comm]

/-- A type changes with the steps only where the search for a member does. The types on the way from
an expression are all kept in more steps if and only if what is looked up on the way is. This is so
if no search is cut short and still answered. In layers an expression has the type that it has in
fewer steps, so that layers can only take its type away unless such a search is on the way. -/
theorem types_kept_iff_lookups_kept (index : CodeIndex) (path : Path) (place : Place)
    (steps extra : Nat) :
    ((∀ left goal, OnWay index path steps place left goal → KeepsType index path extra left goal) ↔
      ∀ left goal, OnWay index path steps place left goal →
        KeepsLookup index path extra left goal) ∧
    ((∀ left goal, OnWay index path steps place left goal → ¬Misled index path extra left goal) →
      KeepsType index path extra steps place) ∧
    ∀ layers inner, Wraps index path layers place inner →
      index.typeOf path place = index.typeWithin path (maxSteps - layers) inner ∧
      ((∀ left goal, OnWay index path (maxSteps - layers) inner left goal →
          ¬Misled index path layers left goal) →
        index.typeOf path place = none ∨ index.typeOf path place = index.typeOf path inner) := by
  refine ⟨⟨fun types left goal way => ?_, fun lookups left goal way => ?_⟩, keepsType_of_not_misled,
    fun layers inner wraps => ⟨wraps.typeWithin_eq maxSteps, fun straight => ?_⟩⟩
  · exact keepsLookup_of_types fun last final more => types last final (way.trans more)
  · exact keepsType_of_lookups fun last final more => lookups last final (way.trans more)
  · rw [CodeIndex.typeOf, wraps.typeWithin_eq maxSteps]
    cases found : index.typeWithin path (maxSteps - layers) inner with
    | none => exact .inl rfl
    | some type =>
      have kept := keepsType_of_not_misled straight type found
      -- A type that is found leaves a step at least.
      have fits : maxSteps - layers + layers = maxSteps := by
        cases left : maxSteps - layers with
        | zero =>
          rw [left] at found
          cases found
        | succ left => omega
      rw [fits] at kept
      exact .inr kept.symm

end Way

/-! A class that inherits a method with the name of a finder from two classes above. -/
namespace Inherited

open Node (inLine word)

def callCreate : Node :=
  inLine .callExpression none 7 "Sub.create()"
    [inLine .memberExpression (some .function) 7 "Sub.create"
      [word .identifier (some .object) 7 "Sub", word .propertyIdentifier (some .property) 11 "create"],
      word .arguments (some .arguments) 17 "()"]

/-- The call in parentheses, the outermost of which open at a position. -/
def wrapped : (layers : Nat) → (start : Nat) → Node
  | 0, _ => callCreate
  | layers + 1, start =>
    let inner := wrapped layers (start + 1)
    inLine .parenthesizedExpression none start ("(" ++ inner.text ++ ")") [inner]

def statement : Node :=
  inLine (.other "expression_statement") none 0 ((wrapped 7 0).text ++ ";") [wrapped 7 0]

def methodCreate : Node :=
  inLine .methodDefinition none 41 "static create(): Legacy \x7b\x7d"
    [word .staticWord none 41 "static", word .propertyIdentifier (some .name) 48 "create",
      inLine .annotatedType (some .returnType) 56 ": Legacy"
        [word .typeIdentifier none 58 "Legacy"],
      word .statementBlock (some .body) 65 "\x7b\x7d"]

def classBase : Node :=
  inLine .classDeclaration none 28 ("class Base \x7b " ++ methodCreate.text ++ " \x7d")
    [word .typeIdentifier (some .name) 34 "Base",
      inLine .classBody (some .body) 39 ("\x7b " ++ methodCreate.text ++ " \x7d") [methodCreate]]

/-- A class with a name of three letters that extends another one. -/
def extending (start : Nat) (name base : String) : Node :=
  let clause := "extends " ++ base
  inLine .classDeclaration none start ("class " ++ name ++ " " ++ clause ++ " \x7b\x7d")
    [word .typeIdentifier (some .name) (start + 6) name,
      inLine .classHeritage none (start + 10) clause
        [inLine .extendsClause none (start + 10) clause
          [word .identifier none (start + 18) base]],
      word .classBody (some .body) (start + 11 + clause.length) "\x7b\x7d"]

def program : Node :=
  let parts := [statement, classBase, extending 70 "Mid" "Base", extending 96 "Sub" "Mid"]
  .mk ⟨.program, true, none, 0, 120, 1, 1, " ".intercalate (parts.map Node.text)⟩ parts

def file : SourceFile := .ofTree ⟨0, ["a.ts"]⟩ none program

def index : CodeIndex := .ofFiles [file]

def outer : Place := ⟨wrapped 7 0, [⟨statement, []⟩, ⟨program, []⟩]⟩

/-- The same with one layer less. -/
def inner : Place := ⟨wrapped 6 1, ⟨wrapped 7 0, []⟩ :: outer.frames⟩

def call : Place :=
  ⟨callCreate, ⟨wrapped 1 6, []⟩ :: ⟨wrapped 2 5, []⟩ :: ⟨wrapped 3 4, []⟩ :: ⟨wrapped 4 3, []⟩ ::
    ⟨wrapped 5 2, []⟩ :: ⟨wrapped 6 1, []⟩ :: inner.frames⟩

theorem inner_wraps : Wraps index file.path 6 inner call :=
  .around (.inl rfl) rfl <| .around (.inl rfl) rfl <| .around (.inl rfl) rfl <|
    .around (.inl rfl) rfl <| .around (.inl rfl) rfl <| .around (.inl rfl) rfl .bare

theorem outer_wraps : Wraps index file.path 7 outer call :=
  .around (.inl rfl) rfl inner_wraps

def subclass : Place :=
  ⟨word .identifier (some .object) 7 "Sub",
    ⟨inLine .memberExpression (some .function) 7 "Sub.create"
      [word .identifier (some .object) 7 "Sub",
        word .propertyIdentifier (some .property) 11 "create"], []⟩ ::
      ⟨callCreate, []⟩ :: call.frames⟩

theorem source_call : TypeSource.ofPlace index file.path call = .result subclass "create" := rfl

def declaration : Place :=
  ⟨extending 96 "Sub" "Mid", [⟨program, [extending 70 "Mid" "Base", classBase, statement]⟩]⟩

theorem mem_files : file ∈ [file] := List.mem_singleton_self file

theorem lookup_subclass :
    index.lookup file.path subclass.text subclass.node.start =
      some (.inScope "Sub" (.classItself declaration) program) := by
  rw [CodeIndex.lookup, index, CodeIndex.bindingsOf_ofFiles (by simp) mem_files, Binding.ofFile,
    Place.all_eq_walk]
  rfl

theorem source_subclass :
    TypeSource.ofPlace index file.path subclass = .given (some (.classNamed "Sub")) := by
  have identifier : subclass.kind = .identifier := rfl
  rw [TypeSource.ofPlace_of_name identifier, TypeSource.ofName, lookup_subclass]
  rfl

theorem typeWithin_subclass (steps : Nat) :
    index.typeWithin file.path (steps + 1) subclass = some (.classNamed "Sub") := by
  rw [CodeIndex.typeWithin_succ, source_subclass]
  rfl

theorem typeWithin_call (steps : Nat) :
    index.typeWithin file.path (steps + 2) call =
      index.methodType (steps + 2) (some (.classNamed "Sub")) "create" := by
  rw [CodeIndex.typeWithin_succ, source_call, TypeSource.next?, Option.bind_some,
    typeWithin_subclass]
  rfl

theorem typeWithin_two_call :
    index.typeWithin file.path 2 call = some (.promiseOf (.named "Sub")) := by
  rw [typeWithin_call 0]
  rfl

theorem typeOf_call : index.typeOf file.path call = some (.named "Legacy") := by
  rw [CodeIndex.typeOf, maxSteps, typeWithin_call 7]
  rfl

theorem typeOf_outer : index.typeOf file.path outer = some (.promiseOf (.named "Sub")) :=
  (outer_wraps.typeWithin_eq maxSteps).trans typeWithin_two_call

theorem mem_places : outer ∈ Place.all file.root ∧ call ∈ Place.all file.root := by
  rw [Place.all_eq_walk]
  exact ⟨List.mem_of_getElem? (i := 2) rfl, List.mem_of_getElem? (i := 9) rfl⟩

theorem typeOf_outer_ne : index.typeOf file.path outer ≠ index.typeOf file.path call := by
  rw [typeOf_outer, typeOf_call]
  exact fun same => absurd (congrArg (Option.map StaticType.text) same) (by decide)

/-- Three steps are enough for the search to come to the method. -/
theorem not_cutShort : ¬index.CutShort 3 6 "Sub" "create" := by
  have first : (index.searched (3 + 6) "Sub").find? (Ancestor.declares "create") =
      some ⟨classBase, 2⟩ := rfl
  rintro ⟨ancestor, found, high⟩
  cases first.symm.trans found
  exact absurd high (by decide)

theorem not_misled {left : Nat} {goal : Place} (way : OnWay index file.path 3 call left goal) :
    ¬Misled index file.path 6 left goal := by
  intro misled
  cases way with
  | here =>
    cases misled with
    | field reads => cases source_call.symm.trans reads
    | result calls owned named cut =>
      cases source_call.symm.trans calls
      cases (typeWithin_subclass 1).symm.trans owned
      cases named
      exact not_cutShort cut
  | onward asks rest =>
    rw [source_call] at asks
    cases asks
    cases rest with
    | here =>
      cases misled with
      | field reads => cases source_subclass.symm.trans reads
      | result calls => cases source_subclass.symm.trans calls
    | onward asks =>
      rw [source_subclass] at asks
      cases asks

end Inherited

theorem types_kept_iff_lookups_kept_inherited :
    Inherited.index.typeOf Inherited.file.path Inherited.inner =
        Inherited.index.typeWithin Inherited.file.path 3 Inherited.call ∧
      (Inherited.index.typeOf Inherited.file.path Inherited.inner = none ∨
        Inherited.index.typeOf Inherited.file.path Inherited.inner =
          Inherited.index.typeOf Inherited.file.path Inherited.call) ∧
      ∃ left goal, OnWay Inherited.index Inherited.file.path 2 Inherited.call left goal ∧
        Misled Inherited.index Inherited.file.path 7 left goal := by
  obtain ⟨-, -, inLayers⟩ := types_kept_iff_lookups_kept Inherited.index Inherited.file.path
    Inherited.inner 3 6
  obtain ⟨-, straight, -⟩ := types_kept_iff_lookups_kept Inherited.index Inherited.file.path
    Inherited.call 2 7
  obtain ⟨within, kept⟩ := inLayers 6 Inherited.call Inherited.inner_wraps
  refine ⟨within, kept fun left goal => Inherited.not_misled, ?_⟩
  refine Classical.byContradiction fun nowhere => Inherited.typeOf_outer_ne ?_
  have same := straight (fun left goal way misled => nowhere ⟨left, goal, way, misled⟩) _
    Inherited.typeWithin_two_call
  exact Inherited.typeOf_outer.trans same.symm

/-- Types are not only lost with fewer steps or in layers, they may also change. -/
theorem types_not_only_lost :
    (¬∀ (files : List SourceFile) (file : SourceFile) (place : Place) (fewer more : Nat)
        (type : StaticType), file ∈ files → place ∈ Place.all file.root → fewer ≤ more →
      (CodeIndex.ofFiles files).typeWithin file.path fewer place = some type →
        (CodeIndex.ofFiles files).typeWithin file.path more place = some type) ∧
    ¬∀ (files : List SourceFile) (file : SourceFile) (layers : Nat) (outer inner : Place),
      file ∈ files → outer ∈ Place.all file.root →
      Wraps (CodeIndex.ofFiles files) file.path layers outer inner →
        (CodeIndex.ofFiles files).typeOf file.path outer = none ∨
          (CodeIndex.ofFiles files).typeOf file.path outer =
            (CodeIndex.ofFiles files).typeOf file.path inner := by
  constructor
  · intro kept
    have same := kept _ _ _ 2 maxSteps _ Inherited.mem_files Inherited.mem_places.2 (by decide)
      Inherited.typeWithin_two_call
    exact Inherited.typeOf_outer_ne (Inherited.typeOf_outer.trans same.symm)
  · intro kept
    rcases kept _ _ _ _ _ Inherited.mem_files Inherited.mem_places.1 Inherited.outer_wraps with
      unknown | same
    · cases Inherited.typeOf_outer.symm.trans unknown
    · exact Inherited.typeOf_outer_ne same

end LeastGrant
