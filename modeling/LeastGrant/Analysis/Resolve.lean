import LeastGrant.Typing.Infer
import LeastGrant.Entity.Registry
import LeastGrant.Note

/-! Which model an expression stands for. Several strategies are tried in order, and the first that
answers wins. -/
namespace LeastGrant

/-- The facts on an expression that the strategies use. -/
structure Receiver where
  place : Place
  file : SourceFile
  type : Option StaticType
  declarations : List Declaration

namespace Receiver

/-- The facts on the expression at a place. -/
def ofM {m : Type → Type} [Lookups m] (index : CodeIndex) (file : SourceFile) (place : Place) :
    m Receiver := do
  let type ← index.typeWithinM file.path maxSteps place
  return { place := place
           file := file
           type := type
           declarations := (type.bind StaticType.symbol).elim [] index.declarationsOf }

def of (index : CodeIndex) (file : SourceFile) (place : Place) : Receiver :=
  Id.run (ofM index file place)

@[simp] theorem run_ofM (index : CodeIndex) (file : SourceFile) (place : Place) :
    Id.run (ofM index file place) = of index file place :=
  rfl

@[simp] theorem type_of (index : CodeIndex) (file : SourceFile) (place : Place) :
    (of index file place).type = index.typeOf file.path place :=
  rfl

theorem declarations_of (index : CodeIndex) (file : SourceFile) (place : Place) :
    (of index file place).declarations =
      ((index.typeOf file.path place).bind StaticType.symbol).elim [] index.declarationsOf :=
  rfl

/-- The type as it is shown. -/
def typeText (receiver : Receiver) : String :=
  match receiver.type with
  | some type => type.text
  | none => "any"

end Receiver

inductive Strategy where
  /-- The expression is the name of a model. -/
  | literalName
  /-- The type of the expression is a model. -/
  | staticType
  /-- The type of the expression extends or implements a model, or a type made from one. -/
  | heritage
  /-- The last part of a qualified name is a model. -/
  | qualifiedReference
  deriving DecidableEq, Repr

namespace Strategy

def all : List Strategy := [literalName, staticType, heritage, qualifiedReference]

def name : Strategy → String
  | literalName => "by_literal_name"
  | staticType => "by_static_type"
  | heritage => "by_heritage"
  | qualifiedReference => "by_qualified_reference"

def ofName? (text : String) : Option Strategy := all.find? fun strategy => strategy.name == text

theorem ofName?_name (strategy : Strategy) : ofName? strategy.name = some strategy := by
  cases strategy <;> decide +kernel

/-- The text itself, if it names a model. -/
def registered? (registry : Registry) (text : String) : Option String :=
  if registry.has text then some text else none

section Answers

variable {m : Type → Type} [Lookups m]

/-- The model in an entry of a heritage: among the type arguments, among the arguments of a call, or
the base itself. -/
def entryModelM? (registry : Registry) (entry : Heritage) : m (Option String) := do
  match entry.arguments.findSome? fun argument => registered? registry argument.text with
  | some name => return some name
  | none =>
    match ← Lookups.expect .base entry.base with
    | some base =>
      match base.kind with
      | .callExpression =>
        return base.arguments.findSome? fun argument => registered? registry argument.text
      | .identifier | .typeIdentifier => return registered? registry base.text
      | _ => return none
    | none => return none

/-- The model in the heritage of a declaration. -/
def heritageModelM? (registry : Registry) (declaration : Declaration) : m (Option String) :=
  if declaration.hasMembers then
    (Heritage.ofDeclaration declaration.node).findSomeM? (entryModelM? registry)
  else return none

def heritageModel? (registry : Registry) (declaration : Declaration) : Option String :=
  Id.run (heritageModelM? registry declaration)

/-- The name of the model that an expression stands for by a strategy. -/
def answerM? (registry : Registry) (receiver : Receiver) : Strategy → m (Option String)
  | literalName =>
    return if receiver.place.kind = .identifier then registered? registry receiver.place.text
      else none
  | staticType => return (receiver.type.bind StaticType.symbol).bind (registered? registry)
  | heritage => receiver.declarations.findSomeM? (heritageModelM? registry)
  | qualifiedReference =>
    return if receiver.place.kind = .memberExpression then
      registered? registry (receiver.place.node.childText .property) else none

def answer? (registry : Registry) (receiver : Receiver) (strategy : Strategy) : Option String :=
  Id.run (strategy.answerM? registry receiver)

end Answers

/-- What a strategy notes on its way: the type aliases among the declarations up to its answer. -/
def notes (registry : Registry) (receiver : Receiver) : Strategy → List Note
  | heritage =>
    ((receiver.declarations.takeWhile fun declaration =>
        (heritageModel? registry declaration).isNone).filter fun declaration =>
        declaration.kind == .typeAlias).map fun declaration =>
      .typeAliasUnsupported declaration.name declaration.location
  | _ => []

end Strategy

/-- What an expression stands for, and what was noted to find it out. -/
structure Resolution where
  entity : Option Entity
  notes : List Note

/-- The problem of an expression that stands for no model. -/
def Receiver.unresolved (receiver : Receiver) : Diagnostic where
  problem := .entityUnresolved receiver.place.text receiver.typeText
  location := some (receiver.file.location receiver.place.node)
  expression := some receiver.place.text

section Resolve

variable (registry : Registry) (receiver : Receiver)

/-- Tries strategies in order. -/
def resolveM {m : Type → Type} [Lookups m] : List Strategy → m Resolution
  | [] => return ⟨none, [.diagnosed receiver.unresolved]⟩
  | strategy :: rest => do
    match ← strategy.answerM? registry receiver with
    | some name =>
      return ⟨← Lookups.expect (.model name) (registry.find? name), strategy.notes registry receiver⟩
    | none =>
      let later ← resolveM rest
      return ⟨later.entity, strategy.notes registry receiver ++ later.notes⟩

def resolve (strategies : List Strategy) : Resolution :=
  Id.run (resolveM registry receiver strategies)

@[simp] theorem run_resolveM (strategies : List Strategy) :
    Id.run (resolveM registry receiver strategies) = resolve registry receiver strategies :=
  rfl

variable {registry receiver}

theorem resolve_of_answer {strategy : Strategy} {name : String}
    (h : strategy.answer? registry receiver = some name) (rest : List Strategy) :
    resolve registry receiver (strategy :: rest) =
      ⟨registry.find? name, strategy.notes registry receiver⟩ := by
  rw [Strategy.answer?] at h
  rw [resolve, resolveM, Id.run_bind, h]
  rfl

theorem resolve_of_silent {strategy : Strategy}
    (h : strategy.answer? registry receiver = none) (rest : List Strategy) :
    resolve registry receiver (strategy :: rest) =
      ⟨(resolve registry receiver rest).entity,
        strategy.notes registry receiver ++ (resolve registry receiver rest).notes⟩ := by
  rw [Strategy.answer?] at h
  rw [resolve, resolveM, Id.run_bind, h]
  rfl

end Resolve

end LeastGrant
