import LeastGrant.Json.Shown

/-! Problems with single calls. A problem never ends an analysis: the call adds nothing to the usage
and the problem is kept. -/
namespace LeastGrant

/-- What is wrong with a call. -/
inductive Problem where
  | entityUnresolved (expression typeText : String)
  | associationNameNotLiteral (entity method argument : String)
  | associationNotFound (association entity : String)
  | targetNotRegistered (target : Json) (association entity : String)
  | throughInvalid (through : Json) (association entity : String)
  | throughUnresolved (through association entity : String)
  | unknownMixin (method : String)

/-- The sorts of problems. -/
inductive ProblemKind where
  | entityUnresolved
  | associationNameNotLiteral
  | associationNotFound
  | targetNotRegistered
  | throughInvalid
  | throughUnresolved
  | unknownMixin
  deriving DecidableEq, Repr

namespace ProblemKind

def name : ProblemKind → String
  | entityUnresolved => "entity_unresolved"
  | associationNameNotLiteral => "association_name_not_literal"
  | associationNotFound => "association_not_found"
  | targetNotRegistered => "target_not_registered"
  | throughInvalid => "through_invalid"
  | throughUnresolved => "through_unresolved"
  | unknownMixin => "unknown_mixin"

def all : List ProblemKind :=
  [entityUnresolved, associationNameNotLiteral, associationNotFound, targetNotRegistered,
    throughInvalid, throughUnresolved, unknownMixin]

theorem mem_all (kind : ProblemKind) : kind ∈ all := by
  cases kind <;> simp [all]

/-- Whether a problem of this sort may hide a privilege that the code needs. -/
def mayUnderGrant : ProblemKind → Bool
  | entityUnresolved | targetNotRegistered | throughUnresolved => true
  | _ => false

end ProblemKind

namespace Problem

def kind : Problem → ProblemKind
  | entityUnresolved .. => .entityUnresolved
  | associationNameNotLiteral .. => .associationNameNotLiteral
  | associationNotFound .. => .associationNotFound
  | targetNotRegistered .. => .targetNotRegistered
  | throughInvalid .. => .throughInvalid
  | throughUnresolved .. => .throughUnresolved
  | unknownMixin .. => .unknownMixin

def message : Problem → String
  | entityUnresolved expression typeText =>
    s!"Could not find model for `{expression}` (type: {typeText})"
  | associationNameNotLiteral entity method argument =>
    s!"Association name is not a string literal in '{entity}.{method}': '{argument}'"
  | associationNotFound association entity =>
    s!"Association '{association}' not found in model '{entity}'"
  | targetNotRegistered target association entity =>
    s!"Could not find target model ({target.plain}) for association '{association}' in model '{entity}'"
  | throughInvalid through association entity =>
    s!"Invalid through model {through.shown} for association '{association}' in model '{entity}'"
  | throughUnresolved through association entity =>
    s!"Could not find through model ({through}) for association '{association}' in model '{entity}'"
  | unknownMixin method =>
    s!"Method '{method}' is not a sequelize-typescript association mixin"

/-- The type of the expression, where the problem is about it. -/
def typeText? : Problem → Option String
  | entityUnresolved _ typeText => some typeText
  | _ => none

end Problem

/-- A problem with the place and the text of the expression that shows it. -/
structure Diagnostic where
  problem : Problem
  location : Option String
  expression : Option String

/-- The message, with the place if there is one. -/
def Diagnostic.text (diagnostic : Diagnostic) : String :=
  match diagnostic.location with
  | some location => diagnostic.problem.message ++ " at " ++ location
  | none => diagnostic.problem.message

end LeastGrant
