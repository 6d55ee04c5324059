import LeastGrant.Typing.Scope
import LeastGrant.Typing.StaticType

/-! Types of expressions, from annotations, declarations and a few rules. The rules follow names from
use to declaration, which may run in circles, so the number of steps is bounded: an expression that
needs more has no type. -/
namespace LeastGrant

/-- A member of a class or an interface. -/
inductive Member where
  | field (node : Node)
  | method (node : Node)

namespace Member

/-- The parameter of a constructor that declares a field of a name. -/
def parameterField? (constructor : Node) (name : String) : Option Node :=
  match constructor.child? .parameters with
  | some parameters =>
    parameters.namedChildren.find? fun parameter =>
      (parameter.kind == .requiredParameter || parameter.kind == .optionalParameter) &&
        (parameter.children.any fun child =>
          child.kind == .accessibilityModifier || child.kind == .readonlyWord) &&
        parameter.childText .pattern == name
  | none => none

/-- The member of a name that a node in a body declares. -/
def ofNode? (name : String) (node : Node) : Option Member :=
  let own := node.childText .name
  match node.kind with
  | .publicFieldDefinition | .propertySignature => if own = name then some (field node) else none
  | .methodSignature | .abstractMethodSignature =>
    if own = name then some (method node) else none
  | .methodDefinition =>
    if own = name then some (method node)
    else if own = "constructor" then (parameterField? node name).map field
    else none
  | _ => none

/-- The first member of a name in the body of a declaration. -/
def inDeclaration? (declaration : Node) (name : String) : Option Member :=
  match declaration.child? .body with
  | some body => body.namedChildren.findSome? (ofNode? name)
  | none => none

end Member

/-- The most steps from an expression to its type. -/
def maxSteps : Nat := 9

/-- The methods that call their first argument with the elements of an array. -/
def isArrayCallback (method : String) : Bool :=
  ["forEach", "map", "flatMap", "filter", "find", "findLast", "some", "every"].contains method

/-- What the finders of a model class give. -/
def finderType? (model : String) : String → Option StaticType
  | "build" => some (.named model)
  | "create" | "findOne" | "findByPk" => some (.promiseOf (.named model))
  | "findAll" | "bulkCreate" => some (.promiseOf (.arrayOf (.named model)))
  | _ => none

/-- The type that a node names in one of its parts. -/
def declaredType (node : Node) (role : Role) : Option StaticType :=
  (node.child? role).bind StaticType.ofNode

/-- The type of `this` at a place: an instance of the class around it, or the class itself in a
static method of the class. -/
def thisType (place : Place) : Option StaticType :=
  match place.enclosing? Kind.isClass with
  | some owner =>
    let name := owner.childText .name
    if name = "" then none
    else
      match place.enclosing? (· == .methodDefinition) with
      | some method =>
        if owner.start < method.start ∧ method.children.any fun child => child.kind == .staticWord then
          some (.classNamed name)
        else some (.named name)
      | none => some (.named name)
  | none => none

/-- The call that a function is the first argument of: its receiver, if the method passes elements. -/
def callbackReceiver? (function : Place) : Option Place :=
  match function.parent? with
  | some list =>
    match list.parent? with
    | some call =>
      if call.kind = .callExpression ∧ list.kind = .arguments ∧ function.isFirstOperand then
        match call.memberCall? with
        | some (receiver, method) => if isArrayCallback method then some receiver else none
        | none => none
      else none
    | none => none
  | none => none

section Types

variable {m : Type → Type} [Lookups m]

namespace CodeIndex

/-- The member of a type, its own or inherited, in at most `steps` steps up the heritage. -/
def memberM? (index : CodeIndex) : (steps : Nat) → (type name : String) → m (Option Member)
  | 0, _, _ => return none
  | steps + 1, type, name =>
    (index.declarationsOf type).findSomeM? fun declaration =>
      if declaration.hasMembers then
        match Member.inDeclaration? declaration.node name with
        | some own => return some own
        | none => (Heritage.ofDeclaration declaration.node).findSomeM? fun entry => do
          match ← entry.baseNameM? with
          | some base => index.memberM? steps base name
          | none => return none
      else return none

def member? (index : CodeIndex) (steps : Nat) (type name : String) : Option Member :=
  Id.run (index.memberM? steps type name)

@[simp] theorem run_memberM? (index : CodeIndex) (steps : Nat) (type name : String) :
    Id.run (index.memberM? steps type name) = index.member? steps type name :=
  rfl

/-- The declared type of a field. -/
def fieldTypeM (index : CodeIndex) (steps : Nat) (owner : Option StaticType) (name : String) :
    m (Option StaticType) := do
  match owner.bind StaticType.symbol with
  | some type =>
    match ← index.memberM? steps type name with
    | some (.field node) => return declaredType node .type
    | _ => return none
  | none => return none

def fieldType (index : CodeIndex) (steps : Nat) (owner : Option StaticType) (name : String) :
    Option StaticType :=
  Id.run (index.fieldTypeM steps owner name)

/-- The declared type of the result of a method. A class of models has finders as well. -/
def methodTypeM (index : CodeIndex) (steps : Nat) (owner : Option StaticType) (name : String) :
    m (Option StaticType) := do
  match owner with
  | some owner =>
    match owner.symbol with
    | some type =>
      match ← index.memberM? steps type name with
      | some (.method node) => return declaredType node .returnType
      | _ => return if owner.isClass then finderType? type name else none
    | none => return none
  | none => return none

def methodType (index : CodeIndex) (steps : Nat) (owner : Option StaticType) (name : String) :
    Option StaticType :=
  Id.run (index.methodTypeM steps owner name)

/-- The declared type of the result of the first function of a name. -/
def functionType (index : CodeIndex) (name : String) : Option StaticType :=
  match (index.declarationsOf name).find? fun declaration => declaration.kind == .function with
  | some declaration => declaredType declaration.node .returnType
  | none => none

/-- The exported name of an import, or the local one where it is empty. -/
def exportedName (exported name : String) : String := if exported = "" then name else exported

/-- The type of a call of a plain name. -/
def namedCallType (index : CodeIndex) (path : Path) (callee : Node) : Option StaticType :=
  match (index.lookup path callee.text callee.start).map Binding.meaning with
  | some (.imported exported) => index.functionType (exportedName exported callee.text)
  | some (.value value) => declaredType value.node .returnType
  | _ => index.functionType callee.text

/-- The type of a new object. -/
def newType (index : CodeIndex) (path : Path) (expression : Node) : Option StaticType :=
  match expression.child? .constructor with
  | some callee =>
    let own := afterLastDot callee.text
    let name :=
      if callee.kind = .identifier then
        match (index.lookup path own callee.start).map Binding.meaning with
        | some (.imported exported) => exportedName exported own
        | _ => own
      else own
    if name = "" then none else some (.named name)
  | none => none

/-- The type that an expression is given by a cast. -/
def castTypeM (expression : Node) : m (Option StaticType) := do
  let operands := expression.operands
  if 1 < operands.length then
    return (← Lookups.element operands (operands.length - 1)).bind StaticType.ofNode
  else return none

/-- The type that an expression is given by a type in front of it. -/
def assertedTypeM (expression : Node) : m (Option StaticType) := do
  match expression.namedChildren.find? fun child => child.kind == .typeArguments with
  | some list => return (← Lookups.first? list.operands).bind StaticType.ofNode
  | none => return none

end CodeIndex

/-- Where the type of an expression comes from. -/
inductive TypeSource where
  /-- What is written there, whatever other expressions are. -/
  | given (type : Option StaticType)
  /-- The type of another expression. -/
  | value (inner : Place)
  /-- The elements of another expression. -/
  | element (inner : Place)
  /-- What another expression is awaited to give. -/
  | awaited (inner : Place)
  /-- A field of another expression. -/
  | field (object : Place) (name : String)
  /-- The result of a method of another expression. -/
  | result (object : Place) (name : String)

namespace TypeSource

/-- The source of the type of a plain name. -/
def ofName (index : CodeIndex) (path : Path) (place : Place) : TypeSource :=
  match index.lookup path place.text place.node.start with
  | none =>
    given (if (index.declarationsOf place.text).any fun declaration =>
      declaration.kind == .classType then some (.classNamed place.text) else none)
  | some binding =>
    match binding.meaning with
    | .annotated type => given (StaticType.ofNode type)
    | .value inner => value inner
    | .imported exported =>
      given (some (.classNamed (CodeIndex.exportedName exported binding.name)))
    | .classItself _ => given (some (.classNamed binding.name))
    | .function _ => given none
    | .iteration iterable => element iterable
    | .callback function => (callbackReceiver? function).elim (given none) element

/-- The source of the type of a call. -/
def ofCall (index : CodeIndex) (path : Path) (call : Place) : TypeSource :=
  match call.child? .function with
  | some callee =>
    match callee.kind with
    | .identifier => given (index.namedCallType path callee.node)
    | .memberExpression =>
      (callee.child? .object).elim (given none) (result · (callee.node.childText .property))
    | _ => given none
  | none => given none

/-- The source of the type of the expression at a place. -/
def ofPlaceM (index : CodeIndex) (path : Path) (place : Place) : m TypeSource := do
  match place.kind with
  | .identifier => return ofName index path place
  | .thisWord => return given (thisType place)
  | .parenthesizedExpression | .nonNullExpression | .satisfiesExpression =>
    return (← Lookups.first? place.operands).elim (given none) value
  | .awaitExpression => return (← Lookups.first? place.operands).elim (given none) awaited
  | .asExpression => return given (← CodeIndex.castTypeM place.node)
  | .typeAssertion => return given (← CodeIndex.assertedTypeM place.node)
  | .newExpression => return given (index.newType path place.node)
  | .callExpression => return ofCall index path place
  | .memberExpression =>
    return (place.child? .object).elim (given none) (field · (place.node.childText .property))
  | _ => return given none

def ofPlace (index : CodeIndex) (path : Path) (place : Place) : TypeSource :=
  Id.run (ofPlaceM index path place)

@[simp] theorem run_ofPlaceM (index : CodeIndex) (path : Path) (place : Place) :
    Id.run (ofPlaceM index path place) = ofPlace index path place :=
  rfl

theorem ofPlace_of_name {index : CodeIndex} {path : Path} {place : Place}
    (h : place.kind = .identifier) : ofPlace index path place = ofName index path place := by
  rw [ofPlace, ofPlaceM, h]
  rfl

theorem ofPlace_of_call {index : CodeIndex} {path : Path} {place : Place}
    (h : place.kind = .callExpression) : ofPlace index path place = ofCall index path place := by
  rw [ofPlace, ofPlaceM, h]
  rfl

/-- The expression that is asked for its type. -/
def next? : TypeSource → Option Place
  | given _ => none
  | value inner | element inner | awaited inner | field inner _ | result inner _ => some inner

/-- The type that follows from the type of the next expression. -/
def deriveM (index : CodeIndex) (steps : Nat) (found : Option StaticType) :
    TypeSource → m (Option StaticType)
  | given type => return type
  | value _ => return found
  | element _ => return found.bind StaticType.element?
  | awaited _ => return found.map StaticType.awaited
  | field _ name => index.fieldTypeM steps found name
  | result _ name => index.methodTypeM (steps + 1) found name

def derive (index : CodeIndex) (steps : Nat) (found : Option StaticType) (source : TypeSource) :
    Option StaticType :=
  Id.run (source.deriveM index steps found)

end TypeSource

namespace CodeIndex

/-- The static type of the expression at a place, in at most `steps` steps. -/
def typeWithinM (index : CodeIndex) (path : Path) : (steps : Nat) → Place → m (Option StaticType)
  | 0, _ => return none
  | steps + 1, place => do
    let source ← TypeSource.ofPlaceM index path place
    match source.next? with
    | some next => source.deriveM index steps (← index.typeWithinM path steps next)
    | none => source.deriveM index steps none

def typeWithin (index : CodeIndex) (path : Path) (steps : Nat) (place : Place) :
    Option StaticType :=
  Id.run (index.typeWithinM path steps place)

/-- One step of typing. -/
theorem typeWithin_succ (index : CodeIndex) (path : Path) (steps : Nat) (place : Place) :
    index.typeWithin path (steps + 1) place =
      (TypeSource.ofPlace index path place).derive index steps
        ((TypeSource.ofPlace index path place).next?.bind (index.typeWithin path steps)) := by
  rw [typeWithin, typeWithinM, Id.run_bind, TypeSource.run_ofPlaceM]
  cases (TypeSource.ofPlace index path place).next? <;> rfl

/-- The static type of the expression at a place in the file of a path. -/
def typeOf (index : CodeIndex) (path : Path) (place : Place) : Option StaticType :=
  index.typeWithin path maxSteps place

end CodeIndex

end Types

end LeastGrant
