import LeastGrant.Tree.Place
import LeastGrant.Text.Split

/-! Shapes of code: calls of members, string literals, decorators, object literals and functions
without a block. -/
namespace LeastGrant

open Text

/-- What stands after the last dot. -/
def afterLastDot (text : String) : String :=
  ((splitText '.' text).getLast?).getD ""

namespace Node

/-- The value of a string literal: its text between the quotes. -/
def stringValue? (node : Node) : Option String :=
  if node.kind = .stringLiteral then
    match node.text.toList with
    | _ :: second :: rest => some (String.ofList (second :: rest).dropLast)
    | _ => none
  else none

/-- The arguments of a call. -/
def arguments (call : Node) : List Node :=
  match call.child? .arguments with
  | some list => if list.kind = .arguments then list.operands else []
  | none => []

/-- The name of a decorator, without what qualifies it, and its arguments. -/
def decoratorCall (decorator : Node) : String × List Node :=
  match decorator.operands with
  | [] => ("", [])
  | expression :: _ =>
    if expression.kind = .callExpression then
      (afterLastDot (expression.childText .function), expression.arguments)
    else (afterLastDot expression.text, [])

/-- The properties of an object literal. A key is missing if it is a string that is not closed, a
value if the source breaks off. -/
abbrev Properties := List (Option String × Option Node)

/-- Sets a property: an old one keeps its place. -/
def Properties.put (key : Option String) (value : Option Node) : Properties → Properties
  | [] => [(key, value)]
  | (name, old) :: rest =>
    if name = key then (name, value) :: rest else (name, old) :: Properties.put key value rest

/-- The value of a property. -/
def Properties.get? (properties : Properties) (key : String) : Option Node :=
  (properties.lookup (some key)).join

/-- The key and the value of a property, for the nodes that are one. -/
def property? (node : Node) : Option (Option String × Option Node) :=
  match node.kind with
  | .pair =>
    let key := match node.child? .key with
      | some key => if key.kind = .stringLiteral then key.stringValue? else some key.text
      | none => some ""
    some (key, node.child? .value)
  | .shorthandPropertyIdentifier => some (some node.text, some node)
  | _ => none

/-- The properties of an object literal, none for other nodes. -/
def properties (node : Node) : Properties :=
  if node.kind = .objectLiteral then
    (node.namedChildren.filterMap property?).foldl (fun all (key, value) => all.put key value) []
  else []

/-- The expression that an arrow function without a block returns; any other node stands for
itself. -/
def unwrapThunk (node : Node) : Node :=
  if node.kind = .arrowFunction then
    match node.child? .body with
    | some body => if body.kind = .statementBlock then node else body
    | none => node
  else node

end Node

namespace Place

/-- The arguments of a call. -/
def arguments (call : Place) : List Place :=
  match call.child? .arguments with
  | some list => if list.kind = .arguments then list.operands else []
  | none => []

/-- The receiver and the name in a call of a member. Access by a computed name is none. -/
def memberCall? (call : Place) : Option (Place × String) :=
  match call.child? .function with
  | some callee =>
    if callee.kind = .memberExpression then
      match callee.child? .object, callee.child? .property with
      | some receiver, some property =>
        if property.kind = .propertyIdentifier then some (receiver, property.text) else none
      | _, _ => none
    else none
  | none => none

/-- The decorators of a class or of a field: its own, and before them those of the export that it
stands in or those that stand directly before it in a class. -/
def decorators (place : Place) : List Node :=
  let isDecorator : Node → Bool := fun node => node.kind == .decorator
  let own := place.node.children.filter isDecorator
  match place.frames with
  | [] => own
  | frame :: _ =>
    if frame.parent.kind = .exportStatement then frame.parent.children.filter isDecorator ++ own
    else if frame.parent.kind = .classBody then
      (frame.before.takeWhile isDecorator).reverse ++ own
    else own

end Place

end LeastGrant
