import LeastGrant.Tree.Shape
import LeastGrant.Text.Blank
import LeastGrant.Text.Identifier

/-! Static types, and how they are read off type annotations. A union with null or undefined is the
type without them; a union of several other types has no symbol. -/
namespace LeastGrant

open Text

/-- A static type. The symbol is missing where a type has no name of its own; the text is how it is
shown. `isClass` is set for the type of a class itself, as against its instances. -/
inductive StaticType where
  | mk (symbol : Option String) (text : String) (args : List StaticType) (isClass : Bool)
  deriving Repr

namespace StaticType

def symbol : StaticType → Option String
  | mk symbol _ _ _ => symbol

def text : StaticType → String
  | mk _ text _ _ => text

def args : StaticType → List StaticType
  | mk _ _ args _ => args

def isClass : StaticType → Bool
  | mk _ _ _ isClass => isClass

/-- The instances of a named type. -/
def named (name : String) : StaticType := mk (some name) name [] false

/-- The class of a name. -/
def classNamed (name : String) : StaticType := mk (some name) ("typeof " ++ name) [] true

/-- A type that has a text only. -/
def anonymous (text : String) : StaticType := mk none text [] false

def arrayOf (element : StaticType) : StaticType :=
  mk (some "Array") (element.text ++ "[]") [element] false

def promiseOf (inner : StaticType) : StaticType :=
  mk (some "Promise") ("Promise<" ++ inner.text ++ ">") [inner] false

/-- The type of the elements of an array. -/
def element? : StaticType → Option StaticType
  | mk (some "Array") _ (element :: _) _ => some element
  | mk (some "ReadonlyArray") _ (element :: _) _ => some element
  | _ => none

/-- What waiting for a value of the type gives. -/
def awaited : StaticType → StaticType
  | mk (some "Promise") _ (inner :: _) _ => inner
  | type => type

theorem element?_arrayOf (type : StaticType) : (arrayOf type).element? = some type := rfl

theorem awaited_promiseOf (type : StaticType) : (promiseOf type).awaited = type := rfl

/-- A text as a symbol; the empty text is none. -/
def symbolOf (text : String) : Option String := if text = "" then none else some text

/-- Whether a type text adds nothing but the absence of a value. -/
def isNullish (text : String) : Bool := text == "null" || text == "undefined"

/-- The name of the class in the operand of a class query: without type arguments and qualifiers. -/
def queriedName (text : String) : String :=
  let bare := ((splitText '<' text).head?).getD ""
  String.ofList (trim (afterLastDot bare).toList)

/-- The type that a class query names. -/
def ofQuery (text : String) (operand : Option Node) : StaticType :=
  let name := match operand with
    | some node => queriedName node.text
    | none => ""
  if isIdentifier name then classNamed name else anonymous text

mutual
/-- The type that a type node or annotation stands for. -/
def ofNode : Node → Option StaticType
  | .mk label children =>
    match label.kind with
    | .annotatedType => firstType children
    | .parenthesizedType => firstType children
    | .typeIdentifier => some (named label.text)
    | .identifier => some (named label.text)
    | .nestedTypeIdentifier =>
      some (mk (symbolOf (Node.childText (.mk label children) .name)) label.text [] false)
    | .genericType =>
      some (mk (symbolOf (afterLastDot (Node.childText (.mk label children) .name))) label.text
        (argumentTypes children) false)
    | .arrayType => some (arrayOf ((firstType children).getD (anonymous "any")))
    | .unionType =>
      match memberTypes children with
      | [member] => member
      | _ => some (anonymous label.text)
    | .typeQuery => some (ofQuery label.text (Node.operands (.mk label children)).head?)
    | _ => some (anonymous label.text)

/-- The type of the first operand. -/
def firstType : List Node → Option StaticType
  | [] => none
  | child :: rest => if child.isOperand then ofNode child else firstType rest

/-- The types of the members of a union, those of nested unions among them, without null and
undefined. -/
def memberTypes : List Node → List (Option StaticType)
  | [] => []
  | .mk label children :: rest =>
    (if Node.isOperand (.mk label children) then
      if label.kind = .unionType then memberTypes children
      else if isNullish label.text then [] else [ofNode (.mk label children)]
    else []) ++ memberTypes rest

/-- The type arguments among the parts of a type. -/
def argumentTypes : List Node → List StaticType
  | [] => []
  | .mk label children :: rest =>
    if label.role = some .typeArguments then operandTypes children else argumentTypes rest

/-- The types of all operands. -/
def operandTypes : List Node → List StaticType
  | [] => []
  | child :: rest =>
    if child.isOperand then (ofNode child).getD (anonymous child.text) :: operandTypes rest
    else operandTypes rest
end

end StaticType

end LeastGrant
