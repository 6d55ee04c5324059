import LeastGrant.SourceFile
import LeastGrant.Tree.Shape
import LeastGrant.Lookup

/-! Declarations and bindings. A code base has declarations, found by name whatever their file, and
bindings, found by name in the scopes of one file. -/
namespace LeastGrant

inductive DeclarationKind where
  | classType
  | interfaceType
  | typeAlias
  | function
  deriving DecidableEq, Repr

def DeclarationKind.name : DeclarationKind → String
  | .classType => "class"
  | .interfaceType => "interface"
  | .typeAlias => "type_alias"
  | .function => "function"

/-- What a node of some kind declares. -/
def DeclarationKind.ofKind? : Kind → Option DeclarationKind
  | .classDeclaration | .abstractClassDeclaration => some .classType
  | .interfaceDeclaration => some .interfaceType
  | .typeAliasDeclaration => some .typeAlias
  | .functionDeclaration | .generatorFunctionDeclaration => some .function
  | _ => none

/-- A named declaration and where it stands. -/
structure Declaration where
  kind : DeclarationKind
  name : String
  node : Node
  location : String

/-- Whether a declaration has members. -/
def Declaration.hasMembers (declaration : Declaration) : Bool :=
  declaration.kind == .classType || declaration.kind == .interfaceType

/-- An entry of an extends or implements clause: what is extended, and its type arguments. The base
is missing where the source breaks off. -/
structure Heritage where
  base : Option Node
  arguments : List Node

namespace Heritage

/-- Adds an operand of a clause to the entries before it, the last of which comes first. Type
arguments belong to the entry before them. -/
def extend (entries : List Heritage) (operand : Node) : List Heritage :=
  match entries with
  | last :: earlier =>
    if operand.kind = .typeArguments then
      { last with arguments := last.arguments ++ operand.operands } :: earlier
    else ⟨some operand, []⟩ :: entries
  | [] => [⟨some operand, []⟩]

/-- The entries of a clause of expressions. -/
def ofExpressions (clause : Node) : List Heritage :=
  (clause.operands.foldl extend []).reverse

/-- The entry of a type. -/
def ofType (type : Node) : Heritage :=
  if type.kind = .genericType then
    ⟨type.child? .name, match type.child? .typeArguments with
      | some list => list.operands
      | none => []⟩
  else ⟨some type, []⟩

/-- The entries of a clause of types. -/
def ofTypes (clause : Node) : List Heritage := clause.operands.map ofType

/-- The entries in the heritage of a class. Without clauses, each operand is an entry. -/
def ofClassHeritage (heritage : Node) : List Heritage :=
  let clauses := heritage.operands
  let isClause := fun clause : Node =>
    clause.kind == .extendsClause || clause.kind == .implementsClause
  if clauses.any isClause then
    clauses.flatMap fun clause =>
      match clause.kind with
      | .extendsClause => ofExpressions clause
      | .implementsClause => ofTypes clause
      | _ => []
  else clauses.map fun operand => ⟨some operand, []⟩

/-- The entries of all clauses of a class or an interface. -/
def ofDeclaration (declaration : Node) : List Heritage :=
  declaration.namedChildren.flatMap fun child =>
    match child.kind with
    | .classHeritage => ofClassHeritage child
    | .extendsTypeClause | .extendsClause => ofTypes child
    | _ => []

/-- The name of the base, if it is a plain name. -/
def baseNameM? {m : Type → Type} [Lookups m] (entry : Heritage) : m (Option String) := do
  match ← Lookups.expect .base entry.base with
  | some base =>
    return if base.kind = .identifier ∨ base.kind = .typeIdentifier then some base.text else none
  | none => return none

def baseName? (entry : Heritage) : Option String := Id.run entry.baseNameM?

@[simp] theorem run_baseNameM? (entry : Heritage) : Id.run entry.baseNameM? = entry.baseName? := rfl

end Heritage

/-- What a bound name stands for. -/
inductive Meaning where
  /-- A variable or parameter with a type annotation. -/
  | annotated (type : Node)
  /-- A variable with an initial value. -/
  | value (value : Place)
  /-- An import, with the name it has in its module. -/
  | imported (exported : String)
  /-- A class, with its declaration. -/
  | classItself (declaration : Place)
  /-- A function, with its declaration. -/
  | function (declaration : Place)
  /-- The variable of a loop over the elements of something. -/
  | iteration (iterable : Place)
  /-- The first parameter of a function. -/
  | callback (function : Place)

/-- A name bound in a scope, which is given by the bytes that it spans. -/
structure Binding where
  name : String
  meaning : Meaning
  start : Nat
  stop : Nat

namespace Binding

def inScope (name : String) (meaning : Meaning) (scope : Node) : Binding :=
  ⟨name, meaning, scope.start, scope.stop⟩

def covers (binding : Binding) (offset : Nat) : Bool :=
  decide (binding.start ≤ offset) && decide (offset < binding.stop)

def size (binding : Binding) : Int := (binding.stop : Int) - binding.start

/-- The smallest of some bindings, the first of several. -/
def smallest? : List Binding → Option Binding
  | [] => none
  | binding :: rest =>
    match smallest? rest with
    | none => some binding
    | some other => if other.size < binding.size then some other else some binding

theorem smallest?_mem (bindings : List Binding) (b : Binding) (h : smallest? bindings = some b) :
    b ∈ bindings := by
  induction bindings generalizing b with
  | nil => simp [smallest?] at h
  | cons first rest ih =>
    unfold smallest? at h
    split at h
    · simp_all
    · rename_i other hr
      split at h
      · cases h
        exact List.mem_cons_of_mem _ (ih _ hr)
      · simp_all

/-- A binding in the nearest scope around a place. -/
def inNearestScope (place : Place) (name : String) (meaning : Meaning) : List Binding :=
  match place.enclosing? Kind.opensScope with
  | some scope => [inScope name meaning scope]
  | none => []

/-- What a variable declaration binds: a single name with an annotation or a value. -/
def ofVariable (place : Place) : List Binding :=
  match place.node.child? .name with
  | some name =>
    if name.kind = .identifier then
      match place.node.child? .type, place.child? .value with
      | some type, _ => inNearestScope place name.text (.annotated type)
      | none, some value => inNearestScope place name.text (.value value)
      | none, none => []
    else []
  | none => []

/-- What a parameter binds in its function. Without an annotation only the first parameter does. -/
def ofParameter (place : Place) : List Binding :=
  match place.node.child? .pattern, place.parent?.bind Place.parent? with
  | some pattern, some function =>
    if pattern.kind = .identifier ∧ function.kind.isFunction then
      match place.node.child? .type with
      | some type => [inScope pattern.text (.annotated type) function.node]
      | none =>
        if place.isFirstNamed then [inScope pattern.text (.callback function) function.node] else []
    else []
  | _, _ => []

/-- What an arrow function with a single bare parameter binds. -/
def ofArrow (place : Place) : List Binding :=
  match place.node.child? .parameter with
  | some parameter =>
    if parameter.kind = .identifier then [inScope parameter.text (.callback place) place.node]
    else []
  | none => []

/-- What a loop over elements binds. -/
def ofLoop (place : Place) : List Binding :=
  match place.node.child? .left, place.child? .right with
  | some left, some right =>
    if left.kind = .identifier ∧ place.node.childText .operator = "of" then
      [inScope left.text (.iteration right) place.node]
    else []
  | _, _ => []

end Binding

/-- A name in the braces of an import: the name in the module and the local name. -/
structure ImportedName where
  exported : String
  aliasName : Option String

/-- The local name of an import. -/
def ImportedName.localName (name : ImportedName) : String := name.aliasName.getD name.exported

namespace Node

/-- The clause of an import statement. -/
def importClause? (statement : Node) : Option Node :=
  statement.namedChildren.find? fun child => child.kind == .importClause

/-- The names in the braces of a clause. -/
def importSpecifiers (names : Node) : List ImportedName :=
  (names.namedChildren.filter fun child => child.kind == .importSpecifier).map fun specifier =>
    ⟨specifier.childText .name, (specifier.child? .alias).map Node.text⟩

/-- The names in braces that an import statement brings in. -/
def importedNames (statement : Node) : List ImportedName :=
  match statement.importClause? with
  | some clause =>
    (clause.namedChildren.filter fun child => child.kind == .namedImports).flatMap importSpecifiers
  | none => []

end Node

namespace Binding

/-- What a part of an import clause binds in the whole file. -/
def ofImportPart (root part : Node) : List Binding :=
  match part.kind with
  | .identifier => [inScope part.text (.imported part.text) root]
  | .namedImports =>
    part.importSpecifiers.map fun name => inScope name.localName (.imported name.exported) root
  | _ => []

def ofImport (root statement : Node) : List Binding :=
  match statement.importClause? with
  | some clause => clause.namedChildren.flatMap (ofImportPart root)
  | none => []

/-- What a class or function declaration binds. -/
def ofDeclaration (place : Place) : List Binding :=
  let name := place.node.childText .name
  match DeclarationKind.ofKind? place.kind with
  | some .classType => if name = "" then [] else inNearestScope place name (.classItself place)
  | some .function => if name = "" then [] else inNearestScope place name (.function place)
  | _ => []

/-- What the node at a place binds. -/
def ofPlace (root : Node) (place : Place) : List Binding :=
  match place.kind with
  | .variableDeclarator => ofVariable place
  | .requiredParameter | .optionalParameter => ofParameter place
  | .arrowFunction => ofArrow place
  | .forInStatement => ofLoop place
  | .importStatement => ofImport root place.node
  | _ => ofDeclaration place

/-- The bindings of a file, in the order of its nodes. -/
def ofFile (file : SourceFile) : List Binding :=
  (Place.all file.root).flatMap (ofPlace file.root)

end Binding

namespace Declaration

/-- The declaration that a node is. -/
def ofNode? (file : SourceFile) (node : Node) : Option Declaration :=
  match DeclarationKind.ofKind? node.kind with
  | some kind =>
    let name := node.childText .name
    if name = "" then none else some ⟨kind, name, node, file.location node⟩
  | none => none

/-- The declarations of a file, in the order of its nodes. -/
def ofFile (file : SourceFile) : List Declaration := file.root.preorder.filterMap (ofNode? file)

end Declaration

/-- The declarations of a code base and the bindings of each of its files. -/
structure CodeIndex where
  declarations : List Declaration
  bindings : List (String × List Binding)

namespace CodeIndex

/-- The index of some files. Of several files with one path the last one's bindings count. -/
def ofFiles (files : List SourceFile) : CodeIndex where
  declarations := files.flatMap Declaration.ofFile
  bindings := (files.map fun file => (file.path.text, Binding.ofFile file)).reverse

/-- The declarations of a name in all files. The empty name has none. -/
def declarationsOf (index : CodeIndex) (name : String) : List Declaration :=
  index.declarations.filter fun declaration => declaration.name == name

/-- The bindings of the file with a path. -/
def bindingsOf (index : CodeIndex) (path : Path) : List Binding :=
  (index.bindings.lookup path.text).getD []

/-- The innermost binding of a name around an offset. -/
def lookup (index : CodeIndex) (path : Path) (name : String) (offset : Nat) : Option Binding :=
  Binding.smallest? ((index.bindingsOf path).filter fun binding =>
    binding.name == name && binding.covers offset)

end CodeIndex

end LeastGrant
