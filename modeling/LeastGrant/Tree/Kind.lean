/-! The kinds of nodes in a source tree and the roles that a node can have in its parent. Kinds and
roles that the analysis never asks for are kept by name, or left out. -/
namespace LeastGrant

/-- What a node of a source tree is. The words `class` and `function` are kinds of their own, whether
the node is the keyword or an expression that begins with it. -/
inductive Kind where
  | program
  | statementBlock
  | classBody
  | functionDeclaration
  | generatorFunctionDeclaration
  | functionExpression
  | functionWord
  | arrowFunction
  | methodDefinition
  | forStatement
  | forInStatement
  | catchClause
  | classDeclaration
  | abstractClassDeclaration
  | classWord
  | comment
  | arguments
  | callExpression
  | memberExpression
  | propertyIdentifier
  | stringLiteral
  | decorator
  | exportStatement
  | objectLiteral
  | pair
  | shorthandPropertyIdentifier
  | annotatedType
  | typeIdentifier
  | identifier
  | nestedTypeIdentifier
  | genericType
  | arrayType
  | unionType
  | parenthesizedType
  | typeQuery
  | interfaceDeclaration
  | typeAliasDeclaration
  | variableDeclarator
  | requiredParameter
  | optionalParameter
  | importStatement
  | importClause
  | namedImports
  | importSpecifier
  | thisWord
  | parenthesizedExpression
  | nonNullExpression
  | satisfiesExpression
  | awaitExpression
  | asExpression
  | typeAssertion
  | typeArguments
  | newExpression
  | classHeritage
  | extendsClause
  | implementsClause
  | extendsTypeClause
  | staticWord
  | publicFieldDefinition
  | propertySignature
  | methodSignature
  | abstractMethodSignature
  | accessibilityModifier
  | readonlyWord
  | other (name : String)
  deriving DecidableEq, Repr

namespace Kind

def name : Kind → String
  | .program => "program"
  | .statementBlock => "statement_block"
  | .classBody => "class_body"
  | .functionDeclaration => "function_declaration"
  | .generatorFunctionDeclaration => "generator_function_declaration"
  | .functionExpression => "function_expression"
  | .functionWord => "function"
  | .arrowFunction => "arrow_function"
  | .methodDefinition => "method_definition"
  | .forStatement => "for_statement"
  | .forInStatement => "for_in_statement"
  | .catchClause => "catch_clause"
  | .classDeclaration => "class_declaration"
  | .abstractClassDeclaration => "abstract_class_declaration"
  | .classWord => "class"
  | .comment => "comment"
  | .arguments => "arguments"
  | .callExpression => "call_expression"
  | .memberExpression => "member_expression"
  | .propertyIdentifier => "property_identifier"
  | .stringLiteral => "string"
  | .decorator => "decorator"
  | .exportStatement => "export_statement"
  | .objectLiteral => "object"
  | .pair => "pair"
  | .shorthandPropertyIdentifier => "shorthand_property_identifier"
  | .annotatedType => "type_annotation"
  | .typeIdentifier => "type_identifier"
  | .identifier => "identifier"
  | .nestedTypeIdentifier => "nested_type_identifier"
  | .genericType => "generic_type"
  | .arrayType => "array_type"
  | .unionType => "union_type"
  | .parenthesizedType => "parenthesized_type"
  | .typeQuery => "type_query"
  | .interfaceDeclaration => "interface_declaration"
  | .typeAliasDeclaration => "type_alias_declaration"
  | .variableDeclarator => "variable_declarator"
  | .requiredParameter => "required_parameter"
  | .optionalParameter => "optional_parameter"
  | .importStatement => "import_statement"
  | .importClause => "import_clause"
  | .namedImports => "named_imports"
  | .importSpecifier => "import_specifier"
  | .thisWord => "this"
  | .parenthesizedExpression => "parenthesized_expression"
  | .nonNullExpression => "non_null_expression"
  | .satisfiesExpression => "satisfies_expression"
  | .awaitExpression => "await_expression"
  | .asExpression => "as_expression"
  | .typeAssertion => "type_assertion"
  | .typeArguments => "type_arguments"
  | .newExpression => "new_expression"
  | .classHeritage => "class_heritage"
  | .extendsClause => "extends_clause"
  | .implementsClause => "implements_clause"
  | .extendsTypeClause => "extends_type_clause"
  | .staticWord => "static"
  | .publicFieldDefinition => "public_field_definition"
  | .propertySignature => "property_signature"
  | .methodSignature => "method_signature"
  | .abstractMethodSignature => "abstract_method_signature"
  | .accessibilityModifier => "accessibility_modifier"
  | .readonlyWord => "readonly"
  | .other name => name

/-- The kinds that have a name of their own. -/
def known : List Kind :=
  [.program, .statementBlock, .classBody, .functionDeclaration, .generatorFunctionDeclaration,
    .functionExpression, .functionWord, .arrowFunction, .methodDefinition, .forStatement,
    .forInStatement, .catchClause, .classDeclaration, .abstractClassDeclaration, .classWord,
    .comment, .arguments, .callExpression, .memberExpression, .propertyIdentifier,
    .stringLiteral, .decorator, .exportStatement, .objectLiteral, .pair,
    .shorthandPropertyIdentifier, .annotatedType, .typeIdentifier, .identifier,
    .nestedTypeIdentifier, .genericType, .arrayType, .unionType, .parenthesizedType, .typeQuery,
    .interfaceDeclaration, .typeAliasDeclaration, .variableDeclarator, .requiredParameter,
    .optionalParameter, .importStatement, .importClause, .namedImports, .importSpecifier,
    .thisWord, .parenthesizedExpression, .nonNullExpression, .satisfiesExpression,
    .awaitExpression, .asExpression, .typeAssertion, .typeArguments, .newExpression,
    .classHeritage, .extendsClause, .implementsClause, .extendsTypeClause, .staticWord,
    .publicFieldDefinition, .propertySignature, .methodSignature, .abstractMethodSignature,
    .accessibilityModifier, .readonlyWord]

/-- The kind of a name. -/
def ofName (name : String) : Kind :=
  (known.find? fun kind => kind.name == name).getD (.other name)

theorem name_ofName (name : String) : (ofName name).name = name := by
  unfold ofName
  cases h : known.find? fun kind => kind.name == name with
  | none => rfl
  | some kind => simpa using List.find?_some h

/-- Whether a node of this kind limits what the names declared in it can reach. -/
def opensScope : Kind → Bool
  | .program | .statementBlock | .classBody | .functionDeclaration
  | .generatorFunctionDeclaration | .functionExpression | .functionWord | .arrowFunction
  | .methodDefinition | .forStatement | .forInStatement | .catchClause => true
  | _ => false

def isFunction : Kind → Bool
  | .functionDeclaration | .generatorFunctionDeclaration | .functionExpression
  | .functionWord | .arrowFunction | .methodDefinition => true
  | _ => false

def isClass : Kind → Bool
  | .classDeclaration | .abstractClassDeclaration | .classWord => true
  | _ => false

theorem opensScope_of_isFunction (kind : Kind) (h : kind.isFunction = true) :
    kind.opensScope = true := by
  cases kind <;> simp_all [isFunction, opensScope]

end Kind

/-- What a node is to its parent. -/
inductive Role where
  | name
  | type
  | value
  | parameter
  | left
  | right
  | operator
  | pattern
  | alias
  | object
  | property
  | function
  | arguments
  | constructor
  | body
  | returnType
  | typeArguments
  | parameters
  | key
  | source
  deriving DecidableEq, Repr

namespace Role

def text : Role → String
  | .name => "name"
  | .type => "type"
  | .value => "value"
  | .parameter => "parameter"
  | .left => "left"
  | .right => "right"
  | .operator => "operator"
  | .pattern => "pattern"
  | .alias => "alias"
  | .object => "object"
  | .property => "property"
  | .function => "function"
  | .arguments => "arguments"
  | .constructor => "constructor"
  | .body => "body"
  | .returnType => "return_type"
  | .typeArguments => "type_arguments"
  | .parameters => "parameters"
  | .key => "key"
  | .source => "source"

def all : List Role :=
  [.name, .type, .value, .parameter, .left, .right, .operator, .pattern, .alias, .object,
    .property, .function, .arguments, .constructor, .body, .returnType, .typeArguments,
    .parameters, .key, .source]

/-- The role of a text; texts that are never asked for have none. -/
def ofText? (text : String) : Option Role := all.find? fun role => role.text == text

theorem ofText?_text (role : Role) : ofText? role.text = some role := by
  cases role <;> decide +kernel

end Role

end LeastGrant
