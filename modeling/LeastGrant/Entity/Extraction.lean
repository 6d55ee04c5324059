import LeastGrant.Entity.Plural
import LeastGrant.Entity.Registry
import LeastGrant.Note
import LeastGrant.SourceFile
import LeastGrant.Tree.Shape

/-! Models read off decorated classes. A class with a `Table` decorator is a model, and its decorated
fields are associations. Associations refer to classes, and are renamed to the names under which the
models of these classes are registered. A join model that is only named by a string exists too. -/
namespace LeastGrant

/-- A text that is not empty. -/
def nonempty? (text : Option String) : Option String :=
  match text with
  | some text => if text = "" then none else some text
  | none => none

/-- The string literal in a property of an object. -/
def Node.Properties.literal? (properties : Node.Properties) (key : String) : Option String :=
  (properties.get? key).bind Node.stringValue?

/-- A reference to a join model, and the string literal in it if there is one. -/
structure JoinMention where
  reference : Json
  literal : Option String

namespace JoinMention

def none : JoinMention := ⟨.null, Option.none⟩

/-- The join model that an expression names: by a string, or by its text. -/
def ofModel (wrap : String → Json) (model : Node) : JoinMention :=
  let literal := nonempty? model.stringValue?
  ⟨wrap (literal.getD model.text), literal⟩

/-- The join model that an expression refers to: directly, or as the model of an object. -/
def ofNode (expression : Node) : JoinMention :=
  let inner := expression.unwrapThunk
  if inner.kind = .objectLiteral then
    match inner.properties.get? "model" with
    | some model => ofModel (fun name => .obj [("model", .str name)]) model.unwrapThunk
    | Option.none => none
  else ofModel .str inner

/-- The join model among the arguments of a decorator: the second one, or an option. -/
def ofArguments (arguments : List Node) (options : Node.Properties) : JoinMention :=
  let fromOptions := match options.get? "through" with
    | some expression => ofNode expression
    | Option.none => none
  match arguments with
  | _ :: second :: _ => if second.kind = .objectLiteral then fromOptions else ofNode second
  | _ => fromOptions

end JoinMention

/-- The options of a decorator: its last argument, if it has several and this is an object. -/
def decoratorOptions (arguments : List Node) : Node.Properties :=
  match arguments with
  | _ :: second :: rest => ((second :: rest).getLast?.map Node.properties).getD []
  | _ => []

/-- The association that a decorator of a field declares, and the join model named by a string. -/
def Association.ofDecorator? (field decorator : Node) : Option (Association × Option String) :=
  let (name, arguments) := decorator.decoratorCall
  match AssociationKind.ofName? name, arguments with
  | some kind, first :: _ =>
    let options := decoratorOptions arguments
    let join := if kind = .belongsToMany then JoinMention.ofArguments arguments options else .none
    some (⟨(nonempty? (options.literal? "as")).getD (field.childText .name), kind,
      .str first.unwrapThunk.text, join.reference⟩, join.literal)
  | _, _ => none

/-- The association that a field declares. -/
def Association.ofField? (field : Place) : Option (Association × Option String) :=
  field.decorators.findSome? (Association.ofDecorator? field.node)

/-- The options in the `Table` decorator of a class. -/
def tableOptions? (place : Place) : Option Node.Properties :=
  (place.decorators.map Node.decoratorCall).findSome? fun (name, arguments) =>
    if name = "Table" then some ((arguments.head?.map Node.properties).getD []) else none

/-- The associations in the body of a class, with the join models named by strings. -/
def classAssociations (place : Place) : List (Association × Option String) :=
  match place.child? .body with
  | some body =>
    (body.children.filter fun member =>
      member.node.named && member.kind == .publicFieldDefinition).filterMap Association.ofField?
  | none => []

/-- A model as its class declares it. -/
structure ModelClass where
  className : String
  entity : Entity
  /-- The join models that strings name. -/
  literals : List String
  location : String

namespace ModelClass

/-- The model that the class at a place declares. -/
def ofPlace? (file : SourceFile) (place : Place) : Option ModelClass :=
  if place.kind.isClass then
    let className := place.node.childText .name
    match nonempty? (some className), tableOptions? place with
    | some _, some options =>
      let name := (nonempty? (options.literal? "modelName")).getD className
      let frozen := (options.get? "freezeTableName").map Node.text = some "true"
      let table := (nonempty? (options.literal? "tableName")).getD
        (if frozen then name else Entity.plural name)
      let found := classAssociations place
      some
        { className := className
          entity :=
            { name := name
              tableName := .str table
              associations := (found.map Prod.fst).foldl Entity.putAssociation []
              schema := Note.optional (options.literal? "schema")
              delimiter := .str "." }
          literals := found.filterMap Prod.snd
          location := file.location place.node }
    | _, _ => none
  else none

/-- The models of a file. -/
def ofFile (file : SourceFile) : List ModelClass :=
  (Place.all file.root).filterMap (ofPlace? file)

def note (model : ModelClass) : Note :=
  .modelExtracted model.entity.name model.entity.table model.location

end ModelClass

/-- The name under which the model of a class is registered; the last class of a name counts. -/
def modelNameOf (models : List ModelClass) (className : String) : String :=
  match models.reverse.find? fun model => model.className == className with
  | some model => model.entity.name
  | none => className

namespace Association

/-- Renames the classes in an association to their models. A join model that some string names is
left alone. -/
def rename (models : List ModelClass) (literals : List String) (association : Association) :
    Association :=
  let renameJoin := fun name => if literals.contains name then name else modelNameOf models name
  { association with
    target := match association.target with
      | .str name => .str (modelNameOf models name)
      | target => target
    through := match association.through with
      | .str name => .str (renameJoin name)
      | .obj [("model", .str name)] => .obj [("model", .str (renameJoin name))]
      | through => through }

end Association

/-- Renames the classes in the associations of a model. -/
def Entity.rename (models : List ModelClass) (literals : List String) (entity : Entity) : Entity :=
  { entity with associations := entity.associations.map (Association.rename models literals) }

namespace Registry

/-- Adds a model for each name that has none. -/
def addImplicit (entities : List Entity) (name : String) : List Entity :=
  if entities.any fun entity => entity.name == name then entities else entities ++ [.bare name]

/-- The models that some classes declare. -/
def ofModels (models : List ModelClass) : Registry :=
  let literals := models.flatMap ModelClass.literals
  let declared := (models.map ModelClass.entity).foldl putEntity []
  ofEntities (literals.foldl addImplicit (declared.map (Entity.rename models literals)))

/-- The models that the classes of some files declare, and a note for each class. -/
def extract (files : List SourceFile) : Registry × List Note :=
  let models := files.flatMap ModelClass.ofFile
  (ofModels models, models.map ModelClass.note)

end Registry

end LeastGrant
