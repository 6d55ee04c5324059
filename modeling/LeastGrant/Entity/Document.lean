import LeastGrant.Entity.Registry
import LeastGrant.Json.Reader
import LeastGrant.Fault

/-! Registries as documents: an object with the models by name, each with its table and its
associations. -/
namespace LeastGrant

open Text

/-- Why a document is no registry. -/
inductive RegistryError where
  | noModels
  | modelNotObject (model : String)
  | incompleteAssociation (association model : String)
  | unknownKind (text : String)
  | fileMissing (path : String)
  | notJson (path : String) (error : Json.ReadError)
  | isDirectory (path : String)
  | undecodable (fault : DecodeFault)
  | unusable (fault : ValueFault)
  deriving DecidableEq, Repr

/-- The wording of an error; a value that cannot be used has none. -/
def RegistryError.message? : RegistryError → Option String
  | .noModels => some "Registry document must contain a 'models' object"
  | .modelNotObject model => some s!"Model '{model}' must be an object"
  | .incompleteAssociation association model =>
    some s!"Association '{association}' of model '{model}' needs 'type' and 'target'"
  | .unknownKind text => some s!"Unknown association type: {quoted text}"
  | .fileMissing path => some s!"File not found: {path}"
  | .notJson path error => some s!"Could not read registry {path}: {error.message}"
  | .isDirectory path =>
    some s!"Could not read registry {path}: [Errno 21] Is a directory: {quoted path}"
  | .undecodable _ => none
  | .unusable _ => none

/-- The kind of association that a value names. -/
def AssociationKind.ofJson : Json → Except RegistryError AssociationKind
  | .str text =>
    match AssociationKind.ofText? text with
    | some kind => .ok kind
    | none => .error (.unknownKind text)
  | _ => .error (.unusable .lacking)

/-- An association of a model as a document gives it. -/
def Association.ofJson (model name : String) (value : Json) : Except RegistryError Association :=
  match value.get? "target", value.get? "type" with
  | some target, some type =>
    match AssociationKind.ofJson type with
    | .ok kind => .ok ⟨name, kind, target, value.getOrNull "through"⟩
    | .error error => .error error
  | _, _ => .error (.incompleteAssociation name model)

/-- The fields of the associations of a model; an unset value has none. -/
def Entity.associationFields (spec : Json) : Except RegistryError Json.Fields :=
  match spec.getOrNull "associations" with
  | .obj fields => .ok fields
  | value => if value.isSet then .error (.unusable .lacking) else .ok []

/-- A model as a document gives it. -/
def Entity.ofJson (name : String) (spec : Json) : Except RegistryError Entity :=
  match spec with
  | .obj _ => do
    let fields ← Entity.associationFields spec
    let associations ← fields.mapM fun (key, value) => Association.ofJson name key value
    .ok { name := name
          tableName := (spec.getOrNull "tableName").orElse (.str name)
          associations := associations
          schema := spec.getOrNull "schema"
          delimiter := (spec.getOrNull "delimiter").orElse (.str ".") }
  | _ => .error (.modelNotObject name)

/-- Whether an association can be an edge of the graph: null and values with parts cannot be
targets. -/
def Association.checkTarget (association : Association) : Except RegistryError Unit :=
  match association.target with
  | .null => .error (.unusable .wrongShape)
  | target => if target.isScalar then .ok () else .error (.unusable .wrongSort)

namespace Registry

/-- The registry of a document. The models are read before the graph is built. -/
def ofJson (document : Json) : Except RegistryError Registry :=
  match document.get? "models" with
  | some (.obj models) => do
    let entities ← models.mapM fun (name, spec) => Entity.ofJson name spec
    entities.forM fun entity => entity.associations.forM Association.checkTarget
    .ok (ofEntities entities)
  | _ => .error .noModels

/-- The join reference of an association in a document: its name where there is one. -/
def throughFields (association : Association) : Json.Fields :=
  match association.through with
  | .null => []
  | through => [("through", match association.joinName? with
    | some name => .str name
    | none => through)]

def associationJson (association : Association) : Json :=
  .obj ([("type", .str association.kind.name), ("target", association.target)] ++
    throughFields association)

def entityJson (entity : Entity) : Json :=
  .obj ([("tableName", entity.tableName)] ++
    (if entity.schema.isSet then [("schema", entity.schema), ("delimiter", entity.delimiter)]
      else []) ++
    [("associations", .obj (entity.associations.map fun a => (a.name, associationJson a)))])

/-- The document of a registry. -/
def toJson (registry : Registry) : Json :=
  .obj [("models", .obj (registry.entities.map fun entity => (entity.name, entityJson entity)))]

end Registry

end LeastGrant
