import LeastGrant.Json.Shown
import LeastGrant.Text.Split

/-! Associations between models. -/
namespace LeastGrant

open Text

inductive AssociationKind where
  | belongsTo
  | hasOne
  | hasMany
  | belongsToMany
  deriving DecidableEq, Repr

namespace AssociationKind

def name : AssociationKind → String
  | belongsTo => "BelongsTo"
  | hasOne => "HasOne"
  | hasMany => "HasMany"
  | belongsToMany => "BelongsToMany"

/-- The spelling without underscores, hyphens and spaces, in lower case. The names of the kinds are
ASCII, and no letter beyond ASCII has a lower case among their letters. -/
def bareSpelling (text : String) : String :=
  String.ofList ((text.toList.filter fun c => c != '_' && c != '-' && c != ' ').map Char.toLower)

/-- The kind that a text names, in any of the usual spellings. -/
def ofText? (text : String) : Option AssociationKind :=
  match bareSpelling text with
  | "belongsto" => some belongsTo
  | "hasone" => some hasOne
  | "hasmany" => some hasMany
  | "belongstomany" => some belongsToMany
  | "manytomany" => some belongsToMany
  | _ => none

/-- The kind with exactly this name. -/
def ofName? : String → Option AssociationKind
  | "BelongsTo" => some belongsTo
  | "HasOne" => some hasOne
  | "HasMany" => some hasMany
  | "BelongsToMany" => some belongsToMany
  | _ => none

theorem ofName?_name (kind : AssociationKind) : ofName? kind.name = some kind := by
  cases kind <;> rfl

end AssociationKind

/-- A reference to the join model of an association: a value from a document, a model itself, or
options whose `model` is a model itself. -/
inductive JoinReference where
  | value (reference : Json)
  | model (name : String)
  | options (name : String)

/-- The name of the join model, if the reference has a usable shape: a text, or an object whose
`model` is a text that is not empty. -/
def JoinReference.name? : JoinReference → Option String
  | .value (.str name) => some name
  | .value (.obj fields) =>
    match Json.Fields.get? fields "model" with
    | some (.str name) => if name = "" then none else some name
    | _ => none
  | .value _ => none
  | .model name => some name
  | .options name => some name

/-- An association that a model declares. The target is a model name, and documents may put any
other scalar there. The join reference is null where there is none. -/
structure Association where
  name : String
  kind : AssociationKind
  target : Json
  through : Json

namespace Association

def isManyToMany (association : Association) : Bool := association.kind == .belongsToMany

/-- The name of the join model. -/
def joinName? (association : Association) : Option String :=
  (JoinReference.value association.through).name?

/-- The target, if it is a name. -/
def targetName? (association : Association) : Option String :=
  match association.target with
  | .str name => some name
  | _ => none

end Association

end LeastGrant
