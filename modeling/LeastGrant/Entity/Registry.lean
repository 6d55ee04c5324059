import LeastGrant.Entity.Association

/-! The registry of models: the models under their names, and the graph of their associations. The
graph has a node for each model and for each target, and an edge for each association. -/
namespace LeastGrant

/-- A model that is stored in a table. -/
structure Entity where
  name : String
  tableName : Json
  associations : List Association
  schema : Json
  delimiter : Json

namespace Entity

/-- The table as it stands in grants: with its schema, if it has one. -/
def table (entity : Entity) : Json :=
  if entity.schema.isSet then
    .str (entity.schema.plain ++ entity.delimiter.plain ++ entity.tableName.plain)
  else entity.tableName

def association? (entity : Entity) (name : String) : Option Association :=
  entity.associations.find? fun association => association.name == name

/-- Adds an association; one of the same name keeps its place. -/
def putAssociation : List Association → Association → List Association
  | [], new => [new]
  | old :: rest, new =>
    if old.name == new.name then new :: rest else old :: putAssociation rest new

/-- A model with nothing but a name, which is also its table. -/
def bare (name : String) : Entity := ⟨name, .str name, [], .null, .str "."⟩

end Entity

/-- An edge of the association graph. -/
structure Edge where
  source : String
  target : Json
  association : Association

structure Registry where
  entities : List Entity
  /-- The nodes of the graph, in the order in which they were first named. -/
  nodes : List Json
  /-- The edges of the graph, in the order in which they were first added. -/
  edges : List Edge

namespace Registry

def empty : Registry := ⟨[], [], []⟩

def find? (registry : Registry) (name : String) : Option Entity :=
  registry.entities.find? fun entity => entity.name == name

/-- The model of a name. The empty name is never one. -/
def get? (registry : Registry) (name : String) : Option Entity :=
  if name = "" then none else registry.find? name

def has (registry : Registry) (name : String) : Bool := (registry.find? name).isSome

def names (registry : Registry) : List String := registry.entities.map Entity.name

/-- Adds a model to a list; one of the same name keeps its place. -/
def putEntity : List Entity → Entity → List Entity
  | [], new => [new]
  | old :: rest, new => if old.name == new.name then new :: rest else old :: putEntity rest new

def addNode (nodes : List Json) (node : Json) : List Json :=
  if nodes.any node.sameKey then nodes else nodes ++ [node]

/-- Whether an edge goes from `source` to `target` under a name. -/
def Edge.isAt (edge : Edge) (source : String) (target : Json) (name : String) : Bool :=
  edge.source == source && edge.target.sameKey target && edge.association.name == name

/-- Adds an edge. An edge with the same ends and the same name is replaced where it stands, and a
target that is already linked is written as before. -/
def addEdge (edges : List Edge) (source : String) (association : Association) : List Edge :=
  let target := association.target
  if edges.any fun edge => Edge.isAt edge source target association.name then
    edges.map fun edge =>
      if Edge.isAt edge source target association.name then { edge with association } else edge
  else
    let known := edges.find? fun edge => edge.source == source && edge.target.sameKey target
    edges ++ [⟨source, (known.map Edge.target).getD target, association⟩]

/-- Adds a model, its node and its edges. Edges of an earlier model of the name stay. -/
def add (registry : Registry) (entity : Entity) : Registry where
  entities := putEntity registry.entities entity
  nodes := entity.associations.foldl (fun nodes a => addNode nodes a.target)
    (addNode registry.nodes (.str entity.name))
  edges := entity.associations.foldl (fun edges a => addEdge edges entity.name a) registry.edges

def ofEntities (entities : List Entity) : Registry := entities.foldl add empty

/-- The values of a list, each once, where they first occur. -/
def distinct (values : List Json) : List Json := values.foldl addNode []

/-- The edges from a node, grouped by target in the order in which the targets were first linked. -/
def outEdges (registry : Registry) (source : String) : List Edge :=
  let own := registry.edges.filter fun edge => edge.source == source
  (distinct (own.map Edge.target)).flatMap fun target =>
    own.filter fun edge => edge.target.sameKey target

/-- All edges, by the order of their sources among the nodes. -/
def allEdges (registry : Registry) : List Edge :=
  registry.nodes.flatMap fun
    | .str source => registry.outEdges source
    | _ => []

/-- The many-to-many associations that start at a model, in the order of the graph. -/
def manyToMany (registry : Registry) (source : String) : List Association :=
  ((registry.outEdges source).map Edge.association).filter Association.isManyToMany

end Registry

end LeastGrant
