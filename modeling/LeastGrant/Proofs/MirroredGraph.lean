import LeastGrant.Proofs.BuiltRegistry
import Mathlib.Data.List.Find
import Mathlib.Data.List.Perm.Basic

/-! The association graph as a mirror of the models. Models and edges are written together and read
by different passes. The edges from a model carry its associations, one each, but not in their
order: the graph keeps the edges to one target together, and the targets in the order in which they
were first linked. -/
namespace LeastGrant

section Groups

variable {α : Type} (same : α → α → Bool)

/-- Items in groups: the first item with all later ones that are the same, then the other items in
their groups. -/
def grouped : List α → List (α × List α)
  | [] => []
  | first :: rest =>
    (first, rest.filter (same first)) :: grouped (rest.filter fun other => !same first other)
termination_by items => items.length
decreasing_by
  rw [List.length_unattach, List.length_cons, Nat.lt_succ_iff]
  exact Nat.le_trans (List.length_filter_le _ _) (Nat.le_of_eq List.length_attach)

theorem grouped_cons (first : α) (rest : List α) :
    grouped same (first :: rest) =
      (first, rest.filter (same first)) ::
        grouped same (rest.filter fun other => !same first other) := by
  rw [grouped]

/-- Puts an item into the first group that begins with the same, or into a new group at the end. -/
def putInGroup (item : α) : List (α × List α) → List (α × List α)
  | [] => [(item, [])]
  | group :: others =>
    if same group.1 item then (group.1, group.2 ++ [item]) :: others
    else group :: putInGroup item others

theorem grouped_append_singleton (items : List α) (item : α) :
    grouped same (items ++ [item]) = putInGroup same item (grouped same items) := by
  induction h : items.length using Nat.strongRecOn generalizing items with
  | _ n ih =>
    cases items with
    | nil => simp [grouped, putInGroup]
    | cons first rest =>
      have shorter := List.length_filter_le (fun other => !same first other) rest
      have later := ih _ (by simp only [List.length_cons] at h; omega)
        (rest.filter fun other => !same first other) rfl
      rw [List.cons_append, grouped_cons, grouped_cons, putInGroup]
      by_cases joins : same first item = true
      · simp [joins]
      · simp [joins, later]

theorem putInGroup_of_none {groups : List (α × List α)} {item : α}
    (none : groups.find? (fun group => same group.1 item) = .none) :
    putInGroup same item groups = groups ++ [(item, [])] := by
  induction groups with
  | nil => rfl
  | cons group others ih =>
    rw [List.find?_cons] at none
    cases here : same group.1 item with
    | true => simp [here] at none
    | false =>
      rw [here] at none
      rw [putInGroup, here, ih none]
      rfl

theorem putInGroup_of_some {groups : List (α × List α)} {item : α} {group : α × List α}
    (found : groups.find? (fun group => same group.1 item) = some group) :
    ∃ before after, groups = before ++ group :: after ∧
      putInGroup same item groups = before ++ (group.1, group.2 ++ [item]) :: after := by
  induction groups with
  | nil => cases found
  | cons first others ih =>
    rw [List.find?_cons] at found
    cases here : same first.1 item with
    | true =>
      rw [here] at found
      cases found
      exact ⟨[], others, rfl, by rw [putInGroup, here]; rfl⟩
    | false =>
      rw [here] at found
      obtain ⟨before, after, rfl, put⟩ := ih found
      exact ⟨first :: before, after, rfl, by rw [putInGroup, here, put]; rfl⟩

theorem perm_flatMap_grouped (items : List α) :
    ((grouped same items).flatMap fun group => group.1 :: group.2).Perm items := by
  induction items using List.reverseRecOn with
  | nil => simp [grouped]
  | append_singleton items item ih =>
    rw [grouped_append_singleton]
    cases found : (grouped same items).find? fun group => same group.1 item with
    | none =>
      rw [putInGroup_of_none same found, List.flatMap_append]
      exact ih.append_right [item]
    | some group =>
      obtain ⟨before, after, split, put⟩ := putInGroup_of_some same found
      rw [split, List.flatMap_append, List.flatMap_cons] at ih
      rw [put, List.flatMap_append, List.flatMap_cons]
      refine List.Perm.trans ?_ (ih.append_right [item])
      simp only [List.append_assoc, List.cons_append, List.nil_append]
      exact .append_left _ (.cons _ (.append_left _ (List.perm_append_singleton _ _).symm))

theorem fst_mem_of_mem_grouped {items : List α} {group : α × List α}
    (member : group ∈ grouped same items) : group.1 ∈ items :=
  (perm_flatMap_grouped same items).mem_iff.mp
    (List.mem_flatMap.mpr ⟨group, member, List.mem_cons_self⟩)

end Groups

section Keys

theorem Decimal.Double.equals_comm (x y : Decimal.Double) : x.equals y = y.equals x := by
  rw [equals, equals, Bool.and_comm (!x.isNaN), Bool.and_comm x.isZero,
    beq_eq_beq.mpr (⟨Eq.symm, Eq.symm⟩ : x.bits = y.bits ↔ y.bits = x.bits)]

theorem Json.sameScalar_comm (a b : Json) : a.sameScalar b = b.sameScalar a := by
  cases a <;> cases b <;>
    simp [sameScalar, asInt?, Decimal.Double.equals_comm, beq_eq_beq, eq_comm]

theorem Json.sameKey_comm (a b : Json) : a.sameKey b = b.sameKey a := by
  cases a <;> cases b <;>
    simp [sameKey, Json.sameScalar_comm, Decimal.Double.equals_comm, Bool.and_comm]

end Keys

namespace Association

def sameTarget (association other : Association) : Bool := association.target.sameKey other.target

/-- The targets of some associations, in the order in which they are first named. -/
def targets (associations : List Association) : List Json :=
  (grouped sameTarget associations).map fun group => group.1.target

/-- The associations by their targets. -/
def byTarget (associations : List Association) : List Association :=
  (grouped sameTarget associations).flatMap fun group => group.1 :: group.2

theorem byTarget_perm (associations : List Association) :
    (byTarget associations).Perm associations :=
  perm_flatMap_grouped sameTarget associations

end Association

open Association (sameTarget targets byTarget)

namespace Registry

/-- Edges that show the associations of their source: one edge for each, with its target written as
on the first edge to it. -/
structure Mirrors (source : String) (edges : List Edge) (associations : List Association) :
    Prop where
  own : ∀ edge ∈ edges, edge.source = source ∧
    edge.target.sameKey edge.association.target = true
  carried : edges.map Edge.association = associations
  linked : distinct (edges.map Edge.target) = targets associations
  groups : ∀ group ∈ grouped sameTarget associations,
    (edges.filter fun edge => edge.target.sameKey group.1.target).map Edge.association =
      group.1 :: group.2
  apart : (targets associations).Pairwise fun target other => target.sameKey other = false
  first : ∀ value, (edges.find? fun edge => edge.target.sameKey value).map Edge.target =
    (targets associations).find? fun target => target.sameKey value

theorem addEdge_of_own {source : String} {edges : List Edge} (association : Association)
    (own : ∀ edge ∈ edges, edge.source = source)
    (fresh : association.name ∉ (edges.map Edge.association).map Association.name) :
    addEdge edges source association = edges ++ [⟨source,
      ((edges.find? fun edge => edge.target.sameKey association.target).map Edge.target).getD
        association.target, association⟩] := by
  have unknown : (edges.any fun edge =>
      Edge.isAt edge source association.target association.name) = false := by
    rw [List.any_eq_false]
    intro edge member at_
    rw [Edge.isAt, Bool.and_eq_true, beq_iff_eq] at at_
    exact fresh (at_.2 ▸ List.mem_map_of_mem (List.mem_map_of_mem member))
  have found : (edges.find? fun edge =>
      edge.source == source && edge.target.sameKey association.target) =
        edges.find? fun edge => edge.target.sameKey association.target := by
    apply List.find?_congr
    intro edge member
    simp [own edge member]
  simp [addEdge, unknown, found]

namespace Mirrors

variable {source : String} {edges : List Edge} {associations : List Association}

theorem nil : Mirrors source [] [] where
  own := by simp
  carried := rfl
  linked := by simp [distinct, targets, grouped]
  groups := by simp [grouped]
  apart := by simp [targets, grouped]
  first := by simp [targets, grouped]

/-- An edge to a written form of the target is of the source and leads to the target. -/
theorem own_append (mirrors : Mirrors source edges associations) {association : Association}
    {target : Json} (leads : target.sameKey association.target = true) :
    ∀ edge ∈ edges ++ [⟨source, target, association⟩], edge.source = source ∧
      edge.target.sameKey edge.association.target = true := by
  intro edge member
  rcases List.mem_append.mp member with old | last
  · exact mirrors.own edge old
  · rw [List.mem_singleton.mp last]
    exact ⟨rfl, leads⟩

theorem carried_append (mirrors : Mirrors source edges associations) (association : Association)
    (target : Json) : (edges ++ [Edge.mk source target association]).map Edge.association =
      associations ++ [association] := by
  rw [List.map_append, mirrors.carried]
  rfl

theorem distinct_append (mirrors : Mirrors source edges associations) (association : Association)
    (target : Json) : distinct ((edges ++ [Edge.mk source target association]).map Edge.target) =
      addNode (targets associations) target := by
  rw [List.map_append, distinct, List.foldl_append, ← distinct, mirrors.linked]
  rfl

/-- A target that no group has opens a new one. -/
theorem append_new (mirrors : Mirrors source edges associations) {association : Association}
    (scalar : association.target.isScalar = true)
    (new : (grouped sameTarget associations).find? (fun group => sameTarget group.1 association) =
      none) :
    Mirrors source (edges ++ [⟨source, association.target, association⟩])
      (associations ++ [association]) := by
  have self := Json.sameKey_self scalar
  have opened : grouped sameTarget (associations ++ [association]) =
      grouped sameTarget associations ++ [(association, [])] := by
    rw [grouped_append_singleton, putInGroup_of_none sameTarget new]
  have grown : targets (associations ++ [association]) =
      targets associations ++ [association.target] := by
    rw [targets, opened, List.map_append]
    rfl
  have other : ∀ target ∈ targets associations, target.sameKey association.target = false := by
    intro target member
    obtain ⟨group, listed, rfl⟩ := List.mem_map.mp member
    simpa [sameTarget] using List.find?_eq_none.mp new group listed
  have unlinked : (edges.find? fun edge => edge.target.sameKey association.target) = none := by
    rw [← Option.map_eq_none_iff, mirrors.first]
    simpa using other
  constructor
  case own => exact mirrors.own_append self
  case carried => exact mirrors.carried_append association _
  case linked =>
    have fresh : (targets associations).any association.target.sameKey = false := by
      rw [List.any_eq_false]
      intro target member
      simp [Json.sameKey_comm association.target, other target member]
    rw [grown, mirrors.distinct_append]
    simp [addNode, fresh]
  case groups =>
    rw [opened]
    intro group member
    rw [List.filter_append, List.map_append]
    rcases List.mem_append.mp member with old | last
    · have differs := other group.1.target (List.mem_map_of_mem old)
      rw [mirrors.groups group old]
      simp [Json.sameKey_comm association.target, differs]
    · have none : (edges.filter fun edge => edge.target.sameKey association.target) = [] := by
        simpa using unlinked
      rw [List.mem_singleton.mp last]
      simp [none, self]
  case apart =>
    rw [grown, List.pairwise_append]
    refine ⟨mirrors.apart, List.pairwise_singleton _ _, fun target member last added => ?_⟩
    rw [List.mem_singleton.mp added]
    exact other target member
  case first =>
    intro value
    rw [grown, List.find?_append, List.find?_append, Option.map_or, mirrors.first]
    cases here : association.target.sameKey value <;> simp [here]

/-- A target that a group has is written as there. -/
theorem append_known (mirrors : Mirrors source edges associations) {association : Association}
    {group : Association × List Association} (scalar : group.1.target.isScalar = true)
    (known : (grouped sameTarget associations).find? (fun group => sameTarget group.1 association) =
      some group) :
    Mirrors source (edges ++ [⟨source, group.1.target, association⟩])
      (associations ++ [association]) := by
  have self := Json.sameKey_self scalar
  have joins : sameTarget group.1 association = true := by
    simpa using List.find?_some known
  have member : group.1.target ∈ targets associations :=
    List.mem_map_of_mem (List.mem_of_find?_eq_some known)
  obtain ⟨before, after, split, put⟩ := putInGroup_of_some sameTarget known
  rw [← grouped_append_singleton] at put
  have kept : targets (associations ++ [association]) = targets associations := by
    rw [targets, targets, put, split]
    simp
  constructor
  case own => exact mirrors.own_append joins
  case carried => exact mirrors.carried_append association _
  case linked =>
    have linked : (targets associations).any group.1.target.sameKey = true :=
      List.any_eq_true.mpr ⟨_, member, self⟩
    rw [kept, mirrors.distinct_append]
    simp [addNode, linked]
  case groups =>
    -- Only the group of the target grows, since no other group begins with the same target.
    have apart := mirrors.apart
    rw [targets, split, List.pairwise_map, List.pairwise_append, List.pairwise_cons] at apart
    obtain ⟨-, ⟨later, -⟩, earlier⟩ := apart
    rw [put]
    intro other listed
    rw [List.filter_append, List.map_append]
    rcases List.mem_append.mp listed with old | listed
    · have differs := earlier other old group List.mem_cons_self
      rw [mirrors.groups other (by simp [split, old])]
      simp [Json.sameKey_comm group.1.target, differs]
    · rcases List.mem_cons.mp listed with rfl | old
      · rw [mirrors.groups group (by simp [split])]
        simp [self]
      · rw [mirrors.groups other (by simp [split, old])]
        simp [later other old]
  case apart =>
    rw [kept]
    exact mirrors.apart
  case first =>
    intro value
    rw [kept, List.find?_append, Option.map_or, mirrors.first]
    cases found : (targets associations).find? fun target => target.sameKey value with
    | some target => rfl
    | none =>
      have absent := List.find?_eq_none.mp found group.1.target member
      simp [absent]

/-- One more association adds one more edge. -/
theorem addEdge (mirrors : Mirrors source edges associations) (association : Association)
    (fresh : association.name ∉ associations.map Association.name)
    (scalar : ∀ other ∈ associations ++ [association], other.target.isScalar = true) :
    Mirrors source (addEdge edges source association) (associations ++ [association]) := by
  have written :
      ((edges.find? fun edge => edge.target.sameKey association.target).map Edge.target) =
      ((grouped sameTarget associations).find? fun group => sameTarget group.1 association).map
        fun group => group.1.target := by
    rw [mirrors.first, targets, List.find?_map]
    rfl
  rw [addEdge_of_own association (fun edge member => (mirrors.own edge member).1)
    (mirrors.carried ▸ fresh), written]
  -- The new edge opens a group or joins one, by whether the target has been named before.
  cases found : (grouped sameTarget associations).find? fun group =>
      sameTarget group.1 association with
  | none => exact mirrors.append_new (scalar association (by simp)) found
  | some group =>
    have known := fst_mem_of_mem_grouped sameTarget (List.mem_of_find?_eq_some found)
    exact mirrors.append_known (scalar group.1 (List.mem_append_left _ known)) found

theorem foldl_addEdge (distinct : (associations.map Association.name).Nodup)
    (scalar : ∀ association ∈ associations, association.target.isScalar = true) :
    Mirrors source (associations.foldl (fun edges a => Registry.addEdge edges source a) [])
      associations := by
  induction associations using List.reverseRecOn with
  | nil => exact nil
  | append_singleton rest last ih =>
    rw [List.map_append, List.nodup_append] at distinct
    have before := ih distinct.1 fun other member => scalar other (List.mem_append_left _ member)
    have fresh : last.name ∉ rest.map Association.name := fun known =>
      distinct.2.2 _ known _ List.mem_cons_self rfl
    rw [List.foldl_append]
    exact before.addEdge last fresh scalar

end Mirrors

/-- The edges from a node. -/
def edgesFrom (source : String) (edges : List Edge) : List Edge :=
  edges.filter fun edge => edge.source == source

/-- What an edge carries is replaced without a change of its source. -/
theorem edgesFrom_map (source : String) (replaced : Edge → Bool) (association : Association)
    (edges : List Edge) :
    edgesFrom source (edges.map fun edge =>
        if replaced edge then { edge with association } else edge) =
      (edgesFrom source edges).map fun edge =>
        if replaced edge then { edge with association } else edge := by
  rw [edgesFrom, List.filter_map, edgesFrom]
  congr 2
  funext edge
  simp only [Function.comp]
  split <;> rfl

theorem edgesFrom_addEdge (source : String) (edges : List Edge) (association : Association) :
    edgesFrom source (addEdge edges source association) =
      addEdge (edgesFrom source edges) source association := by
  have known : (edgesFrom source edges).any (fun edge =>
      Edge.isAt edge source association.target association.name) =
        edges.any fun edge => Edge.isAt edge source association.target association.name := by
    rw [edgesFrom, List.any_filter]
    congr 1
    funext edge
    cases own : edge.source == source <;> simp [Edge.isAt, own]
  have first : (edgesFrom source edges).find? (fun edge =>
      edge.source == source && edge.target.sameKey association.target) =
        edges.find? fun edge =>
          edge.source == source && edge.target.sameKey association.target := by
    rw [edgesFrom, List.find?_filter]
    congr 1
    funext edge
    cases edge.source == source <;> simp
  rw [addEdge, addEdge]
  dsimp only
  rw [known, first]
  split
  · exact edgesFrom_map source _ association edges
  · rw [edgesFrom, List.filter_append]
    simp [edgesFrom]

theorem edgesFrom_addEdge_of_ne {source other : String} (differ : other ≠ source)
    (edges : List Edge) (association : Association) :
    edgesFrom source (addEdge edges other association) = edgesFrom source edges := by
  rw [addEdge]
  dsimp only
  split
  · rw [edgesFrom_map]
    refine (List.map_congr_left fun edge member => if_neg ?_).trans (List.map_id' _)
    have own : edge.source = source := by simpa using (List.mem_filter.mp member).2
    simp [Edge.isAt, own, Ne.symm differ]
  · simp [edgesFrom, differ]

theorem edgesFrom_add (registry : Registry) (entity : Entity) (source : String) :
    edgesFrom source (registry.add entity).edges =
      if entity.name = source then
        entity.associations.foldl (fun edges a => addEdge edges source a)
          (edgesFrom source registry.edges)
      else edgesFrom source registry.edges := by
  dsimp only [add]
  generalize registry.edges = edges
  split
  · rename_i own
    subst own
    induction entity.associations generalizing edges with
    | nil => rfl
    | cons association rest ih => rw [List.foldl_cons, ih, edgesFrom_addEdge, List.foldl_cons]
  · rename_i differ
    induction entity.associations generalizing edges with
    | nil => rfl
    | cons association rest ih => rw [List.foldl_cons, ih, edgesFrom_addEdge_of_ne differ]

/-- A name that no model has is the source of no edge, and that of a model is the source of what the
model declares. -/
theorem edgesFrom_ofEntities {entities : List Entity} (distinct : (entities.map Entity.name).Nodup)
    (source : String) :
    edgesFrom source (ofEntities entities).edges =
      ((entities.find? fun entity => entity.name == source).map fun entity =>
        entity.associations.foldl (fun edges a => addEdge edges source a) []).getD [] := by
  induction entities using List.reverseRecOn with
  | nil => rfl
  | append_singleton rest last ih =>
    rw [List.map_append, List.nodup_append] at distinct
    have step : ofEntities (rest ++ [last]) = (ofEntities rest).add last := by simp [ofEntities]
    rw [step, edgesFrom_add, ih distinct.1, List.find?_append]
    by_cases own : last.name = source
    · have absent : (rest.find? fun entity => entity.name == source) = none := by
        rw [List.find?_eq_none]
        intro entity member same
        refine distinct.2.2 _ (List.mem_map_of_mem member) _ List.mem_cons_self ?_
        rw [own]
        exact beq_iff_eq.mp same
      simp [own, absent]
    · simp [own]

theorem outEdges_eq (registry : Registry) (source : String) :
    registry.outEdges source =
      (distinct ((edgesFrom source registry.edges).map Edge.target)).flatMap fun target =>
        (edgesFrom source registry.edges).filter fun edge => edge.target.sameKey target :=
  rfl

theorem outEdges_of_absent {entities : List Entity} (distinct : (entities.map Entity.name).Nodup)
    {name : String} (absent : ∀ entity ∈ entities, entity.name ≠ name) :
    (ofEntities entities).outEdges name = [] := by
  have unknown : (entities.find? fun entity => entity.name == name) = none := by
    simpa using absent
  rw [outEdges_eq, edgesFrom_ofEntities distinct, unknown]
  rfl

section Proper

variable {entities : List Entity} (proper : ProperEntities entities) {entity : Entity}
  (member : entity ∈ entities)

include proper member

theorem mirrors_ofEntities :
    Mirrors entity.name (edgesFrom entity.name (ofEntities entities).edges)
      entity.associations := by
  rw [edgesFrom_ofEntities proper.distinct, find?_key_of_mem Entity.name proper.distinct member]
  exact .foldl_addEdge (proper.associations entity member) (proper.scalar entity member)

theorem map_association_outEdges :
    ((ofEntities entities).outEdges entity.name).map Edge.association =
      byTarget entity.associations := by
  have mirrors := mirrors_ofEntities proper member
  rw [outEdges_eq, mirrors.linked, targets, List.flatMap_map, List.map_flatMap, byTarget,
    List.flatMap_congr mirrors.groups]

theorem of_mem_outEdges {edge : Edge} (h : edge ∈ (ofEntities entities).outEdges entity.name) :
    edge.source = entity.name ∧ edge.target.sameKey edge.association.target = true := by
  rw [outEdges_eq] at h
  obtain ⟨_, -, own⟩ := List.mem_flatMap.mp h
  exact (mirrors_ofEntities proper member).own edge (List.mem_filter.mp own).1

theorem manyToMany_ofEntities :
    (ofEntities entities).manyToMany entity.name =
      (byTarget entity.associations).filter Association.isManyToMany := by
  rw [manyToMany, map_association_outEdges proper member]

end Proper

/-- The graph mirrors the models. A name that a model is added under leads to the model. The edges
from it carry its associations, one each and grouped by target, and so do the many-to-many
associations that the graph gives. No edge leads from a name that is a target only. Whatever a
registry is built from, its models are added in this way. -/
theorem graph_mirrors_models {entities : List Entity} (proper : ProperEntities entities) :
    (∀ entity ∈ entities, (ofEntities entities).find? entity.name = some entity ∧
      (((ofEntities entities).outEdges entity.name).map Edge.association).Perm entity.associations ∧
      ((ofEntities entities).outEdges entity.name).map Edge.association =
        byTarget entity.associations ∧
      (∀ edge ∈ (ofEntities entities).outEdges entity.name, edge.source = entity.name ∧
        edge.target.sameKey edge.association.target = true) ∧
      ((ofEntities entities).manyToMany entity.name).Perm
        (entity.associations.filter Association.isManyToMany) ∧
      (ofEntities entities).manyToMany entity.name =
        (byTarget entity.associations).filter Association.isManyToMany) ∧
    (∀ name, (∀ entity ∈ entities, entity.name ≠ name) →
      (ofEntities entities).outEdges name = [] ∧ (ofEntities entities).manyToMany name = []) ∧
    ∀ registry : Registry, registry.Built →
      ∃ models, ProperEntities models ∧ registry = ofEntities models := by
  refine ⟨fun entity member => ?_, fun name absent => ?_, fun registry built => built.proper⟩
  · have carried := map_association_outEdges proper member
    have listed := manyToMany_ofEntities proper member
    have all := Association.byTarget_perm entity.associations
    refine ⟨(find?_ofEntities proper).mpr ⟨member, rfl⟩, carried ▸ all, carried,
      fun edge => of_mem_outEdges proper member, ?_, listed⟩
    rw [listed]
    exact all.filter _
  · have none := outEdges_of_absent proper.distinct absent
    refine ⟨none, ?_⟩
    rw [manyToMany, none]
    rfl

/-! A model that links to another model twice, and to itself in between. The author is no model. -/
namespace Blog

def tags : Association := ⟨"tags", .belongsToMany, .str "Tag", .str "PostTag"⟩

def related : Association := ⟨"related", .belongsToMany, .str "Post", .str "Link"⟩

def topics : Association := ⟨"topics", .belongsToMany, .str "Tag", .str "Topic"⟩

def author : Association := ⟨"author", .belongsTo, .str "User", .null⟩

def post : Entity := ⟨"Post", .str "posts", [tags, related, author, topics], .null, .str "."⟩

def models : List Entity := [post, .bare "Tag"]

theorem proper : ProperEntities models where
  distinct := by decide
  associations := by decide
  scalar := by decide

theorem byTarget_post : byTarget post.associations = [tags, topics, related, author] := by
  simp [byTarget, grouped, sameTarget, Json.sameKey, Json.sameScalar, post, tags, related, topics,
    author]

end Blog

theorem graph_mirrors_models_blog :
    ProperEntities Blog.models ∧ Blog.post ∈ Blog.models ∧
      (ofEntities Blog.models).find? "Post" = some Blog.post ∧
      (ofEntities Blog.models).manyToMany "Post" = [Blog.tags, Blog.topics, Blog.related] ∧
      (∀ entity ∈ Blog.models, entity.name ≠ "User") ∧
      (ofEntities Blog.models).outEdges "User" = [] := by
  obtain ⟨each, absent, -⟩ := graph_mirrors_models Blog.proper
  have member : Blog.post ∈ Blog.models := List.mem_cons_self
  have unknown : ∀ entity ∈ Blog.models, entity.name ≠ "User" := by decide
  obtain ⟨found, -, -, -, -, listed⟩ := each Blog.post member
  rw [Blog.byTarget_post] at listed
  exact ⟨Blog.proper, member, found, listed, unknown, (absent "User" unknown).1⟩

end Registry

end LeastGrant
