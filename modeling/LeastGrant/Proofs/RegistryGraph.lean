import LeastGrant.Proofs.KeyedList
import Mathlib.Data.List.Induction

/-! The association graph of a registry against its models. In a registry that is read from a
document or from classes, names are not given twice, so no edge of the graph replaces another: the
edges from a model are its associations. -/
namespace LeastGrant

theorem Json.sameKey_self {value : Json} (h : value.isScalar = true) :
    value.sameKey value = true := by
  cases value with
  | null => rfl
  | bool b => simp [sameKey, sameScalar, asInt?]
  | int n => simp [sameKey, sameScalar, asInt?]
  | float x => by_cases nan : x.isNaN = true <;> simp [sameKey, Decimal.Double.equals, nan]
  | str s => simp [sameKey, sameScalar]
  | arr items => cases h
  | obj fields => cases h

/-- What an edge says, whichever way its target is written. -/
def Edge.link (edge : Edge) : String × Association := (edge.source, edge.association)

namespace Registry

theorem mem_foldl_addNode_of_mem {nodes values : List Json} {key : Json} (h : key ∈ nodes) :
    key ∈ values.foldl addNode nodes := by
  induction values generalizing nodes with
  | nil => exact h
  | cons value rest ih =>
    apply ih
    rw [addNode]
    split
    · exact h
    · exact List.mem_append_left _ h

theorem exists_key_of_mem {nodes values : List Json} {value : Json} (member : value ∈ values)
    (scalar : value.isScalar = true) :
    ∃ key ∈ values.foldl addNode nodes, value.sameKey key = true := by
  induction values generalizing nodes with
  | nil => cases member
  | cons first rest ih =>
    rcases List.mem_cons.mp member with rfl | member
    · have known : ∃ key ∈ addNode nodes value, value.sameKey key = true := by
        rw [addNode]
        split
        · rename_i known
          exact List.any_eq_true.mp known
        · exact ⟨value, by simp, Json.sameKey_self scalar⟩
      obtain ⟨key, known, same⟩ := known
      rw [List.foldl_cons]
      exact ⟨key, mem_foldl_addNode_of_mem known, same⟩
    · exact ih member

theorem mem_outEdges {registry : Registry} {source : String} {edge : Edge}
    (scalar : ∀ edge ∈ registry.edges, edge.target.isScalar = true) :
    edge ∈ registry.outEdges source ↔ edge ∈ registry.edges ∧ edge.source = source := by
  simp only [outEdges, distinct, List.mem_flatMap, List.mem_filter, beq_iff_eq]
  constructor
  · rintro ⟨_, -, own, -⟩
    exact own
  · intro own
    have target : edge.target ∈
        (registry.edges.filter fun edge => edge.source == source).map Edge.target := by
      apply List.mem_map_of_mem
      simpa using own
    obtain ⟨key, known, same⟩ := exists_key_of_mem target (scalar edge own.1)
    exact ⟨key, known, own, same⟩

/-- The target of a new edge is written as on the first edge to it. -/
theorem addEdge_of_fresh {edges : List Edge} {source : String} (association : Association)
    (fresh : ∀ edge ∈ edges, edge.source = source → edge.association.name ≠ association.name) :
    ∃ target, addEdge edges source association = edges ++ [⟨source, target, association⟩] ∧
      (target = association.target ∨ ∃ edge ∈ edges, edge.target = target) := by
  have unknown :
      (edges.any fun edge =>
        Edge.isAt edge source association.target association.name) = false := by
    rw [List.any_eq_false]
    intro edge member
    have other := fresh edge member
    simp only [Edge.isAt, Bool.and_eq_true, beq_iff_eq, not_and]
    intro own
    exact other own.1
  cases known : edges.find? fun edge =>
      edge.source == source && edge.target.sameKey association.target with
  | none =>
    refine ⟨association.target, ?_, .inl rfl⟩
    simp [addEdge, unknown, known]
  | some edge =>
    refine ⟨edge.target, ?_, .inr ⟨edge, List.mem_of_find?_eq_some known, rfl⟩⟩
    simp [addEdge, unknown, known]

theorem foldl_addEdge {edges : List Edge} {source : String} {associations : List Association}
    (distinct : (associations.map Association.name).Nodup)
    (scalar : ∀ association ∈ associations, association.target.isScalar = true)
    (fresh : ∀ edge ∈ edges, edge.source = source →
      ∀ association ∈ associations, edge.association.name ≠ association.name)
    (scalars : ∀ edge ∈ edges, edge.target.isScalar = true) :
    (associations.foldl (fun edges a => addEdge edges source a) edges).map Edge.link =
        edges.map Edge.link ++ associations.map (fun association => (source, association)) ∧
      ∀ edge ∈ associations.foldl (fun edges a => addEdge edges source a) edges,
        edge.target.isScalar = true := by
  induction associations generalizing edges with
  | nil => exact ⟨by simp, scalars⟩
  | cons association rest ih =>
    rw [List.map_cons, List.nodup_cons] at distinct
    obtain ⟨target, added, written⟩ := addEdge_of_fresh association
      fun edge member own => fresh edge member own association List.mem_cons_self
    have here : target.isScalar = true := by
      rcases written with rfl | ⟨edge, member, rfl⟩
      · exact scalar association List.mem_cons_self
      · exact scalars edge member
    have next := @ih (edges ++ [⟨source, target, association⟩]) distinct.2
      (fun other member => scalar other (List.mem_cons_of_mem _ member)) ?_ ?_
    · rw [List.foldl_cons, added]
      refine ⟨?_, next.2⟩
      rw [next.1]
      simp [Edge.link]
    · intro edge member own other later
      rcases List.mem_append.mp member with member | new
      · exact fresh edge member own other (List.mem_cons_of_mem _ later)
      · rw [List.mem_singleton] at new
        subst new
        exact fun same => distinct.1 (same ▸ List.mem_map_of_mem later)
    · intro edge member
      rcases List.mem_append.mp member with member | new
      · exact scalars edge member
      · rw [List.mem_singleton] at new
        exact new ▸ here

end Registry

/-- Models of a registry: each name is given once, to models and to the associations of a model, and
the targets can be nodes of a graph. -/
structure ProperEntities (entities : List Entity) : Prop where
  distinct : (entities.map Entity.name).Nodup
  associations : ∀ entity ∈ entities, (entity.associations.map Association.name).Nodup
  scalar : ∀ entity ∈ entities, ∀ association ∈ entity.associations,
    association.target.isScalar = true

namespace Registry

/-- A registry of proper models holds just these, and an edge for each of their associations. -/
theorem ofEntities_proper {entities : List Entity} (proper : ProperEntities entities) :
    (ofEntities entities).entities = entities ∧
      (ofEntities entities).edges.map Edge.link = (entities.flatMap fun entity =>
        entity.associations.map fun association => (entity.name, association)) ∧
      ∀ edge ∈ (ofEntities entities).edges, edge.target.isScalar = true := by
  induction entities using List.reverseRecOn with
  | nil => exact ⟨rfl, rfl, by simp [ofEntities, empty]⟩
  | append_singleton rest last ih =>
    obtain ⟨distinct, associations, scalar⟩ := proper
    rw [List.map_append, List.nodup_append] at distinct
    obtain ⟨same, links, scalars⟩ := ih
      { distinct := distinct.1
        associations := fun entity member => associations entity (List.mem_append_left _ member)
        scalar := fun entity member => scalar entity (List.mem_append_left _ member) }
    have step : ofEntities (rest ++ [last]) = (ofEntities rest).add last := by simp [ofEntities]
    have absent : ∀ old ∈ rest, old.name ≠ last.name := fun old member =>
      distinct.2.2 _ (List.mem_map_of_mem member) _ (by simp)
    have fresh : last.name ∉ rest.map Entity.name := by
      rintro known
      obtain ⟨old, member, same⟩ := List.mem_map.mp known
      exact absent old member same
    have foreign : ∀ edge ∈ (ofEntities rest).edges, edge.source ≠ last.name := by
      intro edge member
      have link : edge.link ∈ (ofEntities rest).edges.map Edge.link := List.mem_map_of_mem member
      simp only [links, List.mem_flatMap, List.mem_map] at link
      obtain ⟨entity, known, association, -, same⟩ := link
      have source : entity.name = edge.source := congrArg Prod.fst same
      exact source ▸ absent entity known
    obtain ⟨newLinks, newScalars⟩ := foldl_addEdge (associations last (by simp))
      (scalar last (by simp)) (fun edge member own => absurd own (foreign edge member)) scalars
    rw [step]
    refine ⟨?_, ?_, newScalars⟩
    · rw [add, same, putEntity_eq, putByKey_of_fresh Entity.name fresh]
    · rw [add, newLinks, links]
      simp

theorem find?_ofEntities {entities : List Entity} (proper : ProperEntities entities)
    {name : String} {entity : Entity} :
    (ofEntities entities).find? name = some entity ↔ entity ∈ entities ∧ entity.name = name := by
  rw [find?, (ofEntities_proper proper).1]
  constructor
  · intro found
    exact ⟨List.mem_of_find?_eq_some found, by simpa using List.find?_some found⟩
  · rintro ⟨member, rfl⟩
    exact find?_key_of_mem Entity.name proper.distinct member

/-- The many-to-many associations in the graph are those of the model. -/
theorem mem_manyToMany_ofEntities {entities : List Entity} (proper : ProperEntities entities)
    {name : String} {association : Association} :
    association ∈ (ofEntities entities).manyToMany name ↔
      ∃ entity, (ofEntities entities).find? name = some entity ∧
        association ∈ entity.associations ∧ association.kind = .belongsToMany := by
  obtain ⟨-, links, scalars⟩ := ofEntities_proper proper
  have edges : association ∈ ((ofEntities entities).outEdges name).map Edge.association ↔
      (name, association) ∈ (ofEntities entities).edges.map Edge.link := by
    simp only [List.mem_map, mem_outEdges scalars, Edge.link, Prod.mk.injEq]
    constructor
    · rintro ⟨edge, ⟨member, rfl⟩, rfl⟩
      exact ⟨edge, member, rfl, rfl⟩
    · rintro ⟨edge, member, rfl, rfl⟩
      exact ⟨edge, ⟨member, rfl⟩, rfl⟩
  rw [manyToMany, List.mem_filter, edges, links, Association.isManyToMany, beq_iff_eq]
  simp only [find?_ofEntities proper, List.mem_flatMap, List.mem_map, Prod.mk.injEq]
  constructor
  · rintro ⟨⟨entity, member, _, declared, rfl, rfl⟩, kind⟩
    exact ⟨entity, ⟨member, rfl⟩, declared, kind⟩
  · rintro ⟨entity, ⟨member, rfl⟩, declared, kind⟩
    exact ⟨⟨entity, member, association, declared, rfl, rfl⟩, kind⟩

end Registry

end LeastGrant
