import LeastGrant.Proofs.ImportedNames
import LeastGrant.Proofs.TreePlaces
import Mathlib.Data.Set.Finite.Lemmas

/-! Nested scopes. A binding keeps its scope as the bytes that the scope spans, and the smallest
scope around a name counts. So the scope that counts spans the bytes of the innermost one. An outer
scope may span them too, and then the binding that is recorded first counts, be its scope the inner
or the outer one. -/
namespace LeastGrant

/-- The first member of a list that satisfies `p`. -/
def FirstOf {α : Type} (p : α → Prop) (members : List α) (first : α) : Prop :=
  p first ∧ ∃ before after, members = before ++ first :: after ∧ ∀ other ∈ before, ¬p other

section First

variable {α : Type} {p : α → Prop} {members : List α} {a b : α}

theorem exists_firstOf (member : a ∈ members) (h : p a) : ∃ first, FirstOf p members first := by
  induction members with
  | nil => cases member
  | cons head tail ih =>
    by_cases here : p head
    · exact ⟨head, here, [], tail, rfl, List.forall_mem_nil _⟩
    · rcases List.mem_cons.mp member with rfl | later
      · exact absurd h here
      · obtain ⟨first, holds, before, after, rfl, none⟩ := ih later
        exact ⟨first, holds, head :: before, after, rfl, List.forall_mem_cons.mpr ⟨here, none⟩⟩

theorem FirstOf.mem (h : FirstOf p members a) : a ∈ members := by
  obtain ⟨-, before, after, rfl, -⟩ := h
  exact List.mem_append_right _ List.mem_cons_self

theorem FirstOf.unique (ha : FirstOf p members a) (hb : FirstOf p members b) : a = b := by
  obtain ⟨holdsA, before, after, rfl, none⟩ := ha
  obtain ⟨holdsB, before', after', same, none'⟩ := hb
  induction before generalizing before' with
  | nil =>
    cases before' with
    | nil => exact (List.cons.inj same).1
    | cons head tail =>
      obtain ⟨rfl, -⟩ := List.cons.inj same
      exact absurd holdsA (none' _ List.mem_cons_self)
  | cons head tail ih =>
    cases before' with
    | nil =>
      obtain ⟨rfl, -⟩ := List.cons.inj same
      exact absurd holdsB (none _ List.mem_cons_self)
    | cons head' tail' =>
      exact ih (List.forall_mem_cons.mp none).2 tail' (List.cons.inj same).2
        (List.forall_mem_cons.mp none').2

end First

namespace Place

/-- The nearest place above a place whose kind is wanted. -/
def nearest? (place : Place) (wanted : Kind → Bool) : Option Place :=
  place.above.find? fun outer => wanted outer.kind

theorem enclosing?_eq (place : Place) (wanted : Kind → Bool) :
    place.enclosing? wanted = (place.nearest? wanted).map Place.node := by
  rw [enclosing?, ← above_map_node, List.find?_map]
  rfl

/-- The scope of what a place binds: the function of a parameter, an arrow function or a loop
itself, the whole file for an import, and else the nearest scope. -/
def scope? (root : Node) (place : Place) : Option Place :=
  match place.kind with
  | .requiredParameter | .optionalParameter => place.parent?.bind Place.parent?
  | .arrowFunction | .forInStatement => some place
  | .importStatement => some (ofRoot root)
  | _ => place.nearest? Kind.opensScope

theorem scope?_mem_above {root : Node} {place scope : Place} (member : place ∈ all root)
    (h : place.scope? root = some scope) : scope ∈ place :: place.above := by
  have ofParameter (h : place.parent?.bind Place.parent? = some scope) :
      scope ∈ place :: place.above := by
    obtain ⟨parent, up, further⟩ := Option.bind_eq_some_iff.mp h
    exact List.mem_cons_of_mem _ ((parent?_mem_above up).2 (parent?_mem_above further).1)
  unfold scope? at h
  split at h
  · exact ofParameter h
  · exact ofParameter h
  · cases h
    exact List.mem_cons_self
  · cases h
    exact List.mem_cons_self
  · cases h
    exact root_mem_above place member
  · exact List.mem_cons_of_mem _ (List.mem_of_find?_eq_some h)

end Place

namespace Binding

variable {place : Place} {binding : Binding}

/-- A binding keeps the bytes of a place as its scope. -/
def Spans (binding : Binding) (scope : Place) : Prop :=
  binding.start = scope.node.start ∧ binding.stop = scope.node.stop

theorem spans_of_mem_inScope {name : String} {meaning : Meaning} {scope : Place}
    (h : binding ∈ [inScope name meaning scope.node]) : binding.Spans scope := by
  obtain rfl := List.mem_singleton.mp h
  exact ⟨rfl, rfl⟩

theorem spans_of_mem_inNearestScope {name : String} {meaning : Meaning}
    (h : binding ∈ inNearestScope place name meaning) :
    ∃ scope, place.nearest? Kind.opensScope = some scope ∧ binding.Spans scope := by
  rw [inNearestScope, Place.enclosing?_eq] at h
  cases near : place.nearest? Kind.opensScope with
  | none => simp [near] at h
  | some scope =>
    rw [near] at h
    exact ⟨scope, rfl, spans_of_mem_inScope h⟩

theorem children_ne_nil_of_child? {node child : Node} {role : Role}
    (h : node.child? role = some child) : node.children ≠ [] :=
  List.ne_nil_of_mem (List.mem_of_find?_eq_some h)

theorem children_ne_nil_of_childText {node : Node} {role : Role} (h : node.childText role ≠ "") :
    node.children ≠ [] := by
  rw [Node.childText] at h
  cases found : node.child? role with
  | none => simp [found] at h
  | some child => exact children_ne_nil_of_child? found

theorem of_mem_ofVariable (h : binding ∈ ofVariable place) :
    (∃ scope, place.nearest? Kind.opensScope = some scope ∧ binding.Spans scope) ∧
      place.node.children ≠ [] := by
  unfold ofVariable at h
  split at h
  · rename_i named
    refine ⟨?_, children_ne_nil_of_child? named⟩
    split at h
    · split at h
      · exact spans_of_mem_inNearestScope h
      · exact spans_of_mem_inNearestScope h
      · cases h
    · cases h
  · cases h

theorem of_mem_ofParameter (h : binding ∈ ofParameter place) :
    (∃ scope, place.parent?.bind Place.parent? = some scope ∧ binding.Spans scope) ∧
      place.node.children ≠ [] := by
  unfold ofParameter at h
  split at h
  · rename_i function pattern up
    refine ⟨⟨function, up, ?_⟩, children_ne_nil_of_child? pattern⟩
    split at h
    · split at h
      · exact spans_of_mem_inScope h
      · split at h
        · exact spans_of_mem_inScope h
        · cases h
    · cases h
  · cases h

theorem of_mem_ofArrow (h : binding ∈ ofArrow place) :
    binding.Spans place ∧ place.node.children ≠ [] := by
  unfold ofArrow at h
  split at h
  · rename_i parameter
    refine ⟨?_, children_ne_nil_of_child? parameter⟩
    split at h
    · exact spans_of_mem_inScope h
    · cases h
  · cases h

theorem of_mem_ofLoop (h : binding ∈ ofLoop place) :
    binding.Spans place ∧ place.node.children ≠ [] := by
  unfold ofLoop at h
  split at h
  · rename_i left _
    refine ⟨?_, children_ne_nil_of_child? left⟩
    split at h
    · exact spans_of_mem_inScope h
    · cases h
  · cases h

theorem of_mem_ofImport {root statement : Node} (h : binding ∈ ofImport root statement) :
    binding.Spans (.ofRoot root) ∧ statement.children ≠ [] := by
  unfold ofImport at h
  split at h
  · rename_i clause
    have child := List.mem_of_mem_filter (List.mem_of_find?_eq_some clause)
    refine ⟨?_, List.ne_nil_of_mem child⟩
    obtain ⟨part, -, here⟩ := List.mem_flatMap.mp h
    unfold ofImportPart at here
    split at here
    · exact spans_of_mem_inScope here
    · obtain ⟨name, -, rfl⟩ := List.mem_map.mp here
      exact ⟨rfl, rfl⟩
    · cases here
  · cases h

theorem of_mem_ofDeclaration (h : binding ∈ ofDeclaration place) :
    (∃ scope, place.nearest? Kind.opensScope = some scope ∧ binding.Spans scope) ∧
      place.node.children ≠ [] ∧ place.kind ≠ .identifier := by
  have other {kind : DeclarationKind} (declares : DeclarationKind.ofKind? place.kind = some kind) :
      place.kind ≠ .identifier := by
    intro same
    rw [same] at declares
    cases declares
  unfold ofDeclaration at h
  dsimp only at h
  split at h
  · rename_i declares
    split at h
    · cases h
    · rename_i named
      exact ⟨spans_of_mem_inNearestScope h, children_ne_nil_of_childText named, other declares⟩
  · rename_i declares
    split at h
    · cases h
    · rename_i named
      exact ⟨spans_of_mem_inNearestScope h, children_ne_nil_of_childText named, other declares⟩
  · cases h

/-- What is known of a place that binds something: the bytes of its scope are kept, and it is
neither a leaf nor an identifier. -/
theorem of_mem_ofPlace {root : Node} (h : binding ∈ ofPlace root place) :
    (∃ scope, place.scope? root = some scope ∧ binding.Spans scope) ∧
      place.node.children ≠ [] ∧ place.kind ≠ .identifier := by
  unfold ofPlace at h
  split at h
  · rename_i kind
    rw [Place.scope?, kind]
    exact ⟨(of_mem_ofVariable h).1, (of_mem_ofVariable h).2, nofun⟩
  · rename_i kind
    rw [Place.scope?, kind]
    exact ⟨(of_mem_ofParameter h).1, (of_mem_ofParameter h).2, nofun⟩
  · rename_i kind
    rw [Place.scope?, kind]
    exact ⟨(of_mem_ofParameter h).1, (of_mem_ofParameter h).2, nofun⟩
  · rename_i kind
    rw [Place.scope?, kind]
    exact ⟨⟨place, rfl, (of_mem_ofArrow h).1⟩, (of_mem_ofArrow h).2, nofun⟩
  · rename_i kind
    rw [Place.scope?, kind]
    exact ⟨⟨place, rfl, (of_mem_ofLoop h).1⟩, (of_mem_ofLoop h).2, nofun⟩
  · rename_i kind
    rw [Place.scope?, kind]
    exact ⟨⟨.ofRoot root, rfl, (of_mem_ofImport h).1⟩, (of_mem_ofImport h).2, nofun⟩
  · unfold Place.scope?
    -- All kinds but the last have been dealt with above.
    split
    case h_6 => exact of_mem_ofDeclaration h
    all_goals contradiction

/-- The smallest of some bindings stands after larger ones and before others that are no smaller. -/
theorem smallest?_append_cons {before after : List Binding} {least : Binding}
    (larger : ∀ other ∈ before, least.size < other.size)
    (noSmaller : ∀ other ∈ after, least.size ≤ other.size) :
    smallest? (before ++ least :: after) = some least := by
  induction before with
  | nil =>
    rw [List.nil_append, smallest?_cons]
    cases found : smallest? after with
    | none => rfl
    | some other =>
      have := noSmaller other (smallest?_mem _ _ found)
      rw [Option.elim_some, if_neg (by omega)]
  | cons first rest ih =>
    obtain ⟨here, later⟩ := List.forall_mem_cons.mp larger
    rw [List.cons_append, smallest?_cons, ih later, Option.elim_some, if_pos here]

end Binding

/-- A binding together with the place of its scope. -/
structure ScopedBinding where
  binding : Binding
  scope : Place

namespace ScopedBinding

/-- What a place binds, and where. -/
def ofPlace (root : Node) (place : Place) : List ScopedBinding :=
  (place.scope? root).elim [] fun scope =>
    (Binding.ofPlace root place).map fun binding => ⟨binding, scope⟩

/-- All that is bound in a tree, in pre-order. -/
def ofTree (root : Node) : List ScopedBinding := (Place.all root).flatMap (ofPlace root)

theorem ofPlace_map_binding (root : Node) (place : Place) :
    (ofPlace root place).map binding = Binding.ofPlace root place := by
  unfold ofPlace
  cases scope : place.scope? root with
  | none =>
    have nothing : Binding.ofPlace root place = [] := by
      refine List.eq_nil_iff_forall_not_mem.mpr fun binding bound => ?_
      obtain ⟨⟨found, same, -⟩, -⟩ := Binding.of_mem_ofPlace bound
      rw [scope] at same
      cases same
    rw [nothing]
    rfl
  | some found =>
    rw [Option.elim_some, List.map_map]
    exact List.map_id _

/-- The bindings of a file are those of its tree, without their places. -/
theorem ofTree_map_binding (file : SourceFile) :
    (ofTree file.root).map binding = Binding.ofFile file := by
  rw [ofTree, List.map_flatMap, Binding.ofFile]
  exact congrArg (List.flatMap · _) (funext (ofPlace_map_binding file.root))

/-- A binding is recorded at a place that is no leaf and no identifier, within its scope. -/
theorem of_mem_ofTree {root : Node} {entry : ScopedBinding} (h : entry ∈ ofTree root) :
    entry.binding.Spans entry.scope ∧ ∃ place ∈ Place.all root,
      entry.scope ∈ place :: place.above ∧ place.node.children ≠ [] ∧ place.kind ≠ .identifier := by
  obtain ⟨place, member, bound⟩ := List.mem_flatMap.mp h
  unfold ofPlace at bound
  cases scope : place.scope? root with
  | none =>
    rw [scope] at bound
    cases bound
  | some found =>
    rw [scope] at bound
    obtain ⟨binding, known, rfl⟩ := List.mem_map.mp bound
    obtain ⟨⟨other, same, spans⟩, inner, kind⟩ := Binding.of_mem_ofPlace known
    obtain rfl : found = other := Option.some.inj (scope.symm.trans same)
    exact ⟨spans, place, member, Place.scope?_mem_above member scope, inner, kind⟩

theorem scope_mem_all {root : Node} {entry : ScopedBinding} (h : entry ∈ ofTree root) :
    entry.scope ∈ Place.all root := by
  obtain ⟨-, place, member, above, -⟩ := of_mem_ofTree h
  rcases List.mem_cons.mp above with same | above
  · exact same ▸ member
  · exact Place.mem_all_of_mem_above place member _ above

end ScopedBinding

/-- A place of a tree that is an identifier and not empty. Below an identifier there is at most a
token. -/
structure Place.IsName (root : Node) (identifier : Place) : Prop where
  inTree : identifier ∈ Place.all root
  kind : identifier.kind = .identifier
  nonempty : identifier.node.start < identifier.node.stop
  tokens : ∀ child ∈ identifier.node.children, child.children = []

/-- What lies below an identifier is a leaf. -/
theorem Place.IsName.leaf_of_above {root : Node} {identifier place : Place}
    (isName : identifier.IsName root) (member : place ∈ Place.all root)
    (above : identifier ∈ place.above) : place.node.children = [] := by
  obtain ⟨child, listed, toward⟩ := Place.exists_child_toward place member identifier above
  have leaf := isName.tokens child.node (Place.mem_node_children listed)
  rcases List.mem_cons.mp toward with rfl | further
  · exact leaf
  · obtain ⟨next, under, -⟩ := Place.exists_child_toward place member child further
    have impossible := Place.mem_node_children under
    rw [leaf] at impossible
    cases impossible

namespace ScopedBinding

section Around

variable {root : Node} {identifier : Place} {name : String} {entry inner outer : ScopedBinding}

/-- Nothing is bound in a scope at or below an identifier. -/
theorem not_mem_above_of_isName (isName : identifier.IsName root) (h : entry ∈ ofTree root) :
    identifier ∉ entry.scope :: entry.scope.above := by
  intro below
  obtain ⟨-, place, member, above, inner, kind⟩ := of_mem_ofTree h
  -- The place that binds would be at or below the identifier too, where there are only leaves.
  have up : identifier ∈ place :: place.above := by
    rcases List.mem_cons.mp above with same | above
    · exact same ▸ below
    · rcases List.mem_cons.mp below with same | further
      · exact same ▸ List.mem_cons_of_mem _ above
      · exact List.mem_cons_of_mem _ (Place.above_subset above further)
  rcases List.mem_cons.mp up with rfl | above
  · exact kind isName.kind
  · exact inner (isName.leaf_of_above member above)

/-- The bytes of a scope cover an identifier exactly if the scope is above it. -/
theorem covers_iff (wellFormed : root.WellFormed) (isName : identifier.IsName root)
    (h : entry ∈ ofTree root) :
    entry.binding.covers identifier.node.start = true ↔ entry.scope ∈ identifier.above := by
  obtain ⟨⟨start, stop⟩, -⟩ := of_mem_ofTree h
  rw [Binding.covers, Bool.and_eq_true, decide_eq_true_eq, decide_eq_true_eq, start, stop]
  constructor
  · intro covers
    obtain above | below := Place.related_of_covers wellFormed (scope_mem_all h) isName.inTree
      isName.nonempty covers.1 covers.2
    · exact above
    · exact absurd below (not_mem_above_of_isName isName h)
  · intro above
    have span := Place.span_le_of_mem_above wellFormed identifier isName.inTree entry.scope
      (List.mem_cons_of_mem _ above)
    have := isName.nonempty
    omega

/-- A binding of a name, in a scope above an identifier. -/
def Around (name : String) (identifier : Place) (entry : ScopedBinding) : Prop :=
  entry.binding.name = name ∧ entry.scope ∈ identifier.above

/-- The scopes of two bindings span the same bytes. -/
def SameBytes (entry other : ScopedBinding) : Prop :=
  entry.scope.node.start = other.scope.node.start ∧ entry.scope.node.stop = other.scope.node.stop

/-- A binding of a name around an identifier, in a scope as deep as any. -/
def Deepest (root : Node) (name : String) (identifier : Place) (entry : ScopedBinding) : Prop :=
  entry.Around name identifier ∧
    ∀ other ∈ ofTree root, other.Around name identifier → other.scope.depth ≤ entry.scope.depth

/-- The innermost binding of a name around an identifier: the first in the deepest scope. -/
def Innermost (root : Node) (name : String) (identifier : Place) : ScopedBinding → Prop :=
  FirstOf (Deepest root name identifier) (ofTree root)

/-- A scope around the innermost one is larger, or spans the same bytes. -/
theorem size_lt_or_sameBytes (wellFormed : root.WellFormed)
    (h : inner ∈ ofTree root) (deepest : inner.Deepest root name identifier)
    (h' : outer ∈ ofTree root) (around : outer.Around name identifier) :
    inner.binding.size < outer.binding.size ∨ outer.SameBytes inner := by
  have up : outer.scope ∈ inner.scope :: inner.scope.above :=
    List.mem_cons.mpr (Place.eq_or_mem_above deepest.1.2 around.2 (deepest.2 outer h' around))
  have span := Place.span_le_of_mem_above wellFormed inner.scope (scope_mem_all h) outer.scope up
  have forward := (Place.ordered_of_mem_all wellFormed (scope_mem_all h)).forward
  obtain ⟨⟨start, stop⟩, -⟩ := of_mem_ofTree h
  obtain ⟨⟨start', stop'⟩, -⟩ := of_mem_ofTree h'
  rw [SameBytes, Binding.size, Binding.size, start, stop, start', stop']
  omega

theorem size_eq_of_sameBytes (h : entry ∈ ofTree root) (h' : outer ∈ ofTree root)
    (same : entry.SameBytes outer) : entry.binding.size = outer.binding.size := by
  obtain ⟨⟨start, stop⟩, -⟩ := of_mem_ofTree h
  obtain ⟨⟨start', stop'⟩, -⟩ := of_mem_ofTree h'
  rw [Binding.size, Binding.size, start, stop, start', stop', same.1, same.2]

theorem exists_innermost (h : entry ∈ ofTree root) (around : entry.Around name identifier) :
    ∃ inner, Innermost root name identifier inner := by
  obtain ⟨deepest, known, most⟩ := Set.exists_max_image
    {other | other ∈ ofTree root ∧ other.Around name identifier} (fun other => other.scope.depth)
    ((List.finite_toSet (ofTree root)).subset fun _ known => known.1) ⟨entry, h, around⟩
  exact exists_firstOf known.1 ⟨known.2, fun other member around => most other ⟨member, around⟩⟩

end Around

end ScopedBinding

/-- A file of a code base whose path no other file has. -/
def SourceFile.UniqueIn (file : SourceFile) (files : List SourceFile) : Prop :=
  files.filter (fun other => other.path.text == file.path.text) = [file]

namespace CodeIndex

variable {files : List SourceFile} {file : SourceFile} {identifier : Place} {name : String}

theorem bindingsOf_of_uniqueIn (unique : file.UniqueIn files) :
    (ofFiles files).bindingsOf file.path = Binding.ofFile file := by
  obtain ⟨before, after, rfl, -, -, none⟩ := List.filter_eq_cons_iff.mp unique
  -- The index begins with the last file, so what is passed over are the files after this one.
  have found : (ofFiles (before ++ file :: after)).bindings.lookup file.path.text =
      some (Binding.ofFile file) := by
    rw [List.lookup_eq_some_iff]
    refine ⟨(after.map fun other => (other.path.text, Binding.ofFile other)).reverse,
      (before.map fun other => (other.path.text, Binding.ofFile other)).reverse,
      by simp [ofFiles], ?_⟩
    intro entry member
    obtain ⟨other, known, rfl⟩ := List.mem_map.mp (List.mem_reverse.mp member)
    have differs := List.filter_eq_nil_iff.mp none other known
    exact bne_iff_ne.mpr fun same => differs (beq_iff_eq.mpr same.symm)
  rw [bindingsOf, found, Option.getD_some]

/-- Whether a binding is one of a name, in a scope whose bytes cover an offset. -/
def candidate (name : String) (offset : Nat) (entry : ScopedBinding) : Bool :=
  entry.binding.name == name && entry.binding.covers offset

theorem lookup_eq_smallest? (unique : file.UniqueIn files) (offset : Nat) :
    (ofFiles files).lookup file.path name offset = Binding.smallest?
      (((ScopedBinding.ofTree file.root).filter (candidate name offset)).map
        ScopedBinding.binding) := by
  rw [lookup, bindingsOf_of_uniqueIn unique, ← ScopedBinding.ofTree_map_binding, List.filter_map]
  rfl

theorem candidate_iff (wellFormed : file.root.WellFormed) (isName : identifier.IsName file.root)
    {entry : ScopedBinding} (h : entry ∈ ScopedBinding.ofTree file.root) :
    candidate name identifier.node.start entry = true ↔ entry.Around name identifier := by
  rw [candidate, Bool.and_eq_true, beq_iff_eq, ScopedBinding.covers_iff wellFormed isName h]
  rfl

theorem isSome_lookup (unique : file.UniqueIn files) (wellFormed : file.root.WellFormed)
    (isName : identifier.IsName file.root) :
    ((ofFiles files).lookup file.path name identifier.node.start).isSome = true ↔
      ∃ entry ∈ ScopedBinding.ofTree file.root, entry.Around name identifier := by
  rw [lookup_eq_smallest? unique, Option.isSome_iff_ne_none, ne_eq, Binding.smallest?_eq_none,
    List.map_eq_nil_iff, List.filter_eq_nil_iff]
  constructor
  · intro some
    by_contra none
    exact some fun entry member chosen =>
      none ⟨entry, member, (candidate_iff wellFormed isName member).mp chosen⟩
  · rintro ⟨entry, member, around⟩ none
    exact none entry member ((candidate_iff wellFormed isName member).mpr around)

/-- The first binding counts whose scope spans the bytes of the deepest scope. -/
theorem lookup_of_firstOf (unique : file.UniqueIn files) (wellFormed : file.root.WellFormed)
    (isName : identifier.IsName file.root) {inner found : ScopedBinding}
    (member : inner ∈ ScopedBinding.ofTree file.root)
    (deepest : inner.Deepest file.root name identifier)
    (first : FirstOf (fun entry => entry.Around name identifier ∧ entry.SameBytes inner)
      (ScopedBinding.ofTree file.root) found) :
    (ofFiles files).lookup file.path name identifier.node.start = some found.binding := by
  have size := ScopedBinding.size_eq_of_sameBytes first.mem member first.1.2
  have chosen := (candidate_iff wellFormed isName first.mem).mpr first.1.1
  obtain ⟨-, before, after, split, earlier⟩ := first
  -- The deepest scope is below the scopes of all candidates, so none is smaller.
  have larger {entry : ScopedBinding} (known : entry ∈ ScopedBinding.ofTree file.root)
      (candidate : candidate name identifier.node.start entry = true) :
      entry.Around name identifier ∧
        (inner.binding.size < entry.binding.size ∨ entry.SameBytes inner) := by
    have around := (candidate_iff wellFormed isName known).mp candidate
    exact ⟨around, ScopedBinding.size_lt_or_sameBytes wellFormed member deepest known around⟩
  rw [lookup_eq_smallest? unique, split, List.filter_append, List.filter_cons_of_pos chosen,
    List.map_append, List.map_cons]
  apply Binding.smallest?_append_cons
  · intro binding listed
    obtain ⟨entry, kept, rfl⟩ := List.mem_map.mp listed
    obtain ⟨here, candidate⟩ := List.mem_filter.mp kept
    obtain ⟨around, less | same⟩ := larger (split ▸ List.mem_append_left _ here) candidate
    · omega
    · exact absurd ⟨around, same⟩ (earlier entry here)
  · intro binding listed
    obtain ⟨entry, kept, rfl⟩ := List.mem_map.mp listed
    obtain ⟨here, candidate⟩ := List.mem_filter.mp kept
    have known : entry ∈ ScopedBinding.ofTree file.root :=
      split ▸ List.mem_append_right _ (List.mem_cons_of_mem _ here)
    obtain ⟨-, less | same⟩ := larger known candidate
    · omega
    · rw [size, ScopedBinding.size_eq_of_sameBytes known member same]

/-- A name that is looked up at an identifier has a binding exactly if it is bound in a scope above
the identifier. What is found is the first binding whose scope spans the same bytes as the deepest
of these scopes. So it is the innermost binding exactly if none is recorded before it whose scope
spans the same bytes. -/
theorem lookup_spans_innermost (unique : file.UniqueIn files) (wellFormed : file.root.WellFormed)
    (isName : identifier.IsName file.root) (name : String) :
    (((ofFiles files).lookup file.path name identifier.node.start).isSome = true ↔
      ∃ entry ∈ ScopedBinding.ofTree file.root, entry.Around name identifier) ∧
    ((∃ entry ∈ ScopedBinding.ofTree file.root, entry.Around name identifier) →
      ∃ inner, ScopedBinding.Innermost file.root name identifier inner) ∧
    ∀ inner, ScopedBinding.Innermost file.root name identifier inner →
      ∃ found,
        FirstOf (fun entry => entry.Around name identifier ∧ entry.SameBytes inner)
          (ScopedBinding.ofTree file.root) found ∧
        (ofFiles files).lookup file.path name identifier.node.start = some found.binding ∧
        (found = inner ↔ ∃ before after,
          ScopedBinding.ofTree file.root = before ++ inner :: after ∧
          ∀ outer ∈ before, outer.Around name identifier → ¬outer.SameBytes inner) := by
  refine ⟨isSome_lookup unique wellFormed isName, ?_, ?_⟩
  · rintro ⟨entry, member, around⟩
    exact ScopedBinding.exists_innermost member around
  · intro inner innermost
    have deepest := innermost.1
    obtain ⟨found, first⟩ := exists_firstOf
      (p := fun entry => entry.Around name identifier ∧ entry.SameBytes inner)
      innermost.mem ⟨deepest.1, rfl, rfl⟩
    have lookedUp := lookup_of_firstOf unique wellFormed isName innermost.mem deepest first
    refine ⟨found, first, lookedUp, ?_, ?_⟩
    · rintro rfl
      obtain ⟨-, before, after, split, earlier⟩ := first
      exact ⟨before, after, split, fun outer member around same =>
        earlier outer member ⟨around, same⟩⟩
    · rintro ⟨before, after, split, earlier⟩
      refine first.unique ⟨⟨deepest.1, rfl, rfl⟩, before, after, split, ?_⟩
      exact fun outer member both => earlier outer member both.1 both.2

end CodeIndex

/-! A file of one function, `function f(f: User) { f.save(); }`, whose parameter has the name of the
function. The function and the file span the same bytes. -/
namespace Shadowing

def parameter : Node :=
  .mk ⟨.requiredParameter, true, none, 11, 18, 1, 12, "f: User"⟩
    [Node.word .identifier (some .pattern) 11 "f",
      .mk ⟨.annotatedType, true, some .type, 12, 18, 1, 13, ": User"⟩
        [Node.word .typeIdentifier none 14 "User"]]

def parameters : Node :=
  .mk ⟨.other "formal_parameters", true, some .parameters, 10, 19, 1, 11, "(f: User)"⟩ [parameter]

def callee : Node :=
  .mk ⟨.memberExpression, true, some .function, 22, 28, 1, 23, "f.save"⟩
    [Node.word .identifier (some .object) 22 "f",
      Node.word .propertyIdentifier (some .property) 24 "save"]

def call : Node :=
  .mk ⟨.callExpression, true, none, 22, 30, 1, 23, "f.save()"⟩
    [callee, Node.word .arguments (some .arguments) 28 "()"]

def block : Node :=
  .mk ⟨.statementBlock, true, some .body, 20, 33, 1, 21, "\x7b f.save(); \x7d"⟩ [call]

def function : Node :=
  .mk ⟨.functionDeclaration, true, none, 0, 33, 1, 1, "function f(f: User) \x7b f.save(); \x7d"⟩
    [Node.word .identifier (some .name) 9 "f", parameters, block]

def program : Node := .mk ⟨.program, true, none, 0, 33, 1, 1, function.text⟩ [function]

def file : SourceFile := .ofTree ⟨0, ["a.ts"]⟩ none program

def declaration : Place := ⟨function, [⟨program, []⟩]⟩

/-- The name on which `save` is called. -/
def receiver : Place :=
  ⟨Node.word .identifier (some .object) 22 "f", [⟨callee, []⟩, ⟨call, []⟩, ⟨block, []⟩,
    ⟨function, [parameters, Node.word .identifier (some .name) 9 "f"]⟩, ⟨program, []⟩]⟩

def outer : ScopedBinding := ⟨⟨"f", .function declaration, 0, 33⟩, .ofRoot program⟩

def inner : ScopedBinding :=
  ⟨⟨"f", .annotated (.mk ⟨.annotatedType, true, some .type, 12, 18, 1, 13, ": User"⟩
    [Node.word .typeIdentifier none 14 "User"]), 0, 33⟩, declaration⟩

theorem ofTree_eq : ScopedBinding.ofTree file.root = [outer, inner] := by
  rw [ScopedBinding.ofTree, Place.all_eq_walk]
  rfl

theorem uniqueIn : file.UniqueIn [file] := by
  simp [SourceFile.UniqueIn]

theorem wellFormed : file.root.WellFormed := by
  unfold Node.WellFormed
  decide +kernel

theorem isName : receiver.IsName file.root where
  inTree := by
    rw [Place.all_eq_walk]
    exact List.mem_of_getElem? (i := 11) rfl
  kind := rfl
  nonempty := by decide
  tokens := List.forall_mem_nil _

theorem around (entry : ScopedBinding) (h : entry ∈ ScopedBinding.ofTree file.root) :
    entry.Around "f" receiver ∧ entry.SameBytes inner := by
  rw [ofTree_eq] at h
  rcases List.mem_cons.mp h with rfl | later
  · exact ⟨⟨rfl, List.mem_of_getElem? (i := 4) rfl⟩, rfl, rfl⟩
  · obtain rfl := List.mem_singleton.mp later
    exact ⟨⟨rfl, List.mem_of_getElem? (i := 3) rfl⟩, rfl, rfl⟩

theorem inner_mem : inner ∈ ScopedBinding.ofTree file.root := by
  rw [ofTree_eq]
  exact List.mem_of_getElem? (i := 1) rfl

theorem innermost : ScopedBinding.Innermost file.root "f" receiver inner := by
  refine ⟨⟨(around inner inner_mem).1, ?_⟩, [outer], [], ofTree_eq, ?_⟩
  · intro other member _
    rw [ofTree_eq] at member
    rcases List.mem_cons.mp member with rfl | later
    · exact Nat.zero_le _
    · obtain rfl := List.mem_singleton.mp later
      exact Nat.le_refl _
  · intro other member deepest
    obtain rfl := List.mem_singleton.mp member
    have deeper := deepest.2 inner inner_mem (around inner inner_mem).1
    exact absurd deeper (by decide)

/-- The function is recorded before its parameter. -/
theorem firstOf_outer : FirstOf (fun entry => entry.Around "f" receiver ∧ entry.SameBytes inner)
    (ScopedBinding.ofTree file.root) outer := by
  refine ⟨around outer ?_, [], [inner], ofTree_eq, List.forall_mem_nil _⟩
  rw [ofTree_eq]
  exact List.mem_cons_self

end Shadowing

namespace CodeIndex

open Shadowing

theorem lookup_spans_innermost_shadowing :
    file.UniqueIn [file] ∧ file.root.WellFormed ∧ receiver.IsName file.root ∧
      ScopedBinding.Innermost file.root "f" receiver inner ∧
      (ofFiles [file]).lookup file.path "f" receiver.node.start = some outer.binding := by
  obtain ⟨-, -, found⟩ := lookup_spans_innermost uniqueIn wellFormed isName "f"
  obtain ⟨first, isFirst, lookedUp, -⟩ := found inner innermost
  exact ⟨uniqueIn, wellFormed, isName, innermost, isFirst.unique firstOf_outer ▸ lookedUp⟩

/-- The name of the parameter is looked up as the function around it. -/
theorem lookup_not_innermost :
    ¬∀ (files : List SourceFile) (file : SourceFile) (identifier : Place) (name : String)
      (inner : ScopedBinding), file.UniqueIn files → file.root.WellFormed →
        identifier.IsName file.root → ScopedBinding.Innermost file.root name identifier inner →
        (ofFiles files).lookup file.path name identifier.node.start = some inner.binding := by
  intro always
  have claimed := always [file] file receiver "f" inner uniqueIn wellFormed isName innermost
  have found := lookup_of_firstOf uniqueIn wellFormed isName inner_mem innermost.1 firstOf_outer
  have same := Option.some.inj (found.symm.trans claimed)
  exact absurd (congrArg Binding.isFunction same) (by decide)

end CodeIndex

end LeastGrant
