import LeastGrant.Tree.Place

/-! Places of a tree and the bytes that they span. In an ordered tree a place spans no more than any
place above it, and two places of which none is above the other span bytes apart. -/
namespace LeastGrant

/-- A node spans a range of bytes, its children lie within the range, and each ends before the next
begins. -/
structure Node.Ordered (node : Node) : Prop where
  forward : node.start ≤ node.stop
  inside : ∀ child ∈ node.children, node.start ≤ child.start ∧ child.stop ≤ node.stop
  apart : node.children.Pairwise fun earlier later => earlier.stop ≤ later.start

instance (node : Node) : Decidable node.Ordered :=
  decidable_of_iff (node.start ≤ node.stop ∧
      (∀ child ∈ node.children, node.start ≤ child.start ∧ child.stop ≤ node.stop) ∧
      node.children.Pairwise fun earlier later => earlier.stop ≤ later.start)
    ⟨fun h => ⟨h.1, h.2.1, h.2.2⟩, fun h => ⟨h.forward, h.inside, h.apart⟩⟩

/-- A tree all of whose nodes are ordered. -/
def Node.WellFormed (root : Node) : Prop := ∀ node ∈ root.preorder, node.Ordered

/-- Two members of a list are equal or related, one way or the other, if earlier members are related
to later ones. -/
theorem rel_of_pairwise {α : Type} {related : α → α → Prop} {members : List α}
    (pairs : members.Pairwise related) {a b : α} (ha : a ∈ members) (hb : b ∈ members) :
    a = b ∨ related a b ∨ related b a := by
  induction pairs with
  | nil => cases ha
  | cons first _ ih =>
    rcases List.mem_cons.mp ha with rfl | laterA
    · rcases List.mem_cons.mp hb with rfl | laterB
      · exact .inl rfl
      · exact .inr (.inl (first b laterB))
    · rcases List.mem_cons.mp hb with rfl | laterB
      · exact .inr (.inr (first a laterA))
      · exact ih laterA laterB

namespace Place

section Above

/-- The places at the ends of some steps up. -/
def aboveOf : List Frame → List Place
  | [] => []
  | frame :: frames => ⟨frame.parent, frames⟩ :: aboveOf frames

/-- The places above a place, the nearest first. -/
def above (place : Place) : List Place := aboveOf place.frames

/-- How far a place is from the root. -/
def depth (place : Place) : Nat := place.frames.length

theorem above_map_node (place : Place) : place.above.map Place.node = place.ancestors := by
  obtain ⟨node, frames⟩ := place
  rw [above, ancestors]
  induction frames with
  | nil => rfl
  | cons frame frames ih => exact congrArg (frame.parent :: ·) ih

theorem parent?_mem_above {place parent : Place} (h : place.parent? = some parent) :
    parent ∈ place.above ∧ parent.above ⊆ place.above := by
  obtain ⟨node, _ | ⟨frame, frames⟩⟩ := place
  · cases h
  · cases h
    exact ⟨List.mem_cons_self, List.subset_cons_self _ _⟩

theorem pairwise_above (place : Place) :
    place.above.Pairwise fun inner outer => outer ∈ inner.above := by
  obtain ⟨node, frames⟩ := place
  rw [above]
  induction frames with
  | nil => exact .nil
  | cons frame frames ih => exact .cons (fun _ member => member) ih

theorem depth_lt_of_mem_above {inner outer : Place} (h : outer ∈ inner.above) :
    outer.depth < inner.depth := by
  obtain ⟨node, frames⟩ := inner
  rw [above] at h
  induction frames with
  | nil => cases h
  | cons frame frames ih =>
    rcases List.mem_cons.mp h with rfl | further
    · exact Nat.lt_succ_self _
    · exact Nat.lt_succ_of_lt (ih further)

theorem above_subset {inner outer : Place} (h : outer ∈ inner.above) :
    outer.above ⊆ inner.above := by
  obtain ⟨node, frames⟩ := inner
  rw [above] at h ⊢
  induction frames with
  | nil => cases h
  | cons frame frames ih =>
    rcases List.mem_cons.mp h with rfl | further
    · exact List.subset_cons_self _ _
    · exact List.Subset.trans (ih further) (List.subset_cons_self _ _)

/-- Of two places above a third, the one that is no deeper is the other or above it. -/
theorem eq_or_mem_above {place inner outer : Place} (h : inner ∈ place.above)
    (h' : outer ∈ place.above) (depth : outer.depth ≤ inner.depth) :
    outer = inner ∨ outer ∈ inner.above := by
  obtain same | above | below := rel_of_pairwise place.pairwise_above h h'
  · exact .inl same.symm
  · exact .inr above
  · have := depth_lt_of_mem_above below
    omega

end Above

section Below

theorem mem_node_children {place child : Place} (h : child ∈ place.children) :
    child.node ∈ place.node.children := by
  rw [← children_map_node]
  exact List.mem_map_of_mem h

theorem frames_of_mem_children {place child : Place} (h : child ∈ place.children) :
    ∃ before, child.frames = ⟨place.node, before⟩ :: place.frames := by
  have general (before nodes : List Node) :
      ∀ other ∈ childrenFrom place.node place.frames before nodes,
        ∃ before, other.frames = ⟨place.node, before⟩ :: place.frames := by
    induction nodes generalizing before with
    | nil => exact List.forall_mem_nil _
    | cons node rest ih => exact List.forall_mem_cons.mpr ⟨⟨before, rfl⟩, ih _⟩
  exact general _ _ child h

theorem above_of_mem_children {place child : Place} (h : child ∈ place.children) :
    child.above = place :: place.above := by
  obtain ⟨before, frames⟩ := frames_of_mem_children h
  rw [above, frames]
  rfl

theorem size_lt_of_mem_children {place child : Place} (h : child ∈ place.children) :
    child.node.size < place.node.size := by
  have general (nodes : List Node) (node : Node) (member : node ∈ nodes) :
      node.size ≤ Node.sizeAll nodes := by
    induction nodes with
    | nil => cases member
    | cons first rest ih =>
      rw [Node.sizeAll]
      rcases List.mem_cons.mp member with rfl | later
      · exact Nat.le_add_right _ _
      · exact Nat.le_trans (ih later) (Nat.le_add_left _ _)
  rw [Node.size_eq place.node]
  exact Nat.lt_succ_of_le (general _ _ (mem_node_children h))

/-- What passes from the children of each place to the place holds of all places. -/
@[elab_as_elim]
theorem induction_up {motive : Place → Prop}
    (step : ∀ place, (∀ child ∈ place.children, motive child) → motive place) (place : Place) :
    motive place :=
  step place fun child member =>
    have := size_lt_of_mem_children member
    induction_up step child
termination_by place.node.size

/-- A place and all that lies below it, in pre-order. -/
def subtree (place : Place) : List Place := walk (fun _ => false) place.frames place.node

theorem all_eq_subtree (root : Node) : all root = (ofRoot root).subtree := all_eq_walk root

theorem subtree_eq (place : Place) :
    place.subtree = place :: place.children.flatMap subtree :=
  walk_eq (fun _ => false) place

theorem mem_subtree_self (place : Place) : place ∈ place.subtree := by
  rw [subtree_eq]
  exact List.mem_cons_self

/-- What passes from each place to its children holds of all that lies below a place for which it
holds. -/
theorem forall_mem_subtree {motive : Place → Prop}
    (step : ∀ place, motive place → ∀ child ∈ place.children, motive child) {place : Place}
    (here : motive place) : ∀ other ∈ place.subtree, motive other := by
  induction place using induction_up with
  | step place ih =>
    intro other member
    rw [subtree_eq] at member
    rcases List.mem_cons.mp member with rfl | below
    · exact here
    · obtain ⟨child, listed, within⟩ := List.mem_flatMap.mp below
      exact ih child listed (step place here child listed) other within

theorem mem_subtree_of_child {place other child : Place} (member : other ∈ place.subtree)
    (listed : child ∈ other.children) : child ∈ place.subtree := by
  induction place using induction_up with
  | step place ih =>
    rw [subtree_eq] at member ⊢
    refine List.mem_cons_of_mem _ (List.mem_flatMap.mpr ?_)
    rcases List.mem_cons.mp member with rfl | below
    · exact ⟨child, listed, child.mem_subtree_self⟩
    · obtain ⟨next, further, within⟩ := List.mem_flatMap.mp below
      exact ⟨next, further, ih next further within⟩

theorem mem_above_of_mem_subtree {place other : Place} (member : other ∈ place.subtree) :
    place ∈ other :: other.above := by
  refine forall_mem_subtree (motive := fun other => place ∈ other :: other.above) ?_
    List.mem_cons_self other member
  intro next ih child listed
  rw [above_of_mem_children listed]
  exact List.mem_cons_of_mem _ ih

theorem mem_above_of_mem_subtree_child {place child other : Place} (listed : child ∈ place.children)
    (member : other ∈ child.subtree) : place ∈ other.above := by
  have up : place ∈ child.above := by
    rw [above_of_mem_children listed]
    exact List.mem_cons_self
  rcases List.mem_cons.mp (mem_above_of_mem_subtree member) with rfl | above
  · exact up
  · exact above_subset above up

end Below

section Tree

variable {root : Node} {place : Place}

theorem mem_all_of_child {child : Place} (member : place ∈ all root)
    (listed : child ∈ place.children) : child ∈ all root := by
  rw [all_eq_subtree] at member ⊢
  exact mem_subtree_of_child member listed

theorem subtree_subset_all (member : place ∈ all root) : place.subtree ⊆ all root :=
  forall_mem_subtree (fun _ known _ listed => mem_all_of_child known listed) member

/-- What holds of the root and passes from each place of a tree to its children holds of all places
of the tree. -/
theorem forall_mem_all {motive : Place → Prop} (top : motive (ofRoot root))
    (step : ∀ place ∈ all root, motive place → ∀ child ∈ place.children, motive child) :
    ∀ place ∈ all root, motive place := by
  have both := forall_mem_subtree (motive := fun place => place ∈ all root ∧ motive place)
    (fun place known child listed =>
      ⟨mem_all_of_child known.1 listed, step place known.1 known.2 child listed⟩)
    ⟨all_eq_subtree root ▸ mem_subtree_self _, top⟩
  rw [← all_eq_subtree] at both
  exact fun place member => (both place member).2

/-- The places above a place of a tree belong to the tree. -/
theorem mem_all_of_mem_above : ∀ place ∈ all root, ∀ outer ∈ place.above, outer ∈ all root := by
  apply forall_mem_all
  · exact List.forall_mem_nil _
  · intro place member ih child listed
    rw [above_of_mem_children listed]
    exact List.forall_mem_cons.mpr ⟨member, ih⟩

/-- The root is above every other place. -/
theorem root_mem_above : ∀ place ∈ all root, ofRoot root ∈ place :: place.above := by
  apply forall_mem_all
  · exact List.mem_cons_self
  · intro place _ ih child listed
    rw [above_of_mem_children listed]
    exact List.mem_cons_of_mem _ ih

/-- From a place above another, a child leads down to the other. -/
theorem exists_child_toward : ∀ place ∈ all root, ∀ outer ∈ place.above,
    ∃ child ∈ outer.children, child ∈ place :: place.above := by
  apply forall_mem_all
  · exact List.forall_mem_nil _
  · intro place _ ih child listed
    rw [above_of_mem_children listed]
    refine List.forall_mem_cons.mpr ⟨⟨child, listed, List.mem_cons_self⟩, ?_⟩
    intro outer member
    obtain ⟨next, further, toward⟩ := ih outer member
    exact ⟨next, further, List.mem_cons_of_mem _ toward⟩

theorem ordered_of_mem_all (wellFormed : root.WellFormed) (member : place ∈ all root) :
    place.node.Ordered := by
  refine wellFormed place.node ?_
  rw [← all_map_node]
  exact List.mem_map_of_mem member

/-- A place spans no more than any place above it. -/
theorem span_le_of_mem_above (wellFormed : root.WellFormed) :
    ∀ place ∈ all root, ∀ outer ∈ place :: place.above,
      outer.node.start ≤ place.node.start ∧ place.node.stop ≤ outer.node.stop := by
  apply forall_mem_all
  · exact List.forall_mem_singleton.mpr ⟨Nat.le_refl _, Nat.le_refl _⟩
  · intro place member ih child listed
    have within := (ordered_of_mem_all wellFormed member).inside _ (mem_node_children listed)
    rw [above_of_mem_children listed]
    refine List.forall_mem_cons.mpr ⟨⟨Nat.le_refl _, Nat.le_refl _⟩, ?_⟩
    intro outer further
    have wider := ih outer further
    exact ⟨Nat.le_trans wider.1 within.1, Nat.le_trans within.2 wider.2⟩

/-- Of two places, the earlier one is above the later one or ends before it begins. -/
def Precedes (earlier later : Place) : Prop :=
  earlier ∈ later.above ∨ earlier.node.stop ≤ later.node.start

/-- Places below one child of a place precede places below a later child, since the children are
apart and span all that lies below them. -/
theorem pairwise_subtree_children (wellFormed : root.WellFormed) (member : place ∈ all root) :
    place.children.Pairwise fun a b => ∀ x ∈ a.subtree, ∀ y ∈ b.subtree, Precedes x y := by
  have apart := (ordered_of_mem_all wellFormed member).apart
  rw [← children_map_node, List.pairwise_map] at apart
  refine apart.imp_of_mem ?_
  intro a b listedA listedB ends x belowA y belowB
  have inTreeX := subtree_subset_all (mem_all_of_child member listedA) belowA
  have inTreeY := subtree_subset_all (mem_all_of_child member listedB) belowB
  have spanX := span_le_of_mem_above wellFormed x inTreeX a (mem_above_of_mem_subtree belowA)
  have spanY := span_le_of_mem_above wellFormed y inTreeY b (mem_above_of_mem_subtree belowB)
  exact .inr (Nat.le_trans spanX.2 (Nat.le_trans ends spanY.1))

/-- A relation between each place and all that lies below it, and between all that lies below one child of
a place and all that lies below a later child, relates each place of a tree to all later ones. -/
theorem pairwise_all_of_children {related : Place → Place → Prop}
    (down : ∀ outer inner, outer ∈ inner.above → related outer inner)
    (across : ∀ place ∈ all root,
      place.children.Pairwise fun a b => ∀ x ∈ a.subtree, ∀ y ∈ b.subtree, related x y) :
    (all root).Pairwise related := by
  -- By induction from the leaves: below a place lie its children with all that lies below them.
  have general (place : Place) : place ∈ all root → place.subtree.Pairwise related := by
    induction place using induction_up with
    | step place ih =>
      intro member
      rw [subtree_eq, List.pairwise_cons, List.pairwise_flatMap]
      refine ⟨?_, ?_, across place member⟩
      · intro other below
        obtain ⟨child, listed, within⟩ := List.mem_flatMap.mp below
        exact down place other (mem_above_of_mem_subtree_child listed within)
      · exact fun child listed => ih child listed (mem_all_of_child member listed)
  have top := general (ofRoot root)
  rw [← all_eq_subtree] at top
  exact top (all_eq_subtree root ▸ mem_subtree_self _)

/-- In pre-order, each place precedes all later ones. -/
theorem pairwise_all (wellFormed : root.WellFormed) : (all root).Pairwise Precedes :=
  pairwise_all_of_children (fun _ _ => .inl) fun _ => pairwise_subtree_children wellFormed

/-- A place that spans a byte of another one is above it, or the other is above the place or the
same. -/
theorem related_of_covers (wellFormed : root.WellFormed) {a b : Place} (ha : a ∈ all root)
    (hb : b ∈ all root) (nonempty : b.node.start < b.node.stop)
    (starts : a.node.start ≤ b.node.start) (ends : b.node.start < a.node.stop) :
    a ∈ b.above ∨ b ∈ a :: a.above := by
  obtain rfl | (above | apart) | (below | apart) := rel_of_pairwise (pairwise_all wellFormed) ha hb
  · exact .inr List.mem_cons_self
  · exact .inl above
  · omega
  · exact .inr (List.mem_cons_of_mem _ below)
  · omega

end Tree

end Place

end LeastGrant
