import LeastGrant.Proofs.Exactness
import LeastGrant.Proofs.TreePlaces
import Mathlib.Data.List.Lex

/-! The order of a source. Each place of a tree has an address, the way down to it from the root, and the
order of the source is the lexicographic order of addresses. A walk over the tree by a stack goes through
all places in this order, which is also the order in which the tree is written as a list of entries. A
visit keeps the places outside of imports in their order, and so uses and notes come in it as well. -/
namespace LeastGrant

/-! ## Trees written as lists -/

/-- What an entry says of a node: its label, and how many children it has. -/
def Node.head (node : Node) : Label × Nat := (node.label, node.children.length)

def TreeEntry.head (source : ByteArray) (entry : TreeEntry) : Label × Nat :=
  (entry.label source, entry.children)

/-- Entries list the nodes of a tree in pre-order. -/
def Node.WrittenAs (root : Node) (source : ByteArray) (entries : List TreeEntry) : Prop :=
  root.preorder.map head = entries.map (TreeEntry.head source)

mutual
/-- Read from the last entry on, the entries of a tree put it before the trees that follow. -/
theorem foldr_stack_tree {source : ByteArray} (node : Node) {entries : List TreeEntry}
    (written : node.WrittenAs source entries) (following : List Node) :
    entries.foldr (TreeEntry.stack source) following = node :: following := by
  cases node with
  | mk label children =>
    rw [Node.WrittenAs, Node.preorder, List.map_cons] at written
    obtain ⟨first, below, rfl, own, inner⟩ := List.map_eq_cons_iff.mp written.symm
    obtain ⟨labelled, count⟩ := Prod.mk.inj own
    rw [List.foldr_cons, foldr_stack_trees children inner.symm following, TreeEntry.stack, labelled, count]
    simp [Node.label, Node.children]

theorem foldr_stack_trees {source : ByteArray} (nodes : List Node) {entries : List TreeEntry}
    (written : (Node.preorderAll nodes).map Node.head = entries.map (TreeEntry.head source))
    (following : List Node) :
    entries.foldr (TreeEntry.stack source) following = nodes ++ following := by
  cases nodes with
  | nil =>
    rw [Node.preorderAll, List.map_nil] at written
    rw [List.map_eq_nil_iff.mp written.symm]
    rfl
  | cons node rest =>
    rw [Node.preorderAll, List.map_append] at written
    obtain ⟨front, back, rfl, first, others⟩ := List.map_eq_append_iff.mp written.symm
    rw [List.foldr_append, foldr_stack_trees rest others.symm, foldr_stack_tree node first.symm]
    rfl
end

theorem Node.ofEntries_of_writtenAs {root : Node} {source : ByteArray} {entries : List TreeEntry}
    (written : root.WrittenAs source entries) : ofEntries source entries = root := by
  rw [ofEntries, foldr_stack_tree root written []]

/-! ## Addresses -/

namespace Place

/-- The way from the root down to a place: how many siblings stand before each place on it. -/
def address (place : Place) : List Nat := (place.frames.map fun frame => frame.before.length).reverse

/-- A place of a tree is the root, or the child of a place of the tree. -/
inductive LiesIn (root : Node) : Place → Prop
  | top : LiesIn root (ofRoot root)
  | child {place child : Place} (inside : LiesIn root place) (listed : child ∈ place.children) :
    LiesIn root child

theorem mem_all_iff {root : Node} {place : Place} : place ∈ all root ↔ place.LiesIn root := by
  constructor
  · exact forall_mem_all .top (fun _ _ inside _ listed => .child inside listed) place
  · intro inside
    induction inside with
    | top =>
      rw [all_eq_subtree]
      exact mem_subtree_self _
    | child _ listed member => exact mem_all_of_child member listed

theorem childrenFrom_map_address (parent : Node) (frames : List Frame) (before nodes : List Node) :
    (childrenFrom parent frames before nodes).map address =
      (List.range' before.length nodes.length).map fun position =>
        (⟨parent, frames⟩ : Place).address ++ [position] := by
  induction nodes generalizing before with
  | nil => rfl
  | cons node rest ih =>
    rw [childrenFrom, List.map_cons, ih, List.length_cons, List.length_cons, List.range'_succ,
      List.map_cons]
    simp [address]

theorem children_map_address (place : Place) :
    place.children.map address =
      (List.range place.node.children.length).map fun position => place.address ++ [position] := by
  rw [children, childrenFrom_map_address, List.range_eq_range']
  rfl

theorem address_of_mem_above {inner outer : Place} (h : outer ∈ inner.above) :
    ∃ position rest, inner.address = outer.address ++ position :: rest := by
  obtain ⟨node, frames⟩ := inner
  rw [above] at h
  induction frames generalizing node with
  | nil => cases h
  | cons frame frames ih =>
    have last : (⟨node, frame :: frames⟩ : Place).address =
        (⟨frame.parent, frames⟩ : Place).address ++ [frame.before.length] := by
      simp [address]
    rcases List.mem_cons.mp h with rfl | further
    · exact ⟨_, [], last⟩
    · obtain ⟨position, rest, along⟩ := ih frame.parent further
      exact ⟨position, rest ++ [frame.before.length], by rw [last, along]; simp⟩

theorem address_of_mem_subtree {place other : Place} (member : other ∈ place.subtree) :
    ∃ rest, other.address = place.address ++ rest := by
  rcases List.mem_cons.mp (mem_above_of_mem_subtree member) with rfl | above
  · exact ⟨[], (List.append_nil _).symm⟩
  · obtain ⟨position, rest, along⟩ := address_of_mem_above above
    exact ⟨position :: rest, along⟩

/-- A place comes before another in the source if its address does in the lexicographic order. -/
def ComesBefore (a b : Place) : Prop := List.Lex (· < ·) a.address b.address

theorem ComesBefore.ne {a b : Place} (h : a.ComesBefore b) : a ≠ b := by
  intro same
  rw [ComesBefore, same] at h
  exact List.lex_irrefl Nat.lt_irrefl _ h

theorem comesBefore_of_mem_above {inner outer : Place} (h : outer ∈ inner.above) :
    outer.ComesBefore inner := by
  obtain ⟨position, rest, along⟩ := address_of_mem_above h
  have longer := List.Lex.append_left (· < ·) (List.Lex.nil (a := position) (l := rest)) outer.address
  rw [List.append_nil] at longer
  rwa [ComesBefore, along]

theorem comesBefore_across (place : Place) :
    place.children.Pairwise fun a b => ∀ x ∈ a.subtree, ∀ y ∈ b.subtree, x.ComesBefore y := by
  have positions : place.children.Pairwise fun a b => ∃ i j, i < j ∧
      a.address = place.address ++ [i] ∧ b.address = place.address ++ [j] := by
    rw [← List.pairwise_map (f := address) (R := fun a b => ∃ i j, i < j ∧
      a = place.address ++ [i] ∧ b = place.address ++ [j]), children_map_address, List.pairwise_map]
    exact List.pairwise_lt_range.imp fun {i j} less => ⟨i, j, less, rfl, rfl⟩
  refine positions.imp ?_
  intro a b apart x belowA y belowB
  obtain ⟨i, j, less, left, right⟩ := apart
  obtain ⟨restX, alongX⟩ := address_of_mem_subtree belowA
  obtain ⟨restY, alongY⟩ := address_of_mem_subtree belowB
  rw [ComesBefore, alongX, alongY, left, right, List.append_assoc, List.append_assoc]
  exact List.Lex.append_left _ (.rel less) _

/-- A list goes through a tree in the order of the source. -/
structure ListsTree (root : Node) (places : List Place) : Prop where
  mem_iff : ∀ place, place ∈ places ↔ place.LiesIn root
  once : places.Nodup
  ordered : places.Pairwise ComesBefore

theorem listsTree_all (root : Node) : ListsTree root (all root) := by
  have ordered : (all root).Pairwise ComesBefore :=
    pairwise_all_of_children (fun _ _ => comesBefore_of_mem_above) fun place _ => comesBefore_across place
  exact ⟨fun _ => mem_all_iff, ordered.imp ComesBefore.ne, ordered⟩

/-- In a tree whose nodes span their children, one after the other, later places start no earlier. -/
theorem start_le_of_wellFormed {root : Node} (wellFormed : root.WellFormed) :
    (all root).Pairwise fun a b => a.node.start ≤ b.node.start := by
  refine (pairwise_all wellFormed).imp_of_mem ?_
  intro a b memberA memberB precedes
  rcases precedes with above | apart
  · exact (span_le_of_mem_above wellFormed b memberB a (List.mem_cons_of_mem _ above)).1
  · exact Nat.le_trans (ordered_of_mem_all wellFormed memberA).forward apart

def isImportOrCall (place : Place) : Bool :=
  place.kind == .importStatement || place.kind == .callExpression

end Place

/-! ## Visits -/

theorem flatMap_filter {α β : Type} {keep : α → Bool} {f : α → List β}
    (others : ∀ entry, keep entry = false → f entry = []) (entries : List α) :
    (entries.filter keep).flatMap f = entries.flatMap f := by
  induction entries with
  | nil => rfl
  | cons entry rest ih =>
    cases kept : keep entry with
    | false =>
      rw [List.filter_cons_of_neg (by simp [kept]), List.flatMap_cons, others entry kept, ih]
      rfl
    | true => rw [List.filter_cons_of_pos kept, List.flatMap_cons, List.flatMap_cons, ih]

section Visit

variable (index : CodeIndex) (registry : Registry) (only : Option String)

theorem findingAt_of_other (file : SourceFile) {place : Place} (other : place.isImportOrCall = false) :
    findingAt index registry only file place = .nothing := by
  rw [Place.isImportOrCall, Bool.or_eq_false_iff] at other
  unfold findingAt findingAtM
  split
  · rename_i statement
    simp [statement] at other
  · rename_i call
    simp [call] at other
  · rfl

/-- The imports and calls that a run over some files visits, each with its file: file by file, and in a
file in the order of the visit. -/
def visitedUses (files : List SourceFile) : List (SourceFile × Place) :=
  files.flatMap fun file =>
    ((visitedPlaces file).filter Place.isImportOrCall).map fun place => (file, place)

variable (files : List SourceFile)

/-- Places of other kinds add nothing to any part of what is found. -/
theorem flatMap_visitedUses {β : Type} {part : Finding → List β} (nothing : part .nothing = []) :
    ((visitedUses files).flatMap fun visit => part (findingAt index registry only visit.1 visit.2)) =
      (findings index registry only files).flatMap part := by
  rw [visitedUses, findings_eq_flatMap, List.flatMap_assoc, List.flatMap_assoc]
  refine congrArg files.flatMap (funext fun file => ?_)
  rw [List.flatMap_map, List.flatMap_map]
  refine flatMap_filter (fun place other => ?_) (visitedPlaces file)
  rw [findingAt_of_other index registry only file other, nothing]

theorem traverse_diagnostics : (traverse index registry only files).diagnostics =
    (findings index registry only files).flatMap Finding.diagnostics := by
  rw [Analysis.diagnostics, Note.diagnostics, traverse_eq, List.filterMap_flatMap]
  rfl

end Visit

/-- Walks by a stack go through a tree in the order of the source. The walk over all places comes to each
place of the tree once, in recursive pre-order, which is the order of the entries that the tree is written
as. If nodes span their children, one after the other, no place starts before an earlier one. The visit of
a file comes to the places outside of imports, each once and in the same order. So the uses and the
diagnostics of a run are those of its imports and calls in this order. -/
theorem stack_walks_follow_source (root : Node) :
    (Place.all root = Place.preorder root ∧ (Place.all root).map Place.node = root.preorder ∧
      Place.ListsTree root (Place.all root)) ∧
    (∀ source entries, root.WrittenAs source entries → Node.ofEntries source entries = root ∧
      (Place.all root).map (fun place => place.node.label) = entries.map (TreeEntry.label source)) ∧
    (root.WellFormed → (Place.all root).Pairwise fun a b => a.node.start ≤ b.node.start) ∧
    (∀ file : SourceFile, file.isDeclarationFile = false →
      visitedPlaces file = (Place.all file.root).filter Place.isOutsideImports ∧
      (visitedPlaces file).Nodup ∧ (visitedPlaces file).Pairwise Place.ComesBefore) ∧
    ∀ index registry only files,
      (traverse index registry only files).store = .ofUses ((visitedUses files).flatMap fun visit =>
        (findingAt index registry only visit.1 visit.2).uses) ∧
      (traverse index registry only files).diagnostics = (visitedUses files).flatMap fun visit =>
        (findingAt index registry only visit.1 visit.2).diagnostics := by
  refine ⟨⟨Place.all_eq_walk root, Place.all_map_node root, Place.listsTree_all root⟩, ?_,
    Place.start_le_of_wellFormed, ?_, ?_⟩
  · intro source entries written
    have labels := congrArg (List.map Prod.fst) written
    rw [List.map_map, List.map_map, ← Place.all_map_node, List.map_map] at labels
    exact ⟨Node.ofEntries_of_writtenAs written, labels⟩
  · intro file plain
    have listed := Place.listsTree_all file.root
    have kept : visitedPlaces file = (Place.all file.root).filter Place.isOutsideImports := by
      rw [visitedPlaces_eq, plain, Place.all_eq_walk]
      rfl
    rw [kept]
    exact ⟨rfl, listed.once.filter _, listed.ordered.filter _⟩
  · intro index registry only files
    rw [traverse_store_findings, traverse_diagnostics, ← flatMap_visitedUses index registry only files rfl,
      ← flatMap_visitedUses index registry only files rfl]
    exact ⟨rfl, rfl⟩

namespace Nested

/-! An import, and a call within the arguments of another one. -/

def source : ByteArray := "import \"m\"; f(g());".toUTF8

def entries : List TreeEntry :=
  [⟨"program", true, "", 0, 19, 2⟩, ⟨"import_statement", true, "", 0, 11, 3⟩,
    ⟨"import", false, "", 0, 6, 0⟩, ⟨"string", true, "source", 7, 10, 3⟩, ⟨"\"", false, "", 7, 8, 0⟩,
    ⟨"string_fragment", true, "", 8, 9, 0⟩, ⟨"\"", false, "", 9, 10, 0⟩, ⟨";", false, "", 10, 11, 0⟩,
    ⟨"expression_statement", true, "", 12, 19, 2⟩, ⟨"call_expression", true, "", 12, 18, 2⟩,
    ⟨"identifier", true, "function", 12, 13, 0⟩, ⟨"arguments", true, "arguments", 13, 18, 3⟩,
    ⟨"(", false, "", 13, 14, 0⟩, ⟨"call_expression", true, "", 14, 17, 2⟩,
    ⟨"identifier", true, "function", 14, 15, 0⟩, ⟨"arguments", true, "arguments", 15, 17, 2⟩,
    ⟨"(", false, "", 15, 16, 0⟩, ⟨")", false, "", 16, 17, 0⟩, ⟨")", false, "", 17, 18, 0⟩,
    ⟨";", false, "", 18, 19, 0⟩]

def file : SourceFile := .ofTree ⟨0, ["a.ts"]⟩ none (.ofEntries source entries)

/-- The tokens of the import are left out, and the call comes before those in its arguments. -/
theorem stack_walks_follow_source_nested :
    file.root.WrittenAs source entries ∧ file.root.WellFormed ∧ file.isDeclarationFile = false ∧
    (Place.all file.root).map (fun place => place.node.label) = entries.map (TreeEntry.label source) ∧
    (Place.all file.root).Pairwise (fun a b => a.node.start ≤ b.node.start) ∧
    (visitedPlaces file).map Place.address = [[], [0], [1], [1, 0], [1, 0, 0], [1, 0, 1], [1, 0, 1, 0],
      [1, 0, 1, 1], [1, 0, 1, 1, 0], [1, 0, 1, 1, 1], [1, 0, 1, 1, 1, 0], [1, 0, 1, 1, 1, 1],
      [1, 0, 1, 2], [1, 1]] := by
  obtain ⟨⟨preorder, -, -⟩, listed, starts, visits, -⟩ := stack_walks_follow_source file.root
  have written : file.root.WrittenAs source entries := rfl
  have wellFormed : file.root.WellFormed := by
    unfold Node.WellFormed
    decide +kernel
  have plain : file.isDeclarationFile = false := by decide
  refine ⟨written, wellFormed, plain, (listed source entries written).2, starts wellFormed, ?_⟩
  rw [(visits file plain).1, preorder]
  decide +kernel

end Nested

end LeastGrant
