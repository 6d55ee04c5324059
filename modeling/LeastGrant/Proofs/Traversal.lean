import LeastGrant.Analysis.Run

/-! Which nodes a visit reaches. The visit takes places off a stack and puts nothing below an import
on it. What it reaches are the nodes that have no import strictly above them, in pre-order. -/
namespace LeastGrant

namespace Place

/-- The places of a tree, a node before its children, by recursion on the tree. -/
def preorder (root : Node) : List Place := walk (fun _ => false) [] root

/-- Whether no node strictly above a place satisfies `stop`. -/
def isOutside (stop : Node → Bool) (place : Place) : Bool :=
  place.ancestors.all fun node => !stop node

mutual
theorem subset_ancestors_of_mem_walk (stop : Node → Bool) (frames : List Frame) (node : Node)
    (place : Place) (h : place ∈ walk stop frames node) :
    frames.map Frame.parent ⊆ place.ancestors := by
  cases node with
  | mk label children =>
    rw [walk, List.mem_cons] at h
    rcases h with rfl | h
    · exact List.Subset.refl _
    · split at h
      · cases h
      · have below := subset_ancestors_of_mem_walkAll stop (.mk label children) frames [] children
          place h
        exact (List.cons_subset.mp below).2

theorem subset_ancestors_of_mem_walkAll (stop : Node → Bool) (parent : Node) (frames : List Frame)
    (before nodes : List Node) (place : Place)
    (h : place ∈ walkAll stop parent frames before nodes) :
    parent :: frames.map Frame.parent ⊆ place.ancestors := by
  cases nodes with
  | nil => simp [walkAll] at h
  | cons node rest =>
    rw [walkAll, List.mem_append] at h
    rcases h with h | h
    · exact subset_ancestors_of_mem_walk stop (⟨parent, before⟩ :: frames) node place h
    · exact subset_ancestors_of_mem_walkAll stop parent frames (node :: before) rest place h
end

/-- Below a node at which the walk stops, nothing is outside. -/
theorem filter_walkAll_of_stop (stop : Node → Bool) (parent : Node) (frames : List Frame)
    (before nodes : List Node) (h : stop parent = true) :
    (walkAll (fun _ => false) parent frames before nodes).filter (isOutside stop) = [] := by
  rw [List.filter_eq_nil_iff]
  intro place member outside
  have above := List.cons_subset.mp
    (subset_ancestors_of_mem_walkAll _ parent frames before nodes place member)
  have clear := List.all_eq_true.mp outside parent above.1
  simp [h] at clear

mutual
/-- Stopping at some nodes leaves exactly the places that are outside of them. -/
theorem walk_eq_filter (stop : Node → Bool) (frames : List Frame) (node : Node)
    (clear : frames.all (fun frame => !stop frame.parent) = true) :
    walk stop frames node = (walk (fun _ => false) frames node).filter (isOutside stop) := by
  cases node with
  | mk label children =>
    have here : isOutside stop ⟨.mk label children, frames⟩ = true := by
      rw [isOutside, ancestors, List.all_map]
      exact clear
    simp only [walk, Bool.false_eq_true, if_false, List.filter_cons, here, if_true]
    by_cases stops : stop (.mk label children) = true
    · rw [if_pos stops, filter_walkAll_of_stop stop _ _ _ _ stops]
    · have goesOn : stop (.mk label children) = false := by simpa using stops
      rw [if_neg stops, walkAll_eq_filter stop _ _ _ _ goesOn clear]

theorem walkAll_eq_filter (stop : Node → Bool) (parent : Node) (frames : List Frame)
    (before nodes : List Node) (goesOn : stop parent = false)
    (clear : frames.all (fun frame => !stop frame.parent) = true) :
    walkAll stop parent frames before nodes =
      (walkAll (fun _ => false) parent frames before nodes).filter (isOutside stop) := by
  cases nodes with
  | nil => simp [walkAll]
  | cons node rest =>
    rw [walkAll, walkAll, List.filter_append,
      walk_eq_filter stop _ node (by simp [goesOn, clear]),
      walkAll_eq_filter stop parent frames (node :: before) rest goesOn clear]
end

end Place

/-- Whether a place has no import strictly above it. -/
def Place.isOutsideImports (place : Place) : Bool :=
  place.isOutside fun node => node.kind == .importStatement

/-- The places that a run over some files visits, each with its file: those outside of imports, file
by file and in pre-order. Declaration files are left out. -/
def visited (files : List SourceFile) : List (SourceFile × Place) :=
  (files.filter fun file => !file.isDeclarationFile).flatMap fun file =>
    ((Place.preorder file.root).filter Place.isOutsideImports).map fun place => (file, place)

theorem visitedPlaces_eq (file : SourceFile) :
    visitedPlaces file =
      if file.isDeclarationFile then []
      else (Place.preorder file.root).filter Place.isOutsideImports := by
  have outside := Place.walk_eq_filter (fun node => node.kind == .importStatement) [] file.root rfl
  rw [visitedPlaces, Place.drain_eq]
  simp only [List.flatMap_cons, List.flatMap_nil, List.append_nil, Place.ofRoot, outside]
  rfl

/-- A run finds what the visited places contribute, in the order of the visit. -/
theorem findings_eq (index : CodeIndex) (registry : Registry) (only : Option String)
    (files : List SourceFile) :
    findings index registry only files =
      (visited files).map fun visit => findingAt index registry only visit.1 visit.2 := by
  induction files with
  | nil => rfl
  | cons file rest ih =>
    have split : findings index registry only (file :: rest) =
        (visitedPlaces file).map (findingAt index registry only file) ++
          findings index registry only rest := by
      rw [findings_eq_flatMap, findings_eq_flatMap, List.flatMap_cons]
    rw [split, ih, visitedPlaces_eq]
    by_cases declares : file.isDeclarationFile = true
    · simp [visited, declares]
    · simp [visited, declares, Function.comp_def]

end LeastGrant
