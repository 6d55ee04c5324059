import LeastGrant.Project.Sources
import Mathlib.Data.List.Basic

/-! The walk through a folder. It comes from a directory to the files below it, save for those behind a
directory that a search skips. -/
namespace LeastGrant

/-- Whether a search from a directory comes to a file. -/
def reaches (base file : List String) : Bool :=
  base.isPrefixOf file && base != file && !((file.drop base.length).dropLast.any isSkipped)

theorem reaches_iff {base file : List String} :
    reaches base file = true ↔
      ∃ below, below ≠ [] ∧ file = base ++ below ∧
        ∀ name ∈ below.dropLast, isSkipped name = false := by
  simp only [reaches, Bool.and_eq_true, List.isPrefixOf_iff_prefix, bne_iff_ne, Bool.not_eq_true',
    List.any_eq_false, Bool.not_eq_true]
  constructor
  · intro h
    obtain ⟨⟨⟨below, rfl⟩, differ⟩, open'⟩ := h
    rw [List.drop_left] at open'
    refine ⟨below, ?_, rfl, open'⟩
    intro none
    rw [none, List.append_nil] at differ
    exact differ rfl
  · intro h
    obtain ⟨below, some, rfl, open'⟩ := h
    rw [List.drop_left]
    refine ⟨⟨List.prefix_append _ _, ?_⟩, open'⟩
    intro same
    exact some (List.append_right_eq_self.mp same.symm)

/-- The directories between a base and a file, and the name of the file. -/
theorem reaches_iff_between {base file : List String} :
    reaches base file = true ↔
      ∃ between name, file = base ++ between ++ [name] ∧
        ∀ directory ∈ between, isSkipped directory = false := by
  rw [reaches_iff]
  constructor
  · intro h
    obtain ⟨below, some, rfl, shown⟩ := h
    refine ⟨below.dropLast, below.getLast some, ?_, shown⟩
    rw [List.append_assoc, List.dropLast_append_getLast some]
  · intro h
    obtain ⟨between, name, rfl, shown⟩ := h
    refine ⟨between ++ [name], by simp, List.append_assoc _ _ _, ?_⟩
    rw [List.dropLast_concat]
    exact shown

namespace Folder

variable {folder : Folder} {place file : List String} {name : String}

theorem mem_fileNames :
    name ∈ folder.fileNames place ↔ place ++ [name] ∈ folder.files.map Prod.fst := by
  simp only [fileNames, List.mem_filterMap, List.mem_map]
  constructor
  · intro h
    obtain ⟨entry, listed, found⟩ := h
    split at found
    · rename_i inside
      refine ⟨entry, listed, ?_⟩
      rw [← inside]
      exact (List.dropLast_append_getLast? name found).symm
    · cases found
  · intro h
    obtain ⟨entry, listed, whole⟩ := h
    refine ⟨entry, listed, ?_⟩
    rw [whole, List.dropLast_concat, if_pos rfl, List.getLast?_concat]

/-- A directory on the way to a file is one of the directories that the walk sees. -/
theorem mem_directoryNames {rest : List String} (known : file ∈ folder.files.map Prod.fst)
    (inside : file.dropLast = place ++ name :: rest) : name ∈ folder.directoryNames place := by
  obtain ⟨entry, listed, rfl⟩ := List.mem_map.mp known
  simp only [directoryNames, List.mem_eraseDups, List.mem_filterMap]
  refine ⟨entry.1.dropLast, List.mem_append_right _ (List.mem_map.mpr ⟨entry, listed, rfl⟩), ?_⟩
  rw [inside, if_pos (List.isPrefixOf_iff_prefix.mpr (List.prefix_append _ _)),
    List.getElem?_append_right (Nat.le_refl _), Nat.sub_self]
  rfl

/-- What the walk gathers down to a depth. -/
theorem mem_walk {depth : Nat} :
    file ∈ folder.walk depth place ↔ file ∈ folder.files.map Prod.fst ∧
      ∃ between name, file = place ++ between ++ [name] ∧ between.length < depth ∧
        ∀ directory ∈ between, isSkipped directory = false := by
  induction depth generalizing place with
  | zero => simp [walk]
  | succ depth ih =>
    rw [walk, List.mem_append]
    constructor
    · intro h
      rcases h with here | below
      · obtain ⟨name, listed, rfl⟩ := List.mem_map.mp here
        exact ⟨mem_fileNames.mp listed, [], name, by simp, by simp, by simp⟩
      · obtain ⟨directory, entered, further⟩ := List.mem_flatMap.mp below
        obtain ⟨known, between, name, rfl, short, shown⟩ := ih.mp further
        have open' : isSkipped directory = false := by simpa using (List.mem_filter.mp entered).2
        exact ⟨known, directory :: between, name, by simp, by simpa using short,
          List.forall_mem_cons.mpr ⟨open', shown⟩⟩
    · intro h
      obtain ⟨known, between, name, rfl, short, shown⟩ := h
      cases between with
      | nil =>
        left
        rw [List.append_nil] at known ⊢
        exact List.mem_map.mpr ⟨name, mem_fileNames.mpr known, rfl⟩
      | cons directory between =>
        right
        obtain ⟨open', later⟩ := List.forall_mem_cons.mp shown
        have seen : directory ∈ folder.directoryNames place :=
          mem_directoryNames known (List.dropLast_concat)
        refine List.mem_flatMap.mpr ⟨directory, List.mem_filter.mpr ⟨seen, by simp [open']⟩, ?_⟩
        exact ih.mpr ⟨known, between, name, by simp, by simpa using short, later⟩

theorem length_le_height (known : file ∈ folder.files.map Prod.fst) :
    file.length ≤ folder.height := by
  have grows (files : List (List String × File)) (least : Nat) :
      least ≤ files.foldl (fun parts entry => parts.max entry.1.length) least ∧
        ∀ entry ∈ files,
          entry.1.length ≤ files.foldl (fun parts entry => parts.max entry.1.length) least := by
    induction files generalizing least with
    | nil => simp
    | cons first rest ih =>
      obtain ⟨above, others⟩ := ih (least.max first.1.length)
      have both := Nat.max_le.mp above
      exact ⟨both.1, List.forall_mem_cons.mpr ⟨both.2, others⟩⟩
  obtain ⟨entry, listed, rfl⟩ := List.mem_map.mp known
  exact (grows folder.files 0).2 entry listed

/-- A search comes to the files that can be reached. -/
theorem mem_search :
    file ∈ folder.search place ↔ file ∈ folder.files.map Prod.fst ∧ reaches place file = true := by
  rw [search, mem_walk, reaches_iff_between]
  refine and_congr_right fun known => ?_
  constructor
  · intro h
    obtain ⟨between, name, whole, -, shown⟩ := h
    exact ⟨between, name, whole, shown⟩
  · intro h
    obtain ⟨between, name, whole, shown⟩ := h
    refine ⟨between, name, whole, ?_, shown⟩
    have bound := length_le_height known
    rw [whole, List.length_append, List.length_append, List.length_singleton] at bound
    omega

end Folder

end LeastGrant
