import LeastGrant.Folder
import LeastGrant.Proofs.Routes

/-! The directories of a folder, and the ways through them. What lies above a directory is a directory.
A way is followed part by part, so it leads to its end only along directories. -/
namespace LeastGrant

namespace Folder

variable {folder : Folder}

theorem isDirectory_iff {place : List String} :
    folder.isDirectory place = true ↔
      place = [] ∨ (∃ directory ∈ folder.directories, place <+: directory) ∨
        ∃ entry ∈ folder.files, place <+: entry.1 ∧ entry.1 ≠ place := by
  simp [isDirectory, or_assoc]

theorem isDirectory_of_prefix {above place : List String} (inside : above <+: place)
    (h : folder.isDirectory place = true) : folder.isDirectory above = true := by
  rw [isDirectory_iff] at h ⊢
  rcases h with rfl | ⟨directory, known, below⟩ | ⟨entry, known, below, differ⟩
  · exact .inl (List.prefix_nil.mp inside)
  · exact .inr (.inl ⟨directory, known, inside.trans below⟩)
  · refine .inr (.inr ⟨entry, known, inside.trans below, ?_⟩)
    intro same
    rw [same] at below
    exact differ (same.trans (inside.eq_of_length_le below.length_le))

theorem follow_append (place a b : List String) :
    folder.follow place (a ++ b) = (folder.follow place a).bind fun next => folder.follow next b := by
  induction a generalizing place with
  | nil => rfl
  | cons part rest ih =>
    rw [List.cons_append, follow, follow]
    split
    · exact ih _
    · rfl

theorem follow_of_isDirectory {place names : List String} (plain : ∀ part ∈ names, part ≠ "..")
    (h : folder.isDirectory (place ++ names) = true) :
    folder.follow place names = some (place ++ names) := by
  induction names generalizing place with
  | nil => simp [follow]
  | cons name rest ih =>
    obtain ⟨named, others⟩ := List.forall_mem_cons.mp plain
    have next : place ++ name :: rest = place ++ [name] ++ rest := by simp
    rw [next] at h ⊢
    have here : folder.isDirectory place = true :=
      isDirectory_of_prefix ((List.prefix_append place [name]).trans (List.prefix_append _ rest)) h
    rw [follow, if_pos here, if_neg named, ih others h]

theorem eq_of_follow {place names goal : List String} (plain : ∀ part ∈ names, part ≠ "..")
    (h : folder.follow place names = some goal) : goal = place ++ names := by
  induction names generalizing place with
  | nil =>
    cases h
    simp
  | cons name rest ih =>
    obtain ⟨named, others⟩ := List.forall_mem_cons.mp plain
    rw [follow, if_neg named] at h
    split at h
    · rw [ih others h]
      simp
    · cases h

theorem follow_up {place : List String} (n : Nat) (h : folder.isDirectory place = true) :
    folder.follow place (List.replicate n "..") = some (place.take (place.length - n)) := by
  induction n generalizing place with
  | zero => simp [follow]
  | succ n ih =>
    have above := isDirectory_of_prefix (List.dropLast_prefix place) h
    rw [List.replicate_succ, follow, if_pos h, if_pos rfl, ih above, List.length_dropLast,
      List.dropLast_eq_take, List.take_take]
    congr 2
    omega

/-- The route from a directory leads to a directory if its goal is one. -/
theorem isDirectoryAt_route {start goal : List String} (plainStart : Path.Plain start)
    (plainGoal : Path.Plain goal) (inside : folder.isDirectory start = true) :
    folder.isDirectoryAt (.absolute (start ++ Path.route start goal)) = folder.isDirectory goal := by
  obtain ⟨common, up, down, rfl, rfl, along⟩ := Path.exists_fork start goal
  have way : folder.locate? (.absolute (common ++ up ++ Path.route (common ++ up) (common ++ down))) =
      folder.follow common down := by
    have first : folder.follow [] (common ++ up) = some ([] ++ (common ++ up)) :=
      follow_of_isDirectory plainStart.noUp inside
    rw [locate?, along]
    show folder.follow [] (common ++ up ++ (List.replicate up.length ".." ++ down)) = _
    rw [follow_append, first, Option.bind_some, List.nil_append, follow_append, follow_up _ inside]
    simp
  rw [isDirectoryAt, way]
  cases reached : folder.follow common down with
  | some place => rw [eq_of_follow plainGoal.right.noUp reached]
  | none =>
    dsimp only
    cases known : folder.isDirectory (common ++ down) with
    | false => rfl
    | true =>
      rw [follow_of_isDirectory plainGoal.right.noUp known] at reached
      cases reached

end Folder

end LeastGrant
