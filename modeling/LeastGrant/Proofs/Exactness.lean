import LeastGrant.Proofs.Contribution
import LeastGrant.Proofs.Store
import LeastGrant.Proofs.Traversal
import Mathlib.Data.List.Basic

/-! The store after a visit of some files holds what the visited nodes contribute, and nothing else.
The uses that the visit finds are put beside the contributions with the times at which they occur:
the position of the node in the visit, and the turn within the node. -/
namespace LeastGrant

/-- A list goes through the uses that occur at certain times, in the order of these times. -/
structure Enumerates {τ : Type} (earlier : τ → τ → Prop) (uses : List Use)
    (occurs : τ → Use → Prop) : Prop where
  mem_iff : ∀ use, use ∈ uses ↔ ∃ time, occurs time use
  ordered : ∀ before use after, uses = before ++ use :: after →
    ∃ time, occurs time use ∧
      ∀ later other, occurs later other → other ∈ before ++ [use] ∨ earlier time later

namespace Enumerates

/-- A list enumerates its own entries. -/
theorem of_getElem? {uses : List Use} {occurs : Nat → Use → Prop}
    (h : ∀ turn use, occurs turn use ↔ uses[turn]? = some use) :
    Enumerates (· < ·) uses occurs where
  mem_iff use := by simp only [h, List.mem_iff_getElem?]
  ordered := by
    rintro before use after rfl
    refine ⟨before.length, (h _ _).mpr (by simp), fun later other found => ?_⟩
    rw [h] at found
    by_cases reached : later ≤ before.length
    · left
      rw [List.append_cons, List.getElem?_append_left (by simp; omega)] at found
      exact List.mem_of_getElem? found
    · exact .inr (by omega)

/-- The order of pairs by the first part, and then by the second. -/
def EarlierPair {τ : Type} (earlier : τ → τ → Prop) (a b : Nat × τ) : Prop :=
  a.1 < b.1 ∨ a.1 = b.1 ∧ earlier a.2 b.2

/-- A use of two lists stands in the first, or behind all of the first. -/
theorem place_of_append {first second before after : List Use} {use : Use}
    (whole : first ++ second = before ++ use :: after) :
    (∃ more, first = before ++ use :: more) ∨
      ∃ between, before = first ++ between ∧ second = between ++ use :: after := by
  rw [List.append_eq_append_iff] at whole
  rcases whole with ⟨between, split, tail⟩ | ⟨more, split, tail⟩
  · exact .inr ⟨between, split, tail⟩
  · cases more with
    | nil => exact .inr ⟨[], by simpa using split.symm, by simpa using tail.symm⟩
    | cons head more =>
      obtain ⟨rfl, -⟩ := List.cons.inj tail
      exact .inl ⟨more, split⟩

/-- Going through a list, and through the uses of each entry, takes the uses in the order of the
positions. -/
theorem flatMap {α τ : Type} {earlier : τ → τ → Prop} (entries : List α) {usesOf : α → List Use}
    {occurs : α → τ → Use → Prop}
    (each : ∀ entry ∈ entries, Enumerates earlier (usesOf entry) (occurs entry)) :
    Enumerates (EarlierPair earlier) (entries.flatMap usesOf) fun time use =>
      ∃ entry, entries[time.1]? = some entry ∧ occurs entry time.2 use := by
  induction entries with
  | nil => exact ⟨by simp, by simp⟩
  | cons entry rest ih =>
    have first := each entry List.mem_cons_self
    have others := ih fun other member => each other (List.mem_cons_of_mem _ member)
    constructor
    · intro use
      rw [List.flatMap_cons, List.mem_append, first.mem_iff, others.mem_iff]
      constructor
      · rintro (⟨time, now⟩ | ⟨⟨position, time⟩, found, member, now⟩)
        · exact ⟨(0, time), entry, rfl, now⟩
        · exact ⟨(position + 1, time), found, member, now⟩
      · rintro ⟨⟨position, time⟩, found, member, now⟩
        cases position with
        | zero =>
          cases member
          exact .inl ⟨time, now⟩
        | succ position => exact .inr ⟨(position, time), found, member, now⟩
    · intro before use after whole
      rw [List.flatMap_cons] at whole
      -- The use stands in the first entry, or behind all uses of the first entry.
      rcases place_of_append whole with ⟨more, split⟩ | ⟨between, rfl, split⟩
      · obtain ⟨time, now, order⟩ := first.ordered before use more split
        refine ⟨(0, time), ⟨entry, rfl, now⟩, ?_⟩
        rintro ⟨position, later⟩ other ⟨found, member, occurring⟩
        cases position with
        | zero =>
          cases member
          exact (order later other occurring).imp_right fun h => .inr ⟨rfl, h⟩
        | succ position => exact .inr (.inl (Nat.succ_pos position))
      · obtain ⟨⟨position, time⟩, now, order⟩ := others.ordered between use after split
        refine ⟨(position + 1, time), now, ?_⟩
        rintro ⟨place, later⟩ other ⟨found, member, occurring⟩
        cases place with
        | zero =>
          cases member
          have known := (first.mem_iff other).mpr ⟨later, occurring⟩
          exact .inl (by simp [known])
        | succ place =>
          rcases order (place, later) other ⟨found, member, occurring⟩ with known | order
          · left
            rw [List.append_assoc]
            exact List.mem_append_right _ known
          · exact .inr (order.imp Nat.succ_lt_succ fun h => ⟨congrArg (· + 1) h.1, h.2⟩)

theorem nil {τ : Type} {earlier : τ → τ → Prop} {occurs : τ → Use → Prop}
    (never : ∀ time use, ¬occurs time use) : Enumerates earlier [] occurs where
  mem_iff use := by simp [never]
  ordered before use after whole := by simp at whole

theorem ofOption (use : Option Use) :
    Enumerates (fun _ _ => False) use.toList fun (_ : Unit) other => use = some other where
  mem_iff other := by simp
  ordered := by
    cases use with
    | none => simp
    | some use =>
      intro before other after whole
      obtain ⟨rfl, rfl, rfl⟩ : before = [] ∧ other = use ∧ after = [] := by
        simpa [List.singleton_eq_append_iff] using whole
      exact ⟨(), rfl, fun _ third same => .inl (by simpa using same.symm)⟩

/-- Times may be renamed, as long as their order is kept. -/
theorem retime {τ σ : Type} {earlier : τ → τ → Prop} {sooner : σ → σ → Prop} {uses : List Use}
    {occurs : τ → Use → Prop} {happens : σ → Use → Prop} (clock : τ → σ)
    (h : Enumerates earlier uses occurs)
    (same : ∀ moment use, happens moment use ↔ ∃ time, clock time = moment ∧ occurs time use)
    (mono : ∀ a b, earlier a b → sooner (clock a) (clock b)) : Enumerates sooner uses happens where
  mem_iff use := by
    simp only [h.mem_iff, same]
    constructor
    · rintro ⟨time, now⟩
      exact ⟨_, time, rfl, now⟩
    · rintro ⟨_, time, rfl, now⟩
      exact ⟨time, now⟩
  ordered before use after whole := by
    obtain ⟨time, now, order⟩ := h.ordered before use after whole
    refine ⟨clock time, (same _ _).mpr ⟨time, rfl, now⟩, fun moment other happening => ?_⟩
    obtain ⟨later, rfl, occurring⟩ := (same _ _).mp happening
    exact (order later other occurring).imp_right (mono _ _)

end Enumerates

theorem importFinding_enumerates {registry : Registry} {only : Option String} {statement : Node} :
    Enumerates (· < ·) (importFinding registry only statement).uses fun (turn : Nat) use =>
      PassesFilter only statement ∧ ∃ name : ImportedName, ∃ entity,
        statement.importedNames[turn]? = some name ∧ name.StandsFor registry entity ∧
          use = .of entity .none := by
  by_cases passes : PassesFilter only statement
  · have uses : (importFinding registry only statement).uses =
        statement.importedNames.flatMap fun name =>
          ((importedEntity? registry name).map fun entity => Use.of entity .none).toList := by
      rw [importFinding, if_pos (importCounts_iff.mpr passes), List.map_filterMap,
        List.filterMap_eq_flatMap_toList]
    have each := Enumerates.flatMap statement.importedNames fun name _ =>
      Enumerates.ofOption ((importedEntity? registry name).map fun entity => Use.of entity .none)
    rw [uses]
    refine each.retime Prod.fst (fun turn use => ?_) fun a b order => ?_
    · constructor
      · rintro ⟨-, name, entity, named, stands, rfl⟩
        exact ⟨(turn, ()), rfl, name, named, by simp [importedEntity?_eq_some.mpr stands]⟩
      · rintro ⟨⟨turn, _⟩, rfl, name, named, found⟩
        obtain ⟨entity, stands, rfl⟩ := Option.map_eq_some_iff.mp found
        exact ⟨passes, name, entity, named, importedEntity?_eq_some.mp stands, rfl⟩
    · exact order.resolve_right fun h => h.2
  · rw [importFinding, if_neg (mt importCounts_iff.mp passes)]
    exact .nil fun _ _ h => passes h.1

/-- What is found at a node are its contributions, turn by turn. -/
theorem findingAt_enumerates (index : CodeIndex) (registry : Registry) (only : Option String)
    (file : SourceFile) (place : Place) :
    Enumerates (· < ·) (findingAt index registry only file place).uses fun turn use =>
      ∃ entity writes, use = .of entity writes ∧
        Contributes index registry only file place turn entity writes := by
  unfold findingAt findingAtM
  split
  · rename_i statement
    refine importFinding_enumerates.retime id (fun turn use => ?_) fun _ _ order => order
    constructor
    · rintro ⟨entity, writes, rfl, contributes⟩
      cases contributes with
      | imported _ passes named stands => exact ⟨turn, rfl, passes, _, entity, named, stands, rfl⟩
      | written on | direct on | target on | join on =>
        have call := on.1
        rw [statement] at call
        cases call
    · rintro ⟨_, rfl, passes, name, entity, named, stands, rfl⟩
      exact ⟨entity, .none, rfl, .imported statement passes named stands⟩
  · rename_i isCall
    refine Enumerates.of_getElem? fun turn use => ⟨?_, contributes_of_use only isCall⟩
    rintro ⟨entity, writes, rfl, contributes⟩
    exact use_of_contributes isCall contributes
  · rename_i noImport noCall
    refine .nil ?_
    rintro turn _ ⟨entity, writes, -, contributes⟩
    cases contributes with
    | imported statement => exact noImport statement
    | written on | direct on | target on | join on => exact noCall on.1

section Traverse

variable (index : CodeIndex) (registry : Registry) (only : Option String) (files : List SourceFile)

theorem traverse_store_findings : (traverse index registry only files).store =
    .ofUses ((findings index registry only files).flatMap Finding.uses) := by
  rw [UsageStore.ofUses, List.foldl_flatMap]
  rfl

theorem traverse_store : (traverse index registry only files).store =
    .ofUses ((visited files).flatMap fun visit =>
      (findingAt index registry only visit.1 visit.2).uses) := by
  rw [traverse_store_findings, findings_eq, List.flatMap_map]

end Traverse

end LeastGrant
