import LeastGrant.Path.Glob
import Mathlib.Data.List.Forall2

/-! What file patterns mean, said without a search. Each token of a pattern stands for certain pieces of
text, and a pattern matches the texts that are made of one such piece after the other. The search for a
fitting way to cut a text finds one whenever there is one. -/
namespace LeastGrant

open Text

/-- The pieces of text that a token stands for. -/
def GlobToken.StandsFor : GlobToken → List Char → Prop
  | .directories, piece =>
    ∃ parts : List (List Char), (∀ part ∈ parts, part ≠ [] ∧ '/' ∉ part) ∧
      piece = parts.flatMap (· ++ ['/'])
  | .anything, piece => '\n' ∉ piece
  | .within, piece => '/' ∉ piece
  | .one, piece => ∃ code < 0x110000, code ≠ '/'.toNat ∧ piece = spelling code
  | .char c, piece => piece = [c]

namespace Glob

/-- A pattern matches a text that can be cut into pieces for its tokens. -/
def Matches (pattern : Glob) (text : List Char) : Prop :=
  ∃ pieces, List.Forall₂ GlobToken.StandsFor pattern pieces ∧ text = pieces.flatten

variable {text : List Char} {rest : Glob}

theorem matches_nil : Matches [] text ↔ text = [] := by
  constructor
  · intro h
    obtain ⟨pieces, cut, rfl⟩ := h
    cases cut
    rfl
  · intro h
    exact ⟨[], .nil, h⟩

theorem matches_cons {token : GlobToken} :
    Matches (token :: rest) text ↔
      ∃ piece back, text = piece ++ back ∧ token.StandsFor piece ∧ Matches rest back := by
  constructor
  · intro h
    obtain ⟨pieces, cut, rfl⟩ := h
    cases cut with
    | cons first later => exact ⟨_, _, List.flatten_cons, first, _, later, rfl⟩
  · intro h
    obtain ⟨piece, back, rfl, first, pieces, later, rfl⟩ := h
    exact ⟨piece :: pieces, .cons first later, rfl⟩

/-- Within a part, the search goes on to the next slash. -/
theorem matchDirectories_part {next : List Char → Bool} :
    matchDirectories next true text = true ↔
      ∃ part back, text = part ++ '/' :: back ∧ '/' ∉ part ∧
        matchDirectories next false back = true := by
  induction text with
  | nil => simp [matchDirectories]
  | cons c others ih =>
    rw [matchDirectories]
    by_cases slash : c = '/'
    · subst slash
      constructor
      · intro found
        exact ⟨[], others, rfl, by simp, found⟩
      · intro h
        obtain ⟨part, back, whole, plain, found⟩ := h
        cases part with
        | nil =>
          obtain rfl := (List.cons.inj whole).2
          exact found
        | cons d part => exact absurd (List.cons.inj whole).1 (List.ne_of_not_mem_cons plain)
    · have inside : (c != '/') = true := by simpa using slash
      rw [inside, ih]
      constructor
      · intro h
        obtain ⟨part, back, rfl, plain, found⟩ := h
        exact ⟨c :: part, back, rfl, List.not_mem_cons_of_ne_of_not_mem (Ne.symm slash) plain, found⟩
      · intro h
        obtain ⟨part, back, whole, plain, found⟩ := h
        cases part with
        | nil => exact absurd (List.cons.inj whole).1 slash
        | cons d part =>
          exact ⟨part, back, (List.cons.inj whole).2, List.not_mem_of_not_mem_cons plain, found⟩

theorem matchDirectories_cons {next : List Char → Bool} {c : Char} {others : List Char} :
    matchDirectories next false (c :: others) = true ↔
      next (c :: others) = true ∨ c ≠ '/' ∧ matchDirectories next true others = true := by
  simp [matchDirectories]

theorem exists_parts_of_matchDirectories {next : List Char → Bool}
    (found : matchDirectories next false text = true) :
    ∃ piece back, text = piece ++ back ∧ GlobToken.directories.StandsFor piece ∧
      next back = true := by
  induction size : text.length using Nat.strongRecOn generalizing text with
  | ind n ih =>
    have stop (done : next text = true) : ∃ piece back, text = piece ++ back ∧
        GlobToken.directories.StandsFor piece ∧ next back = true :=
      ⟨[], text, rfl, ⟨[], by simp, rfl⟩, done⟩
    cases text with
    | nil => exact stop (by simpa [matchDirectories] using found)
    | cons c others =>
      rcases matchDirectories_cons.mp found with done | ⟨named, further⟩
      · exact stop done
      · obtain ⟨part, back, rfl, plain, later⟩ := matchDirectories_part.mp further
        have shorter : back.length < n := by
          rw [← size, List.length_cons, List.length_append, List.length_cons]
          omega
        obtain ⟨_, last, rfl, ⟨parts, names, rfl⟩, done⟩ := ih _ shorter later rfl
        have noSlash : '/' ∉ c :: part := List.not_mem_cons_of_ne_of_not_mem (Ne.symm named) plain
        refine ⟨_, last, ?_, ⟨(c :: part) :: parts,
          List.forall_mem_cons.mpr ⟨⟨List.cons_ne_nil _ _, noSlash⟩, names⟩, rfl⟩, done⟩
        simp

theorem matchDirectories_of_parts {next : List Char → Bool} {parts : List (List Char)}
    {back : List Char} (names : ∀ part ∈ parts, part ≠ [] ∧ '/' ∉ part)
    (done : next back = true) :
    matchDirectories next false (parts.flatMap (· ++ ['/']) ++ back) = true := by
  induction parts with
  | nil =>
    cases back with
    | nil => simpa [matchDirectories] using done
    | cons c others => exact matchDirectories_cons.mpr (.inl done)
  | cons part parts ih =>
    obtain ⟨⟨some, plain⟩, later⟩ := List.forall_mem_cons.mp names
    obtain ⟨c, others, rfl⟩ := List.exists_cons_of_ne_nil some
    have further := matchDirectories_part.mpr
      ⟨others, _, rfl, List.not_mem_of_not_mem_cons plain, ih later⟩
    have walked := matchDirectories_cons.mpr
      (.inr ⟨Ne.symm (List.ne_of_not_mem_cons plain), further⟩)
    simpa using walked

theorem matchDirectories_iff {next : List Char → Bool} :
    matchDirectories next false text = true ↔
      ∃ piece back, text = piece ++ back ∧ GlobToken.directories.StandsFor piece ∧
        next back = true := by
  constructor
  · exact exists_parts_of_matchDirectories
  · intro h
    obtain ⟨_, back, rfl, ⟨parts, names, rfl⟩, done⟩ := h
    exact matchDirectories_of_parts names done

/-- A `?` takes one code point off the text. -/
theorem fits_one :
    fits (.one :: rest) text = true ↔
      ∃ piece back, text = piece ++ back ∧ GlobToken.one.StandsFor piece ∧ fits rest back = true := by
  constructor
  · intro found
    match text with
    | [] => cases found
    | c :: tail =>
      by_cases marked : c = mark
      · subst marked
        cases tail with
        | nil => cases found
        | cons d back =>
          simp only [fits, if_pos, Bool.and_eq_true, Option.isSome_iff_exists] at found
          obtain ⟨⟨code, stands⟩, later⟩ := found
          obtain ⟨bound, spelled⟩ := spelling_of_marked? stands
          refine ⟨[mark, d], back, rfl, ⟨code, bound, ?_, spelled.symm⟩, later⟩
          rintro rfl
          cases spelled
      · simp only [fits, if_neg marked, Bool.and_eq_true, bne_iff_ne] at found
        obtain ⟨other, later⟩ := found
        exact ⟨[c], tail, rfl, ⟨c.toNat, toNat_lt c, fun same => other (Char.toNat_inj.mp same),
          (spelling_toNat marked).symm⟩, later⟩
  · rintro ⟨_, back, rfl, ⟨code, bound, other, rfl⟩, later⟩
    rcases spelling_cases bound with ⟨c, spelled, stands⟩ | ⟨c, spelled, plain, known⟩
    · rw [spelled]
      simp [fits, stands, later]
    · have slash : c ≠ '/' := fun same => other (known ▸ congrArg Char.toNat same)
      rw [spelled]
      simp [fits, plain, slash, later]

/-- The search fits a pattern to a text exactly if the pattern matches it. -/
theorem fits_iff_matches {pattern : Glob} : pattern.fits text = true ↔ pattern.Matches text := by
  induction pattern generalizing text with
  | nil => rw [fits_nil, matches_nil]
  | cons token rest ih =>
    rw [matches_cons]
    cases token with
    | directories =>
      rw [fits, matchDirectories_iff]
      simp only [ih]
    | anything =>
      rw [fits, matchMany_iff]
      simp only [ih, GlobToken.StandsFor, bne_iff_ne, List.forall_mem_ne']
    | within =>
      rw [fits, matchMany_iff]
      simp only [ih, GlobToken.StandsFor, bne_iff_ne, List.forall_mem_ne']
    | one =>
      rw [fits_one]
      simp only [ih]
    | char d =>
      cases text with
      | nil => simp [fits, GlobToken.StandsFor]
      | cons c tail =>
        simp only [fits, Bool.and_eq_true, beq_iff_eq, ih, GlobToken.StandsFor]
        constructor
        · intro h
          exact ⟨[d], tail, by rw [h.1]; rfl, rfl, h.2⟩
        · intro h
          obtain ⟨_, back, whole, rfl, later⟩ := h
          obtain ⟨rfl, rfl⟩ := List.cons.inj whole
          exact ⟨rfl, later⟩

end Glob

end LeastGrant
