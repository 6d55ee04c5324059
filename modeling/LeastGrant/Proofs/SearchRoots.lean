import LeastGrant.Project.Sources
import LeastGrant.Proofs.Routes
import Mathlib.Data.List.TakeWhile

/-! Where the search for the files of a project begins. Each pattern has a base, the directory that it
names before its first wildcard. The search begins at the bases that lie in no other, and a pattern
fits no file outside of its base, save for files that are not below the project. -/
namespace LeastGrant

open Text

namespace Glob

theorem mem_of_hasWildcard {text : String} (literal : hasWildcard text = false) :
    ∀ c ∈ text.toList, c ≠ '*' ∧ c ≠ '?' := by
  simpa [hasWildcard] using literal

theorem ofChars_cons {c : Char} (literal : c ≠ '*' ∧ c ≠ '?') (rest : List Char) :
    ofChars (c :: rest) = .char c :: ofChars rest := by
  rw [ofChars]
  all_goals simp_all

theorem ofChars_append {chars : List Char} (literal : ∀ c ∈ chars, c ≠ '*' ∧ c ≠ '?')
    (rest : List Char) : ofChars (chars ++ rest) = chars.map .char ++ ofChars rest := by
  induction chars with
  | nil => rfl
  | cons c others ih =>
    obtain ⟨first, later⟩ := List.forall_mem_cons.mp literal
    rw [List.cons_append, ofChars_cons first, ih later]
    rfl

theorem fits_chars {chars text : List Char} {pattern : Glob} :
    fits (chars.map .char ++ pattern) text = true ↔
      ∃ rest, text = chars ++ rest ∧ pattern.fits rest = true := by
  induction chars generalizing text with
  | nil => simp
  | cons c others ih =>
    cases text with
    | nil => simp [fits]
    | cons d rest =>
      simp only [List.map_cons, List.cons_append, fits, Bool.and_eq_true, beq_iff_eq, ih,
        List.cons.injEq]
      constructor
      · rintro ⟨rfl, back, rfl, fitting⟩
        exact ⟨back, ⟨rfl, rfl⟩, fitting⟩
      · rintro ⟨back, ⟨rfl, rfl⟩, fitting⟩
        exact ⟨rfl, back, rfl, fitting⟩

/-- A pattern without wildcards fits its own text and no other. -/
theorem fits_literal_chars {chars text : List Char} (literal : ∀ c ∈ chars, c ≠ '*' ∧ c ≠ '?') :
    (ofChars chars).fits text = true ↔ text = chars := by
  have tokens := ofChars_append literal []
  rw [List.append_nil] at tokens
  rw [tokens, ofChars, fits_chars]
  constructor
  · intro h
    obtain ⟨rest, same, nothing⟩ := h
    rw [same, (fits_nil rest).mp nothing, List.append_nil]
  · intro same
    exact ⟨[], by rw [same, List.append_nil], rfl⟩

end Glob

theorem mem_slashed {c : Char} {parts : List String} (member : c ∈ slashed parts) :
    c = '/' ∨ ∃ part ∈ parts, c ∈ part.toList := by
  induction parts with
  | nil => simp [slashed, join] at member
  | cons part rest ih =>
    cases rest with
    | nil =>
      have inside : c ∈ part.toList := by simpa [slashed, join] using member
      exact .inr ⟨part, List.mem_cons_self, inside⟩
    | cons next others =>
      have split : c ∈ part.toList ∨ c = '/' ∨ c ∈ slashed (next :: others) := by
        simpa [slashed, join] using member
      rcases split with own | slash | later
      · exact .inr ⟨part, List.mem_cons_self, own⟩
      · exact .inl slash
      · rcases ih later with slash | ⟨other, listed, inside⟩
        · exact .inl slash
        · exact .inr ⟨other, List.mem_cons_of_mem _ listed, inside⟩

theorem mem_slashed_of_mem {c : Char} {part : String} {parts : List String} (member : part ∈ parts)
    (inside : c ∈ part.toList) : c ∈ slashed parts := by
  induction parts with
  | nil => cases member
  | cons first rest ih =>
    rcases List.mem_cons.mp member with rfl | later
    · obtain ⟨more, whole, -⟩ := slashed_cons part rest
      rw [whole]
      exact List.mem_append_left _ inside
    · have filled : rest ≠ [] := List.ne_nil_of_mem later
      rw [← List.singleton_append, slashed_append (List.cons_ne_nil first []) filled]
      exact List.mem_append_right _ (List.mem_cons_of_mem _ (ih later))

/-- A pattern with parts before its first wildcard fits what begins with these parts and goes on with
something that the rest of the pattern fits. -/
theorem Glob.fits_slashed {literal rest parts : List String}
    (plain : ∀ part ∈ literal, hasWildcard part = false ∧ '/' ∉ part.toList) (more : rest ≠ [])
    (named : parts ≠ []) (noSlash : ∀ part ∈ parts, '/' ∉ part.toList) :
    (ofChars (slashed (literal ++ rest))).fits (slashed parts) = true ↔
      ∃ back, back ≠ [] ∧ parts = literal ++ back ∧
        (ofChars (slashed rest)).fits (slashed back) = true := by
  by_cases none : literal = []
  · subst none
    simp only [List.nil_append]
    constructor
    · intro fitting
      exact ⟨parts, named, rfl, fitting⟩
    · rintro ⟨back, -, rfl, fitting⟩
      exact fitting
  have chars : ∀ c ∈ slashed literal ++ ['/'], c ≠ '*' ∧ c ≠ '?' := by
    intro c member
    have cases : c = '/' ∨ ∃ part ∈ literal, c ∈ part.toList := by
      rcases List.mem_append.mp member with inside | last
      · exact mem_slashed inside
      · exact .inl (List.mem_singleton.mp last)
    rcases cases with rfl | ⟨part, listed, inside⟩
    · decide
    · exact mem_of_hasWildcard (plain part listed).1 c inside
  have shape (back : List Char) : slashed literal ++ '/' :: back =
      (slashed literal ++ ['/']) ++ back := by simp
  rw [slashed_append none more, shape, ofChars_append chars, fits_chars]
  constructor
  · rintro ⟨tail, same, fitting⟩
    have parted : slashed (splitText '/' (String.ofList tail)) = tail := by
      rw [slashed_splitText, String.toList_ofList]
    have whole : slashed parts = slashed (literal ++ splitText '/' (String.ofList tail)) := by
      rw [slashed_append none (splitText_ne_nil _), parted, shape, same]
    have separate : ∀ part ∈ literal ++ splitText '/' (String.ofList tail),
        '/' ∉ part.toList := by
      intro part member
      rcases List.mem_append.mp member with front | back
      · exact (plain part front).2
      · exact notMem_of_mem_splitText back
    refine ⟨splitText '/' (String.ofList tail), splitText_ne_nil _, ?_, ?_⟩
    · exact slashed_inj named (by simp [none]) noSlash separate whole
    · rw [parted]
      exact fitting
  · rintro ⟨back, some, rfl, fitting⟩
    exact ⟨slashed back, by rw [slashed_append none some, shape], fitting⟩

section Bases

/-- The parts of a pattern before its first wildcard, without the last part of a pattern that has no
wildcard. -/
def patternLead (pattern : String) : List String :=
  let segments := splitText '/' pattern
  let literal := segments.takeWhile fun segment => !Glob.hasWildcard segment
  if literal.length = segments.length then literal.dropLast else literal

theorem patternBase_eq (root : List String) (pattern : String) :
    patternBase (.absolute root) pattern = .absolute (Path.normalParts true []
      (root ++ (patternLead pattern).filter fun part => part != "" && part != ".")) :=
  rfl

theorem hasWildcard_of_mem_lead {pattern part : String} (member : part ∈ patternLead pattern) :
    Glob.hasWildcard part = false := by
  have literal : part ∈ (splitText '/' pattern).takeWhile fun segment =>
      !Glob.hasWildcard segment := by
    unfold patternLead at member
    dsimp only at member
    split at member
    · exact List.dropLast_subset _ member
    · exact member
  simpa using List.mem_takeWhile_imp literal

theorem exists_splitText (pattern : String) :
    ∃ rest, rest ≠ [] ∧ splitText '/' pattern = patternLead pattern ++ rest := by
  unfold patternLead
  dsimp only
  have kept := List.takeWhile_prefix (l := splitText '/' pattern)
    fun segment => !Glob.hasWildcard segment
  split
  · rename_i whole
    rw [kept.eq_of_length whole]
    have some := splitText_ne_nil pattern
    exact ⟨[(splitText '/' pattern).getLast some], List.cons_ne_nil _ _,
      (List.dropLast_append_getLast some).symm⟩
  · rename_i cut
    obtain ⟨rest, same⟩ := kept
    refine ⟨rest, ?_, same.symm⟩
    intro none
    rw [none, List.append_nil] at same
    exact cut (congrArg List.length same)

theorem plain_of_mem_lead {pattern part : String} (member : part ∈ patternLead pattern) :
    Glob.hasWildcard part = false ∧ '/' ∉ part.toList := by
  obtain ⟨rest, -, whole⟩ := exists_splitText pattern
  have listed : part ∈ splitText '/' pattern := by
    rw [whole]
    exact List.mem_append_left _ member
  exact ⟨hasWildcard_of_mem_lead member, notMem_of_mem_splitText listed⟩

/-- What a pattern fits begins with its lead. -/
theorem lead_of_fits {pattern : String} {parts : List String} (some : parts ≠ [])
    (noSlash : ∀ part ∈ parts, '/' ∉ part.toList)
    (fits : (Glob.ofText pattern).fits (slashed parts) = true) :
    ∃ back, back ≠ [] ∧ parts = patternLead pattern ++ back := by
  obtain ⟨rest, more, whole⟩ := exists_splitText pattern
  rw [Glob.ofText, ← slashed_splitText, whole,
    Glob.fits_slashed (fun _ => plain_of_mem_lead) more some noSlash] at fits
  obtain ⟨back, filled, same, -⟩ := fits
  exact ⟨back, filled, same⟩

/-- A file that a pattern fits lies below the base of the pattern, or else the base lies above the
project. -/
theorem patternBase_of_fits {root file : List String} {pattern : String} (plainRoot : Path.Plain root)
    (plainFile : Path.Plain file)
    (fits : (Glob.ofText pattern).fits (Path.routeText (Path.route root file)).toList = true) :
    (patternBase (.absolute root) pattern).parts <+: root ∨
      ∃ below, below ≠ [] ∧ (patternBase (.absolute root) pattern).parts ++ below = file := by
  rw [patternBase_eq]
  dsimp only [Path.absolute]
  by_cases here : Path.route root file = []
  · -- the route to the project itself is written as a dot
    rw [here] at fits
    have dotted : (Glob.ofText pattern).fits (slashed ["."]) = true := fits
    obtain ⟨back, some, dot⟩ := lead_of_fits (by simp) (by decide) dotted
    have noLead : patternLead pattern = [] := by
      have short := congrArg List.length dot
      have filled := List.length_pos_iff.mpr some
      rw [List.length_append, List.length_singleton] at short
      exact List.length_eq_zero_iff.mp (by omega)
    left
    rw [noLead, List.filter_nil, List.append_nil, Path.normalParts_plain _ _ _ plainRoot.noUp]
    exact List.prefix_rfl
  · rw [Path.routeText_toList here] at fits
    obtain ⟨back, some, along⟩ := lead_of_fits here (Path.noSlash_of_route plainFile) fits
    have steps : ∀ part ∈ patternLead pattern, IsStep part := by
      intro part member
      have inside : part ∈ Path.route root file := by
        rw [along]
        exact List.mem_append_left _ member
      exact Path.mem_route plainFile inside
    rw [filter_of_isStep steps]
    rcases Path.normalParts_of_route_eq plainRoot plainFile along with above | below
    · exact .inl above
    · exact .inr ⟨back, some, below⟩

end Bases

section Roots

theorem isAbove_iff {p q : Path} :
    p.isAbove q = true ↔ p.slashes = q.slashes ∧ p.parts <+: q.parts := by
  simp [Path.isAbove]

/-- A place of a list that lies in no other place of the list. -/
def IsTopmost (places : List (List String)) (place : List String) : Prop :=
  place ∈ places ∧ ∀ other ∈ places, other <+: place → other = place

/-- A base that lies in a root makes no difference to what is topmost. -/
theorem isTopmost_cons_of_above {roots rest : List (List String)} {root base place : List String}
    (known : root ∈ roots) (above : root <+: base) :
    IsTopmost (roots ++ base :: rest) place ↔ IsTopmost (roots ++ rest) place := by
  constructor
  · rintro ⟨member, least⟩
    refine ⟨?_, fun other listed => least other (by grind)⟩
    by_cases same : place = base
    · subst same
      have root_eq := least root (List.mem_append_left _ known) above
      exact List.mem_append_left _ (root_eq ▸ known)
    · grind
  · rintro ⟨member, least⟩
    refine ⟨by grind, fun other listed inside => ?_⟩
    by_cases same : other = base
    · subst same
      have root_eq := least root (List.mem_append_left _ known) (above.trans inside)
      subst root_eq
      exact inside.eq_of_length_le above.length_le
    · exact least other (by grind) inside

/-- Roots of which none lies in another, with a base that lies in none and is no shorter. -/
theorem eq_of_prefix_append {roots : List (List String)} {base : List String}
    (apart : ∀ a ∈ roots, ∀ b ∈ roots, a <+: b → a = b)
    (short : ∀ root ∈ roots, root.length ≤ base.length) (outside : ¬∃ root ∈ roots, root <+: base) :
    ∀ a ∈ roots ++ [base], ∀ b ∈ roots ++ [base], a <+: b → a = b := by
  intro a memberA b memberB inside
  rcases List.mem_append.mp memberA with oldA | newA
  · rcases List.mem_append.mp memberB with oldB | newB
    · exact apart a oldA b oldB inside
    · cases List.mem_singleton.mp newB
      exact absurd ⟨a, oldA, inside⟩ outside
  · cases List.mem_singleton.mp newA
    rcases List.mem_append.mp memberB with oldB | newB
    · exact inside.eq_of_length_le (short b oldB)
    · exact (List.mem_singleton.mp newB).symm

/-- The roots found so far are at least as short as the bases that are still to come, so no later
base lies above one of them. -/
theorem mem_foldl_addRoot (slashes : Nat) {bases : List (List String)} (roots : List (List String))
    (sorted : bases.Pairwise fun a b => a.length ≤ b.length)
    (short : ∀ root ∈ roots, ∀ base ∈ bases, root.length ≤ base.length)
    (apart : ∀ a ∈ roots, ∀ b ∈ roots, a <+: b → a = b) (place : List String) :
    ⟨slashes, place⟩ ∈ (bases.map (Path.mk slashes)).foldl addRoot (roots.map (Path.mk slashes)) ↔
      IsTopmost (roots ++ bases) place := by
  induction bases generalizing roots with
  | nil =>
    have injective : ⟨slashes, place⟩ ∈ roots.map (Path.mk slashes) ↔ place ∈ roots := by
      simp
    simp only [List.map_nil, List.foldl_nil, injective, List.append_nil]
    exact ⟨fun member => ⟨member, fun other listed => apart other listed place member⟩, And.left⟩
  | cons base rest ih =>
    obtain ⟨first, later⟩ := List.pairwise_cons.mp sorted
    have shorter : ∀ root ∈ roots, ∀ other ∈ rest, root.length ≤ other.length :=
      fun root member other listed => short root member other (List.mem_cons_of_mem _ listed)
    have covered : ((roots.map (Path.mk slashes)).any fun root => root.isAbove ⟨slashes, base⟩) =
        true ↔ ∃ root ∈ roots, root <+: base := by
      simp [isAbove_iff]
    rw [List.map_cons, List.foldl_cons, addRoot]
    by_cases below : ∃ root ∈ roots, root <+: base
    · rw [if_pos (covered.mpr below), ih roots later shorter apart]
      obtain ⟨root, known, above⟩ := below
      exact (isTopmost_cons_of_above known above).symm
    · have grown : roots.map (Path.mk slashes) ++ [⟨slashes, base⟩] =
          (roots ++ [base]).map (Path.mk slashes) := by simp
      rw [if_neg (mt covered.mp below), grown, List.append_cons roots base rest]
      refine ih _ later ?_ ?_
      · intro root member other listed
        rcases List.mem_append.mp member with old | new
        · exact shorter root old other listed
        · cases List.mem_singleton.mp new
          exact first other listed
      · exact eq_of_prefix_append apart (fun root known => short root known _ List.mem_cons_self) below

/-- The parts of the base of a pattern. -/
def baseParts (root : List String) (pattern : String) : List String :=
  (patternBase (.absolute root) pattern).parts

theorem normalize_append {root : Path} (absolute : root.isAbsolute = true) (parts : List String) :
    (root ++ (⟨0, parts⟩ : Path)).normalize =
      ⟨root.slashes, Path.normalParts true [] (root.parts ++ parts)⟩ := by
  show Path.normalize ⟨root.slashes, root.parts ++ parts⟩ = _
  rw [Path.normalize, show Path.isAbsolute ⟨root.slashes, root.parts ++ parts⟩ = true from absolute]

theorem patternBase_of_isAbsolute {root : Path} (absolute : root.isAbsolute = true)
    (pattern : String) : patternBase root pattern = ⟨root.slashes, baseParts root.parts pattern⟩ :=
  normalize_append absolute _

/-- The search begins at the bases that lie in no other. -/
theorem mem_walkRoots_iff {root : Path} (absolute : root.isAbsolute = true) {place : List String}
    {patterns : List String} : ⟨root.slashes, place⟩ ∈ walkRoots root patterns ↔
      (∃ pattern ∈ patterns, baseParts root.parts pattern = place) ∧
        ∀ pattern ∈ patterns, baseParts root.parts pattern <+: place →
          baseParts root.parts pattern = place := by
  have bases : patterns.map (patternBase root) =
      (patterns.map (baseParts root.parts)).map (Path.mk root.slashes) := by
    rw [List.map_map]
    exact List.map_congr_left fun pattern _ => patternBase_of_isAbsolute absolute pattern
  have sorting : (((patterns.map (baseParts root.parts)).mergeSort fun a b =>
      decide (a.length ≤ b.length)).map (Path.mk root.slashes)) =
      ((patterns.map (baseParts root.parts)).map (Path.mk root.slashes)).mergeSort
        fun p q => decide (p.parts.length ≤ q.parts.length) :=
    List.map_mergeSort fun _ _ _ _ => rfl
  have sorted : ((patterns.map (baseParts root.parts)).mergeSort fun a b =>
      decide (a.length ≤ b.length)).Pairwise fun a b => a.length ≤ b.length := by
    have ordered : ((patterns.map (baseParts root.parts)).mergeSort fun a b =>
        decide (a.length ≤ b.length)).Pairwise fun a b => decide (a.length ≤ b.length) = true :=
      List.pairwise_mergeSort (by simp; omega) (by simp; omega) _
    simpa using ordered
  have search := mem_foldl_addRoot root.slashes [] sorted (by simp) (by simp) place
  rw [walkRoots, bases, ← sorting]
  simpa [IsTopmost] using search

theorem mem_walkRoots {root place : List String} {patterns : List String} :
    Path.absolute place ∈ walkRoots (.absolute root) patterns ↔
      (∃ pattern ∈ patterns, baseParts root pattern = place) ∧
        ∀ pattern ∈ patterns, baseParts root pattern <+: place →
          baseParts root pattern = place :=
  @mem_walkRoots_iff (.absolute root) rfl place patterns

/-- Every directory where the search begins is the base of a pattern. -/
theorem exists_of_mem_walkRoots {root base : Path} {patterns : List String}
    (member : base ∈ walkRoots root patterns) : ∃ pattern ∈ patterns, patternBase root pattern = base := by
  have kept (bases roots : List Path) : bases.foldl addRoot roots ⊆ roots ++ bases := by
    induction bases generalizing roots with
    | nil => simp
    | cons base rest ih =>
      refine List.Subset.trans (ih (addRoot roots base)) ?_
      rw [addRoot]
      split
      · exact List.append_subset.mpr ⟨List.subset_append_left _ _, by simp⟩
      · simp
  exact List.mem_map.mp (List.mem_mergeSort.mp (kept _ [] member))

end Roots

/-- Of the bases above one, the shortest has no other base above it. -/
theorem exists_least (root : List String) {patterns : List String} {pattern : String}
    (listed : pattern ∈ patterns) :
    ∃ least ∈ patterns, baseParts root least <+: baseParts root pattern ∧
      ∀ other ∈ patterns, baseParts root other <+: baseParts root least →
        baseParts root other = baseParts root least := by
  induction size : (baseParts root pattern).length using Nat.strongRecOn generalizing pattern with
  | ind n ih =>
    by_cases least : ∀ other ∈ patterns, baseParts root other <+: baseParts root pattern →
        baseParts root other = baseParts root pattern
    · exact ⟨pattern, listed, List.prefix_rfl, least⟩
    · simp only [not_forall] at least
      obtain ⟨other, known, above, differ⟩ := least
      have shorter : (baseParts root other).length < n := by
        have bound := above.length_le
        rcases Nat.lt_or_ge (baseParts root other).length n with less | same
        · exact less
        · exact absurd (above.eq_of_length_le (by omega)) differ
      obtain ⟨first, member, upper, minimal⟩ := ih _ shorter known rfl
      exact ⟨first, member, upper.trans above, minimal⟩

end LeastGrant
