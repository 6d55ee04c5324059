import LeastGrant.Proofs.AbsolutePatterns
import LeastGrant.Proofs.GlobLanguage

/-! Patterns that are made from directories. A text without wildcards fits itself alone, whatever its
characters mean elsewhere, so as a pattern it takes in the directory and all that lies below it. Followed
by `/**/*` it fits the paths strictly below the directory. What patterns take in is closed downward. -/
namespace LeastGrant

open Text

section Parts

theorem hasWildcard_of_mem_splitText {pattern part : String}
    (literal : Glob.hasWildcard pattern = false) (member : part ∈ splitText '/' pattern) :
    Glob.hasWildcard part = false := by
  have chars : ∀ c ∈ part.toList, c ≠ '*' ∧ c ≠ '?' := by
    intro c inside
    have whole := mem_slashed_of_mem member inside
    rw [slashed_splitText] at whole
    exact Glob.mem_of_hasWildcard literal c whole
  simpa [Glob.hasWildcard] using chars

theorem splitText_inj {a b : String} : splitText '/' a = splitText '/' b ↔ a = b := by
  constructor
  · intro same
    have texts := congrArg slashed same
    rw [slashed_splitText, slashed_splitText] at texts
    exact String.toList_inj.mp texts
  · exact congrArg _

theorem splitText_below (pattern : String) :
    splitText '/' (pattern ++ "/**/*") = splitText '/' pattern ++ ["**", "*"] := by
  have chars : (pattern ++ "/**/*").toList = pattern.toList ++ '/' :: "**/*".toList := by simp
  rw [splitText, chars, split_append_separator, List.map_append]
  rfl

theorem slashed_eq_flatMap (front : List String) (last : String) :
    slashed (front ++ [last]) = (front.map String.toList).flatMap (· ++ ['/']) ++ last.toList := by
  induction front with
  | nil => simp [slashed, join]
  | cons part rest ih =>
    have whole := slashed_append (List.cons_ne_nil part []) (List.concat_ne_nil last rest)
    rw [ih] at whole
    simpa [slashed, join] using whole

/-- A path lies below a directory if its parts begin with those of the directory and go on. -/
def IsBelow (directory path : String) : Prop :=
  splitText '/' directory <+: splitText '/' path ∧ splitText '/' directory ≠ splitText '/' path

instance (directory path : String) : Decidable (IsBelow directory path) :=
  inferInstanceAs (Decidable (_ ∧ _))

theorem isBelow_iff {directory path : String} :
    IsBelow directory path ↔
      ∃ back, back ≠ [] ∧ splitText '/' path = splitText '/' directory ++ back := by
  constructor
  · intro below
    obtain ⟨⟨back, whole⟩, differ⟩ := below
    refine ⟨back, ?_, whole.symm⟩
    intro none
    rw [none, List.append_nil] at whole
    exact differ whole
  · intro h
    obtain ⟨back, some, whole⟩ := h
    refine ⟨⟨back, whole.symm⟩, ?_⟩
    intro same
    rw [← same] at whole
    exact some (List.self_eq_append_right.mp whole)

theorem prefix_iff_eq_or_isBelow {directory path : String} :
    splitText '/' directory <+: splitText '/' path ↔ path = directory ∨ IsBelow directory path := by
  constructor
  · intro start
    by_cases same : splitText '/' directory = splitText '/' path
    · exact .inl (splitText_inj.mp same).symm
    · exact .inr ⟨start, same⟩
  · intro h
    rcases h with rfl | below
    · exact List.prefix_rfl
    · exact below.1

end Parts

namespace Glob

/-- The pattern for everything fits the paths none of whose parts is empty, save perhaps the last. -/
theorem fits_everything {parts : List String} (some : parts ≠ [])
    (noSlash : ∀ part ∈ parts, '/' ∉ part.toList) :
    (ofChars (slashed ["**", "*"])).fits (slashed parts) = true ↔
      ∀ part ∈ parts.dropLast, part ≠ "" := by
  have tokens : ofChars (slashed ["**", "*"]) = [.directories, .within] := by decide
  rw [tokens, fits_iff_matches]
  simp only [matches_cons, matches_nil, GlobToken.StandsFor]
  constructor
  · intro h
    obtain ⟨_, _, whole, ⟨pieces, named, rfl⟩, last, _, rfl, plain, rfl⟩ := h
    -- the pieces and the last part are the parts of the path, since none of them holds a slash
    have listed : slashed parts = slashed (pieces.map String.ofList ++ [String.ofList last]) := by
      rw [slashed_eq_flatMap]
      simpa [Function.comp_def] using whole
    have separate : ∀ part ∈ pieces.map String.ofList ++ [String.ofList last], '/' ∉ part.toList := by
      simpa [or_imp, forall_and, plain] using fun piece member => (named piece member).2
    rw [slashed_inj some (List.concat_ne_nil _ _) noSlash separate listed, List.dropLast_concat]
    intro part member
    obtain ⟨piece, inside, rfl⟩ := List.mem_map.mp member
    exact fun empty => (named piece inside).1 (by simpa using empty)
  · intro named
    obtain ⟨front, last, rfl⟩ := (List.eq_nil_or_concat' parts).resolve_left some
    rw [List.dropLast_concat] at named
    refine ⟨_, _, slashed_eq_flatMap front last, ⟨_, ?_, rfl⟩, last.toList, [], by simp,
      noSlash last (by simp), rfl⟩
    intro part member
    obtain ⟨name, inside, rfl⟩ := List.mem_map.mp member
    exact ⟨fun none => named name inside (String.toList_eq_nil_iff.mp none),
      noSlash name (List.mem_append_left _ inside)⟩

/-- The pattern for everything below a directory fits the paths that go on from the directory with parts
that are not empty, save perhaps the last. -/
theorem fits_below {directory : String} (literal : hasWildcard directory = false)
    {parts : List String} (some : parts ≠ []) (noSlash : ∀ part ∈ parts, '/' ∉ part.toList) :
    (ofText (directory ++ "/**/*")).fits (slashed parts) = true ↔
      ∃ back, back ≠ [] ∧ parts = splitText '/' directory ++ back ∧
        ∀ part ∈ back.dropLast, part ≠ "" := by
  have front : ∀ part ∈ splitText '/' directory, hasWildcard part = false ∧ '/' ∉ part.toList :=
    fun part member => ⟨hasWildcard_of_mem_splitText literal member, notMem_of_mem_splitText member⟩
  rw [ofText, ← slashed_splitText, splitText_below,
    fits_slashed front (List.cons_ne_nil _ _) some noSlash]
  refine exists_congr fun back => and_congr_right fun more => and_congr_right fun whole => ?_
  exact fits_everything more fun part member => noSlash part (whole ▸ List.mem_append_right _ member)

theorem fits_text {directory : String} (literal : hasWildcard directory = false) {text : List Char} :
    (ofText directory).fits text = true ↔ text = directory.toList :=
  fits_literal_chars (mem_of_hasWildcard literal)

theorem fitsAtOrAbove_iff {patterns : List Glob} {path : String} :
    fitsAtOrAbove patterns path.toList = true ↔
      ∃ pattern ∈ patterns, ∃ front, front ≠ [] ∧ front <+: splitText '/' path ∧
        pattern.fits (slashed front) = true := by
  have noSlash : ∀ part ∈ splitText '/' path, '/' ∉ part.toList :=
    fun part member => notMem_of_mem_splitText member
  rw [fitsAtOrAbove, List.any_eq_true, ← slashed_splitText]
  simp only [any_ancestry (splitText_ne_nil path) noSlash]

/-- What patterns take in of a path they take in of all that begins with its parts. -/
theorem fitsAtOrAbove_of_prefix {patterns : List Glob} {path below : String}
    (start : splitText '/' path <+: splitText '/' below)
    (fits : fitsAtOrAbove patterns path.toList = true) :
    fitsAtOrAbove patterns below.toList = true := by
  rw [fitsAtOrAbove_iff] at fits ⊢
  obtain ⟨pattern, listed, front, some, inside, fitting⟩ := fits
  exact ⟨pattern, listed, front, some, inside.trans start, fitting⟩

theorem fitsAtOrAbove_text {directory path : String} (literal : hasWildcard directory = false) :
    fitsAtOrAbove [ofText directory] path.toList = true ↔
      splitText '/' directory <+: splitText '/' path := by
  have filled := splitText_ne_nil directory
  rw [fitsAtOrAbove_iff]
  constructor
  · intro h
    obtain ⟨pattern, listed, front, some, inside, fits⟩ := h
    obtain rfl := List.mem_singleton.mp listed
    rw [fits_text literal, ← slashed_splitText] at fits
    have plain : ∀ part ∈ front, '/' ∉ part.toList :=
      fun part member => notMem_of_mem_splitText (inside.subset member)
    have same := slashed_inj some filled plain (fun part => notMem_of_mem_splitText) fits
    exact same ▸ inside
  · intro start
    refine ⟨_, List.mem_singleton_self _, splitText '/' directory, filled, start, ?_⟩
    rw [fits_text literal, slashed_splitText]

end Glob

/-- What a directory stands for in patterns. Without wildcards its text fits nothing but itself, and takes
in the directory and what lies below it. With `/**/*` after it, it fits the paths strictly below it. Any
patterns that take in a path take in all that lies below the path. -/
theorem directory_patterns_exact (directory path : String) :
    (Glob.hasWildcard directory = false →
      (∀ text, (Glob.ofText directory).fits text = true ↔ text = directory.toList) ∧
      (Glob.fitsAtOrAbove [.ofText directory] path.toList = true ↔
        path = directory ∨ IsBelow directory path) ∧
      ((∀ part ∈ splitText '/' path, part ≠ "") →
        ((Glob.ofText (directory ++ "/**/*")).fits path.toList = true ↔ IsBelow directory path))) ∧
    ∀ (patterns : List Glob) (below : String), IsBelow path below →
      Glob.fitsAtOrAbove patterns path.toList = true →
        Glob.fitsAtOrAbove patterns below.toList = true := by
  refine ⟨fun literal => ⟨fun text => Glob.fits_text literal, ?_, fun named => ?_⟩,
    fun patterns below further => Glob.fitsAtOrAbove_of_prefix further.1⟩
  · rw [Glob.fitsAtOrAbove_text literal, prefix_iff_eq_or_isBelow]
  · rw [← slashed_splitText path, Glob.fits_below literal (splitText_ne_nil path)
      (fun part => notMem_of_mem_splitText), isBelow_iff]
    refine exists_congr fun back => and_congr_right fun _ => ⟨fun h => h.1, fun whole => ⟨whole, ?_⟩⟩
    intro part member
    exact named part (whole ▸ List.mem_append_right _ (List.dropLast_subset _ member))

namespace Signs

/-! A directory whose name is full of signs that other kinds of patterns give a meaning. -/

def directory : String := "a.b+[x-z]|(c)/^d$"

def path : String := "a.b+[x-z]|(c)/^d$/e/f.ts"

theorem directory_patterns_exact_signs :
    Glob.hasWildcard directory = false ∧ (∀ part ∈ splitText '/' path, part ≠ "") ∧
    IsBelow directory path ∧ (Glob.ofText (directory ++ "/**/*")).fits path.toList = true ∧
    Glob.fitsAtOrAbove [.ofText directory] directory.toList = true ∧
    Glob.fitsAtOrAbove [.ofText directory] path.toList = true := by
  have literal : Glob.hasWildcard directory = false := by decide
  have named : ∀ part ∈ splitText '/' path, part ≠ "" := by decide
  have below : IsBelow directory path := by decide
  obtain ⟨meaning, -⟩ := directory_patterns_exact directory path
  obtain ⟨here, further⟩ := directory_patterns_exact directory directory
  have itself := (here literal).2.1.mpr (.inl rfl)
  exact ⟨literal, named, below, ((meaning literal).2.2 named).mpr below, itself,
    further _ path below itself⟩

end Signs

end LeastGrant
