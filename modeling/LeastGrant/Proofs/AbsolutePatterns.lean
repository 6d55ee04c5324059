import LeastGrant.Proofs.SourceListing

/-! Patterns with absolute paths, and how they are seen from a directory. What a pattern covers can be
said without any directory. The pattern as it is written in a directory covers the same files, unless
what it names before its first wildcard is the directory itself or lies above it. -/
namespace LeastGrant

open Text

section Lead

/-- The parts of a pattern before its first wildcard. -/
def literalLead (pattern : List String) : List String :=
  pattern.takeWhile fun part => !Glob.hasWildcard part

/-- The parts of a pattern from its first wildcard on. -/
def wildRest (pattern : List String) : List String :=
  pattern.dropWhile fun part => !Glob.hasWildcard part

variable {pattern : List String}

theorem lead_append_rest (pattern : List String) : literalLead pattern ++ wildRest pattern = pattern :=
  List.takeWhile_append_dropWhile

theorem literal_of_mem_lead {part : String} (member : part ∈ literalLead pattern) :
    Glob.hasWildcard part = false := by
  simpa using List.mem_takeWhile_imp member

theorem lead_of_rest_nil (literal : wildRest pattern = []) : literalLead pattern = pattern := by
  have whole := lead_append_rest pattern
  rwa [literal, List.append_nil] at whole

theorem exists_wild (wild : wildRest pattern ≠ []) :
    ∃ part rest, wildRest pattern = part :: rest ∧ Glob.hasWildcard part = true := by
  obtain ⟨part, rest, same⟩ := List.exists_cons_of_ne_nil wild
  refine ⟨part, rest, same, ?_⟩
  have stops := List.head_dropWhile_not (fun part => !Glob.hasWildcard part) wild
  simp only [wildRest] at same
  simpa [same] using stops

end Lead

/-- What the rest of a pattern fits: nothing, if there is no rest. -/
def FitsRest (rest below : List String) : Prop :=
  if rest = [] then below = []
  else below ≠ [] ∧ (Glob.ofChars (slashed rest)).fits (slashed below) = true

/-- A pattern covers what begins with its lead and goes on as its rest allows. -/
def Covers (pattern file : List String) : Prop :=
  ∃ below, file = literalLead pattern ++ below ∧ FitsRest (wildRest pattern) below

/-- The directory in which the search for a pattern begins. -/
def searchBase (pattern : List String) : List String :=
  if wildRest pattern = [] then pattern.dropLast else literalLead pattern

theorem Glob.fits_literal {literal parts : List String} (some : literal ≠ []) (filled : parts ≠ [])
    (plain : ∀ part ∈ literal, hasWildcard part = false ∧ '/' ∉ part.toList)
    (noSlash : ∀ part ∈ parts, '/' ∉ part.toList) :
    (ofChars (slashed literal)).fits (slashed parts) = true ↔ parts = literal := by
  have chars : ∀ c ∈ slashed literal, c ≠ '*' ∧ c ≠ '?' := by
    intro c member
    rcases mem_slashed member with rfl | ⟨part, listed, inside⟩
    · decide
    · exact mem_of_hasWildcard (plain part listed).1 c inside
  rw [fits_literal_chars chars]
  constructor
  · exact slashed_inj filled some noSlash fun part member => (plain part member).2
  · exact congrArg slashed

/-- A pattern as text fits what begins with its literal parts and goes on as its rest allows. -/
theorem Glob.fits_iff {literal rest parts : List String} (some : literal ++ rest ≠ [])
    (filled : parts ≠ []) (plain : ∀ part ∈ literal, hasWildcard part = false ∧ '/' ∉ part.toList)
    (noSlash : ∀ part ∈ parts, '/' ∉ part.toList) :
    (ofChars (slashed (literal ++ rest))).fits (slashed parts) = true ↔
      ∃ below, parts = literal ++ below ∧ FitsRest rest below := by
  by_cases none : rest = []
  · rw [none, List.append_nil] at some
    rw [none, List.append_nil, fits_literal some filled plain noSlash]
    simp [FitsRest]
  · rw [fits_slashed plain none filled noSlash]
    simp only [FitsRest, if_neg none]
    constructor
    · intro h
      obtain ⟨back, more, same, fits⟩ := h
      exact ⟨back, same, more, fits⟩
    · intro h
      obtain ⟨back, same, more, fits⟩ := h
      exact ⟨back, more, same, fits⟩

/-- The path of a file and those of the directories above it, as the starts of its parts. -/
theorem Glob.any_ancestry {parts : List String} (filled : parts ≠ [])
    (noSlash : ∀ part ∈ parts, '/' ∉ part.toList) {accepts : List Char → Bool} :
    (ancestry (slashed parts)).any accepts = true ↔
      ∃ front, front ≠ [] ∧ front <+: parts ∧ accepts (slashed front) = true := by
  have starts (n : Nat) : join '/' ((parts.map String.toList).take (n + 1)) =
      slashed (parts.take (n + 1)) := by
    rw [slashed, List.map_take]
  simp only [ancestry, split_slashed filled noSlash, List.length_map, List.any_map,
    List.any_eq_true, List.mem_range, Function.comp_apply, starts]
  constructor
  · intro h
    obtain ⟨n, -, accepted⟩ := h
    exact ⟨parts.take (n + 1), by simp [filled], List.take_prefix _ _, accepted⟩
  · intro h
    obtain ⟨front, some, inside, accepted⟩ := h
    have length := List.length_pos_iff.mpr some
    have bound := inside.length_le
    have step : front.length - 1 + 1 = front.length := by omega
    refine ⟨front.length - 1, by omega, ?_⟩
    rw [step, ← List.prefix_iff_eq_take.mp inside]
    exact accepted

section Bases

theorem splitText_routeText {parts : List String} (filled : parts ≠ [])
    (noSlash : ∀ part ∈ parts, '/' ∉ part.toList) : splitText '/' (Path.routeText parts) = parts := by
  rw [splitText, Path.routeText_toList filled, split_slashed filled noSlash, List.map_map]
  exact List.map_id'' (fun part => String.ofList_toList) parts

theorem takeWhile_wildRest (pattern : List String) :
    (wildRest pattern).takeWhile (fun part => !Glob.hasWildcard part) = [] := by
  by_cases none : wildRest pattern = []
  · rw [none]
    rfl
  · obtain ⟨part, rest, same, wild⟩ := exists_wild none
    simp [same, wild]

/-- The lead of the text of a pattern. -/
theorem patternLead_routeText {literal pattern : List String} (some : literal ++ wildRest pattern ≠ [])
    (plain : ∀ part ∈ literal, Glob.hasWildcard part = false)
    (noSlash : ∀ part ∈ literal ++ wildRest pattern, '/' ∉ part.toList) :
    patternLead (Path.routeText (literal ++ wildRest pattern)) =
      if wildRest pattern = [] then literal.dropLast else literal := by
  have whole : (literal ++ wildRest pattern).takeWhile (fun part => !Glob.hasWildcard part) =
      literal := by
    rw [List.takeWhile_append_of_pos (fun part member => by simp [plain part member]),
      takeWhile_wildRest, List.append_nil]
  simp only [patternLead, splitText_routeText some noSlash, whole, List.length_append]
  by_cases none : wildRest pattern = []
  · simp [none]
  · have longer := List.length_pos_iff.mpr none
    rw [if_neg none, if_neg (by omega)]

end Bases

section Routes

variable {directory pattern file : List String}

theorem literal_of_route {lead : List String} (plainLead : Path.Plain lead)
    (literal : ∀ part ∈ lead, Glob.hasWildcard part = false) :
    ∀ part ∈ Path.route directory lead, Glob.hasWildcard part = false ∧ '/' ∉ part.toList := by
  obtain ⟨common, up, down, -, whole, along⟩ := Path.exists_fork directory lead
  intro part member
  refine ⟨?_, Path.noSlash_of_route plainLead part member⟩
  rw [along, List.mem_append] at member
  rcases member with above | below
  · rw [List.eq_of_mem_replicate above]
    decide
  · exact literal part (whole ▸ List.mem_append_right _ below)

/-- A pattern as it is written in a directory. -/
def writtenIn (directory pattern : List String) : String :=
  Path.routeText (Path.route directory pattern)

/-- The pattern as it is written in a directory, part by part. -/
theorem route_pattern (away : ¬literalLead pattern <+: directory) :
    Path.route directory pattern = Path.route directory (literalLead pattern) ++ wildRest pattern := by
  conv_lhs => rw [← lead_append_rest pattern]
  exact Path.route_append away _

theorem route_ne_nil (away : ¬literalLead pattern <+: directory) :
    Path.route directory (literalLead pattern) ≠ [] := by
  obtain ⟨common, up, down, -, -, some, along⟩ := Path.exists_down away
  rw [along]
  simp [some]

theorem plain_lead (plain : Path.Plain pattern) : Path.Plain (literalLead pattern) :=
  plain.of_subset (List.takeWhile_subset _)

/-- What a pattern that leads away from a directory fits, as it is written there. -/
theorem fits_written_away (plain : Path.Plain pattern) (away : ¬literalLead pattern <+: directory)
    {parts : List String} (filled : parts ≠ []) (noSlash : ∀ part ∈ parts, '/' ∉ part.toList) :
    (Glob.ofText (writtenIn directory pattern)).fits (slashed parts) = true ↔
      ∃ below, parts = Path.route directory (literalLead pattern) ++ below ∧
        FitsRest (wildRest pattern) below := by
  have some := route_ne_nil away
  have written : (writtenIn directory pattern).toList =
      slashed (Path.route directory (literalLead pattern) ++ wildRest pattern) := by
    rw [writtenIn, Path.routeText_toList (by rw [route_pattern away]; simp [some]),
      route_pattern away]
  rw [Glob.ofText, written]
  exact Glob.fits_iff (by simp [some]) filled
    (literal_of_route (plain_lead plain) fun _ => literal_of_mem_lead) noSlash

/-- A pattern that leads to a directory and is not the directory goes on with a wildcard there. -/
theorem rest_of_here (here : literalLead pattern = directory) (more : pattern ≠ directory) :
    directory ++ wildRest pattern = pattern ∧ wildRest pattern ≠ [] := by
  have whole : directory ++ wildRest pattern = pattern := by
    rw [← here]
    exact lead_append_rest pattern
  refine ⟨whole, fun none => more ?_⟩
  rw [← whole, none, List.append_nil]

/-- What a pattern of a directory fits, as it is written there. -/
theorem fits_written_here (here : literalLead pattern = directory) (more : pattern ≠ directory)
    {parts : List String} (filled : parts ≠ []) (noSlash : ∀ part ∈ parts, '/' ∉ part.toList) :
    (Glob.ofText (writtenIn directory pattern)).fits (slashed parts) = true ↔
      FitsRest (wildRest pattern) parts := by
  obtain ⟨whole, wild⟩ := rest_of_here here more
  have written : (writtenIn directory pattern).toList = slashed ([] ++ wildRest pattern) := by
    rw [writtenIn, ← whole, Path.route_below, whole, Path.routeText_toList wild, List.nil_append]
  rw [Glob.ofText, written, Glob.fits_iff (by simpa using wild) filled (by simp) noSlash]
  simp

/-- Seen from a directory, a pattern either leads away from it, or it is a pattern of the directory
itself. -/
def ReadableFrom (directory pattern : List String) : Prop :=
  ¬literalLead pattern <+: directory ∨ (literalLead pattern = directory ∧ pattern ≠ directory)

instance : Decidable (ReadableFrom directory pattern) := inferInstanceAs (Decidable (_ ∨ _))

/-- A pattern that leads away from a directory covers neither the directory nor what lies above. -/
theorem not_covers_of_away (away : ¬literalLead pattern <+: directory) {above : List String}
    (inside : above <+: directory) : ¬Covers pattern above := by
  intro covers
  obtain ⟨below, rfl, -⟩ := covers
  exact away ((List.prefix_append _ _).trans inside)

theorem not_fits_dot (plain : Path.Plain pattern) (away : ¬literalLead pattern <+: directory) :
    (Glob.ofText (writtenIn directory pattern)).fits (slashed ["."]) = false := by
  rw [Bool.eq_false_iff]
  intro fits
  rw [fits_written_away plain away (by simp) (by decide)] at fits
  obtain ⟨below, dot, -⟩ := fits
  obtain ⟨first, rest, same⟩ := List.exists_cons_of_ne_nil (route_ne_nil away)
  have member : first ∈ Path.route directory (literalLead pattern) := by
    rw [same]
    exact List.mem_cons_self
  rw [same, List.cons_append, List.cons.injEq] at dot
  rcases Path.mem_route (plain_lead plain) member with up | name
  · rw [up] at dot
    exact absurd dot.1 (by decide)
  · exact name.2.1 dot.1.symm

variable (plainDirectory : Path.Plain directory) (plain : Path.Plain pattern)
  (plainFile : Path.Plain file)
include plainDirectory plain plainFile

/-- A pattern as it is written in a directory fits the files that it covers. If it is a pattern of the
directory itself, this holds of files below the directory. -/
theorem fits_written (readable : ReadableFrom directory pattern)
    (below : literalLead pattern = directory → ∃ rest, rest ≠ [] ∧ file = directory ++ rest) :
    (Glob.ofText (writtenIn directory pattern)).fits
      (Path.routeText (Path.route directory file)).toList = true ↔ Covers pattern file := by
  rcases readable with away | ⟨here, more⟩
  · by_cases same : file = directory
    · have none := (Path.route_eq_nil plainDirectory plainFile).mpr same
      have dot := not_fits_dot plain away
      rw [none, ← Bool.not_eq_false]
      exact ⟨fun fits => absurd dot fits,
        fun covers => absurd covers (not_covers_of_away away (same ▸ List.prefix_rfl))⟩
    · have filled : Path.route directory file ≠ [] :=
        fun none => same ((Path.route_eq_nil plainDirectory plainFile).mp none)
      rw [Path.routeText_toList filled,
        fits_written_away plain away filled (Path.noSlash_of_route plainFile)]
      simp only [Covers, Path.route_eq_append plainDirectory plainFile (plain_lead plain) away]
  · obtain ⟨rest, some, rfl⟩ := below here
    rw [Path.route_below, Path.routeText_toList some,
      fits_written_here here more some plainFile.right.noSlash]
    simp [Covers, here]

omit plainDirectory plain in
theorem above_written_here (here : literalLead pattern = directory) (more : pattern ≠ directory)
    {rest : List String} (some : rest ≠ []) (whole : file = directory ++ rest) :
    (Glob.ancestry (Path.routeText (Path.route directory file)).toList).any
        (Glob.ofText (writtenIn directory pattern)).fits = true ↔
      ∃ above, above <+: file ∧ Covers pattern above := by
  subst whole
  have noSlash := plainFile.right.noSlash
  rw [Path.route_below, Path.routeText_toList some, Glob.any_ancestry some noSlash]
  constructor
  · rintro ⟨front, filled, inside, fits⟩
    rw [fits_written_here here more filled fun part member =>
      noSlash part (inside.subset member)] at fits
    exact ⟨directory ++ front, (List.prefix_append_right_inj _).mpr inside, front,
      by rw [here], fits⟩
  · rintro ⟨above, inside, front, rfl, fitting⟩
    rw [here, List.prefix_append_right_inj] at inside
    have filled : front ≠ [] := by
      simp only [FitsRest, if_neg (rest_of_here here more).2] at fitting
      exact fitting.1
    refine ⟨front, filled, inside, ?_⟩
    rw [fits_written_here here more filled fun part member => noSlash part (inside.subset member)]
    exact fitting

theorem above_written_away (away : ¬literalLead pattern <+: directory) (other : file ≠ directory) :
    (Glob.ancestry (Path.routeText (Path.route directory file)).toList).any
        (Glob.ofText (writtenIn directory pattern)).fits = true ↔
      ∃ above, above <+: file ∧ Covers pattern above := by
  have filled : Path.route directory file ≠ [] :=
    fun none => other ((Path.route_eq_nil plainDirectory plainFile).mp none)
  have noSlash : ∀ part ∈ Path.route directory file, '/' ∉ part.toList :=
    Path.noSlash_of_route plainFile
  have through := @Path.route_eq_append directory file (literalLead pattern) plainDirectory plainFile
    (plain_lead plain) away
  rw [Path.routeText_toList filled, Glob.any_ancestry filled noSlash]
  constructor
  · rintro ⟨front, some, ⟨more, along⟩, fits⟩
    rw [fits_written_away plain away some fun part member =>
      noSlash part (along ▸ List.mem_append_left _ member)] at fits
    obtain ⟨below, rfl, fitting⟩ := fits
    rw [List.append_assoc, eq_comm, through] at along
    refine ⟨literalLead pattern ++ below, ?_, below, rfl, fitting⟩
    rw [along, ← List.append_assoc]
    exact List.prefix_append _ _
  · rintro ⟨above, ⟨more, along⟩, below, rfl, fitting⟩
    have some : Path.route directory (literalLead pattern) ++ below ≠ [] := by
      simp [route_ne_nil away]
    have inside : Path.route directory (literalLead pattern) ++ below <+:
        Path.route directory file := by
      rw [through.mpr (along.symm.trans (List.append_assoc _ _ _)), ← List.append_assoc]
      exact List.prefix_append _ _
    refine ⟨_, some, inside, ?_⟩
    rw [fits_written_away plain away some fun part member => noSlash part (inside.subset member)]
    exact ⟨below, rfl, fitting⟩

/-- The same for a pattern that may fit a directory above the file. -/
theorem fits_written_above (readable : ReadableFrom directory pattern)
    (below : literalLead pattern = directory → ∃ rest, rest ≠ [] ∧ file = directory ++ rest) :
    (Glob.ancestry (Path.routeText (Path.route directory file)).toList).any
        (Glob.ofText (writtenIn directory pattern)).fits = true ↔
      ∃ above, above <+: file ∧ Covers pattern above := by
  rcases readable with away | ⟨here, more⟩
  · by_cases same : file = directory
    · -- the route to the directory itself is written as a dot, which leads nowhere
      have none := (Path.route_eq_nil plainDirectory plainFile).mpr same
      have dot : (Glob.ancestry (slashed ["."])).any
          (Glob.ofText (writtenIn directory pattern)).fits = false := by
        simpa [Glob.ancestry, split, join, slashed] using not_fits_dot plain away
      rw [none, ← Bool.not_eq_false]
      refine ⟨fun fits => absurd dot fits, fun covers => ?_⟩
      obtain ⟨above, inside, covered⟩ := covers
      exact absurd covered (not_covers_of_away away (same ▸ inside))
    · exact above_written_away plainDirectory plain plainFile away same
  · obtain ⟨rest, some, whole⟩ := below here
    exact above_written_here plainFile here more some whole

omit plainFile in
theorem baseParts_written_away (away : ¬literalLead pattern <+: directory) :
    baseParts directory (writtenIn directory pattern) = searchBase pattern := by
  have some := route_ne_nil away
  have noSlash : ∀ part ∈ Path.route directory (literalLead pattern) ++ wildRest pattern,
      '/' ∉ part.toList := by
    rw [← route_pattern away]
    exact Path.noSlash_of_route plain
  have steps : ∀ part ∈ Path.route directory (literalLead pattern), IsStep part :=
    fun _ => Path.mem_route (plain_lead plain)
  have literal : ∀ part ∈ Path.route directory (literalLead pattern), Glob.hasWildcard part = false :=
    fun part member =>
      (literal_of_route (plain_lead plain) (fun _ => literal_of_mem_lead) part member).1
  rw [baseParts, patternBase_eq, writtenIn, route_pattern away,
    patternLead_routeText (by simp [some]) literal noSlash, searchBase]
  by_cases none : wildRest pattern = []
  · rw [if_pos none, if_pos none,
      filter_of_isStep fun part member => steps part (List.dropLast_subset _ member)]
    obtain ⟨common, up, down, first, second, filled, along⟩ := Path.exists_down away
    have plainDown : Path.Plain down := (second ▸ plain_lead plain).right
    have lastDown : Path.Plain down.dropLast := plainDown.of_subset (List.dropLast_subset _)
    rw [along, List.dropLast_append_of_ne_nil filled,
      Path.absolute, Path.normalParts_upDown plainDirectory.noUp _ lastDown.noUp,
      ← lead_of_rest_nil none, second, first, List.dropLast_append_of_ne_nil filled]
    simp
  · rw [if_neg none, if_neg none, filter_of_isStep steps]
    exact Path.normalParts_route plainDirectory (plain_lead plain)

omit plainFile in
theorem baseParts_written_here (here : literalLead pattern = directory) (more : pattern ≠ directory) :
    baseParts directory (writtenIn directory pattern) = searchBase pattern := by
  obtain ⟨whole, wild⟩ := rest_of_here here more
  have plainWhole : Path.Plain (directory ++ wildRest pattern) := by
    rw [whole]
    exact plain
  have noSlash : ∀ part ∈ [] ++ wildRest pattern, '/' ∉ part.toList := by
    rw [List.nil_append]
    exact plainWhole.right.noSlash
  have route_eq : Path.route directory pattern = [] ++ wildRest pattern := by
    conv_lhs => rw [← whole]
    rw [Path.route_below, List.nil_append]
  rw [baseParts, patternBase_eq, writtenIn, route_eq,
    patternLead_routeText (by simpa using wild) (by simp) noSlash, searchBase, if_neg wild,
    if_neg wild, List.filter_nil, List.append_nil, here]
  exact Path.normalParts_plain _ _ _ plainDirectory.noUp

omit plainFile in
/-- The search for a pattern as it is written in a directory begins where the pattern leads. -/
theorem baseParts_written (readable : ReadableFrom directory pattern) :
    baseParts directory (writtenIn directory pattern) = searchBase pattern := by
  rcases readable with away | ⟨here, more⟩
  · exact baseParts_written_away plainDirectory plain away
  · exact baseParts_written_here plainDirectory plain here more

end Routes

end LeastGrant
