import LeastGrant.Proofs.AbsolutePatterns
import LeastGrant.Proofs.Directories
import LeastGrant.Proofs.ExtendedConfig

/-! Patterns that a configuration takes over from one that it extends. They are written anew for the
directory of the configuration. They find the same files from there as long as, from both directories,
no pattern leads to the directory itself or to one above it before its first wildcard; patterns of the
directory itself do no harm where all include patterns lead below it. -/
namespace LeastGrant

open Text

section Spelling

theorem slashed_concat (front : List String) (last : String) :
    ∃ earlier, slashed (front ++ [last]) = earlier ++ last.toList := by
  by_cases none : front = []
  · exact ⟨[], by simp [none, slashed, join]⟩
  · refine ⟨slashed front ++ ['/'], ?_⟩
    rw [slashed_append none (List.cons_ne_nil last [])]
    simp [slashed, join]

variable {parts : List String}

theorem ofText_routeText (filled : parts ≠ []) (steps : ∀ part ∈ parts, IsStep part) :
    Path.ofText (Path.routeText parts) = ⟨0, parts⟩ := by
  have relative : Path.leadingSlashes (Path.routeText parts).toList = 0 := by
    rw [Path.routeText_toList filled]
    obtain ⟨first, rest, rfl⟩ := List.exists_cons_of_ne_nil filled
    have step := steps first List.mem_cons_self
    obtain ⟨c, others, chars⟩ := List.exists_cons_of_ne_nil step.chars_ne_nil
    have noSlash : c ≠ '/' := by
      intro same
      exact step.noSlash (by rw [chars, same]; exact List.mem_cons_self)
    obtain ⟨later, whole, -⟩ := slashed_cons first rest
    simp [Path.leadingSlashes, whole, chars, noSlash]
  rw [Path.ofText, relative, splitText_routeText filled fun part member => (steps part member).noSlash,
    filter_of_isStep steps]

theorem dropDotSlash_of_ne {text : List Char} (other : ∀ rest, text ≠ '.' :: '/' :: rest) :
    Glob.dropDotSlash text = text := by
  unfold Glob.dropDotSlash
  split
  · exact absurd rfl (other _)
  · rfl

/-- A route does not begin with the dot of its own directory. -/
theorem dropDotSlash_slashed (filled : parts ≠ []) (steps : ∀ part ∈ parts, IsStep part) :
    Glob.dropDotSlash (slashed parts) = slashed parts := by
  apply dropDotSlash_of_ne
  intro rest same
  obtain ⟨first, others, rfl⟩ := List.exists_cons_of_ne_nil filled
  have step := steps first List.mem_cons_self
  obtain ⟨later, whole, -⟩ := slashed_cons first others
  obtain ⟨c, more, chars⟩ := List.exists_cons_of_ne_nil step.chars_ne_nil
  rw [whole, chars, List.cons_append, List.cons.injEq] at same
  obtain ⟨rfl, same⟩ := same
  cases more with
  | nil =>
    apply step.ne_dot
    rw [← String.toList_inj, chars]
    rfl
  | cons d _ =>
    apply step.noSlash
    rw [chars, (List.cons.inj same).1]
    simp

/-- A route does not end with a slash. -/
theorem dropWhile_reverse_slashed (filled : parts ≠ []) (steps : ∀ part ∈ parts, IsStep part) :
    (slashed parts).reverse.dropWhile (· == '/') = (slashed parts).reverse := by
  have last := List.dropLast_append_getLast filled
  have step := steps _ (List.getLast_mem filled)
  obtain ⟨earlier, whole⟩ := slashed_concat parts.dropLast (parts.getLast filled)
  rw [last] at whole
  have chars := List.dropLast_append_getLast step.chars_ne_nil
  rw [whole, ← chars]
  have noSlash : (parts.getLast filled).toList.getLast step.chars_ne_nil ≠ '/' := by
    intro same
    exact step.noSlash (same ▸ List.getLast_mem _)
  simp [noSlash]

/-- A route is in the normal spelling of patterns. -/
theorem normalize_routeText (filled : parts ≠ []) (steps : ∀ part ∈ parts, IsStep part)
    (straight : ∀ part ∈ parts, '\\' ∉ part.toList) :
    Glob.normalize (Path.routeText parts) = Path.routeText parts := by
  have same : ∀ c ∈ slashed parts, (if c == '\\' then '/' else c) = c := by
    intro c member
    rcases mem_slashed member with rfl | ⟨part, listed, inside⟩
    · rfl
    · have other : c ≠ '\\' := fun back => straight part listed (back ▸ inside)
      simp [other]
  rw [Glob.normalize, Path.routeText_toList filled, List.map_congr_left same, List.map_id',
    dropDotSlash_slashed filled steps, dropWhile_reverse_slashed filled steps, List.reverse_reverse,
    ← Path.routeText_toList filled, String.ofList_toList]

end Spelling

section Expanded

/-- The pattern of everything below a directory, for a pattern that names one. -/
def expanded (folder : Folder) (pattern : List String) : List String :=
  if wildRest pattern = [] ∧ folder.isDirectory pattern = true then pattern ++ ["**", "*"]
  else pattern

variable {folder : Folder} {directory pattern : List String}

theorem literalLead_expanded (folder : Folder) (pattern : List String) :
    literalLead (expanded folder pattern) = literalLead pattern := by
  unfold expanded
  split
  · rename_i literal
    have all : ∀ part ∈ pattern, (!Glob.hasWildcard part) = true := by
      rw [← lead_of_rest_nil literal.1]
      intro part member
      simp [literal_of_mem_lead member]
    have wild : (["**", "*"] : List String).takeWhile (fun part => !Glob.hasWildcard part) = [] := by
      decide
    rw [lead_of_rest_nil literal.1, literalLead, List.takeWhile_append_of_pos all, wild,
      List.append_nil]
  · rfl

theorem plain_expanded (plain : Path.Plain pattern) : Path.Plain (expanded folder pattern) := by
  unfold expanded
  split
  · exact plain.append (by decide)
  · exact plain

theorem readableFrom_expanded (readable : ReadableFrom directory pattern) :
    ReadableFrom directory (expanded folder pattern) := by
  rcases readable with away | ⟨here, more⟩
  · left
    rw [literalLead_expanded]
    exact away
  · right
    have wild : ¬(wildRest pattern = [] ∧ folder.isDirectory pattern = true) := by
      intro literal
      exact more ((lead_of_rest_nil literal.1).symm.trans here)
    rw [expanded, if_neg wild]
    exact ⟨here, more⟩

/-- The route to a pattern: literal parts, and then the pattern from its first wildcard on. -/
theorem exists_literal_route (plain : Path.Plain pattern) (readable : ReadableFrom directory pattern) :
    ∃ literal, Path.route directory pattern = literal ++ wildRest pattern ∧
      literal ++ wildRest pattern ≠ [] ∧ ∀ part ∈ literal, Glob.hasWildcard part = false := by
  rcases readable with away | ⟨here, more⟩
  · refine ⟨_, route_pattern away, by simp [route_ne_nil away], fun part member => ?_⟩
    exact (literal_of_route (plain_lead plain) (fun _ => literal_of_mem_lead) part member).1
  · have whole := lead_append_rest pattern
    rw [here] at whole
    refine ⟨[], ?_, ?_, by simp⟩
    · conv_lhs => rw [← whole]
      rw [Path.route_below, List.nil_append]
    · intro none
      rw [List.nil_append] at none
      exact more ((lead_of_rest_nil none).symm.trans here)

theorem hasWildcard_written (plain : Path.Plain pattern) (readable : ReadableFrom directory pattern) :
    Glob.hasWildcard (writtenIn directory pattern) = true ↔ wildRest pattern ≠ [] := by
  obtain ⟨literal, along, some, tame⟩ := exists_literal_route plain readable
  rw [Glob.hasWildcard, writtenIn, along, Path.routeText_toList some]
  constructor
  · intro wild none
    obtain ⟨c, member, matches'⟩ := List.any_eq_true.mp wild
    rw [none, List.append_nil] at member
    rcases mem_slashed member with rfl | ⟨part, listed, inside⟩
    · exact absurd matches' (by decide)
    · have plainChar := Glob.mem_of_hasWildcard (tame part listed) c inside
      simp [plainChar] at matches'
  · intro wild
    obtain ⟨part, rest, same, holds⟩ := exists_wild wild
    obtain ⟨c, inside, matches'⟩ := List.any_eq_true.mp holds
    have listed : part ∈ literal ++ wildRest pattern := by simp [same]
    exact List.any_eq_true.mpr ⟨c, mem_slashed_of_mem listed inside, matches'⟩

theorem writtenIn_below (readable : ReadableFrom directory pattern)
    (literal : wildRest pattern = []) :
    writtenIn directory pattern ++ "/**/*" = writtenIn directory (pattern ++ ["**", "*"]) := by
  have away : ¬pattern <+: directory := by
    rcases readable with away | ⟨here, more⟩
    · rwa [lead_of_rest_nil literal] at away
    · exact absurd ((lead_of_rest_nil literal).symm.trans here) more
  have filled : Path.route directory pattern ≠ [] := by
    obtain ⟨common, up, down, -, -, some, along⟩ := Path.exists_down away
    rw [along]
    simp [some]
  rw [← String.toList_inj, String.toList_append, writtenIn, writtenIn, Path.route_append away,
    Path.routeText_toList filled, Path.routeText_toList (by simp), slashed_append filled (by simp)]
  rfl

end Expanded

section Configurations

/-- From a directory, all patterns can be read. Where one is a pattern of the directory itself, all
include patterns lead to the directory or below it. -/
structure SeenFrom (folder : Folder) (directory : List String)
    (includes excludes : List (List String)) : Prop where
  readable : ∀ pattern ∈ includes ++ excludes, ReadableFrom directory pattern
  below : ∀ pattern ∈ includes ++ excludes, literalLead pattern = directory →
    ∀ other ∈ includes, directory <+: literalLead other
  short : ∀ pattern ∈ includes,
    folder.isTooLong (.absolute (directory ++ Path.route directory pattern)) = false

instance (folder : Folder) (directory : List String) (includes excludes : List (List String)) :
    Decidable (SeenFrom folder directory includes excludes) :=
  decidable_of_iff (_ ∧ _ ∧ _)
    ⟨fun h => ⟨h.1, h.2.1, h.2.2⟩, fun seen => ⟨seen.readable, seen.below, seen.short⟩⟩

/-- A configuration in a directory of the folder that lists some patterns, written for its
directory. -/
structure Lists (folder : Folder) (config : ProjectConfig) (includes excludes : List (List String)) :
    Prop where
  noFiles : config.files = []
  plain : Path.Plain config.root
  inside : folder.isDirectory config.root = true
  included : ∃ texts : List String, config.included = .arr (texts.map .str) ∧
    texts.map Glob.normalize = includes.map (writtenIn config.root)
  excluded : ∃ texts : List String, config.excluded = .arr (texts.map .str) ∧
    texts.map Glob.normalize = excludes.map (writtenIn config.root)
  seen : SeenFrom folder config.root includes excludes

variable {folder : Folder} {config : ProjectConfig} {includes excludes : List (List String)}

namespace ProjectConfig

theorem entryPath_written {pattern : List String} (plain : Path.Plain pattern)
    (readable : ReadableFrom config.root pattern) :
    config.entryPath (writtenIn config.root pattern) =
      .absolute (config.root ++ Path.route config.root pattern) := by
  have filled : Path.route config.root pattern ≠ [] := by
    obtain ⟨literal, along, some, -⟩ := exists_literal_route plain readable
    rw [along]
    exact some
  rw [entryPath, writtenIn, ofText_routeText filled fun part member => Path.mem_route plain member]
  rfl

theorem expandedText_written {pattern : List String} (plainRoot : Path.Plain config.root)
    (inside : folder.isDirectory config.root = true) (plain : Path.Plain pattern)
    (readable : ReadableFrom config.root pattern) :
    config.expandedText folder (writtenIn config.root pattern) =
      writtenIn config.root (expanded folder pattern) := by
  rw [expandedText, entryPath_written plain readable,
    Folder.isDirectoryAt_route plainRoot plain inside, expanded]
  by_cases wild : wildRest pattern = []
  · have tame : Glob.hasWildcard (writtenIn config.root pattern) = false := by
      rw [Bool.eq_false_iff]
      exact fun holds => (hasWildcard_written plain readable).mp holds wild
    rw [tame]
    cases folder.isDirectory pattern with
    | true => rw [if_pos ⟨rfl, rfl⟩, if_pos ⟨wild, rfl⟩, writtenIn_below readable wild]
    | false => rw [if_neg (by simp), if_neg (by simp)]
  · rw [(hasWildcard_written plain readable).mpr wild, if_neg (by simp),
      if_neg (fun both => wild both.1)]

end ProjectConfig

namespace Lists

theorem includePatterns (lists : Lists folder config includes excludes)
    (plain : ∀ pattern ∈ includes, Path.Plain pattern) :
    config.includePatterns folder =
      .ok ((includes.map (expanded folder)).map (writtenIn config.root)) := by
  obtain ⟨texts, listed, spelled⟩ := lists.included
  have reading : config.includePatterns folder =
      (texts.map .str).mapM (config.directoryPattern folder) := by
    unfold ProjectConfig.includePatterns
    rw [listed]
    rfl
  have short : ∀ text ∈ texts, folder.isTooLong (config.entryPath (Glob.normalize text)) = false := by
    intro text member
    have known := List.mem_map_of_mem (f := Glob.normalize) member
    rw [spelled] at known
    obtain ⟨pattern, inside, same⟩ := List.mem_map.mp known
    rw [← same, ProjectConfig.entryPath_written (plain pattern inside)
      (lists.seen.readable pattern (List.mem_append_left _ inside))]
    exact lists.seen.short pattern inside
  have read : config.includePatterns folder = .ok (texts.map (config.includePattern folder)) := by
    rw [reading]
    refine mapM_map_ok fun text member => ?_
    exact (config.directoryPattern_eq_ok folder _ _).mpr ⟨text, rfl, fun _ => short text member, rfl⟩
  have same : ∀ pattern ∈ includes, config.expandedText folder (writtenIn config.root pattern) =
      writtenIn config.root (expanded folder pattern) := by
    intro pattern member
    exact ProjectConfig.expandedText_written lists.plain lists.inside (plain pattern member)
      (lists.seen.readable pattern (List.mem_append_left _ member))
  rw [read]
  refine congrArg Except.ok ?_
  calc texts.map (config.includePattern folder)
      = (texts.map Glob.normalize).map (config.expandedText folder) := by
        rw [List.map_map]
        refine List.map_congr_left fun text _ => ?_
        rw [ProjectConfig.includePattern, Function.comp_apply]
    _ = (includes.map (expanded folder)).map (writtenIn config.root) := by
        rw [spelled, List.map_map, List.map_map]
        exact List.map_congr_left same

theorem excludePatterns (lists : Lists folder config includes excludes) :
    config.excludePatterns = .ok (excludes.map (writtenIn config.root)) := by
  obtain ⟨texts, listed, spelled⟩ := lists.excluded
  have reading : config.excludePatterns = (texts.map .str).mapM ProjectConfig.asPattern := by
    unfold ProjectConfig.excludePatterns
    rw [listed]
    rfl
  rw [reading, ← spelled]
  apply mapM_map_ok
  intro text _
  rfl

/-- The search begins where the patterns lead, whatever the directory of the configuration. -/
theorem bases (lists : Lists folder config includes excludes)
    (plain : ∀ pattern ∈ includes, Path.Plain pattern) :
    ((includes.map (expanded folder)).map (writtenIn config.root)).map
        (patternBase (.absolute config.root)) =
      includes.map fun pattern => .absolute (searchBase (expanded folder pattern)) := by
  rw [List.map_map, List.map_map]
  apply List.map_congr_left
  intro pattern member
  exact congrArg Path.absolute (baseParts_written lists.plain (plain_expanded (plain pattern member))
    (readableFrom_expanded (lists.seen.readable pattern (List.mem_append_left _ member))))

/-- If a pattern is one of the directory itself, the search comes only to files below it. -/
theorem below_of_finds (lists : Lists folder config includes excludes)
    (plain : ∀ pattern ∈ includes, Path.Plain pattern) {file : List String}
    (found : SearchFinds config.root
      ((includes.map (expanded folder)).map (writtenIn config.root)) file)
    {pattern : List String} (listed : pattern ∈ includes ++ excludes)
    (here : literalLead pattern = config.root) :
    ∃ rest, rest ≠ [] ∧ file = config.root ++ rest := by
  obtain ⟨text, member, -, reached⟩ := found
  obtain ⟨start, inStarts, rfl⟩ := List.mem_map.mp member
  obtain ⟨other, included, rfl⟩ := List.mem_map.mp inStarts
  have readable : ReadableFrom config.root (expanded folder other) :=
    readableFrom_expanded (lists.seen.readable other (List.mem_append_left _ included))
  rw [baseParts_written lists.plain (plain_expanded (plain other included)) readable,
    reaches_iff] at reached
  obtain ⟨more, some, rfl, -⟩ := reached
  have above : config.root <+: literalLead (expanded folder other) := by
    rw [literalLead_expanded]
    exact lists.seen.below pattern listed here other included
  have base : config.root <+: searchBase (expanded folder other) := by
    rw [searchBase]
    split
    · rename_i literal
      rw [lead_of_rest_nil literal] at above
      obtain ⟨rest, whole⟩ := above
      have filled : rest ≠ [] := by
        intro none
        rw [none, List.append_nil] at whole
        rcases readable with away | ⟨-, differ⟩
        · rw [lead_of_rest_nil literal, ← whole] at away
          exact away List.prefix_rfl
        · exact differ whole.symm
      rw [← whole, List.dropLast_append_of_ne_nil filled]
      exact List.prefix_append _ _
    · exact above
  obtain ⟨rest, whole⟩ := base
  exact ⟨rest ++ more, by simp [some], by rw [← whole, List.append_assoc]⟩

/-- What the patterns take in can be said without the directory of the configuration. -/
theorem admits_iff (lists : Lists folder config includes excludes)
    (plain : ∀ pattern ∈ includes ++ excludes, Path.Plain pattern) {file : List String}
    (plainFile : Path.Plain file)
    (found : SearchFinds config.root
      ((includes.map (expanded folder)).map (writtenIn config.root)) file) :
    config.admits (((includes.map (expanded folder)).map (writtenIn config.root)).map Glob.ofText)
        ((excludes.map (writtenIn config.root)).map Glob.ofText) file = true ↔
      (∃ pattern ∈ includes, Covers (expanded folder pattern) file) ∧
        ¬∃ pattern ∈ excludes, ∃ above, above <+: file ∧ Covers pattern above := by
  have plainIncluded : ∀ pattern ∈ includes, Path.Plain pattern :=
    fun pattern member => plain pattern (List.mem_append_left _ member)
  have below {pattern : List String} (listed : pattern ∈ includes ++ excludes) :=
    lists.below_of_finds plainIncluded found listed
  have fits {pattern : List String} (member : pattern ∈ includes) :
      (Glob.ofText (writtenIn config.root (expanded folder pattern))).fits
        (Path.routeText (Path.route config.root file)).toList = true ↔
      Covers (expanded folder pattern) file := by
    have listed : pattern ∈ includes ++ excludes := List.mem_append_left _ member
    refine fits_written lists.plain (plain_expanded (plain pattern listed)) plainFile
      (readableFrom_expanded (lists.seen.readable pattern listed)) ?_
    rw [literalLead_expanded]
    exact below listed
  have fitsAbove {pattern : List String} (member : pattern ∈ excludes) :
      (Glob.ancestry (Path.routeText (Path.route config.root file)).toList).any
        (Glob.ofText (writtenIn config.root pattern)).fits = true ↔
      ∃ above, above <+: file ∧ Covers pattern above := by
    have listed : pattern ∈ includes ++ excludes := List.mem_append_right _ member
    exact fits_written_above lists.plain (plain pattern listed) plainFile
      (lists.seen.readable pattern listed) (below listed)
  rw [ProjectConfig.admits_iff, ← Bool.not_eq_true, Glob.fitsAtOrAbove, List.any_eq_true]
  -- Both lists are read pattern by pattern.
  refine and_congr ?_ (not_congr ?_)
  · simp only [List.mem_map, exists_exists_and_eq_and]
    exact exists_congr fun pattern => and_congr_right fits
  · simp only [List.mem_map, exists_exists_and_eq_and]
    exact exists_congr fun pattern => and_congr_right fitsAbove

end Lists

/-- Two configurations that list the same patterns, each written for its own directory, find the
same files. -/
theorem sourcePlaces_of_lists {first second : ProjectConfig}
    (lists : Lists folder first includes excludes) (listsToo : Lists folder second includes excludes)
    (plain : ∀ pattern ∈ includes ++ excludes, Path.Plain pattern)
    (plainFiles : ∀ file ∈ folder.files, Path.Plain file.1)
    (options : first.options = second.options) :
    first.sourcePlaces folder = second.sourcePlaces folder := by
  have plainIncluded : ∀ pattern ∈ includes, Path.Plain pattern :=
    fun pattern member => plain pattern (List.mem_append_left _ member)
  have roots : walkRoots (.absolute first.root)
        ((includes.map (expanded folder)).map (writtenIn first.root)) =
      walkRoots (.absolute second.root)
        ((includes.map (expanded folder)).map (writtenIn second.root)) := by
    rw [walkRoots, walkRoots, lists.bases plainIncluded, listsToo.bases plainIncluded]
  have endings (file : List String) : first.hasExtension file = second.hasExtension file := by
    have js : first.allowsJs = second.allowsJs := by
      rw [ProjectConfig.allowsJs, ProjectConfig.allowsJs, options]
    rw [ProjectConfig.hasExtension, ProjectConfig.hasExtension, ProjectConfig.extensions,
      ProjectConfig.extensions, js]
  have found : first.foundFiles folder ((includes.map (expanded folder)).map (writtenIn first.root))
        (excludes.map (writtenIn first.root)) =
      second.foundFiles folder ((includes.map (expanded folder)).map (writtenIn second.root))
        (excludes.map (writtenIn second.root)) := by
    apply List.filter_congr
    intro file member
    have plainFile : Path.Plain file := by
      obtain ⟨entry, known, rfl⟩ := List.mem_map.mp member
      exact plainFiles entry known
    rw [endings]
    cases reached : (walkRoots (.absolute second.root)
        ((includes.map (expanded folder)).map (writtenIn second.root))).any
      (fun root => reaches root.parts file) with
    | false => rw [roots, reached, Bool.and_false, Bool.false_and, Bool.false_and]
    | true =>
      have finds := any_walkRoots.mp reached
      have findsToo := any_walkRoots.mp (roots ▸ reached)
      have admitted := (lists.admits_iff plain plainFile findsToo).trans
        (listsToo.admits_iff plain plainFile finds).symm
      rw [roots, reached, Bool.eq_iff_iff.mpr admitted]
  rw [ProjectConfig.sourcePlaces_eq lists.noFiles (lists.includePatterns plainIncluded)
      lists.excludePatterns,
    ProjectConfig.sourcePlaces_eq listsToo.noFiles (listsToo.includePatterns plainIncluded)
      listsToo.excludePatterns, found, ProjectConfig.rootFault?, roots]
  rfl

end Configurations

section Inheritance

/-- The absolute parts of a pattern of a directory. -/
def absolutePattern (directory : List String) (pattern : String) : List String :=
  Path.normalParts true [] (directory ++ (Path.ofText pattern).parts)

/-- A pattern with a relative path that leads straight to what it names, with slashes only. -/
structure SpelledPlainly (directory : List String) (pattern : String) : Prop where
  relative : (Path.ofText pattern).isAbsolute = false
  normal : Glob.normalize pattern = writtenIn directory (absolutePattern directory pattern)
  straight : ∀ part ∈ absolutePattern directory pattern, '\\' ∉ part.toList

instance (directory : List String) (pattern : String) :
    Decidable (SpelledPlainly directory pattern) :=
  decidable_of_iff (_ ∧ _ ∧ _)
    ⟨fun h => ⟨h.1, h.2.1, h.2.2⟩, fun spelled => ⟨spelled.relative, spelled.normal, spelled.straight⟩⟩

theorem plain_normalParts {gathered parts : List String} (before : Path.Plain gathered)
    (steps : ∀ part ∈ parts, IsStep part) : Path.Plain (Path.normalParts true gathered parts) := by
  induction parts generalizing gathered with
  | nil => exact before.of_subset fun _ => List.mem_reverse.mp
  | cons part rest ih =>
    obtain ⟨step, later⟩ := List.forall_mem_cons.mp steps
    by_cases up : part = ".."
    · subst up
      cases gathered with
      | nil => simpa [Path.normalParts] using ih before later
      | cons last earlier =>
        obtain ⟨name, others⟩ := List.forall_mem_cons.mp before
        simpa [Path.normalParts, name.2.2.1] using ih others later
    · have named := step.resolve_left up
      simpa [Path.normalParts, up] using ih (List.forall_mem_cons.mpr ⟨named, before⟩) later

theorem plain_absolutePattern {directory : List String} (plain : Path.Plain directory)
    (pattern : String) : Path.Plain (absolutePattern directory pattern) := by
  apply plain_normalParts (by simp [Path.Plain])
  intro part member
  rcases List.mem_append.mp member with above | below
  · exact .inr (plain part above)
  · obtain ⟨listed, kept⟩ := List.mem_filter.mp below
    have named : part ≠ "" ∧ part ≠ "." := by simpa using kept
    by_cases up : part = ".."
    · exact .inl up
    · exact .inr ⟨named.1, named.2, up, notMem_of_mem_splitText listed⟩

/-- A list of patterns as it is written in a directory. -/
def writtenList (directory : List String) (patterns : List (List String)) : Json :=
  .arr ((patterns.map (writtenIn directory)).map .str)

/-- A configuration at some place whose patterns are written for its directory. -/
def writtenConfig (place : List String) (includes excludes : List (List String))
    (options : Json.Table) : ProjectConfig :=
  ⟨place, [], writtenList place.dropLast includes, writtenList place.dropLast excludes, options⟩

namespace ProjectConfig

theorem rebasePatterns_written (source target : List String) {texts : List String}
    (relative : ∀ text ∈ texts, (Path.ofText text).isAbsolute = false) :
    rebasePatterns source target (.arr (texts.map .str)) =
      .ok (writtenList target (texts.map (absolutePattern source))) := by
  have each : (texts.map Json.str).mapM (rebasePath source target) =
      .ok (texts.map fun text => .str (writtenIn target (absolutePattern source text))) := by
    apply mapM_map_ok
    intro text member
    simp [rebasePath, relative text member, writtenIn, absolutePattern]
  have items : (Json.arr (texts.map .str)).elements = .ok (texts.map .str) := rfl
  simp only [rebasePatterns, items, bind, Except.bind, each, writtenList, List.map_map]
  rfl

/-- What a configuration that only extends another one takes over from it. -/
theorem inherit_unset (place : List String) {parent : ProjectConfig} {includes excludes : List String}
    (noFiles : parent.files = []) (included : parent.included = .arr (includes.map .str))
    (excluded : parent.excluded = .arr (excludes.map .str))
    (relative : ∀ text ∈ includes ++ excludes, (Path.ofText text).isAbsolute = false) :
    (unset place).inherit parent =
      .ok (writtenConfig place (includes.map (absolutePattern parent.root))
        (excludes.map (absolutePattern parent.root)) parent.options) := by
  have first := rebasePatterns_written parent.root place.dropLast
    fun text member => relative text (List.mem_append_left excludes member)
  have second := rebasePatterns_written parent.root place.dropLast
    fun text member => relative text (List.mem_append_right includes member)
  have here : (unset place).root = place.dropLast := rfl
  unfold inherit
  rw [noFiles, included, excluded, here]
  refine (bind_of_ok rfl).trans ?_
  refine (bind_of_ok first).trans ?_
  exact bind_of_ok second

end ProjectConfig

theorem normalize_written {directory pattern : List String} (plain : Path.Plain pattern)
    (straight : ∀ part ∈ pattern, '\\' ∉ part.toList)
    (away : Path.route directory pattern ≠ []) :
    Glob.normalize (writtenIn directory pattern) = writtenIn directory pattern := by
  refine normalize_routeText away (fun part member => Path.mem_route plain member) ?_
  obtain ⟨common, up, down, -, whole, along⟩ := Path.exists_fork directory pattern
  intro part member
  rw [along, List.mem_append] at member
  rcases member with above | below
  · rw [List.eq_of_mem_replicate above]
    decide
  · exact straight part (whole ▸ List.mem_append_right _ below)

theorem Folder.isDirectory_dropLast {folder : Folder} {place : List String}
    (h : (folder.file? place).isSome = true) : folder.isDirectory place.dropLast = true := by
  obtain ⟨file, found⟩ := Option.isSome_iff_exists.mp h
  rw [isDirectory_iff]
  by_cases none : place = []
  · left
    rw [none]
    rfl
  · refine .inr (.inr ⟨_, mem_of_file? found, List.dropLast_prefix place, ?_⟩)
    intro same
    have shorter : place.length = place.dropLast.length := congrArg List.length same
    have filled := List.length_pos_iff.mpr none
    rw [List.length_dropLast] at shorter
    omega

/-- The parts of a pattern that leads above a directory, as it is written there. -/
theorem route_of_above {directory pattern : List String}
    (literal : ∀ part ∈ directory, Glob.hasWildcard part = false)
    (above : literalLead pattern <+: directory) (strictly : literalLead pattern ≠ directory) :
    ∃ more, Path.route directory pattern = ".." :: more := by
  obtain ⟨down, whole⟩ := above
  have filled : down ≠ [] := by
    intro none
    rw [none, List.append_nil] at whole
    exact strictly whole
  obtain ⟨name, others, rfl⟩ := List.exists_cons_of_ne_nil filled
  have tame : Glob.hasWildcard name = false := literal name (by simp [← whole])
  have along : Path.route directory pattern = Path.route (name :: others) (wildRest pattern) := by
    have both := Path.route_append_append (literalLead pattern) (name :: others) (wildRest pattern)
    rwa [whole, lead_append_rest] at both
  rw [along]
  by_cases none : wildRest pattern = []
  · exact ⟨List.replicate others.length "..", by
      simp [none, Path.route, Path.afterCommon, List.replicate_succ]⟩
  · obtain ⟨part, rest, same, wild⟩ := exists_wild none
    have differ : name ≠ part := by
      intro equal
      rw [equal, wild] at tame
      cases tame
    exact ⟨List.replicate others.length ".." ++ part :: rest, by
      simp [same, Path.route, Path.afterCommon, differ, List.replicate_succ]⟩

/-- Below a directory, nothing fits a pattern that begins with a step up. -/
theorem not_fits_up {directory file more : List String} {pattern : String}
    (written : pattern.toList = slashed (".." :: more)) (plain : Path.Plain file)
    (below : directory <+: file) :
    (Glob.ofText pattern).fits (Path.routeText (Path.route directory file)).toList = false := by
  rw [Bool.eq_false_iff]
  intro fits
  obtain ⟨rest, rfl⟩ := below
  have single : ∀ part ∈ [".."], Glob.hasWildcard part = false ∧ '/' ∉ part.toList := by decide
  have shape : pattern.toList = slashed ([".."] ++ more) := written
  rw [Path.route_below, Glob.ofText, shape] at fits
  by_cases none : rest = []
  · rw [none] at fits
    have dotted : (Glob.ofChars (slashed ([".."] ++ more))).fits (slashed ["."]) = true := fits
    rw [Glob.fits_iff (by simp) (by simp) single (by decide)] at dotted
    obtain ⟨others, same, -⟩ := dotted
    exact absurd (List.cons.inj same).1 (by decide)
  · rw [Path.routeText_toList none,
      Glob.fits_iff (by simp) none single plain.right.noSlash] at fits
    obtain ⟨others, same, -⟩ := fits
    have up : ".." ∈ rest := by simp [same]
    exact plain.right.noUp _ up rfl

/-- If all include patterns lead above the directory of a configuration, it finds no file below its
directory. -/
theorem not_below_of_above {folder : Folder} {place : List String}
    {includes excludes : List (List String)} {options : Json.Table}
    (plainFiles : ∀ file ∈ folder.files, Path.Plain file.1)
    (plain : ∀ pattern ∈ includes, Path.Plain pattern)
    (straight : ∀ pattern ∈ includes, ∀ part ∈ pattern, '\\' ∉ part.toList)
    (literal : ∀ part ∈ place.dropLast, Glob.hasWildcard part = false)
    (above : ∀ pattern ∈ includes,
      literalLead pattern <+: place.dropLast ∧ literalLead pattern ≠ place.dropLast)
    {places : List (List String)}
    (found : (writtenConfig place includes excludes options).sourcePlaces folder = .ok places) :
    ∀ file ∈ places, ¬place.dropLast <+: file := by
  obtain ⟨patterns, _, reading, -, -, rfl⟩ := (ProjectConfig.sourcePlaces_eq_ok rfl).mp found
  have each : (includes.map fun pattern => Json.str (writtenIn place.dropLast pattern)).mapM
      ((writtenConfig place includes excludes options).directoryPattern folder) = .ok patterns := by
    rw [← reading, ProjectConfig.includePatterns]
    show _ = ((includes.map (writtenIn place.dropLast)).map Json.str).mapM _
    rw [List.map_map]
    rfl
  intro file member below
  rw [Path.mem_sortUnique, ProjectConfig.mem_foundFiles, ProjectConfig.admits_iff] at member
  obtain ⟨there, -, -, ⟨pattern, listed, fits⟩, -⟩ := member
  have plainFile : Path.Plain file := by
    obtain ⟨entry, known, rfl⟩ := List.mem_map.mp there
    exact plainFiles entry known
  obtain ⟨item, inItems, expands⟩ := exists_of_forall₂ (forall₂_of_mapM each) listed
  obtain ⟨source, inIncludes, rfl⟩ := List.mem_map.mp inItems
  obtain ⟨more, along⟩ :=
    route_of_above literal (above source inIncludes).1 (above source inIncludes).2
  have some : Path.route place.dropLast source ≠ [] := by simp [along]
  obtain ⟨text, same, -, shown⟩ := (ProjectConfig.directoryPattern_eq_ok _ folder _ _).mp expands
  obtain rfl := Json.str.inj same
  rw [shown, ProjectConfig.includePattern,
    normalize_written (plain source inIncludes) (straight source inIncludes) some] at fits
  have written : (writtenIn place.dropLast source).toList = slashed (".." :: more) := by
    rw [writtenIn, Path.routeText_toList some, along]
  have starts : ∃ rest, ((writtenConfig place includes excludes options).expandedText folder
      (writtenIn place.dropLast source)).toList = slashed (".." :: rest) := by
    rcases ProjectConfig.expandedText_cases (writtenConfig place includes excludes options) folder
      (writtenIn place.dropLast source) with kept | longer
    · rw [kept]
      exact ⟨more, written⟩
    · refine ⟨more ++ ["**", "*"], ?_⟩
      rw [longer, String.toList_append, written, ← List.cons_append,
        slashed_append (by simp) (by simp)]
      rfl
  obtain ⟨rest, same⟩ := starts
  have fails := not_fits_up same plainFile below
  exact Bool.false_ne_true (fails.symm.trans fits)

theorem plain_of_file {folder : Folder} (plainFiles : ∀ file ∈ folder.files, Path.Plain file.1)
    {place : List String} (there : (folder.file? place).isSome = true) : Path.Plain place := by
  obtain ⟨file, found⟩ := Option.isSome_iff_exists.mp there
  exact plainFiles _ (Folder.mem_of_file? found)

/-- Patterns that are spelled plainly are those of the directory. -/
theorem lists_of_spelled {folder : Folder} {config : ProjectConfig} {includes excludes : List String}
    (noFiles : config.files = []) (included : config.included = .arr (includes.map .str))
    (excluded : config.excluded = .arr (excludes.map .str))
    (there : (folder.file? config.place).isSome = true) (plain : Path.Plain config.root)
    (spelled : ∀ pattern ∈ includes ++ excludes, SpelledPlainly config.root pattern)
    (seen : SeenFrom folder config.root (includes.map (absolutePattern config.root))
      (excludes.map (absolutePattern config.root))) :
    Lists folder config (includes.map (absolutePattern config.root))
      (excludes.map (absolutePattern config.root)) where
  noFiles := noFiles
  plain := plain
  inside := Folder.isDirectory_dropLast there
  included := by
    refine ⟨includes, included, ?_⟩
    rw [List.map_map]
    exact List.map_congr_left fun text member => (spelled text (List.mem_append_left _ member)).normal
  excluded := by
    refine ⟨excludes, excluded, ?_⟩
    rw [List.map_map]
    exact List.map_congr_left fun text member => (spelled text (List.mem_append_right _ member)).normal
  seen := seen

/-- Patterns that were written anew for a directory are those of the directory. -/
theorem lists_of_written {folder : Folder} {place : List String}
    {includes excludes : List (List String)} (options : Json.Table)
    (there : (folder.file? place).isSome = true) (plainRoot : Path.Plain place.dropLast)
    (plain : ∀ pattern ∈ includes ++ excludes, Path.Plain pattern)
    (straight : ∀ pattern ∈ includes ++ excludes, ∀ part ∈ pattern, '\\' ∉ part.toList)
    (seen : SeenFrom folder place.dropLast includes excludes) :
    Lists folder (writtenConfig place includes excludes options) includes excludes := by
  have normal : ∀ pattern ∈ includes ++ excludes,
      Glob.normalize (writtenIn place.dropLast pattern) = writtenIn place.dropLast pattern := by
    intro pattern member
    obtain ⟨literal, along, some, -⟩ :=
      exists_literal_route (plain pattern member) (seen.readable pattern member)
    exact normalize_written (plain pattern member) (straight pattern member) (by rw [along]; exact some)
  exact {
    noFiles := rfl
    plain := plainRoot
    inside := Folder.isDirectory_dropLast there
    included := by
      refine ⟨_, rfl, ?_⟩
      rw [List.map_map]
      exact List.map_congr_left fun pattern member => normal pattern (List.mem_append_left _ member)
    excluded := by
      refine ⟨_, rfl, ?_⟩
      rw [List.map_map]
      exact List.map_congr_left fun pattern member => normal pattern (List.mem_append_right _ member)
    seen := seen }

/-- A configuration that only extends another one can be read if the other can. It finds the same
files if all patterns of the other can be read from both directories. If all include patterns lead
above its directory, though, it finds no file below its directory. -/
theorem inherited_patterns_exact {folder : Folder}
    (plainFiles : ∀ file ∈ folder.files, Path.Plain file.1)
    {parentBase parentName base name reference : String} {path target : Path}
    {parent : ProjectConfig} {includes excludes : List String}
    (loads : ProjectConfig.load folder parentBase parentName = .ok parent)
    (noFiles : parent.files = []) (included : parent.included = .arr (includes.map .str))
    (excluded : parent.excluded = .arr (excludes.map .str))
    (finds : ProjectConfig.find? folder base name = .ok (some path))
    (given : ProjectConfig.document folder (folder.resolve path) =
      .ok (ProjectConfig.extending reference))
    (refers : ProjectConfig.resolveExtends folder (folder.resolve path).dropLast (.str reference) =
      .ok target)
    (isParent : folder.resolve target = parent.place)
    (spelled : ∀ pattern ∈ includes ++ excludes, SpelledPlainly parent.root pattern) :
    ∃ child, ProjectConfig.load folder base name = .ok child ∧
      child.place = folder.resolve path ∧
      (SeenFrom folder parent.root (includes.map (absolutePattern parent.root))
          (excludes.map (absolutePattern parent.root)) →
        SeenFrom folder child.root (includes.map (absolutePattern parent.root))
          (excludes.map (absolutePattern parent.root)) →
        child.sourcePlaces folder = parent.sourcePlaces folder) ∧
      ((∀ part ∈ child.root, Glob.hasWildcard part = false) →
        (∀ pattern ∈ includes, literalLead (absolutePattern parent.root pattern) <+: child.root ∧
          literalLead (absolutePattern parent.root pattern) ≠ child.root) →
        ∀ places, child.sourcePlaces folder = .ok places →
          ∀ file ∈ places, ¬child.root <+: file) := by
  obtain ⟨parentPath, new, -, reads⟩ := ProjectConfig.reads_of_load loads
  have parentThere : (folder.file? parent.place).isSome = true := by
    rw [reads.at_place]
    exact reads.adds.there _ reads.own
  have childThere := ProjectConfig.exists_file_of_document given
  have plainParent : Path.Plain parent.root :=
    (plain_of_file plainFiles parentThere).of_subset (List.dropLast_subset _)
  have plainChild : Path.Plain (folder.resolve path).dropLast :=
    (plain_of_file plainFiles childThere).of_subset (List.dropLast_subset _)
  have named : ∀ pattern ∈ includes.map (absolutePattern parent.root) ++
      excludes.map (absolutePattern parent.root),
      Path.Plain pattern ∧ ∀ part ∈ pattern, '\\' ∉ part.toList := by
    intro pattern member
    rw [← List.map_append] at member
    obtain ⟨text, listed, rfl⟩ := List.mem_map.mp member
    exact ⟨plain_absolutePattern plainParent text, (spelled text listed).straight⟩
  have inherits := ProjectConfig.inherit_unset (folder.resolve path) noFiles included
    excluded fun text member => (spelled text member).relative
  refine ⟨_, ProjectConfig.load_extending finds given refers (isParent.trans reads.at_place) reads
    inherits, rfl, ?_, ?_⟩
  · intro seen seenToo
    have child := lists_of_written parent.options childThere plainChild
      (fun pattern member => (named pattern member).1)
      (fun pattern member => (named pattern member).2) seenToo
    have own := lists_of_spelled noFiles included excluded parentThere plainParent spelled seen
    exact sourcePlaces_of_lists child own (fun pattern member => (named pattern member).1)
      plainFiles rfl
  · intro literal above places found
    refine not_below_of_above plainFiles ?_ ?_ literal ?_ found
    · exact fun pattern member => (named pattern (List.mem_append_left _ member)).1
    · exact fun pattern member => (named pattern (List.mem_append_left _ member)).2
    · intro pattern member
      obtain ⟨text, listed, rfl⟩ := List.mem_map.mp member
      exact above text listed

end Inheritance

namespace Extended

/-- Two projects, each with a project beside or below it that extends it. -/
def folder : Folder where
  files := [(["app", "main.ts"], .ofText ""),
    (["app", "tsconfig.json"], .ofText "\x7b\"extends\": \"../tsconfig.json\"\x7d"),
    (["base", "src", "a.ts"], .ofText ""), (["base", "src", "gen", "g.ts"], .ofText ""),
    (["base", "tsconfig.json"],
      .ofText "\x7b\"include\": [\"src/**/*\"], \"exclude\": [\"src/gen\"]\x7d"),
    (["tsconfig.json"], .ofText "\x7b\"include\": [\"**/*\"], \"exclude\": []\x7d"),
    (["web", "tsconfig.json"], .ofText "\x7b\"extends\": \"../base/tsconfig.json\"\x7d")]
  directories := []
  current := []

def base : ProjectConfig :=
  ⟨["base", "tsconfig.json"], [], .arr [.str "src/**/*"], .arr [.str "src/gen"], []⟩

theorem contents : ProjectConfig.load folder "base" "tsconfig.json" = .ok base ∧
    ProjectConfig.document folder ["web", "tsconfig.json"] =
      .ok (ProjectConfig.extending "../base/tsconfig.json") ∧
    base.sourcePlaces folder = .ok [["base", "src", "a.ts"]] := by
  decide +kernel

theorem load_base : ProjectConfig.load folder "base" "tsconfig.json" = .ok base := contents.1

theorem document_web : ProjectConfig.document folder ["web", "tsconfig.json"] =
    .ok (ProjectConfig.extending "../base/tsconfig.json") := contents.2.1

theorem sourcePlaces_base : base.sourcePlaces folder = .ok [["base", "src", "a.ts"]] := contents.2.2

theorem plain_files : ∀ file ∈ folder.files, Path.Plain file.1 := by decide

theorem find_web : ProjectConfig.find? folder "web" "tsconfig.json" =
    .ok (some (.absolute ["web", "tsconfig.json"])) := by
  decide

theorem resolve_web : ProjectConfig.resolveExtends folder ["web"] (.str "../base/tsconfig.json") =
    .ok (.absolute ["web", "..", "base", "tsconfig.json"]) := by
  decide

theorem inherited_patterns_exact_web :
    ∃ child, ProjectConfig.load folder "web" "tsconfig.json" = .ok child ∧
      child.sourcePlaces folder = .ok [["base", "src", "a.ts"]] := by
  have included : base.included = .arr (["src/**/*"].map .str) := rfl
  have excluded : base.excluded = .arr (["src/gen"].map .str) := rfl
  obtain ⟨child, loads, place, same, -⟩ := inherited_patterns_exact plain_files load_base rfl
    included excluded find_web document_web resolve_web (by decide +kernel) (by decide +kernel)
  have root : child.root = ["web"] := congrArg List.dropLast place
  refine ⟨child, loads, ?_⟩
  rw [same (by decide +kernel) (by rw [root]; decide +kernel)]
  exact sourcePlaces_base

def top : ProjectConfig := ⟨["tsconfig.json"], [], .arr [.str "**/*"], .arr [], []⟩

def app : ProjectConfig := ⟨["app", "tsconfig.json"], [], .arr [.str "../**/*"], .arr [], []⟩

theorem sourcePlaces_nested : top.sourcePlaces folder =
      .ok [["app", "main.ts"], ["base", "src", "a.ts"], ["base", "src", "gen", "g.ts"]] ∧
    app.sourcePlaces folder = .ok [["base", "src", "a.ts"], ["base", "src", "gen", "g.ts"]] :=
  ⟨ProjectConfig.sourcePlaces_of_found rfl rfl rfl (by decide +kernel) (by decide +kernel)
      (by decide +kernel),
    ProjectConfig.sourcePlaces_of_found rfl rfl rfl (by decide +kernel) (by decide +kernel)
      (by decide +kernel)⟩

theorem sourcePlaces_top : top.sourcePlaces folder =
    .ok [["app", "main.ts"], ["base", "src", "a.ts"], ["base", "src", "gen", "g.ts"]] :=
  sourcePlaces_nested.1

theorem sourcePlaces_app : app.sourcePlaces folder =
    .ok [["base", "src", "a.ts"], ["base", "src", "gen", "g.ts"]] :=
  sourcePlaces_nested.2

/-- A project that extends the one above it does not find its own files by the pattern for
everything. -/
theorem inherited_patterns_lose_own :
    ProjectConfig.load folder "" "tsconfig.json" = .ok top ∧
      ProjectConfig.document folder ["app", "tsconfig.json"] =
        .ok (ProjectConfig.extending "../tsconfig.json") ∧
      ProjectConfig.load folder "app" "tsconfig.json" = .ok app ∧
      top.sourcePlaces folder =
        .ok [["app", "main.ts"], ["base", "src", "a.ts"], ["base", "src", "gen", "g.ts"]] ∧
      app.sourcePlaces folder = .ok [["base", "src", "a.ts"], ["base", "src", "gen", "g.ts"]] :=
  ⟨by decide +kernel, by decide +kernel, by decide +kernel, sourcePlaces_top, sourcePlaces_app⟩

end Extended

end LeastGrant
