import LeastGrant.Proofs.DirectoryPatterns
import LeastGrant.Proofs.InheritedPatterns
import LeastGrant.Proofs.ListedSources

/-! Include entries that name a directory. Such an entry stands for everything below the directory. This
holds of entries that are spelled as the route to a directory away from the configuration. From the
directory of the configuration itself an entry takes in nothing, however it is spelled, and from a
directory above it nothing on the way down to the configuration. -/
namespace LeastGrant

open Text

namespace Path

section Spelling

/-- The parts of a path that count. -/
def countedParts (text : List Char) : List String :=
  ((split '/' text).map String.ofList).filter fun part => part != "" && part != "."

theorem parts_ofText (text : String) : (ofText text).parts = countedParts text.toList :=
  rfl

theorem filter_splitText (text : String) :
    ((splitText '/' text).filter fun part => part != "" && part != ".") = (ofText text).parts :=
  rfl

theorem countedParts_slash (a b : List Char) :
    countedParts (a ++ '/' :: b) = countedParts a ++ countedParts b := by
  rw [countedParts, split_append_separator, List.map_append, List.filter_append]
  rfl

theorem countedParts_slashes (a : List Char) {b : List Char} (slashes : ∀ c ∈ b, c = '/') :
    countedParts (a ++ b) = countedParts a := by
  induction b generalizing a with
  | nil => rw [List.append_nil]
  | cons c rest ih =>
    obtain ⟨rfl, later⟩ := List.forall_mem_cons.mp slashes
    have nothing : countedParts rest = [] := ih [] later
    rw [countedParts_slash, nothing, List.append_nil]

theorem countedParts_dropDotSlash (text : List Char) :
    countedParts (Glob.dropDotSlash text) = countedParts text := by
  fun_induction Glob.dropDotSlash text with
  | case1 rest ih =>
    rw [ih]
    exact (countedParts_slash ['.'] rest).symm
  | case2 => rfl

theorem isAbsolute_append (root : List String) {path : Path} (relative : path.isAbsolute = false) :
    (absolute root ++ path).isAbsolute = true := by
  show (append _ _).isAbsolute = true
  rw [append, relative]
  rfl

end Spelling

end Path

namespace Glob

/-- An entry with slashes for backslashes. -/
def withSlashes (entry : String) : String :=
  String.ofList (entry.toList.map fun c => if c == '\\' then '/' else c)

/-- The normal spelling of an entry has the parts of the entry. -/
theorem parts_normalize (entry : String) :
    (Path.ofText (normalize entry)).parts = (Path.ofText (withSlashes entry)).parts := by
  have normal : (normalize entry).toList =
      ((dropDotSlash (withSlashes entry).toList).reverse.dropWhile (· == '/')).reverse := by
    simp [normalize, withSlashes]
  rw [Path.parts_ofText, Path.parts_ofText, normal,
    ← Path.countedParts_dropDotSlash (withSlashes entry).toList]
  generalize dropDotSlash (withSlashes entry).toList = text
  have slashes : ∀ c ∈ (text.reverse.takeWhile (· == '/')).reverse, c = '/' := by
    intro c member
    simpa using List.mem_takeWhile_imp (List.mem_reverse.mp member)
  have whole : text = (text.reverse.dropWhile (· == '/')).reverse ++
      (text.reverse.takeWhile (· == '/')).reverse := by
    rw [← List.reverse_append, List.takeWhile_append_dropWhile, List.reverse_reverse]
  conv_rhs => rw [whole]
  exact (Path.countedParts_slashes _ slashes).symm

end Glob

namespace Folder

/-- A folder whose files and directories have names that can be looked up. -/
structure WellNamed (folder : Folder) : Prop where
  files : ∀ file ∈ folder.files, ∀ name ∈ file.1,
    Path.IsName name ∧ ProjectConfig.pathFault? name = none
  directories : ∀ directory ∈ folder.directories, ∀ name ∈ directory,
    Path.IsName name ∧ ProjectConfig.pathFault? name = none

variable {folder : Folder}

theorem WellNamed.of_isDirectory (named : folder.WellNamed) {place : List String}
    (inside : folder.isDirectory place = true) :
    ∀ name ∈ place, Path.IsName name ∧ ProjectConfig.pathFault? name = none := by
  rcases isDirectory_iff.mp inside with rfl | ⟨directory, known, above⟩ | ⟨file, known, above, -⟩
  · simp
  · exact fun name member => named.directories directory known name (above.subset member)
  · exact fun name member => named.files file known name (above.subset member)

theorem WellNamed.plain (named : folder.WellNamed) {place : List String}
    (inside : folder.isDirectory place = true) : Path.Plain place :=
  fun name member => (named.of_isDirectory inside name member).1

theorem normalParts_of_follow {place parts goal : List String} (plain : ∀ part ∈ place, part ≠ "..")
    (h : folder.follow place parts = some goal) :
    Path.normalParts true place.reverse parts = goal := by
  induction parts generalizing place with
  | nil =>
    cases h
    exact List.reverse_reverse _
  | cons part rest ih =>
    rw [follow] at h
    split at h
    · by_cases up : part = ".."
      · subst up
        rw [if_pos rfl] at h
        have later := ih (fun name member => plain name (List.dropLast_subset _ member)) h
        cases steps : place.reverse with
        | nil =>
          rw [List.reverse_eq_nil_iff.mp steps] at later
          simpa [Path.normalParts] using later
        | cons last before =>
          have whole : place = before.reverse ++ [last] := by
            simpa using congrArg List.reverse steps
          rw [whole, List.dropLast_concat, List.reverse_reverse] at later
          have named : last ≠ ".." := plain last (by simp [whole])
          simpa [Path.normalParts, named] using later
      · rw [if_neg up] at h
        have later := ih (List.forall_mem_append.mpr ⟨plain, by simpa using up⟩) h
        simpa [Path.normalParts, up] using later
    · cases h

/-- A way to a directory leads through directories only. -/
theorem exists_of_follow_append {place a b goal : List String}
    (h : folder.follow place (a ++ b) = some goal) (ends : folder.isDirectory goal = true) :
    ∃ next, folder.follow place a = some next ∧ folder.isDirectory next = true := by
  rw [follow_append] at h
  obtain ⟨next, first, second⟩ := Option.bind_eq_some_iff.mp h
  refine ⟨next, first, ?_⟩
  cases b with
  | nil =>
    cases second
    exact ends
  | cons part rest =>
    rw [follow] at second
    split at second
    · assumption
    · cases second

/-- A spelling of a directory, as it is written in another one. -/
structure Spells (folder : Folder) (root : List String) (entry : String) (place : List String) :
    Prop where
  relative : (Path.ofText (Glob.withSlashes entry)).isAbsolute = false
  leads : folder.locate? (.absolute root ++ Path.ofText (Glob.withSlashes entry)) = some place
  directory : folder.isDirectory place = true

variable {root place : List String} {entry : String}

theorem Spells.follow (spelled : folder.Spells root entry place) :
    folder.follow [] (root ++ (Path.ofText (Glob.normalize entry)).parts) = some place := by
  have way := spelled.leads
  rw [locate?, absoluteParts, Path.append_parts _ _ spelled.relative] at way
  rw [Glob.parts_normalize]
  rwa [if_pos (Path.isAbsolute_append root spelled.relative)] at way

theorem Spells.normalParts (spelled : folder.Spells root entry place) :
    Path.normalParts true [] (root ++ (Path.ofText (Glob.normalize entry)).parts) = place := by
  have leads := normalParts_of_follow (List.forall_mem_nil _) spelled.follow
  rwa [List.reverse_nil] at leads

/-- The parts before a wildcard lead to a directory too. -/
theorem Spells.isDirectory_front (spelled : folder.Spells root entry place) {front : List String}
    (start : front <+: splitText '/' (Glob.normalize entry)) :
    folder.isDirectory (Path.normalParts true []
      (root ++ front.filter fun part => part != "" && part != ".")) = true := by
  obtain ⟨rest, whole⟩ := start
  have way := spelled.follow
  rw [Path.ofText, ← whole, List.filter_append, ← List.append_assoc] at way
  obtain ⟨next, reached, inside⟩ := exists_of_follow_append way spelled.directory
  have leads := normalParts_of_follow (List.forall_mem_nil _) reached
  rw [List.reverse_nil] at leads
  rwa [leads]

end Folder

section Patterns

theorem patternLead_below {pattern : String} (literal : Glob.hasWildcard pattern = false) :
    patternLead (pattern ++ "/**/*") = splitText '/' pattern := by
  have tame : ∀ part ∈ splitText '/' pattern, (!Glob.hasWildcard part) = true := by
    intro part member
    rw [hasWildcard_of_mem_splitText literal member]
    rfl
  have stops : ["**", "*"].takeWhile (fun part => !Glob.hasWildcard part) = [] := by decide
  have kept : (splitText '/' pattern ++ ["**", "*"]).takeWhile
      (fun part => !Glob.hasWildcard part) = splitText '/' pattern := by
    rw [List.takeWhile_append_of_pos tame, stops, List.append_nil]
  rw [patternLead, splitText_below]
  simp [kept]

end Patterns

namespace ProjectConfig

variable {config : ProjectConfig} {folder : Folder} {entry : String} {place file : List String}

/-- A source file below a directory, with no directory on the way that a search skips. -/
structure SourceBelow (config : ProjectConfig) (folder : Folder) (place file : List String) : Prop where
  there : (folder.file? file).isSome = true
  named : ∃ ending ∈ config.extensions, endsIn ending (file.getLast?.getD "") = true
  below : ∃ between name, file = place ++ between ++ [name] ∧
    ∀ directory ∈ between, directory ∉ packageDirectories ∧ startsWith "." directory = false

/-- The listing of a configuration with one include entry. -/
theorem sourcePlaces_of_entry (noFiles : config.files = [])
    (including : config.included = .arr [.str entry]) (excluding : config.excluded = .arr [])
    (short : Glob.hasWildcard (Glob.normalize entry) = false →
      folder.isTooLong (config.entryPath (Glob.normalize entry)) = false)
    (clear : ∀ part ∈ baseParts config.root (config.includePattern folder entry),
      pathFault? part = none) :
    ∃ places, config.sourcePlaces folder = .ok places ∧ ∀ file, file ∈ places ↔
      config.SourceBelow folder (baseParts config.root (config.includePattern folder entry)) file ∧
        (Glob.ofText (config.includePattern folder entry)).Matches (config.relativePath file) := by
  let entries : Entries := ⟨[], [entry], []⟩
  have base : config.walkBases folder entries =
      [patternBase (.absolute config.root) (config.includePattern folder entry)] := by
    simp [walkBases, walkRoots, addRoot, entries]
  have given : config.HasEntries entries := by
    refine ⟨noFiles, ?_, ?_⟩
    · rw [ListsTexts, including]
      rfl
    · rw [ListsTexts, excluding]
      rfl
  have can : config.CanList folder entries := by
    refine ⟨by simp [entries], by simpa [entries] using short, ?_⟩
    rw [base]
    exact List.forall_mem_singleton.mpr clear
  refine ⟨_, sourcePlaces_of_entries.mpr ⟨entries, given, can, rfl⟩, fun file => ?_⟩
  rw [mem_listing]
  constructor
  · intro belongs
    rcases belongs with ⟨name, listed, -⟩ | found
    · cases listed
    · obtain ⟨first, listed, walked⟩ := found.walked
      obtain ⟨other, same, included⟩ := found.included
      rw [base, List.mem_singleton] at listed
      subst listed
      obtain rfl := List.mem_singleton.mp same
      exact ⟨⟨found.there, found.named, walked⟩, included⟩
  · intro h
    obtain ⟨source, included⟩ := h
    refine .inr ⟨source.there, source.named, ?_, ⟨entry, List.mem_singleton_self _, included⟩,
      by simp [entries]⟩
    rw [base]
    exact ⟨_, List.mem_singleton_self _, source.below⟩

section Matching

theorem matches_below_iff (literal : Glob.hasWildcard (Glob.normalize entry) = false)
    (plainFile : Path.Plain file) :
    (Glob.ofText (Glob.normalize entry ++ "/**/*")).Matches (config.relativePath file) ↔
      ∃ back, back ≠ [] ∧
        Path.route config.root file = splitText '/' (Glob.normalize entry) ++ back := by
  rw [← Glob.fits_iff_matches, relativePath]
  by_cases here : Path.route config.root file = []
  · have filled := List.length_pos_iff.mpr (splitText_ne_nil (Glob.normalize entry))
    refine iff_of_false ?_ ?_
    · rw [here]
      -- the route to the configuration itself is written as a dot
      show ¬(Glob.ofText _).fits (slashed ["."]) = true
      rw [Glob.fits_below literal (by simp) (by decide)]
      intro h
      obtain ⟨back, some, dot, -⟩ := h
      have total := congrArg List.length dot
      rw [List.length_append, List.length_singleton] at total
      have more := List.length_pos_iff.mpr some
      omega
    · intro h
      obtain ⟨back, some, along⟩ := h
      rw [here] at along
      exact some (List.append_eq_nil_iff.mp along.symm).2
  · rw [Path.routeText_toList here, Glob.fits_below literal here (Path.noSlash_of_route plainFile)]
    refine exists_congr fun back => and_congr_right fun _ => ⟨fun h => h.1, fun along => ⟨along, ?_⟩⟩
    intro part member
    have step : IsStep part :=
      Path.mem_route plainFile (along ▸ List.mem_append_right _ (List.dropLast_subset _ member))
    exact step.ne_empty

theorem empty_mem_splitText (rooted : (Path.ofText (Glob.normalize entry)).isAbsolute = true) :
    "" ∈ splitText '/' (Glob.normalize entry) := by
  generalize Glob.normalize entry = pattern at rooted ⊢
  have slashes : Path.leadingSlashes pattern.toList ≠ 0 := by
    simpa [Path.isAbsolute, Path.ofText] using rooted
  rw [splitText]
  cases chars : pattern.toList with
  | nil => simp [split]
  | cons c rest =>
    rw [chars] at slashes
    by_cases slash : c = '/'
    · simp [split, slash]
    · simp [Path.leadingSlashes, slash] at slashes

/-- An entry that begins with a slash in its normal spelling matches no path from the configuration
on. -/
theorem not_matches_rooted (literal : Glob.hasWildcard (Glob.normalize entry) = false)
    (rooted : (Path.ofText (Glob.normalize entry)).isAbsolute = true) (plainFile : Path.Plain file) :
    ¬(Glob.ofText (config.includePattern folder entry)).Matches (config.relativePath file) := by
  have front : ∀ part ∈ splitText '/' (Glob.normalize entry),
      Glob.hasWildcard part = false ∧ '/' ∉ part.toList :=
    fun part member => ⟨hasWildcard_of_mem_splitText literal member, notMem_of_mem_splitText member⟩
  have pieces : ∃ rest, splitText '/' (config.includePattern folder entry) =
      splitText '/' (Glob.normalize entry) ++ rest := by
    unfold includePattern expandedText
    split
    · exact ⟨_, splitText_below _⟩
    · exact ⟨[], (List.append_nil _).symm⟩
  have shown : ∃ parts, parts ≠ [] ∧ config.relativePath file = slashed parts ∧
      ∀ part ∈ parts, part ≠ "" ∧ '/' ∉ part.toList := by
    by_cases here : Path.route config.root file = []
    · refine ⟨["."], by simp, ?_, by decide⟩
      rw [relativePath, here]
      rfl
    · refine ⟨_, here, Path.routeText_toList here, fun part member => ?_⟩
      have step : IsStep part := Path.mem_route plainFile member
      exact ⟨step.ne_empty, step.noSlash⟩
  obtain ⟨rest, whole⟩ := pieces
  obtain ⟨parts, filled, same, names⟩ := shown
  have some : splitText '/' (Glob.normalize entry) ++ rest ≠ [] := by simp [splitText_ne_nil]
  rw [← Glob.fits_iff_matches, Glob.ofText, ← slashed_splitText, whole, same,
    Glob.fits_iff some filled front fun part member => (names part member).2]
  intro h
  obtain ⟨below, along, -⟩ := h
  have inside : "" ∈ parts := by
    rw [along]
    exact List.mem_append_left _ (empty_mem_splitText rooted)
  exact (names "" inside).1 rfl

/-- The route to a file below a directory begins with the parts of a spelling of the directory exactly
if the spelling is the route to the directory, and the route leads through the directory. -/
theorem route_front_iff {root below : List String} {pattern : String} (plainRoot : Path.Plain root)
    (plainPlace : Path.Plain place) (plainBelow : Path.Plain below) (more : below ≠ [])
    (leads : Path.normalParts true [] (root ++ (Path.ofText pattern).parts) = place) :
    (∃ back, back ≠ [] ∧ Path.route root (place ++ below) = splitText '/' pattern ++ back) ↔
      pattern = Path.routeText (Path.route root place) ∧ place ≠ root ∧
        ¬∃ name, place ++ [name] <+: root ∧ place ++ [name] <+: place ++ below := by
  have plainFile := plainPlace.append plainBelow
  rw [← Path.route_through_iff plainBelow]
  constructor
  · intro h
    obtain ⟨back, -, along⟩ := h
    have counted : (Path.ofText pattern).parts = splitText '/' pattern := by
      rw [Path.ofText]
      exact filter_of_isStep fun part member =>
        Path.mem_route plainFile (along ▸ List.mem_append_left _ member)
    rw [counted] at leads
    have straight := Path.eq_route_of_front plainRoot plainFile along leads
    have some := splitText_ne_nil pattern
    refine ⟨?_, straight ▸ some, back, straight ▸ along⟩
    rw [← straight]
    apply String.toList_injective
    rw [Path.routeText_toList some, slashed_splitText]
  · intro h
    obtain ⟨straight, some, back, along⟩ := h
    have pieces : splitText '/' pattern = Path.route root place := by
      rw [straight]
      exact splitText_routeText some (Path.noSlash_of_route plainPlace)
    refine ⟨back, ?_, pieces ▸ along⟩
    intro none
    have goal := Path.normalParts_route plainRoot plainFile
    rw [along, none, List.append_nil, Path.normalParts_route plainRoot plainPlace] at goal
    exact more (List.self_eq_append_right.mp goal)

end Matching

section Directories

variable (named : folder.WellNamed) (inside : folder.isDirectory config.root = true)
  (spelled : folder.Spells config.root entry place)

include spelled in
theorem includePattern_of_spells (literal : Glob.hasWildcard (Glob.normalize entry) = false)
    (relative : (Path.ofText (Glob.normalize entry)).isAbsolute = false) :
    config.includePattern folder entry = Glob.normalize entry ++ "/**/*" := by
  have reached : folder.locate? (config.entryPath (Glob.normalize entry)) = some place := by
    rw [Folder.locate?, Folder.absoluteParts, entryPath,
      if_pos (Path.isAbsolute_append config.root relative), Path.append_parts _ _ relative]
    exact spelled.follow
  have directory : folder.isDirectoryAt (config.entryPath (Glob.normalize entry)) = true := by
    rw [Folder.isDirectoryAt, reached]
    exact spelled.directory
  rw [includePattern, expandedText, if_pos ⟨literal, directory⟩]

include named spelled in
theorem clear_of_spells :
    ∀ part ∈ baseParts config.root (config.includePattern folder entry), pathFault? part = none := by
  have start : patternLead (config.includePattern folder entry) <+:
      splitText '/' (Glob.normalize entry) := by
    unfold includePattern expandedText
    split
    · rename_i expanded
      exact ⟨[], by rw [patternLead_below expanded.1, List.append_nil]⟩
    · obtain ⟨rest, -, whole⟩ := exists_splitText (Glob.normalize entry)
      exact ⟨rest, whole.symm⟩
  intro part member
  rw [baseParts, patternBase_eq] at member
  exact (named.of_isDirectory (spelled.isDirectory_front start) part member).2

include named inside spelled in
theorem not_straight_of_rooted (rooted : (Path.ofText (Glob.normalize entry)).isAbsolute = true)
    (away : place ≠ config.root) :
    Glob.normalize entry ≠ Path.routeText (Path.route config.root place) := by
  intro straight
  have plainPlace := named.plain spelled.directory
  have some : Path.route config.root place ≠ [] :=
    fun none => away ((Path.route_eq_nil (named.plain inside) plainPlace).mp none)
  have empty := empty_mem_splitText rooted
  rw [straight, splitText_routeText some (Path.noSlash_of_route plainPlace)] at empty
  exact IsStep.ne_empty (Path.mem_route plainPlace empty) rfl

include spelled in
theorem baseParts_of_spells (literal : Glob.hasWildcard (Glob.normalize entry) = false) :
    baseParts config.root (Glob.normalize entry ++ "/**/*") = place := by
  rw [baseParts, patternBase_eq, patternLead_below literal, Path.filter_splitText,
    spelled.normalParts]
  rfl

include named in
theorem SourceBelow.plain (source : config.SourceBelow folder place file) : Path.Plain file := by
  refine plain_of_file (fun entry known name member => ?_) source.there
  exact (named.files entry known name member).1

/-- A configuration that includes a directory lists the source files below the directory, if the entry
is spelled as the route to the directory, the directory is not that of the configuration, and the
files do not lie on the way down to the configuration. It lists no file else. An entry with a wildcard
is taken as a pattern, even if it is the name of a directory. -/
theorem sourcePlaces_included_directory (named : folder.WellNamed)
    (inside : folder.isDirectory config.root = true) (noFiles : config.files = [])
    (including : config.included = .arr [.str entry]) (excluding : config.excluded = .arr [])
    (spelled : folder.Spells config.root entry place)
    (short : Glob.hasWildcard (Glob.normalize entry) = false →
      folder.isTooLong (config.entryPath (Glob.normalize entry)) = false) :
    ∃ places, config.sourcePlaces folder = .ok places ∧
      (Glob.hasWildcard (Glob.normalize entry) = false → ∀ file, file ∈ places ↔
        config.SourceBelow folder place file ∧
          Glob.normalize entry = Path.routeText (Path.route config.root place) ∧
          place ≠ config.root ∧
          ¬∃ name, place ++ [name] <+: config.root ∧ place ++ [name] <+: file) ∧
      (Glob.hasWildcard (Glob.normalize entry) = true → ∀ file, file ∈ places ↔
        config.SourceBelow folder (baseParts config.root (Glob.normalize entry)) file ∧
          (Glob.ofText (Glob.normalize entry)).Matches (config.relativePath file)) := by
  obtain ⟨places, found, members⟩ :=
    sourcePlaces_of_entry noFiles including excluding short (clear_of_spells named spelled)
  refine ⟨places, found, fun literal file => ?_, fun wild file => ?_⟩
  · rw [members]
    cases rooted : (Path.ofText (Glob.normalize entry)).isAbsolute with
    | true =>
      refine iff_of_false ?_ ?_
      · intro h
        exact not_matches_rooted literal rooted (h.1.plain named) h.2
      · intro h
        exact not_straight_of_rooted named inside spelled rooted h.2.2.1 h.2.1
    | false =>
      rw [includePattern_of_spells spelled literal rooted, baseParts_of_spells spelled literal]
      refine and_congr_right fun source => ?_
      have plainFile := source.plain named
      obtain ⟨between, name, rfl, -⟩ := source.below
      rw [matches_below_iff literal plainFile]
      rw [List.append_assoc] at plainFile ⊢
      exact route_front_iff (named.plain inside) (named.plain spelled.directory) plainFile.right
        (by simp) spelled.normalParts
  · have kept : config.includePattern folder entry = Glob.normalize entry := by
      rw [includePattern, expandedText, if_neg (by simp [wild])]
    rw [members, kept]

end Directories

end ProjectConfig

namespace Included

/-- A project with a source file of its own and a library beside it. -/
def folder : Folder where
  files := [(["app", "src", "a.ts"], ⟨.empty, []⟩), (["app", "tsconfig.json"], ⟨.empty, []⟩),
    (["lib", "b.ts"], ⟨.empty, []⟩)]
  directories := []
  current := []

def including (entry : String) : ProjectConfig :=
  ⟨["app", "tsconfig.json"], [], .arr [.str entry], .arr [], []⟩

theorem wellNamed : folder.WellNamed := ⟨by decide, by decide⟩

theorem spells_lib : folder.Spells ["app"] "../lib/" ["lib"] := ⟨by decide, by decide, by decide⟩

theorem included_lib : ∃ places, (including "../lib/").sourcePlaces folder = .ok places ∧
    (["lib", "b.ts"] ∈ places ∧ ["app", "src", "a.ts"] ∉ places) := by
  obtain ⟨places, found, members, -⟩ := ProjectConfig.sourcePlaces_included_directory wellNamed
    (show folder.isDirectory (including "../lib/").root = true by decide) rfl rfl rfl spells_lib
    (fun _ => by decide)
  have literal := members (by decide)
  refine ⟨places, found, ?_, ?_⟩
  · refine (literal _).mpr ⟨⟨by decide, by decide, ⟨[], "b.ts", by decide, by decide⟩⟩, by decide,
      by decide, ?_⟩
    intro shared
    obtain ⟨name, toRoot, -⟩ := shared
    exact absurd toRoot.length_le (by simp [including, ProjectConfig.root])
  · intro listed
    obtain ⟨between, name, same, -⟩ := ((literal _).mp listed).1.below
    exact absurd (List.cons.inj same).1 (by decide)

theorem spells_app : folder.Spells ["app"] "." ["app"] := ⟨by decide, by decide, by decide⟩

/-- A project that names its own directory by a dot lists none of its files. -/
theorem not_included_app : folder.Spells ["app"] "." ["app"] ∧
    (including ".").SourceBelow folder ["app"] ["app", "src", "a.ts"] ∧
    (including ".").sourcePlaces folder = .ok [] :=
  ⟨spells_app, ⟨by decide, by decide, ⟨["src"], "a.ts", by decide, by decide⟩⟩, by decide +kernel⟩

end Included

end LeastGrant
