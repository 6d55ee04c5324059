import LeastGrant.Proofs.ExtendedConfig
import LeastGrant.Proofs.GlobLanguage
import LeastGrant.Proofs.SourceListing

/-! Which files a project lists. A file belongs to a project if it is one of the listed files, or if a
walk comes to it, an include pattern matches its path and no exclude pattern matches the path or a start
of it. The listing is the strictly sorted list of these files. It is there unless an entry is no text,
or something has to be looked up that no path can lead to. -/
namespace LeastGrant

open Text

theorem Folder.isSome_file?_iff {folder : Folder} {place : List String} :
    (folder.file? place).isSome = true ↔ place ∈ folder.files.map Prod.fst := by
  constructor
  · intro h
    obtain ⟨file, found⟩ := Option.isSome_iff_exists.mp h
    exact List.mem_map.mpr ⟨(place, file), mem_of_file? found, rfl⟩
  · intro h
    rw [file?]
    generalize folder.files = files at h ⊢
    induction files with
    | nil => cases h
    | cons entry rest ih =>
      obtain ⟨other, file⟩ := entry
      rw [List.lookup_cons]
      split
      · rfl
      · rename_i differ
        rcases List.mem_cons.mp h with same | later
        · exact absurd (beq_iff_eq.mpr same) (by simp [differ])
        · exact ih later

theorem isSkipped_eq_false {directory : String} :
    isSkipped directory = false ↔
      directory ∉ packageDirectories ∧ startsWith "." directory = false := by
  simp [isSkipped]

/-- The path and the paths above it are the starts of its parts. -/
theorem Glob.mem_ancestry {text path : List Char} :
    path ∈ ancestry text ↔ ∃ front, front ≠ [] ∧ front <+: split '/' text ∧ path = join '/' front := by
  simp only [ancestry, List.mem_map, List.mem_range]
  constructor
  · intro h
    obtain ⟨n, inside, rfl⟩ := h
    exact ⟨(split '/' text).take (n + 1), by simp [split_ne_nil], List.take_prefix _ _, rfl⟩
  · intro h
    obtain ⟨front, some, start, rfl⟩ := h
    have filled := List.length_pos_iff.mpr some
    have bound := start.length_le
    have step : front.length - 1 + 1 = front.length := by omega
    refine ⟨front.length - 1, by omega, ?_⟩
    rw [step, ← List.prefix_iff_eq_take.mp start]

section Entries

/-- The texts of a list of entries, with what stands for a list that is not given. -/
def ListsTexts (value : Json) (ungiven : List Json) (texts : List String) : Prop :=
  (if value = .null then .ok ungiven else value.elements) = .ok (texts.map .str)

variable {ε β : Type} {f : Json → Except ε β} {P : String → Prop} {g : String → β}

/-- Reading items that have to be texts. -/
theorem mapM_texts
    (each : ∀ item result, f item = .ok result ↔ ∃ text, item = .str text ∧ P text ∧ result = g text)
    {items : List Json} {results : List β} :
    items.mapM f = .ok results ↔ ∃ texts : List String,
      items = texts.map .str ∧ (∀ text ∈ texts, P text) ∧ results = texts.map g := by
  constructor
  · intro h
    have related := forall₂_of_mapM h
    clear h
    induction related with
    | nil => exact ⟨[], rfl, by simp, rfl⟩
    | cons first _ ih =>
      obtain ⟨text, rfl, usable, rfl⟩ := (each _ _).mp first
      obtain ⟨texts, rfl, others, rfl⟩ := ih
      exact ⟨text :: texts, rfl, List.forall_mem_cons.mpr ⟨usable, others⟩, rfl⟩
  · intro h
    obtain ⟨texts, rfl, usable, rfl⟩ := h
    exact mapM_map_ok fun text member => (each _ _).mpr ⟨text, rfl, usable text member, rfl⟩

theorem bind_mapM_texts {f : Json → Except ValueFault β}
    (each : ∀ item result, f item = .ok result ↔ ∃ text, item = .str text ∧ P text ∧ result = g text)
    {value : Json} {ungiven : List Json} {results : List β} :
    ((if value = .null then .ok ungiven else value.elements) >>= List.mapM f) = .ok results ↔
      ∃ texts, ListsTexts value ungiven texts ∧ (∀ text ∈ texts, P text) ∧
        results = texts.map g := by
  constructor
  · intro h
    obtain ⟨items, given, read⟩ := ok_of_bind h
    obtain ⟨texts, rfl, found⟩ := (mapM_texts each).mp read
    exact ⟨texts, given, found⟩
  · intro h
    obtain ⟨texts, given, found⟩ := h
    exact (bind_of_ok given).trans ((mapM_texts each).mpr ⟨texts, rfl, found⟩)

end Entries

namespace ProjectConfig

/-- The entries of a configuration that decide about its files. -/
structure Entries where
  files : List String
  includes : List String
  excludes : List String

/-- What is included without a list of include entries: everything, unless there are listed files. -/
def includedAnyway (config : ProjectConfig) : List Json :=
  if config.files.isEmpty then [.str "**/*"] else []

/-- What is excluded without a list of exclude entries: the packages and the output. -/
def excludedAnyway (config : ProjectConfig) : List Json :=
  packageDirectories.map .str ++
    if (config.options.getOrNull "outDir").isSet then [config.options.getOrNull "outDir"] else []

/-- The entries of a configuration, all of them texts. -/
structure HasEntries (config : ProjectConfig) (entries : Entries) : Prop where
  files : config.files = entries.files.map .str
  includes : ListsTexts config.included config.includedAnyway entries.includes
  excludes : ListsTexts config.excluded config.excludedAnyway entries.excludes

/-- The directories where the walks begin. -/
def walkBases (config : ProjectConfig) (folder : Folder) (entries : Entries) : List Path :=
  walkRoots (.absolute config.root) (entries.includes.map (config.includePattern folder))

/-- All that has to be looked up for the entries can be looked up. -/
structure CanList (config : ProjectConfig) (folder : Folder) (entries : Entries) : Prop where
  files : ∀ name ∈ entries.files, pathFault? name = none ∧
    folder.isTooLong (.absolute (folder.resolve (config.entryPath name))) = false
  includes : ∀ entry ∈ entries.includes, Glob.hasWildcard (Glob.normalize entry) = false →
    folder.isTooLong (config.entryPath (Glob.normalize entry)) = false
  bases : ∀ base ∈ config.walkBases folder entries, ∀ part ∈ base.parts, pathFault? part = none

/-- The path of a file as the patterns see it. -/
def relativePath (config : ProjectConfig) (file : List String) : List Char :=
  (Path.routeText (Path.route config.root file)).toList

/-- A file that is found by patterns. -/
structure Found (config : ProjectConfig) (folder : Folder) (entries : Entries) (file : List String) :
    Prop where
  there : (folder.file? file).isSome = true
  named : ∃ ending ∈ config.extensions, endsIn ending (file.getLast?.getD "") = true
  walked : ∃ base ∈ config.walkBases folder entries, ∃ between name,
    file = base.parts ++ between ++ [name] ∧
      ∀ directory ∈ between, directory ∉ packageDirectories ∧ startsWith "." directory = false
  included : ∃ entry ∈ entries.includes,
    (Glob.ofText (config.includePattern folder entry)).Matches (config.relativePath file)
  kept : ∀ entry ∈ entries.excludes, ∀ front, front ≠ [] →
    front <+: split '/' (config.relativePath file) →
      ¬(Glob.ofText (Glob.normalize entry)).Matches (join '/' front)

/-- A file of the project: a listed one that is there, or one that is found by patterns. -/
def Belongs (config : ProjectConfig) (folder : Folder) (entries : Entries) (file : List String) : Prop :=
  (∃ name ∈ entries.files, file = folder.resolve (config.entryPath name) ∧
    (folder.file? file).isSome = true) ∨ config.Found folder entries file

variable {config : ProjectConfig} {folder : Folder}

section Reading

theorem listedPlace_str (name : String) :
    config.listedPlace folder (.str name) = (pathFault? name).elim
      (if folder.isTooLong (.absolute (folder.resolve (config.entryPath name))) then .error .tooLong
        else .ok (folder.resolve (config.entryPath name))) .error := by
  unfold entryPath
  rw [listedPlace]
  cases pathFault? name with
  | none => dsimp only [Option.elim_none]
  | some fault => dsimp only [Option.elim_some]

theorem listedPlace_eq_ok (item : Json) (place : List String) :
    config.listedPlace folder item = .ok place ↔ ∃ name, item = .str name ∧
      (pathFault? name = none ∧
        folder.isTooLong (.absolute (folder.resolve (config.entryPath name))) = false) ∧
      place = folder.resolve (config.entryPath name) := by
  cases item with
  | str name =>
    rw [listedPlace_str]
    simp only [Json.str.injEq, exists_eq_left']
    cases pathFault? name with
    | some fault => simp
    | none =>
      cases folder.isTooLong (.absolute (folder.resolve (config.entryPath name))) with
      | true => simp
      | false => simp [@eq_comm _ place]
  | _ => simp [listedPlace]

theorem asPattern_eq_ok (item : Json) (pattern : String) :
    asPattern item = .ok pattern ↔
      ∃ entry, item = .str entry ∧ True ∧ pattern = Glob.normalize entry := by
  cases item with
  | str entry => simp [asPattern, @eq_comm _ pattern]
  | _ => simp [asPattern]

theorem includePatterns_eq :
    config.includePatterns folder =
      (if config.included = .null then .ok config.includedAnyway else config.included.elements) >>=
        List.mapM (config.directoryPattern folder) := by
  unfold includePatterns
  cases given : config.included with
  | null => rfl
  | _ => rfl

theorem excludePatterns_eq :
    config.excludePatterns =
      (if config.excluded = .null then .ok config.excludedAnyway else config.excluded.elements) >>=
        List.mapM asPattern := by
  have packages : (packageDirectories.map Json.str).mapM asPattern = .ok packageDirectories := by
    decide
  unfold excludePatterns
  cases given : config.excluded with
  | null =>
    rw [if_pos rfl]
    refine Eq.trans ?_ (bind_of_ok rfl).symm
    rw [excludedAnyway, List.mapM_append, packages]
    dsimp only
    cases (config.options.getOrNull "outDir").isSet with
    | false => rfl
    | true =>
      cases config.options.getOrNull "outDir" with
      | str text => rfl
      | _ => rfl
  | _ => rfl

theorem includePatterns_eq_ok {patterns : List String} :
    config.includePatterns folder = .ok patterns ↔ ∃ includes,
      ListsTexts config.included config.includedAnyway includes ∧
      (∀ entry ∈ includes, Glob.hasWildcard (Glob.normalize entry) = false →
        folder.isTooLong (config.entryPath (Glob.normalize entry)) = false) ∧
      patterns = includes.map (config.includePattern folder) := by
  rw [includePatterns_eq]
  exact bind_mapM_texts (config.directoryPattern_eq_ok folder)

theorem excludePatterns_eq_ok {patterns : List String} :
    config.excludePatterns = .ok patterns ↔ ∃ excludes,
      ListsTexts config.excluded config.excludedAnyway excludes ∧ (∀ entry ∈ excludes, True) ∧
      patterns = excludes.map Glob.normalize := by
  rw [excludePatterns_eq]
  exact bind_mapM_texts asPattern_eq_ok

end Reading

section Members

variable {entries : Entries} {file : List String}

theorem any_walkBases :
    ((config.walkBases folder entries).any fun base => reaches base.parts file) = true ↔
      ∃ base ∈ config.walkBases folder entries, ∃ between name,
        file = base.parts ++ between ++ [name] ∧
          ∀ directory ∈ between, directory ∉ packageDirectories ∧ startsWith "." directory = false := by
  simp only [List.any_eq_true, reaches_iff_between, isSkipped_eq_false]

theorem fitsAtOrAbove_excludes :
    Glob.fitsAtOrAbove ((entries.excludes.map Glob.normalize).map Glob.ofText)
        (config.relativePath file) = false ↔
      ∀ entry ∈ entries.excludes, ∀ front, front ≠ [] →
        front <+: split '/' (config.relativePath file) →
          ¬(Glob.ofText (Glob.normalize entry)).Matches (join '/' front) := by
  simp only [Glob.fitsAtOrAbove, List.any_map, List.any_eq_false, Function.comp_apply,
    List.any_eq_true, Glob.fits_iff_matches, Glob.mem_ancestry]
  constructor
  · intro none entry listed front some start matched
    exact none entry listed ⟨_, ⟨front, some, start, rfl⟩, matched⟩
  · intro none entry listed h
    obtain ⟨_, ⟨front, some, start, rfl⟩, matched⟩ := h
    exact none entry listed front some start matched

theorem mem_foundFiles_iff :
    file ∈ config.foundFiles folder (entries.includes.map (config.includePattern folder))
        (entries.excludes.map Glob.normalize) ↔ config.Found folder entries file := by
  have included : ((((entries.includes.map (config.includePattern folder)).map Glob.ofText).any
        fun pattern => pattern.fits (config.relativePath file)) = true) ↔
      ∃ entry ∈ entries.includes,
        (Glob.ofText (config.includePattern folder entry)).Matches (config.relativePath file) := by
    simp only [List.any_map, List.any_eq_true, Function.comp_apply, Glob.fits_iff_matches]
  rw [foundFiles, List.mem_filter, ← Folder.isSome_file?_iff, Bool.and_eq_true, Bool.and_eq_true,
    hasExtension, List.any_eq_true, ← walkBases, any_walkBases, admits, ← relativePath,
    Bool.and_eq_true, included, Bool.not_eq_true', fitsAtOrAbove_excludes]
  constructor
  · intro h
    obtain ⟨there, ⟨named, walked⟩, included, kept⟩ := h
    exact ⟨there, named, walked, included, kept⟩
  · intro found
    exact ⟨found.there, ⟨found.named, found.walked⟩, found.included, found.kept⟩

/-- The listing in terms of its entries: it needs them all to be texts that can be looked up. -/
theorem sourcePlaces_of_entries {places : List (List String)} :
    config.sourcePlaces folder = .ok places ↔ ∃ entries, config.HasEntries entries ∧
      config.CanList folder entries ∧
      places = Path.sortUnique (((entries.files.map fun name =>
          folder.resolve (config.entryPath name)).filter fun place => (folder.file? place).isSome) ++
        config.foundFiles folder (entries.includes.map (config.includePattern folder))
          (entries.excludes.map Glob.normalize)) := by
  have bases (includes : List String) :
      config.rootFault? (includes.map (config.includePattern folder)) = none ↔
        ∀ base ∈ walkRoots (.absolute config.root) (includes.map (config.includePattern folder)),
          ∀ part ∈ base.parts, pathFault? part = none := by
    simp only [rootFault?, List.findSome?_eq_none_iff]
  rw [sourcePlaces_eq_ok_listed]
  constructor
  · intro h
    obtain ⟨_, _, _, listing, including, excluding, clear, rfl⟩ := h
    obtain ⟨files, given, usable, rfl⟩ := (mapM_texts listedPlace_eq_ok).mp listing
    obtain ⟨includes, toInclude, short, rfl⟩ := includePatterns_eq_ok.mp including
    obtain ⟨excludes, toExclude, -, rfl⟩ := excludePatterns_eq_ok.mp excluding
    exact ⟨⟨files, includes, excludes⟩, ⟨given, toInclude, toExclude⟩,
      ⟨usable, short, (bases includes).mp clear⟩, rfl⟩
  · intro h
    obtain ⟨entries, given, can, rfl⟩ := h
    exact ⟨_, _, _, (mapM_texts listedPlace_eq_ok).mpr ⟨entries.files, given.files, can.files, rfl⟩,
      includePatterns_eq_ok.mpr ⟨entries.includes, given.includes, can.includes, rfl⟩,
      excludePatterns_eq_ok.mpr ⟨entries.excludes, given.excludes, by simp, rfl⟩,
      (bases entries.includes).mpr can.bases, rfl⟩

theorem mem_listing {entries : Entries} {file : List String} :
    file ∈ Path.sortUnique (((entries.files.map fun name =>
          folder.resolve (config.entryPath name)).filter fun place => (folder.file? place).isSome) ++
        config.foundFiles folder (entries.includes.map (config.includePattern folder))
          (entries.excludes.map Glob.normalize)) ↔ config.Belongs folder entries file := by
  rw [Path.mem_sortUnique, List.mem_append, mem_foundFiles_iff, Belongs, List.mem_filter, List.mem_map]
  refine or_congr_left ?_
  constructor
  · intro h
    obtain ⟨⟨name, listed, rfl⟩, there⟩ := h
    exact ⟨name, listed, rfl, there⟩
  · intro h
    obtain ⟨name, listed, rfl, there⟩ := h
    exact ⟨⟨name, listed, rfl⟩, there⟩

end Members

end ProjectConfig

end LeastGrant
