import LeastGrant.Proofs.BuiltRegistry
import LeastGrant.Proofs.FolderWalk
import LeastGrant.Proofs.SearchRoots

/-! The listing of the source files of a project. It is strictly sorted, so it is known by its
members, and its members are the files that a search comes to and that the patterns take in. -/
namespace LeastGrant

namespace Path

theorem partsLe_iff {a b : List String} : partsLe a b = true ↔ List.le a b := by
  rw [partsLe, Bool.not_eq_true']
  exact List.lex_eq_false_iff_ge

theorem partsLe_trans (a b c : List String) (first : partsLe a b = true)
    (second : partsLe b c = true) : partsLe a c = true := by
  rw [partsLe_iff] at *
  exact List.le_trans first second

theorem partsLe_total (a b : List String) : (partsLe a b || partsLe b a) = true := by
  rw [Bool.or_eq_true, partsLe_iff, partsLe_iff]
  exact List.le_total a b

theorem partsLe_antisymm {a b : List String} (first : partsLe a b = true)
    (second : partsLe b a = true) : a = b := by
  rw [partsLe_iff] at *
  exact List.le_antisymm first second

/-- The order of places without equality. -/
def Before (a b : List String) : Prop := partsLe a b = true ∧ a ≠ b

instance (a b : List String) : Decidable (Before a b) := inferInstanceAs (Decidable (_ ∧ _))

theorem loop_eq (place : List String) (rest gathered : List (List String)) :
    List.eraseRepsBy.loop (· == ·) place rest gathered =
      gathered.reverse ++ List.eraseRepsBy.loop (· == ·) place rest [] := by
  induction rest generalizing place gathered with
  | nil => simp [List.eraseRepsBy.loop]
  | cons next others ih =>
    simp only [List.eraseRepsBy.loop]
    split
    · exact ih place gathered
    · rw [ih next (place :: gathered), ih next [place]]
      simp

theorem eraseReps_cons_cons (place next : List String) (rest : List (List String)) :
    (place :: next :: rest).eraseReps =
      if place = next then (place :: rest).eraseReps else place :: (next :: rest).eraseReps := by
  simp only [List.eraseReps, List.eraseRepsBy, List.eraseRepsBy.loop]
  by_cases same : place = next
  · simp [same]
  · have differ : (place == next) = false := beq_eq_false_iff_ne.mpr same
    rw [if_neg same, differ]
    exact loop_eq next rest [place]

theorem mem_eraseReps {place : List String} {places : List (List String)} :
    place ∈ places.eraseReps ↔ place ∈ places := by
  induction places with
  | nil => rfl
  | cons first rest ih =>
    cases rest with
    | nil => rfl
    | cons next others =>
      rw [eraseReps_cons_cons]
      split
      · rename_i same
        subst same
        rw [ih]
        simp
      · rw [List.mem_cons, ih, ← List.mem_cons]

theorem before_eraseReps {places : List (List String)}
    (sorted : places.Pairwise fun a b => partsLe a b = true) :
    places.eraseReps.Pairwise Before := by
  induction places with
  | nil => exact .nil
  | cons first rest ih =>
    obtain ⟨least, later⟩ := List.pairwise_cons.mp sorted
    cases rest with
    | nil => exact List.pairwise_singleton _ _
    | cons next others =>
      rw [eraseReps_cons_cons]
      split
      · rename_i same
        subst same
        exact ih later
      · rename_i differ
        refine List.pairwise_cons.mpr ⟨?_, ih later⟩
        intro place member
        have listed := mem_eraseReps.mp member
        refine ⟨least place listed, ?_⟩
        -- a place equal to the first would stand before the second as well
        intro same
        subst same
        rcases List.mem_cons.mp listed with second | further
        · exact differ second
        · have upper := (List.pairwise_cons.mp later).1 _ further
          exact differ (partsLe_antisymm (least next List.mem_cons_self) upper)

theorem mem_sortUnique {place : List String} {places : List (List String)} :
    place ∈ sortUnique places ↔ place ∈ places := by
  rw [sortUnique, mem_eraseReps, List.mem_mergeSort]

theorem before_sortUnique (places : List (List String)) : (sortUnique places).Pairwise Before :=
  before_eraseReps (List.pairwise_mergeSort partsLe_trans partsLe_total places)

theorem eq_of_before {a b : List (List String)} (sortedA : a.Pairwise Before)
    (sortedB : b.Pairwise Before) (same : ∀ place, place ∈ a ↔ place ∈ b) : a = b := by
  have onceA : a.Nodup := sortedA.imp And.right
  have onceB : b.Nodup := sortedB.imp And.right
  have perm : a.Perm b := (List.perm_ext_iff_of_nodup onceA onceB).mpr same
  exact perm.eq_of_pairwise (fun x y _ _ first second => partsLe_antisymm first.1 second.1)
    sortedA sortedB

/-- The sorted list of some places depends on nothing but which places there are. -/
theorem sortUnique_congr {a b : List (List String)} (same : ∀ place, place ∈ a ↔ place ∈ b) :
    sortUnique a = sortUnique b :=
  eq_of_before (before_sortUnique a) (before_sortUnique b) fun place => by
    rw [mem_sortUnique, mem_sortUnique, same]

theorem sortUnique_of_before {places : List (List String)} (sorted : places.Pairwise Before) :
    sortUnique places = places :=
  eq_of_before (before_sortUnique places) sorted fun _ => mem_sortUnique

end Path

/-- A search for some patterns comes to a file: from a base that lies in no other. -/
def SearchFinds (root : List String) (patterns : List String) (file : List String) : Prop :=
  ∃ pattern ∈ patterns,
    (∀ other ∈ patterns, baseParts root other <+: baseParts root pattern →
      baseParts root other = baseParts root pattern) ∧
    reaches (baseParts root pattern) file = true

instance (root : List String) (patterns : List String) (file : List String) :
    Decidable (SearchFinds root patterns file) :=
  inferInstanceAs (Decidable (∃ pattern ∈ patterns, _ ∧ _))

theorem absolute_of_mem_walkRoots {root : List String} {patterns : List String} {base : Path}
    (member : base ∈ walkRoots (.absolute root) patterns) : base = .absolute base.parts := by
  obtain ⟨pattern, -, rfl⟩ := exists_of_mem_walkRoots member
  rfl

theorem any_walkRoots {root : List String} {patterns : List String} {file : List String} :
    ((walkRoots (.absolute root) patterns).any fun base => reaches base.parts file) = true ↔
      SearchFinds root patterns file := by
  rw [List.any_eq_true]
  constructor
  · intro h
    obtain ⟨base, member, reached⟩ := h
    rw [absolute_of_mem_walkRoots member, mem_walkRoots] at member
    obtain ⟨⟨pattern, listed, same⟩, least⟩ := member
    refine ⟨pattern, listed, ?_, ?_⟩
    · rw [same]
      exact least
    · rw [same]
      exact reached
  · intro h
    obtain ⟨pattern, listed, least, reached⟩ := h
    exact ⟨.absolute (baseParts root pattern), mem_walkRoots.mpr ⟨⟨pattern, listed, rfl⟩, least⟩,
      reached⟩

namespace ProjectConfig

/-- What is wrong with the names of the directories where the search begins. -/
def rootFault? (config : ProjectConfig) (patterns : List String) : Option ValueFault :=
  (walkRoots (.absolute config.root) patterns).findSome? fun root =>
    root.parts.findSome? pathFault?

/-- The files that are found by patterns. -/
def foundFiles (config : ProjectConfig) (folder : Folder) (patterns excludes : List String) :
    List (List String) :=
  (folder.files.map Prod.fst).filter fun file =>
    config.hasExtension file &&
      ((walkRoots (.absolute config.root) patterns).any fun root => reaches root.parts file) &&
      config.admits (patterns.map Glob.ofText) (excludes.map Glob.ofText) file

variable {config : ProjectConfig} {folder : Folder}

/-- The listing after its entries have been read: the files that are listed and there, and those that
the walks gather, which are the files that are found. -/
theorem sourcePlaces_eq_listed {listed : List (List String)} {patterns excludes : List String}
    (listing : config.files.mapM (config.listedPlace folder) = .ok listed)
    (includes : config.includePatterns folder = .ok patterns)
    (excluding : config.excludePatterns = .ok excludes) :
    config.sourcePlaces folder = (config.rootFault? patterns).elim
      (.ok (Path.sortUnique ((listed.filter fun place => (folder.file? place).isSome) ++
        config.foundFiles folder patterns excludes))) .error := by
  have walked : Path.sortUnique ((listed.filter fun place => (folder.file? place).isSome) ++
      ((walkRoots (.absolute config.root) patterns).flatMap fun root =>
        folder.search root.parts).filter fun file => config.hasExtension file &&
          config.admits (patterns.map Glob.ofText) (excludes.map Glob.ofText) file) =
      Path.sortUnique ((listed.filter fun place => (folder.file? place).isSome) ++
        config.foundFiles folder patterns excludes) := by
    apply Path.sortUnique_congr
    intro file
    rw [List.mem_append, List.mem_append]
    refine or_congr_right ?_
    simp only [foundFiles, List.mem_filter, List.mem_flatMap, Folder.mem_search, Bool.and_eq_true,
      List.any_eq_true]
    constructor
    · intro h
      obtain ⟨⟨root, member, known, reached⟩, named, admitted⟩ := h
      exact ⟨known, ⟨named, root, member, reached⟩, admitted⟩
    · intro h
      obtain ⟨known, ⟨named, root, member, reached⟩, admitted⟩ := h
      exact ⟨⟨root, member, known, reached⟩, named, admitted⟩
  have steps : config.sourcePlaces folder = (config.rootFault? patterns).elim
      (.ok (Path.sortUnique ((listed.filter fun place => (folder.file? place).isSome) ++
        ((walkRoots (.absolute config.root) patterns).flatMap fun root =>
          folder.search root.parts).filter fun file => config.hasExtension file &&
            config.admits (patterns.map Glob.ofText) (excludes.map Glob.ofText) file))) .error := by
    cases clear : config.rootFault? patterns with
    | none =>
      unfold rootFault? at clear
      simp only [sourcePlaces, listing, includes, excluding, bind, Except.bind, clear]
      rfl
    | some fault =>
      unfold rootFault? at clear
      simp only [sourcePlaces, listing, includes, excluding, bind, Except.bind, clear]
      rfl
  rw [steps, walked]

theorem sourcePlaces_eq_ok_listed {places : List (List String)} :
    config.sourcePlaces folder = .ok places ↔
      ∃ listed patterns excludes, config.files.mapM (config.listedPlace folder) = .ok listed ∧
        config.includePatterns folder = .ok patterns ∧ config.excludePatterns = .ok excludes ∧
        config.rootFault? patterns = none ∧
        places = Path.sortUnique ((listed.filter fun place => (folder.file? place).isSome) ++
          config.foundFiles folder patterns excludes) := by
  constructor
  · intro found
    have steps := found
    unfold sourcePlaces at steps
    obtain ⟨listed, listing, steps⟩ := ok_of_bind steps
    obtain ⟨patterns, includes, steps⟩ := ok_of_bind steps
    obtain ⟨excludes, excluding, -⟩ := ok_of_bind steps
    rw [sourcePlaces_eq_listed listing includes excluding] at found
    cases clear : config.rootFault? patterns with
    | some fault =>
      rw [clear] at found
      cases found
    | none =>
      rw [clear] at found
      cases found
      exact ⟨listed, patterns, excludes, listing, includes, excluding, clear, rfl⟩
  · intro h
    obtain ⟨listed, patterns, excludes, listing, includes, excluding, clear, rfl⟩ := h
    rw [sourcePlaces_eq_listed listing includes excluding, clear]
    rfl

theorem sourcePlaces_eq (noFiles : config.files = []) {patterns excludes : List String}
    (includes : config.includePatterns folder = .ok patterns)
    (excluding : config.excludePatterns = .ok excludes) :
    config.sourcePlaces folder = (config.rootFault? patterns).elim
      (.ok (Path.sortUnique (config.foundFiles folder patterns excludes))) .error := by
  have none : config.files.mapM (config.listedPlace folder) = .ok [] := by
    rw [noFiles]
    rfl
  exact sourcePlaces_eq_listed none includes excluding

theorem sourcePlaces_eq_ok (noFiles : config.files = []) {places : List (List String)} :
    config.sourcePlaces folder = .ok places ↔
      ∃ patterns excludes, config.includePatterns folder = .ok patterns ∧
        config.excludePatterns = .ok excludes ∧ config.rootFault? patterns = none ∧
        places = Path.sortUnique (config.foundFiles folder patterns excludes) := by
  have none : config.files.mapM (config.listedPlace folder) = .ok [] := by
    rw [noFiles]
    rfl
  rw [sourcePlaces_eq_ok_listed]
  constructor
  · intro h
    obtain ⟨listed, patterns, excludes, listing, found⟩ := h
    cases none.symm.trans listing
    exact ⟨patterns, excludes, found⟩
  · intro h
    obtain ⟨patterns, excludes, found⟩ := h
    exact ⟨[], patterns, excludes, none, found⟩

theorem sourcePlaces_of_found (noFiles : config.files = []) {patterns excludes : List String}
    {places : List (List String)} (includes : config.includePatterns folder = .ok patterns)
    (excluding : config.excludePatterns = .ok excludes)
    (clear : config.rootFault? patterns = none)
    (found : config.foundFiles folder patterns excludes = places)
    (sorted : places.Pairwise Path.Before) : config.sourcePlaces folder = .ok places := by
  rw [sourcePlaces_eq noFiles includes excluding, clear, found, Path.sortUnique_of_before sorted]
  rfl

theorem mem_foundFiles {patterns excludes : List String} {file : List String} :
    file ∈ config.foundFiles folder patterns excludes ↔
      file ∈ folder.files.map Prod.fst ∧ config.hasExtension file = true ∧
        SearchFinds config.root patterns file ∧
        config.admits (patterns.map Glob.ofText) (excludes.map Glob.ofText) file = true := by
  rw [foundFiles, List.mem_filter, Bool.and_eq_true, Bool.and_eq_true, any_walkRoots, and_assoc]

theorem admits_iff {patterns excludes : List String} {file : List String} :
    config.admits (patterns.map Glob.ofText) (excludes.map Glob.ofText) file = true ↔
      (∃ pattern ∈ patterns, (Glob.ofText pattern).fits
        (Path.routeText (Path.route config.root file)).toList = true) ∧
      Glob.fitsAtOrAbove (excludes.map Glob.ofText)
        (Path.routeText (Path.route config.root file)).toList = false := by
  simp [admits, List.any_map]

theorem foundFiles_eq (config : ProjectConfig) (folder : Folder) (patterns excludes : List String) :
    config.foundFiles folder patterns excludes =
      (folder.files.map Prod.fst).filter fun file =>
        config.hasExtension file && decide (SearchFinds config.root patterns file) &&
          config.admits (patterns.map Glob.ofText) (excludes.map Glob.ofText) file := by
  have searched (file : List String) :
      ((walkRoots (.absolute config.root) patterns).any fun root => reaches root.parts file) =
        decide (SearchFinds config.root patterns file) := by
    rw [Bool.eq_iff_iff, any_walkRoots, decide_eq_true_iff]
  simp only [foundFiles, searched]

theorem rootFault?_eq_none {patterns : List String} :
    config.rootFault? patterns = none ↔
      ∀ pattern ∈ patterns,
        (∀ other ∈ patterns, baseParts config.root other <+: baseParts config.root pattern →
          baseParts config.root other = baseParts config.root pattern) →
        ∀ part ∈ baseParts config.root pattern, pathFault? part = none := by
  rw [rootFault?, List.findSome?_eq_none_iff]
  constructor
  · intro clear pattern listed least
    have root := mem_walkRoots.mpr ⟨⟨pattern, listed, rfl⟩, least⟩
    exact List.findSome?_eq_none_iff.mp (clear _ root)
  · intro clear base member
    rw [List.findSome?_eq_none_iff]
    rw [absolute_of_mem_walkRoots member, mem_walkRoots] at member
    obtain ⟨⟨pattern, listed, same⟩, least⟩ := member
    rw [← same] at least ⊢
    exact clear pattern listed least

/-! ## Include entries -/

/-- The path that an entry names, from the directory of the configuration on. -/
def entryPath (config : ProjectConfig) (entry : String) : Path :=
  Path.absolute config.root ++ Path.ofText entry

/-- A pattern in which a directory stands for everything below it. -/
def expandedText (config : ProjectConfig) (folder : Folder) (pattern : String) : String :=
  if Glob.hasWildcard pattern = false ∧ folder.isDirectoryAt (config.entryPath pattern) = true then
    pattern ++ "/**/*"
  else pattern

/-- The pattern of an include entry. -/
def includePattern (config : ProjectConfig) (folder : Folder) (entry : String) : String :=
  config.expandedText folder (Glob.normalize entry)

theorem expandedText_cases (config : ProjectConfig) (folder : Folder) (pattern : String) :
    config.expandedText folder pattern = pattern ∨
      config.expandedText folder pattern = pattern ++ "/**/*" := by
  unfold expandedText
  split
  · exact .inr rfl
  · exact .inl rfl

theorem directoryPattern_eq_ok (config : ProjectConfig) (folder : Folder) (item : Json)
    (pattern : String) :
    config.directoryPattern folder item = .ok pattern ↔ ∃ entry, item = .str entry ∧
      (Glob.hasWildcard (Glob.normalize entry) = false →
        folder.isTooLong (config.entryPath (Glob.normalize entry)) = false) ∧
      pattern = config.includePattern folder entry := by
  cases item with
  | str entry =>
    simp only [directoryPattern, asPattern, bind, Except.bind, Json.str.injEq, exists_eq_left',
      includePattern, expandedText, entryPath]
    cases Glob.hasWildcard (Glob.normalize entry) with
    | true => simp [@eq_comm _ pattern]
    | false =>
      cases folder.isTooLong (.absolute config.root ++ Path.ofText (Glob.normalize entry)) with
      | true => simp
      | false => simp [@eq_comm _ pattern]
  | _ => simp [directoryPattern, asPattern, bind, Except.bind]

end ProjectConfig

end LeastGrant
