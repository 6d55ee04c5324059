import LeastGrant.Project.Config
import LeastGrant.Proofs.BuiltRegistry
import LeastGrant.Proofs.SavedRegistry
import Mathlib.Data.List.Perm.Subperm

/-! How a configuration is read with all that it extends. A reading that succeeds adds new files to
those that were read before, each once and each there, and none of the new files extends the one where
the reading began. It depends on the files read before only by what it must not meet again, so it can
be taken over into another reading. -/
namespace LeastGrant

theorem Folder.mem_of_file? {folder : Folder} {place : List String} {file : File}
    (h : folder.file? place = some file) : (place, file) ∈ folder.files := by
  rw [file?] at h
  generalize folder.files = files at h ⊢
  induction files with
  | nil => cases h
  | cons entry rest ih =>
    rw [List.lookup_cons] at h
    split at h
    · rename_i same
      cases h
      rw [beq_iff_eq.mp same]
      exact List.mem_cons_self
    · exact List.mem_cons_of_mem _ (ih h)

theorem Json.elementsIfSet_arr (items : List Json) : elementsIfSet (arr items) = .ok items := by
  cases items <;> rfl

theorem Json.elementsIfSet_obj (fields : Fields) :
    elementsIfSet (obj fields) = .ok (fields.map fun field => str field.1) := by
  cases fields <;> rfl

namespace ProjectConfig

/-- The references for which a value of the field `extends` stands, in its order: one text, the elements
of a list or the names in an object. A missing value, a false one and a zero stand for none. -/
inductive References : (value : Json) → (listed : List Json) → Prop
  | single (text : String) : References (.str text) [.str text]
  | list (items : List Json) : References (.arr items) items
  | names (fields : Json.Fields) : References (.obj fields) (fields.map fun field => .str field.1)
  | missing : References .null []
  | no : References (.bool false) []
  | zero : References (.int 0) []
  | float {x : Decimal.Double} (zero : x.isZero = true) : References (.float x) []

theorem extendsReferences_eq_ok {document : Json} {listed : List Json} :
    extendsReferences document = .ok listed ↔ References (document.getOrNull "extends") listed := by
  unfold extendsReferences
  generalize document.getOrNull "extends" = value
  constructor
  · intro h
    cases value with
    | null =>
      cases h
      exact .missing
    | bool b =>
      cases b <;> cases h
      exact .no
    | int n =>
      by_cases zero : n = 0
      · subst zero
        cases h
        exact .zero
      · simp [Json.elementsIfSet, Json.isSet, Json.elements, zero] at h
    | float x =>
      cases zero : x.isZero with
      | true =>
        simp only [Json.elementsIfSet, Json.isSet, zero] at h
        cases h
        exact .float zero
      | false => simp [Json.elementsIfSet, Json.isSet, Json.elements, zero] at h
    | str text =>
      cases h
      exact .single text
    | arr items =>
      cases (Json.elementsIfSet_arr items).symm.trans h
      exact .list _
    | obj fields =>
      cases (Json.elementsIfSet_obj fields).symm.trans h
      exact .names fields
  · intro h
    cases h with
    | single text => rfl
    | list items => exact Json.elementsIfSet_arr listed
    | names fields => exact Json.elementsIfSet_obj fields
    | missing => rfl
    | no => rfl
    | zero => rfl
    | float zero => simp [Json.elementsIfSet, Json.isSet, zero]

/-- A configuration file that can be read refers to others, in the order of its document. -/
def FileReferences (folder : Folder) (place : List String) (listed : List Json) : Prop :=
  ∃ value, document folder place = .ok value ∧ References (value.getOrNull "extends") listed

theorem fileReferences_iff {folder : Folder} {place : List String} {listed : List Json} :
    FileReferences folder place listed ↔
      ((document folder place).toOption.bind fun value => (extendsReferences value).toOption) =
        some listed := by
  rw [FileReferences]
  cases document folder place with
  | error error => simp [Except.toOption]
  | ok value =>
    simp only [Except.ok.injEq, ← extendsReferences_eq_ok, exists_eq_left']
    cases found : extendsReferences value <;> simp [Except.toOption, found]

instance (folder : Folder) (place : List String) (listed : List Json) :
    Decidable (FileReferences folder place listed) :=
  decidable_of_iff _ fileReferences_iff.symm

theorem FileReferences.unique {folder : Folder} {place : List String} {listed other : List Json}
    (first : FileReferences folder place listed) (second : FileReferences folder place other) :
    listed = other :=
  Option.some.inj ((fileReferences_iff.mp first).symm.trans (fileReferences_iff.mp second))

/-- A reference in a file of a directory means a configuration file. -/
def Means (folder : Folder) (directory : List String) (reference : Json) (target : List String) : Prop :=
  ∃ path, resolveExtends folder directory reference = .ok path ∧ folder.resolve path = target

theorem means_iff {folder : Folder} {directory target : List String} {reference : Json} :
    Means folder directory reference target ↔
      (resolveExtends folder directory reference).toOption.map folder.resolve = some target := by
  rw [Means]
  cases resolveExtends folder directory reference with
  | error error => simp [Except.toOption]
  | ok path => simp [Except.toOption]

instance (folder : Folder) (directory target : List String) (reference : Json) :
    Decidable (Means folder directory reference target) :=
  decidable_of_iff _ means_iff.symm

theorem Means.unique {folder : Folder} {directory target other : List String} {reference : Json}
    (first : Means folder directory reference target)
    (second : Means folder directory reference other) : target = other :=
  Option.some.inj ((means_iff.mp first).symm.trans (means_iff.mp second))

/-- A configuration file names another one that it extends. -/
def Extends (folder : Folder) (place target : List String) : Prop :=
  ∃ listed, FileReferences folder place listed ∧ ∃ reference ∈ listed,
    Means folder place.dropLast reference target

theorem ok_of_usable {α : Type} {value : Except ValueFault α} {result : α}
    (h : usable value = .ok result) : value = .ok result := by
  cases value with
  | ok known =>
    cases h
    rfl
  | error fault => cases h

theorem place_inherit {config parent child : ProjectConfig}
    (h : config.inherit parent = .ok child) : child.place = config.place := by
  unfold inherit at h
  dsimp only at h
  split at h
  all_goals
    obtain ⟨files, -, h⟩ := ok_of_bind h
    obtain ⟨included, -, h⟩ := ok_of_bind h
    obtain ⟨excluded, -, h⟩ := ok_of_bind h
    cases h
    rfl

theorem place_ofJson {place : List String} {document : Json} {config : ProjectConfig}
    (h : ofJson place document = .ok config) : config.place = place := by
  unfold ofJson at h
  obtain ⟨files, -, h⟩ := ok_of_bind h
  obtain ⟨options, -, h⟩ := ok_of_bind h
  cases h
  rfl

theorem exists_file_of_document {folder : Folder} {place : List String} {value : Json}
    (h : document folder place = .ok value) : (folder.file? place).isSome = true := by
  unfold document at h
  cases there : folder.file? place with
  | none =>
    rw [there] at h
    cases h
  | some file => rfl

section Steps

variable {folder : Folder} {place : List String} {seen after : Seen} {depth : Nat}
  {config result : ProjectConfig}

/-- What a configuration file says itself: its settings, and what it extends. -/
def ownSettings (folder : Folder) (place : List String) :
    Except ConfigError (ProjectConfig × List Json) := do
  let value ← document folder place
  let own ← usable (ofJson place value)
  let references ← usable (extendsReferences value)
  .ok (own, references)

theorem ownSettings_eq_ok {own : ProjectConfig} {references : List Json} :
    ownSettings folder place = .ok (own, references) ↔ ∃ value,
      document folder place = .ok value ∧ ofJson place value = .ok own ∧
        extendsReferences value = .ok references := by
  constructor
  · intro h
    obtain ⟨value, given, h⟩ := ok_of_bind h
    obtain ⟨own, made, h⟩ := ok_of_bind h
    obtain ⟨references, named, h⟩ := ok_of_bind h
    cases h
    exact ⟨value, given, ok_of_usable made, ok_of_usable named⟩
  · rintro ⟨value, given, made, named⟩
    refine (bind_of_ok given).trans ?_
    rw [made, named]
    rfl

theorem isSome_file_of_ownSettings {own : ProjectConfig × List Json}
    (given : ownSettings folder place = .ok own) : (folder.file? place).isSome = true := by
  obtain ⟨value, document_eq, -⟩ := ok_of_bind given
  exact exists_file_of_document document_eq

theorem loadFrom_of_old (old : place ∈ seen) : loadFrom folder (depth + 1) place seen =
    .error (.malformed (Path.absolute place).text .circular) := by
  rw [loadFrom, if_pos (List.contains_iff_mem.mpr old)]

theorem loadFrom_of_new (new : place ∉ seen) :
    loadFrom folder (depth + 1) place seen =
      ownSettings folder place >>= fun own =>
        inheritAll folder (loadFrom folder depth) own.1 (place :: seen) own.2 := by
  rw [loadFrom, if_neg (fun known => new (List.contains_iff_mem.mp known)), ownSettings]
  simp only [bind_assoc]
  rfl

/-- What a reading of one file has done that succeeds. -/
theorem exists_of_loadFrom (h : loadFrom folder (depth + 1) place seen = .ok (config, after)) :
    place ∉ seen ∧ ∃ own references, ownSettings folder place = .ok (own, references) ∧
      inheritAll folder (loadFrom folder depth) own (place :: seen) references =
        .ok (config, after) := by
  by_cases old : place ∈ seen
  · rw [loadFrom_of_old old] at h
    cases h
  · rw [loadFrom_of_new old] at h
    obtain ⟨⟨own, references⟩, given, h⟩ := ok_of_bind h
    exact ⟨old, own, references, given, h⟩

theorem inheritAll_of_resolve {load : List String → Seen → Except ConfigError (ProjectConfig × Seen)}
    {reference : Json} {rest : List Json} {path : Path}
    (means : resolveExtends folder config.root reference = .ok path) :
    inheritAll folder load config seen (reference :: rest) =
      load (folder.resolve path) seen >>= fun found =>
        usable (config.inherit found.1) >>= fun child =>
          inheritAll folder load child found.2 rest := by
  rw [inheritAll, means]
  rfl

/-- What a reading of extended files has done that succeeds. -/
theorem exists_of_inheritAll {load : List String → Seen → Except ConfigError (ProjectConfig × Seen)}
    {reference : Json} {rest : List Json}
    (h : inheritAll folder load config seen (reference :: rest) = .ok (result, after)) :
    ∃ path parent between child, resolveExtends folder config.root reference = .ok path ∧
      load (folder.resolve path) seen = .ok (parent, between) ∧ config.inherit parent = .ok child ∧
      inheritAll folder load child between rest = .ok (result, after) := by
  unfold inheritAll at h
  obtain ⟨path, means, h⟩ := ok_of_bind h
  obtain ⟨⟨parent, between⟩, loaded, h⟩ := ok_of_bind h
  obtain ⟨child, inherited, h⟩ := ok_of_bind h
  exact ⟨path, parent, between, child, means, loaded, ok_of_usable inherited, h⟩

end Steps

/-- The files that a reading adds, on top of those that were read before it. -/
structure Adds (folder : Folder) (new seen : Seen) : Prop where
  once : new.Nodup
  fresh : ∀ place ∈ new, place ∉ seen
  there : ∀ place ∈ new, (folder.file? place).isSome = true
  onward : ∀ place ∈ new, ∀ target, Extends folder place target → target ∉ seen

theorem Adds.nil (folder : Folder) (seen : Seen) : Adds folder [] seen where
  once := List.nodup_nil
  fresh := by simp
  there := by simp
  onward := by simp

theorem Adds.append {folder : Folder} {later new seen : Seen} (first : Adds folder new seen)
    (second : Adds folder later (new ++ seen)) : Adds folder (later ++ new) seen where
  once := by
    refine List.nodup_append.mpr ⟨second.once, first.once, ?_⟩
    intro place inLater other inNew same
    subst same
    exact second.fresh place inLater (List.mem_append_left _ inNew)
  fresh place member := by
    rcases List.mem_append.mp member with inLater | inNew
    · exact fun old => second.fresh place inLater (List.mem_append_right _ old)
    · exact first.fresh place inNew
  there place member := by
    rcases List.mem_append.mp member with inLater | inNew
    · exact second.there place inLater
    · exact first.there place inNew
  onward place member target extends' := by
    rcases List.mem_append.mp member with inLater | inNew
    · exact fun old => second.onward place inLater target extends' (List.mem_append_right _ old)
    · exact first.onward place inNew target extends'

/-- A reading of one file that succeeds, and what it would do after other files. -/
structure Reads (folder : Folder) (place : List String) (seen : Seen) (config : ProjectConfig)
    (new : Seen) : Prop where
  adds : Adds folder new seen
  begins : ∀ other ∈ new, ∀ target, Extends folder other target → target ≠ place
  own : place ∈ new
  at_place : config.place = place
  again : ∀ other depth, (∀ place ∈ new, place ∉ other) → new.length ≤ depth →
    loadFrom folder depth place other = .ok (config, new ++ other)

/-- A reading of all that a configuration extends. -/
structure ReadsAll (folder : Folder) (config : ProjectConfig) (seen : Seen)
    (references : List Json) (result : ProjectConfig) (new : Seen) : Prop where
  adds : Adds folder new seen
  targets : ∀ reference ∈ references, ∀ path,
    resolveExtends folder config.root reference = .ok path → folder.resolve path ∉ seen
  at_place : result.place = config.place
  again : ∀ other depth, (∀ place ∈ new, place ∉ other) → new.length ≤ depth →
    inheritAll folder (loadFrom folder depth) config other references = .ok (result, new ++ other)

theorem readsAll_of_inheritAll {folder : Folder} {depth : Nat}
    (each : ∀ place seen config after, loadFrom folder depth place seen = .ok (config, after) →
      ∃ new, after = new ++ seen ∧ Reads folder place seen config new)
    {config result : ProjectConfig} {seen after : Seen} {references : List Json}
    (h : inheritAll folder (loadFrom folder depth) config seen references = .ok (result, after)) :
    ∃ new, after = new ++ seen ∧ ReadsAll folder config seen references result new := by
  induction references generalizing config seen with
  | nil =>
    cases h
    exact ⟨[], rfl, .nil folder _, by simp, rfl, fun _ _ _ _ => rfl⟩
  | cons reference rest ih =>
    obtain ⟨path, parent, between, child, means, loaded, inherited, h⟩ := exists_of_inheritAll h
    obtain ⟨new, rfl, reads⟩ := each _ _ _ _ loaded
    obtain ⟨later, rfl, readsLater⟩ := ih h
    have same := place_inherit inherited
    refine ⟨later ++ new, by simp, reads.adds.append readsLater.adds, ?_,
      readsLater.at_place.trans same, ?_⟩
    · intro other member target found
      rcases List.mem_cons.mp member with rfl | further
      · cases means.symm.trans found
        exact reads.adds.fresh _ reads.own
      · have sameRoot : child.root = config.root := by rw [root, root, same]
        have unseen := readsLater.targets other further target (by rw [sameRoot]; exact found)
        exact fun old => unseen (List.mem_append_right _ old)
    · intro other more apart enough
      have apartNew : ∀ place ∈ new, place ∉ other :=
        fun place member => apart place (List.mem_append_right _ member)
      have apartLater : ∀ place ∈ later, place ∉ new ++ other := by
        intro place member old
        rcases List.mem_append.mp old with inNew | inOther
        · exact readsLater.adds.fresh place member (List.mem_append_left _ inNew)
        · exact apart place (List.mem_append_left _ member) inOther
      rw [List.length_append] at enough
      rw [inheritAll_of_resolve means]
      refine (bind_of_ok (reads.again other more apartNew (by omega))).trans ?_
      rw [inherited, List.append_assoc]
      exact readsLater.again (new ++ other) more apartLater (by omega)

theorem reads_of_loadFrom {folder : Folder} {depth : Nat} {place : List String} {seen after : Seen}
    {config : ProjectConfig} (h : loadFrom folder depth place seen = .ok (config, after)) :
    ∃ new, after = new ++ seen ∧ Reads folder place seen config new := by
  induction depth generalizing place seen config after with
  | zero => cases h
  | succ depth ih =>
    obtain ⟨fresh, own, references, given, h⟩ := exists_of_loadFrom h
    obtain ⟨value, document_eq, made, named⟩ := ownSettings_eq_ok.mp given
    obtain ⟨new, rfl, reads⟩ := readsAll_of_inheritAll (fun _ _ _ _ => ih) h
    have own_place := place_ofJson made
    have onwards : ∀ target, Extends folder place target → target ∉ place :: seen := by
      rintro target ⟨names, refers, reference, member, path, found, rfl⟩
      obtain rfl := refers.unique ⟨value, document_eq, extendsReferences_eq_ok.mp named⟩
      refine reads.targets reference member path ?_
      rw [root, own_place]
      exact found
    refine ⟨new ++ [place], by simp, ?_, ?_, by simp, reads.at_place.trans own_place, ?_⟩
    · have alone : Adds folder [place] seen :=
        { once := by simp
          fresh := by simpa using fresh
          there := by simpa using isSome_file_of_ownSettings given
          onward := by
            intro other member target extended
            cases List.mem_singleton.mp member
            exact fun known => onwards target extended (List.mem_cons_of_mem _ known) }
      exact alone.append reads.adds
    · intro other member target extended same
      rcases List.mem_append.mp member with inNew | last
      · exact reads.adds.onward other inNew target extended (same ▸ List.mem_cons_self)
      · cases List.mem_singleton.mp last
        exact onwards target extended (same ▸ List.mem_cons_self)
    · intro other more apart enough
      rw [List.length_append, List.length_singleton] at enough
      obtain ⟨less, rfl⟩ : ∃ less, more = less + 1 := ⟨more - 1, by omega⟩
      have apartNew : ∀ known ∈ new, known ∉ place :: other := by
        intro known member listed
        rcases List.mem_cons.mp listed with rfl | inOther
        · exact reads.adds.fresh known member List.mem_cons_self
        · exact apart known (List.mem_append_left _ member) inOther
      rw [loadFrom_of_new (apart place (by simp)), List.append_assoc]
      exact (bind_of_ok given).trans (reads.again (place :: other) less apartNew (by omega))

/-- There are no more new files than files. -/
theorem Adds.length_le {folder : Folder} {new seen : Seen} (adds : Adds folder new seen) :
    new.length ≤ folder.files.length := by
  have inside : new ⊆ folder.files.map Prod.fst := by
    intro place member
    obtain ⟨file, found⟩ := Option.isSome_iff_exists.mp (adds.there place member)
    exact List.mem_map.mpr ⟨(place, file), Folder.mem_of_file? found, rfl⟩
  have bound := (List.subperm_of_subset adds.once inside).length_le
  rwa [List.length_map] at bound

theorem reads_of_load {folder : Folder} {base name : String} {config : ProjectConfig}
    (h : load folder base name = .ok config) :
    ∃ path new, find? folder base name = .ok (some path) ∧
      Reads folder (folder.resolve path) [] config new := by
  unfold load at h
  obtain ⟨found, finds, h⟩ := ok_of_bind h
  cases found with
  | none => cases h
  | some path =>
    obtain ⟨⟨loaded, after⟩, reading, h⟩ := ok_of_bind h
    cases h
    obtain ⟨new, -, reads⟩ := reads_of_loadFrom reading
    exact ⟨path, new, finds, reads⟩

/-- A configuration that has nothing to say but which other one it extends. -/
def extending (reference : String) : Json := .obj [("extends", .str reference)]

/-- The settings of such a configuration itself. -/
def unset (place : List String) : ProjectConfig := ⟨place, [], .null, .null, []⟩

/-- Such a configuration is read whenever the one that it extends is: the file that is read first is
not met again on the way, as it extends the other. -/
theorem load_extending {folder : Folder} {base name reference : String} {path target : Path}
    {place : List String} {parent child : ProjectConfig} {new : Seen}
    (finds : find? folder base name = .ok (some path))
    (given : document folder (folder.resolve path) = .ok (extending reference))
    (refers : resolveExtends folder (folder.resolve path).dropLast (.str reference) = .ok target)
    (isParent : folder.resolve target = place) (reads : Reads folder place [] parent new)
    (inherits : (unset (folder.resolve path)).inherit parent = .ok child) :
    load folder base name = .ok child := by
  have extended : Extends folder (folder.resolve path) place :=
    ⟨[.str reference], ⟨_, given, .single reference⟩, .str reference, List.mem_singleton.mpr rfl, target,
      refers, isParent⟩
  have apart : ∀ known ∈ new, known ∉ [folder.resolve path] := by
    intro known member same
    cases List.mem_singleton.mp same
    exact reads.begins _ member place extended rfl
  have reading := reads.again [folder.resolve path] folder.files.length apart reads.adds.length_le
  have loading : loadFrom folder (folder.files.length + 1) (folder.resolve path) [] =
      .ok (child, new ++ [folder.resolve path]) := by
    have own : ownSettings folder (folder.resolve path) =
        .ok (unset (folder.resolve path), [.str reference]) :=
      ownSettings_eq_ok.mpr ⟨_, given, rfl, rfl⟩
    rw [loadFrom_of_new List.not_mem_nil]
    refine (bind_of_ok own).trans ?_
    rw [inheritAll_of_resolve refers, isParent]
    refine (bind_of_ok reading).trans ?_
    rw [inherits]
    rfl
  unfold load
  refine (bind_of_ok finds).trans ?_
  exact bind_of_ok loading

end ProjectConfig

end LeastGrant
