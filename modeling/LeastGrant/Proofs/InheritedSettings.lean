import LeastGrant.Proofs.InheritedPatterns

/-! What a configuration takes over from one that it extends. Its own options stand over those of the
other, and of each list of paths it takes the one of the other only if it has none, seen from its own
directory. A path that is seen from one directory after another is seen as from the last alone. -/
namespace LeastGrant

namespace ProjectConfig

/-- The lists of paths of a configuration. -/
inductive PathField where
  | files
  | included
  | excluded

/-- A list of paths as it was given; an empty list of files counts as none. -/
def field (config : ProjectConfig) : PathField → Json
  | .files => if config.files = [] then .null else .arr config.files
  | .included => config.included
  | .excluded => config.excluded

/-- A list of texts as a value; null stands for none. -/
def textList (texts : Option (List String)) : Json := texts.elim .null fun list => .arr (list.map .str)

def text? : Json → Option String
  | .str text => some text
  | _ => none

/-- The texts of a list. -/
def texts? : Json → Option (List String)
  | .arr items => some (items.filterMap text?)
  | _ => none

theorem texts?_textList (texts : Option (List String)) : texts? (textList texts) = texts := by
  cases texts with
  | none => rfl
  | some list => simp [textList, texts?, List.filterMap_map, Function.comp_def, text?]

/-- All lists of paths are lists of texts, or not given. -/
def TextLists (config : ProjectConfig) : Prop :=
  ∀ kind, config.field kind = textList (texts? (config.field kind))

end ProjectConfig

namespace Json

theorem sameScalar_str {key : Json} {name : String} :
    key.sameScalar (.str name) = true ↔ key = .str name := by
  cases key with
  | str text => simp [sameScalar]
  | _ => simp [sameScalar, asInt?]

theorem str_sameScalar {key : Json} {name : String} :
    (Json.str name).sameScalar key = true ↔ key = .str name := by
  cases key with
  | str text => simp [sameScalar, @eq_comm _ text]
  | _ => simp [sameScalar, asInt?]

namespace Table

/-- A table without two entries of one key. -/
def Distinct (table : Table) : Prop := table.Pairwise fun a b => a.1.sameScalar b.1 = false

variable {table below above : Table} {name : String}

theorem get?_cons (entry : Json × Json) (rest : Table) (name : String) :
    get? (entry :: rest) name = if entry.1 = .str name then some entry.2 else get? rest name := by
  by_cases own : entry.1 = .str name
  · have found : entry.1.sameScalar (.str name) = true := sameScalar_str.mpr own
    rw [if_pos own]
    simp [get?, found]
  · have other : entry.1.sameScalar (.str name) = false :=
      Bool.eq_false_iff.mpr fun same => own (sameScalar_str.mp same)
    rw [if_neg own]
    simp [get?, other]

theorem get?_put (table : Table) (key value : Json) (name : String) :
    (table.put key value).get? name = if key = .str name then some value else table.get? name := by
  induction table with
  | nil => rw [put, get?_cons]
  | cons entry rest ih =>
    obtain ⟨other, old⟩ := entry
    rw [put]
    by_cases same : other.sameScalar key = true
    · rw [if_pos same, get?_cons, get?_cons]
      by_cases own : key = .str name
      · have first : other = .str name := sameScalar_str.mp (own ▸ same)
        rw [if_pos first, if_pos own]
      · have first : other ≠ .str name := by
          intro named
          exact own (str_sameScalar.mp (named ▸ same))
        rw [if_neg first, if_neg own, if_neg first]
    · rw [if_neg same, get?_cons, get?_cons, ih]
      by_cases own : key = .str name
      · have first : other ≠ .str name := fun named => same (own ▸ sameScalar_str.mpr named)
        rw [if_neg first, if_pos own, if_pos own]
      · rw [if_neg own, if_neg own]

theorem get?_eq_none (apart : ∀ entry ∈ table, entry.1 ≠ .str name) : table.get? name = none := by
  induction table with
  | nil => rfl
  | cons entry rest ih =>
    obtain ⟨first, later⟩ := List.forall_mem_cons.mp apart
    rw [get?_cons, if_neg first, ih later]

/-- Each name is looked up in the upper table first. -/
theorem get?_override (distinct : above.Distinct) :
    (below.override above).get? name = (above.get? name).or (below.get? name) := by
  induction above generalizing below with
  | nil => rfl
  | cons entry rest ih =>
    obtain ⟨first, later⟩ := List.pairwise_cons.mp distinct
    have step : below.override (entry :: rest) = (below.put entry.1 entry.2).override rest := rfl
    rw [step, ih later, get?_put, get?_cons]
    by_cases own : entry.1 = .str name
    · have unique : get? rest name = none := by
        refine get?_eq_none fun other member named => ?_
        have apart := first other member
        rw [own, named, sameScalar_str.mpr rfl] at apart
        cases apart
      rw [if_pos own, if_pos own, unique]
      rfl
    · rw [if_neg own, if_neg own]

theorem mem_put {entry : Json × Json} {key value : Json} (member : entry ∈ table.put key value) :
    entry.1 = key ∨ ∃ old ∈ table, old.1 = entry.1 := by
  induction table with
  | nil =>
    left
    rw [List.mem_singleton.mp member]
  | cons first rest ih =>
    obtain ⟨other, old⟩ := first
    rw [put] at member
    split at member
    · rcases List.mem_cons.mp member with rfl | later
      · exact .inr ⟨(other, old), List.mem_cons_self, rfl⟩
      · exact .inr ⟨entry, List.mem_cons_of_mem _ later, rfl⟩
    · rcases List.mem_cons.mp member with rfl | later
      · exact .inr ⟨(other, old), List.mem_cons_self, rfl⟩
      · rcases ih later with new | ⟨known, listed, same⟩
        · exact .inl new
        · exact .inr ⟨known, List.mem_cons_of_mem _ listed, same⟩

theorem Distinct.put (distinct : table.Distinct) (key value : Json) :
    (table.put key value).Distinct := by
  induction table with
  | nil => exact List.pairwise_singleton _ _
  | cons entry rest ih =>
    obtain ⟨other, old⟩ := entry
    obtain ⟨first, later⟩ := List.pairwise_cons.mp distinct
    rw [Table.put]
    split
    · exact List.pairwise_cons.mpr ⟨first, later⟩
    · rename_i differ
      refine List.pairwise_cons.mpr ⟨fun found member => ?_, ih later⟩
      rcases mem_put member with new | ⟨known, listed, same⟩
      · rw [new]
        exact Bool.eq_false_iff.mpr differ
      · rw [← same]
        exact first known listed

theorem Distinct.override (distinct : below.Distinct) (above : Table) :
    (below.override above).Distinct := by
  induction above generalizing below with
  | nil => exact distinct
  | cons entry rest ih => exact ih (distinct.put entry.1 entry.2)

end Table

/-- A value without two fields of one name gives a table without two entries of one key. -/
theorem distinct_asTable {value : Json} {table : Table} (wellFormed : value.WellFormed)
    (h : value.asTable = .ok table) : table.Distinct := by
  cases value with
  | obj fields =>
    cases h
    have names : (fields.map Prod.fst).Nodup := wellFormed.1
    refine List.pairwise_map.mpr ((List.pairwise_map.mp names).imp fun differ => ?_)
    exact Bool.eq_false_iff.mpr fun same => differ (by simpa using sameScalar_str.mp same)
  | _ =>
    obtain ⟨items, -, h⟩ := ok_of_bind h
    obtain ⟨pairs, -, h⟩ := ok_of_bind h
    cases h
    exact Table.Distinct.override List.Pairwise.nil pairs

end Json

section Paths

/-- A path of one directory as it is seen from another; an absolute path is seen everywhere alike. -/
def seenFrom (target source : List String) (text : String) : String :=
  if (Path.ofText text).isAbsolute then text else writtenIn target (absolutePattern source text)

/-- A path that is seen from one directory and from there by another is seen as from the other. -/
theorem seenFrom_seenFrom (target : List String) {middle source : List String}
    (plainMiddle : Path.Plain middle) (plainSource : Path.Plain source) (text : String) :
    seenFrom target middle (seenFrom middle source text) = seenFrom target source text := by
  cases rooted : (Path.ofText text).isAbsolute with
  | true => simp [seenFrom, rooted]
  | false =>
    have plainGoal := plain_absolutePattern plainSource text
    have way : Path.ofText (writtenIn middle (absolutePattern source text)) =
        ⟨0, Path.route middle (absolutePattern source text)⟩ := by
      by_cases here : Path.route middle (absolutePattern source text) = []
      · rw [writtenIn, here]
        decide
      · exact ofText_routeText here fun part member => Path.mem_route plainGoal member
    have relative :
        (Path.ofText (writtenIn middle (absolutePattern source text))).isAbsolute = false := by
      rw [way]
      rfl
    have same : absolutePattern middle (writtenIn middle (absolutePattern source text)) =
        absolutePattern source text := by
      rw [absolutePattern, way]
      exact Path.normalParts_route plainMiddle plainGoal
    simp [seenFrom, rooted, relative, same]

end Paths

namespace ProjectConfig

variable {config parent : ProjectConfig}

theorem files_of_field {texts : Option (List String)} (given : config.field .files = textList texts) :
    config.files = (texts.getD []).map .str := by
  rw [field] at given
  split at given
  · rename_i none
    cases texts with
    | none => exact none
    | some list => cases given
  · cases texts with
    | none => cases given
    | some list => exact Json.arr.inj given

theorem ne_nil_of_field {list : List String} (given : config.field .files = textList (some list)) :
    list ≠ [] := by
  intro none
  have empty : config.files = [] := by
    rw [files_of_field given, none]
    rfl
  rw [field, if_pos empty] at given
  cases given

theorem rebasePath_str (source target : List String) (text : String) :
    rebasePath source target (.str text) = .ok (.str (seenFrom target source text)) :=
  rfl

theorem mapM_rebasePath (source target : List String) (texts : List String) :
    (texts.map Json.str).mapM (rebasePath source target) =
      .ok ((texts.map (seenFrom target source)).map .str) := by
  rw [List.map_map]
  exact mapM_map_ok fun text _ => rebasePath_str source target text

theorem rebasePatterns_textList (source target : List String) (texts : Option (List String)) :
    rebasePatterns source target (textList texts) =
      .ok (textList (texts.map (List.map (seenFrom target source)))) := by
  cases texts with
  | none => rfl
  | some list =>
    show ((list.map Json.str).mapM (rebasePath source target) >>=
      fun items => Except.ok (Json.arr items)) = _
    rw [mapM_rebasePath]
    rfl

/-- What stands in a list of paths of a configuration that has taken over the settings of another. -/
def filled (config parent : ProjectConfig) (kind : PathField) : Option (List String) :=
  (texts? (config.field kind)).or
    ((texts? (parent.field kind)).map (List.map (seenFrom config.root parent.root)))

/-- Each list is taken over on its own. -/
theorem inherit_of {files : List Json} {included excluded : Json}
    (takesFiles : (if config.files.isEmpty then
      parent.files.mapM (rebasePath parent.root config.root) else .ok config.files) = .ok files)
    (takesIncluded : (if config.included = .null then
      rebasePatterns parent.root config.root parent.included else .ok config.included) = .ok included)
    (takesExcluded : (if config.excluded = .null then
      rebasePatterns parent.root config.root parent.excluded else .ok config.excluded) = .ok excluded) :
    config.inherit parent =
      .ok ⟨config.place, files, included, excluded, parent.options.override config.options⟩ := by
  unfold inherit
  dsimp only
  split at takesFiles
  all_goals
    rename_i known
    first
      | rw [if_pos known]
      | rw [if_neg known]
    refine (bind_of_ok takesFiles).trans ((bind_of_ok ?_).trans (bind_of_ok ?_))
    · cases given : config.included with
      | null => rwa [given] at takesIncluded
      | _ => rwa [given] at takesIncluded
    · cases given : config.excluded with
      | null => rwa [given] at takesExcluded
      | _ => rwa [given] at takesExcluded

/-- A configuration with texts only takes over the settings of any other one with texts only. -/
theorem inherit_eq (own : config.TextLists) (other : parent.TextLists) :
    config.inherit parent = .ok
      ⟨config.place, ((config.filled parent .files).getD []).map .str,
        textList (config.filled parent .included), textList (config.filled parent .excluded),
        parent.options.override config.options⟩ := by
  have takes (kind : PathField) : (if config.field kind = .null then
        rebasePatterns parent.root config.root (parent.field kind) else .ok (config.field kind)) =
      .ok (textList (config.filled parent kind)) := by
    have given := own kind
    have givenToo := other kind
    rw [filled]
    generalize texts? (config.field kind) = texts at given ⊢
    generalize texts? (parent.field kind) = textsToo at givenToo ⊢
    rw [given, givenToo]
    cases texts with
    | none => exact rebasePatterns_textList _ _ _
    | some list => rfl
  refine inherit_of ?_ (takes .included) (takes .excluded)
  have given := own .files
  have files := files_of_field (other .files)
  rw [filled]
  generalize texts? (config.field .files) = texts at given ⊢
  generalize texts? (parent.field .files) = textsToo at files ⊢
  cases texts with
  | none =>
    have empty : config.files = [] := files_of_field given
    rw [empty, files]
    refine (mapM_rebasePath _ _ _).trans ?_
    cases textsToo with
    | none => rfl
    | some list => rfl
  | some list =>
    have some : config.files.isEmpty = false := by
      rw [files_of_field given]
      simpa using ne_nil_of_field given
    rw [some, files_of_field given]
    rfl

/-- The lists of paths after taking over the settings of another configuration. -/
theorem field_inherit {child : ProjectConfig} (own : config.TextLists) (other : parent.TextLists)
    (h : config.inherit parent = .ok child) (kind : PathField) :
    child.field kind = textList (config.filled parent kind) := by
  cases (inherit_eq own other).symm.trans h
  cases kind with
  | files =>
    have some (list : List String) (given : config.filled parent .files = some list) : list ≠ [] := by
      rw [filled, Option.or_eq_some_iff, Option.map_eq_some_iff] at given
      rcases given with own' | ⟨-, before, given, rfl⟩
      · exact ne_nil_of_field (own' ▸ own .files)
      · simpa using ne_nil_of_field (given ▸ other .files)
    rw [field]
    cases given : config.filled parent .files with
    | none => rfl
    | some list => exact if_neg (by simpa using some list given)
  | included => rfl
  | excluded => rfl

theorem textLists_inherit {child : ProjectConfig} (own : config.TextLists) (other : parent.TextLists)
    (h : config.inherit parent = .ok child) : child.TextLists := by
  intro kind
  rw [field_inherit own other h, texts?_textList]

theorem options_inherit {child : ProjectConfig} (h : config.inherit parent = .ok child) :
    child.options = parent.options.override config.options := by
  unfold inherit at h
  dsimp only at h
  split at h
  all_goals
    obtain ⟨files, -, h⟩ := ok_of_bind h
    obtain ⟨included, -, h⟩ := ok_of_bind h
    obtain ⟨excluded, -, h⟩ := ok_of_bind h
    cases h
    rfl

theorem wellFormed_of_document {folder : Folder} {place : List String} {value : Json}
    (h : document folder place = .ok value) : value.WellFormed := by
  unfold document at h
  dsimp only at h
  split at h
  · cases h
  · cases h
  · split at h
    · cases h
    · rename_i found
      cases h
      exact Json.wellFormed_of_read found
    · cases h

theorem distinct_options {folder : Folder} {place : List String} {value : Json}
    (given : document folder place = .ok value) (h : ofJson place value = .ok config) :
    config.options.Distinct := by
  have wellFormed : (value.getOrNull "compilerOptions").WellFormed := by
    rw [Json.getOrNull]
    cases found : value.get? "compilerOptions" with
    | none => trivial
    | some options => exact (wellFormed_of_document given).of_get? found
  unfold ofJson at h
  obtain ⟨files, -, h⟩ := ok_of_bind h
  obtain ⟨options, read, h⟩ := ok_of_bind h
  cases h
  exact Json.distinct_asTable wellFormed read

end ProjectConfig

end LeastGrant
