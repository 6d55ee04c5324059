import LeastGrant.Proofs.CircularExtends

/-! Which settings win when configurations extend each other. Taken in the order in which the files are
read, depth first and each file before those that it extends, the first file that has a setting decides
about it. Paths of a later file are seen from the directory of the first one, however many files stand
between them. -/
namespace LeastGrant

namespace ProjectConfig

variable {folder : Folder}

mutual

/-- The files that are read from one on: itself, and then what it extends, depth first. -/
inductive PreOrder (folder : Folder) : (place : List String) → (order : List (List String)) → Prop
  | visit {place : List String} {listed : List Json} {below : List (List String)} :
      FileReferences folder place listed → PreOrders folder place.dropLast listed below →
        PreOrder folder place (place :: below)

/-- The files that are read for the references in a file of a directory, one after the other. -/
inductive PreOrders (folder : Folder) :
    (directory : List String) → (listed : List Json) → (order : List (List String)) → Prop
  | nil {directory : List String} : PreOrders folder directory [] []
  | cons {directory target : List String} {reference : Json} {rest : List Json}
      {first later : List (List String)} :
      Means folder directory reference target → PreOrder folder target first →
        PreOrders folder directory rest later →
          PreOrders folder directory (reference :: rest) (first ++ later)

end

mutual

/-- There is one order of reading. -/
theorem PreOrder.unique {place : List String} {first second : List (List String)} :
    PreOrder folder place first → PreOrder folder place second → first = second
  | .visit refers below, .visit refersToo belowToo => by
    cases refers.unique refersToo
    rw [PreOrders.unique below belowToo]

theorem PreOrders.unique {directory : List String} {listed : List Json}
    {first second : List (List String)} :
    PreOrders folder directory listed first → PreOrders folder directory listed second →
      first = second
  | .nil, .nil => rfl
  | .cons means head tail, .cons meansToo headToo tailToo => by
    cases means.unique meansToo
    rw [PreOrder.unique head headToo, PreOrders.unique tail tailToo]

end

/-- The list of paths that counts: the own one, or the first one of the others, seen from the own
directory. -/
def resolved (own : ProjectConfig) (others : List ProjectConfig) (kind : PathField) :
    Option (List String) :=
  (texts? (own.field kind)).or (others.findSome? fun other =>
    (texts? (other.field kind)).map (List.map (seenFrom own.root other.root)))

/-- A configuration that has taken over the settings of others, the first ones before the later. -/
structure Merges (config own : ProjectConfig) (others : List ProjectConfig) : Prop where
  at_place : config.place = own.place
  distinct : config.options.Distinct
  options : ∀ name, config.options.get? name =
    (own :: others).findSome? fun other => other.options.get? name
  lists : (∀ other ∈ own :: others, other.TextLists) →
    ∀ kind, config.field kind = textList (own.resolved others kind)

namespace Merges

variable {config own : ProjectConfig} {others : List ProjectConfig}

theorem root_eq (merges : Merges config own others) : config.root = own.root := by
  rw [root, root, merges.at_place]

theorem texts?_field (merges : Merges config own others)
    (texts : ∀ other ∈ own :: others, other.TextLists) (kind : PathField) :
    texts? (config.field kind) = own.resolved others kind := by
  rw [merges.lists texts, texts?_textList]

theorem textLists (merges : Merges config own others)
    (texts : ∀ other ∈ own :: others, other.TextLists) : config.TextLists := by
  intro kind
  rw [merges.lists texts, texts?_textList]

theorem self (distinct : own.options.Distinct) : Merges own own [] where
  at_place := rfl
  distinct := distinct
  options name := by simp
  lists texts kind := by
    have given := texts own List.mem_cons_self kind
    simpa [resolved] using given

end Merges

section Steps

variable {config parent child own first : ProjectConfig} {before others : List ProjectConfig}

theorem findSome?_cons_or {α β : Type} (f : α → Option β) (first : α) (rest : List α) :
    (first :: rest).findSome? f = (f first).or (rest.findSome? f) := by
  rw [List.findSome?_cons]
  cases f first with
  | none => rfl
  | some value => rfl

/-- Paths that another configuration took over are seen as from where they came. -/
theorem map_findSome?_seenFrom (target : List String) {middle : List String}
    (plainMiddle : Path.Plain middle) (plain : ∀ other ∈ others, Path.Plain other.root)
    (kind : PathField) :
    (others.findSome? fun other =>
        (texts? (other.field kind)).map (List.map (seenFrom middle other.root))).map
          (List.map (seenFrom target middle)) =
      others.findSome? fun other =>
        (texts? (other.field kind)).map (List.map (seenFrom target other.root)) := by
  induction others with
  | nil => rfl
  | cons other rest ih =>
    obtain ⟨plainOther, plainRest⟩ := List.forall_mem_cons.mp plain
    have each : List.map (seenFrom target middle) ∘ List.map (seenFrom middle other.root) =
        List.map (seenFrom target other.root) := by
      funext texts
      simp [seenFrom_seenFrom target plainMiddle plainOther]
    rw [findSome?_cons_or, findSome?_cons_or, Option.map_or, Option.map_map, each, ih plainRest]

theorem resolved_append (plainFirst : Path.Plain first.root)
    (plain : ∀ other ∈ others, Path.Plain other.root) (kind : PathField) :
    (own.resolved before kind).or
        ((first.resolved others kind).map (List.map (seenFrom own.root first.root))) =
      own.resolved (before ++ first :: others) kind := by
  rw [resolved, resolved, resolved, Option.map_or,
    map_findSome?_seenFrom own.root plainFirst plain, List.findSome?_append, findSome?_cons_or,
    Option.or_assoc]

/-- One more configuration comes after those that came before. -/
theorem Merges.inherit (merges : Merges config own before) (other : Merges parent first others)
    (plainFirst : Path.Plain first.root) (plain : ∀ other ∈ others, Path.Plain other.root)
    (h : config.inherit parent = .ok child) : Merges child own (before ++ first :: others) where
  at_place := (place_inherit h).trans merges.at_place
  distinct := by
    rw [options_inherit h]
    exact other.distinct.override _
  options name := by
    rw [options_inherit h, Json.Table.get?_override merges.distinct, merges.options, other.options,
      ← List.findSome?_append]
    rfl
  lists texts kind := by
    obtain ⟨ownTexts, othersTexts⟩ := List.forall_mem_cons.mp texts
    obtain ⟨beforeTexts, laterTexts⟩ := List.forall_mem_append.mp othersTexts
    have mine := List.forall_mem_cons.mpr ⟨ownTexts, beforeTexts⟩
    rw [field_inherit (merges.textLists mine) (other.textLists laterTexts) h, filled,
      merges.texts?_field mine, other.texts?_field laterTexts, merges.root_eq, other.root_eq,
      resolved_append plainFirst plain]

end Steps

section Readings

variable (plainFiles : ∀ file ∈ folder.files, Path.Plain file.1)

include plainFiles in
theorem Own.plain {place : List String} {config : ProjectConfig} (own : Own folder place config) :
    Path.Plain config.root := by
  obtain ⟨value, given, made⟩ := own
  have plain := plain_of_file plainFiles (exists_file_of_document given)
  rw [root, place_ofJson made]
  exact plain.of_subset (List.dropLast_subset place)

theorem Own.distinct {place : List String} {config : ProjectConfig} (own : Own folder place config) :
    config.options.Distinct := by
  obtain ⟨value, given, made⟩ := own
  exact distinct_options given made

/-- Own settings are known by the places of their files. -/
theorem eq_of_places {configs others : List ProjectConfig}
    (same : configs.map ProjectConfig.place = others.map ProjectConfig.place)
    (first : ∀ config ∈ configs, Own folder config.place config)
    (second : ∀ config ∈ others, Own folder config.place config) : configs = others := by
  induction configs generalizing others with
  | nil => exact (List.map_eq_nil_iff.mp same.symm).symm
  | cons config rest ih =>
    cases others with
    | nil => cases same
    | cons other more =>
      obtain ⟨here, later⟩ := List.cons.inj same
      rw [List.forall_mem_cons] at first second
      rw [first.1.unique (here ▸ second.1), ih later first.2 second.2]

/-- A configuration and the own settings of the files that were read for it, in their order. -/
structure ReadsInOrder (folder : Folder) (place : List String) (config own : ProjectConfig)
    (others : List ProjectConfig) : Prop where
  order : PreOrder folder place ((own :: others).map ProjectConfig.place)
  settings : ∀ other ∈ own :: others, Own folder other.place other
  merges : Merges config own others

include plainFiles in
theorem inheritAll_in_order {depth : Nat}
    (each : ∀ place seen config after, loadFrom folder depth place seen = .ok (config, after) →
      ∃ own others, ReadsInOrder folder place config own others)
    {config result own : ProjectConfig} {before : List ProjectConfig} {seen after : Seen}
    {listed : List Json} (merges : Merges config own before)
    (h : inheritAll folder (loadFrom folder depth) config seen listed = .ok (result, after)) :
    ∃ later, PreOrders folder config.root listed (later.map ProjectConfig.place) ∧
      (∀ other ∈ later, Own folder other.place other) ∧ Merges result own (before ++ later) := by
  induction listed generalizing config before seen with
  | nil =>
    cases h
    exact ⟨[], .nil, by simp, by simpa using merges⟩
  | cons reference rest ih =>
    obtain ⟨target, parent, between, child, means, loaded, inherited, h⟩ := cons_of_inheritAll h
    obtain ⟨first, others, reads⟩ := each _ _ _ _ loaded
    obtain ⟨firstOwn, othersOwn⟩ := List.forall_mem_cons.mp reads.settings
    have step := merges.inherit reads.merges (firstOwn.plain plainFiles)
      (fun other member => (othersOwn other member).plain plainFiles) inherited
    obtain ⟨later, order, settings, mergesAll⟩ := ih step h
    have same : child.root = config.root := by rw [root, root, place_inherit inherited]
    rw [same] at order
    refine ⟨first :: others ++ later, ?_, List.forall_mem_append.mpr ⟨reads.settings, settings⟩,
      by simpa using mergesAll⟩
    rw [List.map_append]
    exact .cons means reads.order order

include plainFiles in
theorem loadFrom_in_order {depth : Nat} {place : List String} {seen after : Seen}
    {config : ProjectConfig} (h : loadFrom folder depth place seen = .ok (config, after)) :
    ∃ own others, ReadsInOrder folder place config own others := by
  induction depth generalizing place seen config after with
  | zero => cases h
  | succ depth ih =>
    obtain ⟨-, own, listed, mine, refers, h⟩ := inheritAll_of_loadFrom h
    obtain ⟨later, order, settings, merges⟩ :=
      inheritAll_in_order plainFiles (fun _ _ _ _ => ih) (.self mine.distinct) h
    have here := mine.place_eq
    rw [mine.root_eq] at order
    refine ⟨own, later, ⟨?_, List.forall_mem_cons.mpr ⟨here.symm ▸ mine, settings⟩, merges⟩⟩
    rw [List.map_cons, here]
    exact .visit refers order

end Readings

/-- The settings of a configuration that has been read with all that it extends. Of the files in the
order of reading, the first one that has an option decides about it, and the first one that has a list
of paths gives the list, seen from the directory of the configuration. -/
theorem load_precedence {base name : String} {config : ProjectConfig}
    (plainFiles : ∀ file ∈ folder.files, Path.Plain file.1)
    (h : load folder base name = .ok config) :
    ∃ path own others, find? folder base name = .ok (some path) ∧
      PreOrder folder (folder.resolve path) ((own :: others).map ProjectConfig.place) ∧
      (∀ other ∈ own :: others, Own folder other.place other) ∧
      config.place = own.place ∧
      (∀ option, config.options.get? option =
        (own :: others).findSome? fun other => other.options.get? option) ∧
      ((∀ other ∈ own :: others, other.TextLists) →
        ∀ kind, config.field kind = textList (own.resolved others kind)) := by
  unfold load at h
  obtain ⟨found, finds, h⟩ := ok_of_bind h
  cases found with
  | none => cases h
  | some path =>
    obtain ⟨⟨loaded, after⟩, reading, h⟩ := ok_of_bind h
    cases h
    obtain ⟨own, others, reads⟩ := loadFrom_in_order plainFiles reading
    exact ⟨path, own, others, finds, reads.order, reads.settings, reads.merges.at_place,
      reads.merges.options, reads.merges.lists⟩

end ProjectConfig

namespace Layers

open ProjectConfig

/-- Three configurations, each of which extends the next. -/
def folder : Folder where
  files := [
    (["app", "tsconfig.json"], .ofText
      "\x7b\"extends\": \"../base/b.json\", \"compilerOptions\": \x7b\"strict\": true\x7d\x7d"),
    (["base", "b.json"], .ofText "\x7b\"extends\": \"../common/c.json\", \"include\": [\"src\"]\x7d"),
    (["common", "c.json"], .ofText
      "\x7b\"exclude\": [\"out\"], \"compilerOptions\": \x7b\"strict\": false\x7d\x7d")]
  directories := []
  current := []

def loaded : ProjectConfig :=
  ⟨["app", "tsconfig.json"], [], .arr [.str "../base/src"], .arr [.str "../common/out"],
    [(.str "strict", .bool true)]⟩

def places : List (List String) := [["app", "tsconfig.json"], ["base", "b.json"], ["common", "c.json"]]

/-- The settings of each file itself. -/
def app : ProjectConfig := ⟨["app", "tsconfig.json"], [], .null, .null, [(.str "strict", .bool true)]⟩

def base : ProjectConfig := ⟨["base", "b.json"], [], .arr [.str "src"], .null, []⟩

def common : ProjectConfig :=
  ⟨["common", "c.json"], [], .null, .arr [.str "out"], [(.str "strict", .bool false)]⟩

theorem plain_files : ∀ file ∈ folder.files, Path.Plain file.1 := by decide

theorem find_app :
    find? folder "app" "tsconfig.json" = .ok (some (.absolute ["app", "tsconfig.json"])) := by
  decide +kernel

theorem load_app : load folder "app" "tsconfig.json" = .ok loaded := by decide +kernel

theorem own_settings : ∀ config ∈ [app, base, common], Own folder config.place config := by
  decide +kernel

theorem preOrder_app : PreOrder folder ["app", "tsconfig.json"] places := by
  have refers : FileReferences folder ["app", "tsconfig.json"] [.str "../base/b.json"] ∧
      FileReferences folder ["base", "b.json"] [.str "../common/c.json"] ∧
      FileReferences folder ["common", "c.json"] [] := by
    decide +kernel
  have means : Means folder ["app"] (.str "../base/b.json") ["base", "b.json"] ∧
      Means folder ["base"] (.str "../common/c.json") ["common", "c.json"] := by
    decide +kernel
  have common : PreOrder folder ["common", "c.json"] [["common", "c.json"]] :=
    .visit refers.2.2 .nil
  have base : PreOrder folder ["base", "b.json"] [["base", "b.json"], ["common", "c.json"]] :=
    .visit refers.2.1 (.cons means.2 common .nil)
  exact .visit refers.1 (.cons means.1 base .nil)

theorem load_precedence_app :
    load folder "app" "tsconfig.json" = .ok loaded ∧ PreOrder folder ["app", "tsconfig.json"] places ∧
      (∀ config ∈ [app, base, common], Own folder config.place config) ∧
      loaded.options.get? "strict" =
        [app, base, common].findSome? (fun other => other.options.get? "strict") ∧
      loaded.included = textList (app.resolved [base, common] .included) ∧
      loaded.excluded = textList (app.resolved [base, common] .excluded) := by
  obtain ⟨path, own, others, finds, order, settings, -, options, lists⟩ :=
    load_precedence plain_files load_app
  cases find_app.symm.trans finds
  have known : own :: others = [app, base, common] :=
    eq_of_places (order.unique preOrder_app) settings own_settings
  obtain ⟨rfl, rfl⟩ := List.cons.inj known
  have texts : ∀ other ∈ [app, base, common], other.TextLists := by
    simp only [List.forall_mem_cons]
    refine ⟨?_, ?_, ?_, nofun⟩
    all_goals
      intro kind
      cases kind <;> rfl
  exact ⟨load_app, preOrder_app, own_settings, options "strict", lists texts .included,
    lists texts .excluded⟩

end Layers

end LeastGrant
