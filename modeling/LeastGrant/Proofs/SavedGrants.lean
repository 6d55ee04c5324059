import LeastGrant.Proofs.BuiltRegistry
import LeastGrant.Proofs.CommandSteps
import LeastGrant.Proofs.JoinedTexts
import LeastGrant.Proofs.MergedGrants
import LeastGrant.Proofs.SavedStore

/-! Grants by way of a file. A project may be analysed and its store saved, to be read again for the
grants, or the grants may be written from the analysis at once. Both give the same statements, as long as
the names in the store are texts that are read back as they were. -/
namespace LeastGrant

open Json Work

/-- All tables of a registry are named by texts. -/
def Registry.Textual (registry : Registry) : Prop :=
  ∀ entity ∈ registry.entities, ∃ table, entity.table = .str table

/-- The names of models and tables are read back from the texts in which they are saved. -/
def Registry.ReadsBack (registry : Registry) : Prop :=
  ∀ entity ∈ registry.entities, (Json.str entity.name).ReadsBack ∧ entity.table.ReadsBack

namespace UsageStore

/-! ## Stores of analyses -/

section Analysis

variable (registry : Registry) (only : Option String) (files : List SourceFile)

theorem registered_analyze : (analyze registry only files).store.Registered registry :=
  registered_runStates registry only files _
    (List.mem_of_getLast? (getLast?_runStates registry only files))

variable {registry}

theorem textual_analyze (texts : registry.Textual) : (analyze registry only files).store.Textual := by
  have registered := registered_analyze registry only files
  intro record member
  obtain ⟨entity, found, table⟩ := registered.known record member
  rw [UsageRecord.Textual, table]
  exact ⟨registered.reads record member, texts entity (List.mem_of_find?_eq_some found)⟩

theorem readsBack_analyze (back : registry.ReadsBack) :
    (analyze registry only files).store.ReadsBack := by
  intro record member
  obtain ⟨entity, found, table⟩ := (registered_analyze registry only files).known record member
  have named : entity.name = record.entity := by simpa using List.find?_some found
  rw [UsageRecord.ReadsBack, ← named, table]
  exact back entity (List.mem_of_find?_eq_some found)

end Analysis

/-! ## Stores of files -/

theorem ok_of_map {ε α β : Type} {f : α → β} {first : Except ε α} {result : β}
    (h : first.map f = .ok result) : ∃ value, first = .ok value ∧ f value = result := by
  cases first with
  | error fault => cases h
  | ok value => exact ⟨value, rfl, Except.ok.inj h⟩

theorem exists_of_ofJson {document : Json} {store : UsageStore} (h : ofJson document = .ok store) :
    ∃ fields, document = .obj fields ∧ ∀ record ∈ store.records, ∃ field ∈ fields,
      UsageRecord.ofJson field.1 field.2 = .ok record := by
  cases document with
  | obj fields =>
    refine ⟨fields, rfl, fun record member => ?_⟩
    obtain ⟨records, reads, rfl⟩ := ok_of_map h
    rw [records_ofRecords] at member
    have listed := (mem_of_mem_foldl_putByKey _ member).resolve_right List.not_mem_nil
    exact exists_of_forall₂ (forall₂_of_mapM reads) listed
  | _ => cases h

theorem textual_of_ofJson {name : String} {value : Json} {record : UsageRecord}
    (h : UsageRecord.ofJson name value = .ok record) :
    record.Textual ∧ record.entity = name ∧ value.get? "table" = some record.table := by
  unfold UsageRecord.ofJson at h
  split at h
  · rename_i table found
    cases h
    exact ⟨⟨rfl, table, rfl⟩, rfl, found⟩
  · cases h

theorem textual_ofJson {document : Json} {store : UsageStore} (reads : ofJson document = .ok store) :
    store.Textual := by
  obtain ⟨fields, -, each⟩ := exists_of_ofJson reads
  intro record member
  obtain ⟨field, -, holds⟩ := each record member
  exact (textual_of_ofJson holds).1

theorem readsBack_of_ofJson {name : String} {value : Json} {record : UsageRecord}
    (h : UsageRecord.ofJson name value = .ok record) (named : asRead name = name)
    (settled : value.Settled) : record.ReadsBack := by
  obtain ⟨⟨-, table, text⟩, rfl, found⟩ := textual_of_ofJson h
  rw [UsageRecord.ReadsBack, readsBack_str, text, readsBack_str]
  refine ⟨named, ?_⟩
  rw [text] at found
  cases value with
  | obj fields => exact (settledFields_iff.mp settled _ (Fields.mem_of_get? found)).2
  | _ => cases found

theorem exists_of_load {folder : Folder} {path : Path} {store : UsageStore}
    (h : load folder path = .ok store) :
    ∃ text document, folder.readText path = .ok text ∧ Json.read text = .ok document ∧
      ofJson document = .ok store := by
  unfold load at h
  split at h
  · cases h
  · cases h
  · rename_i text reads
    split at h
    · cases h
    · rename_i document holds
      split at h
      · rename_i found
        cases h
        exact ⟨text, document, reads, holds, found⟩
      · cases h

theorem textual_load {folder : Folder} {path : Path} {store : UsageStore}
    (h : load folder path = .ok store) : store.Textual := by
  obtain ⟨-, document, -, -, found⟩ := exists_of_load h
  exact textual_ofJson found

theorem readsBack_load {folder : Folder} {path : Path} {store : UsageStore}
    (h : load folder path = .ok store) : store.ReadsBack := by
  obtain ⟨text, document, -, holds, found⟩ := exists_of_load h
  obtain ⟨fields, rfl, each⟩ := exists_of_ofJson found
  have settled := settledFields_iff.mp (settled_of_read holds)
  intro record member
  obtain ⟨field, known, record⟩ := each record member
  exact readsBack_of_ofJson record (settled field known).1 (settled field known).2

/-- What uses give and growing keeps holds of all records that uses make. -/
theorem forall_foldl_add {P : UsageRecord → Prop}
    (grown : ∀ earlier later, earlier.GrowsTo later → P earlier → P later) {uses : List Use}
    (each : ∀ use ∈ uses, P (.ofUse use)) {store : UsageStore}
    (before : ∀ record ∈ store.records, P record) :
    ∀ record ∈ (uses.foldl add store).records, P record := by
  induction uses generalizing store with
  | nil => exact before
  | cons use rest ih =>
    obtain ⟨first, others⟩ := List.forall_mem_cons.mp each
    refine ih others fun record member => ?_
    rcases mem_records_add member with ⟨old, known, grows⟩ | rfl
    · exact grown old record grows (before old known)
    · exact first

theorem forall_foldl_merge {P : UsageRecord → Prop}
    (grown : ∀ earlier later, earlier.GrowsTo later → P earlier → P later)
    (used : ∀ record, P record → P (.ofUse record.use)) {stores : List UsageStore}
    (each : ∀ store ∈ stores, ∀ record ∈ store.records, P record) :
    ∀ record ∈ (stores.foldl merge empty).records, P record := by
  rw [foldl_merge]
  refine forall_foldl_add grown (fun use member => ?_) (List.forall_mem_nil P)
  obtain ⟨store, known, inside⟩ := List.mem_flatMap.mp member
  obtain ⟨record, listed, rfl⟩ := List.mem_map.mp inside
  exact used record (each store known record listed)

theorem exists_of_loadAll {folder : Folder} {paths : List Path} {store : UsageStore}
    (h : loadAll folder paths = .ok store) :
    ∃ stores : List UsageStore, store = stores.foldl merge empty ∧
      ∀ part ∈ stores, ∃ path ∈ paths, load folder path = .ok part := by
  obtain ⟨stores, reads, rfl⟩ := ok_of_map h
  exact ⟨stores, rfl, fun part member => exists_of_forall₂ (forall₂_of_mapM reads) member⟩

theorem textual_loadAll {folder : Folder} {paths : List Path} {store : UsageStore}
    (h : loadAll folder paths = .ok store) : store.Textual := by
  obtain ⟨stores, rfl, each⟩ := exists_of_loadAll h
  refine forall_foldl_merge (fun earlier later grows textual => ?_) (fun record textual => ?_)
    fun part member => ?_
  · rw [UsageRecord.Textual, grows.select, grows.table]
    exact textual
  · exact ⟨rfl, textual.2⟩
  · obtain ⟨path, -, loads⟩ := each part member
    exact textual_load loads

/-- All names in a store that is merged from files are read back. -/
theorem readsBack_loadAll {folder : Folder} {paths : List Path} {store : UsageStore}
    (h : loadAll folder paths = .ok store) : store.ReadsBack := by
  obtain ⟨stores, rfl, each⟩ := exists_of_loadAll h
  refine forall_foldl_merge (fun earlier later grows back => ?_) (fun record back => back)
    fun part member => ?_
  · rw [UsageRecord.ReadsBack, grows.entity, grows.table]
    exact back
  · obtain ⟨path, -, loads⟩ := each part member
    exact readsBack_load loads

end UsageStore

/-! ## Settings -/

/-- A file of another name changes no settings. -/
theorem Settings.load_of_write {folder after : Folder} {path : Path} {text : String}
    (writes : folder.write path text = (.ok (), after)) (other : path.name ≠ ".env")
    (plain : ∀ part ∈ folder.current, part ≠ "..") (environment : Variables) :
    Settings.load after environment = Settings.load folder environment := by
  obtain ⟨-, -, -, -, current⟩ := Folder.exists_of_write writes
  have each : ∀ place ∈ (Path.absolute folder.current).withParents.map (·.child ".env"),
      after.fileAt? place = folder.fileAt? place := by
    intro place member
    obtain ⟨above, listed, rfl⟩ := List.mem_map.mp member
    obtain ⟨n, -, rfl⟩ := List.mem_map.mp listed
    have names : ∀ part ∈ folder.current.take (folder.current.length - n), part ≠ ".." :=
      fun part known => plain part (List.mem_of_mem_take known)
    have named : (folder.current.take (folder.current.length - n) ++ [".env"]).getLast? ≠
        some path.name := by
      rw [List.getLast?_concat, Ne, Option.some_inj]
      exact Ne.symm other
    calc after.fileAt? (.absolute (folder.current.take (folder.current.length - n) ++ [".env"]))
        = after.file? (folder.current.take (folder.current.length - n) ++ [".env"]) :=
          after.fileAt?_absolute names (by decide)
      _ = folder.file? (folder.current.take (folder.current.length - n) ++ [".env"]) :=
          Folder.file?_of_write writes named
      _ = folder.fileAt? (.absolute (folder.current.take (folder.current.length - n) ++ [".env"])) :=
          (folder.fileAt?_absolute names (by decide)).symm
  have same : after.envFile? = folder.envFile? := by
    rw [Folder.envFile?, Folder.envFile?, current, ← List.head?_filterMap, ← List.head?_filterMap,
      List.filterMap_congr each]
  rw [load, load, same]

/-! ## Both ways to grants -/

/-- A store of an analysis over tables that are named by texts, or one that is merged from files. -/
inductive UsageStore.Arises : UsageStore → Prop
  | analysis {registry : Registry} (texts : registry.Textual) (only : Option String)
      (files : List SourceFile) : Arises (analyze registry only files).store
  | merge {folder : Folder} {paths : List Path} {store : UsageStore}
      (loads : loadAll folder paths = .ok store) : Arises store

theorem UsageStore.Arises.textual {store : UsageStore} (arises : store.Arises) : store.Textual := by
  cases arises with
  | analysis texts only files => exact textual_analyze only files texts
  | merge loads => exact textual_loadAll loads

open Command

section Scan

variable {environment : Variables} {folder : Folder} {options : AnalysisOptions} {path : Path}
  {asJson details : Bool} {level : Level} {scanned : Outcome}

/-- A scan that ends well saves the store of an analysis. The grants for that file are printed as the
grants for the project. -/
theorem sql_of_scan (scans : (scan options (some path) asJson details).run level
      (settingsFor environment folder) folder = scanned)
    (ends : scanned.ending.exitCode = 0) (other : path.name ≠ ".env")
    (plain : ∀ part ∈ folder.current, part ≠ "..") :
    ∃ analysis, (∃ registry files, analysis = analyze registry options.onlyFrom files) ∧
      ((analyzeProject (settingsFor environment folder) options).run ⟨"", [], folder⟩).1 =
        .ok analysis ∧
      analysis.store.save folder path = (.ok (), scanned.folder) ∧
      (analysis.store.Textual → analysis.store.ReadsBack → ∀ account printSql url,
        ((sql path account).run level (settingsFor environment scanned.folder) scanned.folder).Alike
          ((grant options account false printSql url).run level (settingsFor environment folder)
            folder)) := by
  subst scans
  obtain ⟨t, ran⟩ : ∃ t, ((scan options (some path) asJson details).work
      (settingsFor environment folder)).run ⟨"", [], folder⟩ = (.ok (), t) :=
    ⟨_, Prod.ext (exitCode_eq_zero.mp ends) rfl⟩
  rw [folder_run ran]
  have loads := onlyNotes_of SettingsError.asCommandError (Settings.load folder environment)
  obtain ⟨analysis, u, analyses, saves⟩ := save_of_scan loads ran
  have gives := congrArg Prod.fst analyses
  refine ⟨analysis, (onlyNotes_analyzeProject loads options).gives _ analysis gives, gives, saves,
    fun texts back account printSql url => ?_⟩
  have reads := UsageStore.load_of_save texts back saves
  rw [settingsFor, Settings.load_of_write saves other plain]
  exact sql_alike_grant analyses reads (fun _ => rfl) account printSql url level

end Scan

/-- A store that was saved is read back as it was, with the same grants, if its names are texts that are
read back. All texts are but those in which two halves of a surrogate pair stand side by side, so all
names in merged stores are, and those of an analysis if the names in the registry are. A scan into a file
and the grants for that file then print what the grants for the project print. -/
theorem ways_to_grants_agree (store : UsageStore) (folder after : Folder) (path : Path) :
    (store.Arises → store.ReadsBack → store.save folder path = (.ok (), after) →
      UsageStore.load after path = .ok store ∧
      ∀ grants, (UsageStore.load after path).map (grantText · grants) = .ok (grantText store grants)) ∧
    (∀ text, (Json.str text).ReadsBack ↔
      ∃ row, text.toList = Text.spell row ∧ (∀ code ∈ row, code < 0x110000) ∧ Unpaired row) ∧
    (∀ {folder : Folder} {paths : List Path} {store : UsageStore},
      UsageStore.loadAll folder paths = .ok store → store.ReadsBack) ∧
    (∀ {registry : Registry}, registry.ReadsBack → ∀ only files,
      (analyze registry only files).store.ReadsBack) ∧
    ∀ {environment : Variables} {folder : Folder} {options : AnalysisOptions} {path : Path}
      {asJson details : Bool} {level : Level} {scanned : Outcome},
      (scan options (some path) asJson details).run level (settingsFor environment folder) folder =
        scanned →
      scanned.ending.exitCode = 0 → path.name ≠ ".env" → (∀ part ∈ folder.current, part ≠ "..") →
      ∃ analysis, (∃ registry files, analysis = analyze registry options.onlyFrom files) ∧
        ((analyzeProject (settingsFor environment folder) options).run ⟨"", [], folder⟩).1 =
          .ok analysis ∧
        analysis.store.save folder path = (.ok (), scanned.folder) ∧
        (analysis.store.Textual → analysis.store.ReadsBack → ∀ account printSql url,
          ((sql path account).run level (settingsFor environment scanned.folder) scanned.folder).Alike
            ((grant options account false printSql url).run level (settingsFor environment folder)
              folder)) := by
  refine ⟨fun arises back saves => ?_, fun text => readsBack_str.trans asRead_eq_self,
    UsageStore.readsBack_loadAll, fun back only files => UsageStore.readsBack_analyze only files back,
    sql_of_scan⟩
  have same := UsageStore.load_of_save arises.textual back saves
  refine ⟨same, fun grants => ?_⟩
  rw [same]
  rfl

namespace Exported

open Markup Report Text

/-! A project with one model, whose table has a quotation mark and an accent in its name. -/

def source : File where
  bytes := "User.destroy();".toUTF8
  tree := [⟨"program", true, "", 0, 15, 1⟩, ⟨"expression_statement", true, "", 0, 15, 2⟩,
    ⟨"call_expression", true, "", 0, 14, 2⟩, ⟨"member_expression", true, "function", 0, 12, 3⟩,
    ⟨"identifier", true, "object", 0, 4, 0⟩, ⟨".", false, "", 4, 5, 0⟩,
    ⟨"property_identifier", true, "property", 5, 12, 0⟩, ⟨"arguments", true, "arguments", 12, 14, 2⟩,
    ⟨"(", false, "", 12, 13, 0⟩, ⟨")", false, "", 13, 14, 0⟩, ⟨";", false, "", 14, 15, 0⟩]

def models : String := "\x7b\"models\": \x7b\"User\": \x7b\"tableName\": \"us\\\"er\\u00e9\"\x7d\x7d\x7d"

def stored : String := "\x7b\"User\": \x7b\"table\": \"users\"\x7d\x7d"

def project : Folder where
  files := [(["tsconfig.json"], .ofText "\x7b\x7d"), (["m.json"], .ofText models), (["a.ts"], source),
    (["s.json"], .ofText stored)]
  directories := []
  current := []

def options : AnalysisOptions := ⟨".", some ⟨0, ["m.json"]⟩, [], none, none⟩

def target : Path := ⟨0, ["f.json"]⟩

def records : List UsageRecord := [⟨"User", .str "us\"eré", true, .deleting⟩]

theorem records_analysis :
    ((analyzeProject (settingsFor [] project) options).run ⟨"", [], project⟩).1.toOption.map
      (fun analysis => analysis.store.records) = some records := by
  decide +kernel

def report : List Char := "Saved 1 model(s) to f.json".toList

theorem ok_printSaved (t : Progress) : ((printSaved 1 target).run t).1 = .ok () := by
  have whole : toString "[green]Saved " ++ toString 1 ++ toString " model(s) to " ++
      toString (escaped target.text) ++ toString "[/green]" =
        "[green]Saved 1 model(s) to f.json[/green]" := by
    decide
  have same : unescape report = report := by decide
  have plain : shownPlain emojiTable report = report := by
    have colons : report.all (· != ':') = true := by decide
    rw [shownPlain, EmojiTable.replace_of_no_colon _ _ fun c member =>
      bne_iff_ne.mp (List.all_eq_true.mp colons c member)]
    decide
  unfold printSaved
  dsimp only
  rw [whole]
  refine ok_printMarkup_green report (by decide) ?_ t
  rw [same, plain]
  decide

theorem exitCode_scan :
    ((scan options (some target) true false).run .warning (settingsFor [] project) project).ending.exitCode
      = 0 := by
  have looked := records_analysis
  have quiet := (onlyNotes_analyzeProject (onlyNotes_of SettingsError.asCommandError
    (Settings.load project [])) options).folder ⟨"", [], project⟩
  generalize analyses : (analyzeProject (settingsFor [] project) options).run ⟨"", [], project⟩ = ran
    at looked
  rw [show of SettingsError.asCommandError (Settings.load project []) = settingsFor [] project from rfl,
    analyses] at quiet
  obtain ⟨result, u⟩ := ran
  cases result with
  | error error => cases looked
  | ok analysis =>
    have known : analysis.store.records = records := Option.some.inj looked
    have document : analysis.store.toJson =
        .obj (records.map fun record => (record.entity, record.toJson)) := by
      rw [UsageStore.toJson, known]
    refine exitCode_eq_zero.mpr (ok_of_steps analyses (ok_printLines ?_) ?_ ?_)
    · rw [document, Json.render, String.toList_ofList]
      decide +kernel
    · rw [quiet]
      rfl
    · rw [known]
      exact ok_printSaved

def registry : Registry := .ofEntities [.bare "User"]

def files : List SourceFile := [.ofTree ⟨0, ["a.ts"]⟩ none source.root]

theorem textual_registry : registry.Textual := by
  intro entity member
  cases List.mem_singleton.mp member
  exact ⟨"User", rfl⟩

theorem readsBack_registry : registry.ReadsBack := by
  intro entity member
  cases List.mem_singleton.mp member
  exact ⟨readsBack_str.mpr (by decide), readsBack_str.mpr (by decide)⟩

theorem ways_to_grants_agree_exported :
    (registry.Textual ∧ registry.ReadsBack ∧ ∃ after,
      (analyze registry none files).store.save project target = (.ok (), after) ∧
      UsageStore.load after target = .ok (analyze registry none files).store) ∧
    (∃ store after, UsageStore.loadAll project [⟨0, ["s.json"]⟩] = .ok store ∧
      store.save project target = (.ok (), after) ∧ UsageStore.load after target = .ok store) ∧
    ∃ scanned, (scan options (some target) true false).run .warning (settingsFor [] project) project =
      scanned ∧ scanned.ending.exitCode = 0 ∧
      ∃ analysis : Analysis, analysis.store.records = records ∧
        analysis.store.save project target = (.ok (), scanned.folder) ∧
        ∀ account, ((sql target account).run .warning (settingsFor [] scanned.folder)
          scanned.folder).Alike ((grant options account false false none).run .warning
            (settingsFor [] project) project) := by
  obtain ⟨-, -, ofFiles, ofRegistry, ofScan⟩ := ways_to_grants_agree .empty project project target
  have reads (store : UsageStore) (after : Folder) :=
    (ways_to_grants_agree store project after target).1
  have saves (store : UsageStore) :
      store.save project target = (.ok (), (store.save project target).2) := rfl
  refine ⟨⟨textual_registry, readsBack_registry, _, saves _, ?_⟩, ?_, _, rfl, exitCode_scan, ?_⟩
  · exact (reads _ _ (.analysis textual_registry none files) (ofRegistry readsBack_registry none files)
      (saves _)).1
  · have some : (UsageStore.loadAll project [⟨0, ["s.json"]⟩]).toOption.isSome = true := by
      decide +kernel
    cases loads : UsageStore.loadAll project [⟨0, ["s.json"]⟩] with
    | error error =>
      rw [loads] at some
      cases some
    | ok store =>
      exact ⟨store, _, rfl, saves store, (reads _ _ (.merge loads) (ofFiles loads) (saves store)).1⟩
  · obtain ⟨analysis, -, gives, saved, alike⟩ := ofScan rfl exitCode_scan (by decide) nofun
    have known := records_analysis
    rw [gives] at known
    have records : analysis.store.records = records := Option.some.inj known
    refine ⟨analysis, records, saved, fun account => alike ?_ ?_ account false none⟩
    · rw [UsageStore.Textual, records]
      intro record member
      cases List.mem_singleton.mp member
      exact ⟨rfl, _, rfl⟩
    · rw [UsageStore.ReadsBack, records]
      intro record member
      cases List.mem_singleton.mp member
      exact ⟨readsBack_str.mpr (by decide +kernel), readsBack_str.mpr (by decide +kernel)⟩

end Exported

end LeastGrant
