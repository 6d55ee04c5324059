import LeastGrant.Proofs.MergeAlgebra

/-! Commands that lack a file. A command that cannot read its configuration, its registry or one of its
stores fails before it writes anything, so the folder stays as it was. Merging reads all stores before it
writes one, which may therefore take the place of a store that was read. -/
namespace LeastGrant

open Work

/-! ## Steps that stop -/

namespace Work

variable {α β : Type} {x : Work α} {f : α → Work β} {folder : Folder}

/-- On a folder a step fails, and leaves it as it was. -/
def StopsOn (folder : Folder) (x : Work α) : Prop :=
  ∀ s, s.folder = folder → ∃ error t, x.run s = (.error error, t) ∧ t.folder = folder

theorem StopsOn.bind (stops : StopsOn folder x) : StopsOn folder (x >>= f) := by
  intro s here
  obtain ⟨error, t, ran, same⟩ := stops s here
  exact ⟨error, t, run_bind_of_error ran, same⟩

/-- A step before one that stops may end well or stop by itself, if it changes no file. -/
theorem StopsOn.after (keeps : KeepsFolder x) (next : ∀ a, StopsOn folder (f a)) :
    StopsOn folder (x >>= f) := by
  intro s here
  have same := keeps s
  cases ran : x.run s with
  | mk result u =>
    rw [ran] at same
    cases result with
    | error error => exact ⟨error, u, run_bind_of_error ran, same.trans here⟩
    | ok a =>
      rw [run_bind_of_ok ran]
      exact next a u (same.trans here)

theorem StopsOn.folder_bind {f : Folder → Work β} (next : StopsOn folder (f folder)) :
    StopsOn folder (Work.folder >>= f) := by
  intro s here
  have looks : Work.folder.run s = (.ok s.folder, s) := rfl
  rw [run_bind_of_ok looks, here]
  exact next s here

theorem stopsOn_throw (error : CommandError) : StopsOn folder (throw error : Work α) :=
  fun s here => ⟨error, s, rfl, here⟩

theorem stopsOn_of {ε : Type} {wrap : ε → CommandError} {value : Except ε α} {fault : ε}
    (fails : value = .error fault) : StopsOn folder (of wrap value) := by
  rw [fails]
  exact stopsOn_throw _

end Work

/-! ## Files that are lacking -/

theorem givenOr_eq_or (text other : Option String) :
    givenOr text other = (givenOr text none).or other := by
  unfold givenOr
  split
  · split <;> rfl
  · rfl

/-- The name of the configuration file, if one is given or the settings can be read. -/
def AnalysisOptions.configName? (options : AnalysisOptions) (loaded : Except SettingsError Settings) :
    Option String :=
  givenOr options.config (loaded.toOption.map Settings.configName)

/-- An analysis lacks its configuration or its registry: there is no such file, or it cannot be
read. -/
inductive AnalysisOptions.LacksFile (environment : Variables) (folder : Folder)
    (options : AnalysisOptions) : Prop
  | config {name : String} {error : ConfigError}
      (named : options.configName? (Settings.load folder environment) = some name)
      (fails : ProjectConfig.load folder (Path.ofText options.project).text name = .error error)
  | registry {path : Path} {error : RegistryError} (given : options.models = some path)
      (fails : Registry.load folder path = .error error)

/-- A command lacks one of the files that it has to read. -/
inductive Command.LacksFile (environment : Variables) (folder : Folder) : Command → Prop
  | scan {options : AnalysisOptions} (lacks : options.LacksFile environment folder)
      (output : Option Path) (asJson showDiagnostics : Bool) :
      LacksFile environment folder (.scan options output asJson showDiagnostics)
  | grant {options : AnalysisOptions} (lacks : options.LacksFile environment folder)
      (account : AccountOptions) (execute printSql : Bool) (databaseUrl : Option String) :
      LacksFile environment folder (.grant options account execute printSql databaseUrl)
  | sql {path : Path} {error : StoreFileError} (fails : UsageStore.load folder path = .error error)
      (account : AccountOptions) : LacksFile environment folder (.sql path account)
  | merge {paths : List Path} {path : Path} {error : StoreFileError} (member : path ∈ paths)
      (fails : UsageStore.load folder path = .error error) (output : Path) :
      LacksFile environment folder (.merge paths output)

/-! ## Commands that stop -/

theorem UsageStore.exists_of_load_error {folder : Folder} {paths : List Path} {path : Path}
    {error : StoreFileError} (member : path ∈ paths) (fails : load folder path = .error error) :
    ∃ other, loadAll folder paths = .error other := by
  cases reads : loadAll folder paths with
  | error other => exact ⟨other, rfl⟩
  | ok merged =>
    obtain ⟨store, loads⟩ := (loadAll_eq_ok.mp reads).1 path member
    rw [fails] at loads
    cases loads

namespace Command

variable {environment : Variables} {folder : Folder} {options : AnalysisOptions}

theorem stopsOn_registryFor {path : Path} {error : RegistryError} (given : options.models = some path)
    (fails : Registry.load folder path = .error error) (files : List SourceFile) :
    StopsOn folder (registryFor options files) := by
  unfold registryFor
  rw [given]
  exact .folder_bind (stopsOn_of fails)

theorem stopsOn_analyzeProject (lacks : options.LacksFile environment folder) :
    StopsOn folder (analyzeProject (settingsFor environment folder) options) := by
  unfold analyzeProject
  cases lacks with
  | config named fails =>
    rw [AnalysisOptions.configName?, givenOr_eq_or] at named
    dsimp only
    split
    · rename_i name given
      rw [given] at named
      cases named
      rw [pure_bind]
      exact .folder_bind (stopsOn_of fails).bind
    · rename_i missing
      rw [missing, Option.none_or] at named
      obtain ⟨found, loads, rfl⟩ := Option.map_eq_some_iff.mp named
      cases loaded : Settings.load folder environment with
      | error error =>
        rw [loaded] at loads
        cases loads
      | ok settings =>
        rw [loaded] at loads
        cases loads
        rw [settingsFor, loaded, of, pure_bind, pure_bind]
        exact .folder_bind (stopsOn_of fails).bind
  | registry given fails =>
    dsimp only
    split
    rotate_left
    -- without a given name, the settings are asked for one
    refine .after (keepsFolder_of _ _) fun found => ?_
    all_goals
      exact .after (fun _ => rfl) fun name => .after onlyNotes_folder.folder fun _ =>
        .after (keepsFolder_of _ _) fun config => .after onlyNotes_folder.folder fun _ =>
        .after (keepsFolder_of _ _) fun found => .after (onlyNotes_note _).folder fun _ =>
        (stopsOn_registryFor given fails found.1).bind

theorem keepsFolder_grantOptions (found : Settings) (account : AccountOptions) :
    KeepsFolder (grantOptions found account) := by
  rcases grantOptions_cases found account with refused | ⟨grants, named⟩
  · rw [refused]
    exact fun _ => rfl
  · rw [named]
    exact fun _ => rfl

theorem LacksFile.stopsOn {command : Command} (lacks : command.LacksFile environment folder) :
    StopsOn folder (command.work (settingsFor environment folder)) := by
  cases lacks with
  | scan lacks output asJson showDiagnostics => exact (stopsOn_analyzeProject lacks).bind
  | grant lacks account execute printSql databaseUrl =>
    refine .after (keepsFolder_of _ _) fun found =>
      .after (keepsFolder_grantOptions found account) fun grants => ?_
    dsimp only
    split
    · exact (stopsOn_throw _).bind
    · exact (stopsOn_analyzeProject lacks).bind
  | sql fails account =>
    exact .after (keepsFolder_of _ _) fun found =>
      .after (keepsFolder_grantOptions found account) fun grants => .folder_bind (stopsOn_of fails).bind
  | merge member fails output =>
    obtain ⟨other, stops⟩ := UsageStore.exists_of_load_error member fails
    exact .folder_bind (stopsOn_of stops).bind

theorem folder_ofError (s : Progress) (log : List Note) (error : CommandError) :
    (Outcome.ofError s log error).folder = s.folder := by
  unfold Outcome.ofError
  cases error.report? with
  | none => rfl
  | some message =>
    have same := keepsFolder_printMarkup ("[bold red]Error:[/bold red] " ++ escaped message) s
    dsimp only
    generalize (printMarkup ("[bold red]Error:[/bold red] " ++ escaped message)).run s = printed
      at same ⊢
    obtain ⟨result, u⟩ := printed
    cases result <;> exact same

/-- A command leaves the folder that its work leaves. -/
theorem folder_run_eq (command : Command) (level : Level) (settings : Work Settings) (folder : Folder) :
    (command.run level settings folder).folder =
      ((command.work settings).run ⟨"", [], folder⟩).2.folder := by
  unfold Command.run
  generalize (command.work settings).run ⟨"", [], folder⟩ = ran
  obtain ⟨result, t⟩ := ran
  cases result with
  | error error => exact folder_ofError t _ error
  | ok done => rfl

theorem run_of_stopsOn {command : Command} {settings : Work Settings}
    (stops : StopsOn folder (command.work settings)) (level : Level) :
    (command.run level settings folder).ending.exitCode = 1 ∧
      (command.run level settings folder).folder = folder := by
  obtain ⟨error, t, ran, same⟩ := stops ⟨"", [], folder⟩ rfl
  rw [folder_run_eq, Command.run, ran]
  exact ⟨exitCode_ofError t _ error, same⟩

/-! ## Merging -/

section Merge

variable {paths : List Path} {merged : UsageStore} {s : Progress}

/-- Once the stores have been read, merging writes one file, also if it cannot say so. -/
theorem folder_mergeStores (reads : UsageStore.loadAll s.folder paths = .ok merged) (output : Path) :
    ((mergeStores paths output).run s).2.folder = (merged.save s.folder output).2 := by
  have looks : Work.folder.run s = (.ok s.folder, s) := rfl
  rw [mergeStores, run_bind_of_ok looks, reads, of, pure_bind,
    folder_run_bind fun _ => keepsFolder_printMarkup _, saveStore,
    folder_run_bind fun _ => (onlyNotes_note _).folder, run_write, keepsFolder_of]

/-- What merging says in the end. -/
def mergeReport (files count : Nat) (output : Path) : String :=
  s!"[green]Merged {files} file(s) into {count} model(s): {escaped output.text}[/green]"

/-- Merging ends well if the store can be saved and the report can be printed. -/
theorem ok_mergeStores (reads : UsageStore.loadAll s.folder paths = .ok merged) {output : Path}
    (saves : (merged.save s.folder output).1 = .ok ())
    (prints : ∀ t,
      ((printMarkup (mergeReport paths.length merged.records.length output)).run t).1 = .ok ()) :
    ((mergeStores paths output).run s).1 = .ok () := by
  have looks : Work.folder.run s = (.ok s.folder, s) := rfl
  rw [mergeStores, run_bind_of_ok looks, reads, of, pure_bind, run_bind_of_fst (ok_saveStore saves)]
  exact prints _

/-- Merging that ends well has read all stores before it saved theirs. -/
theorem save_of_merge {t : Progress} {output : Path}
    (h : (mergeStores paths output).run s = (.ok (), t)) :
    ∃ merged, UsageStore.loadAll s.folder paths = .ok merged ∧
      merged.save s.folder output = (.ok (), t.folder) := by
  obtain ⟨here, u, looks, rest⟩ := ok_of_run_bind h
  cases looks
  cases reads : UsageStore.loadAll s.folder paths with
  | error error =>
    rw [reads, of] at rest
    cases rest
  | ok merged =>
    rw [reads, of, pure_bind] at rest
    exact ⟨merged, rfl, (saves_saveStore _ _).before (fun _ => keepsFolder_printMarkup _) s t rest⟩

end Merge

end Command

/-! ## The program -/

/-- The command that arguments ask for, with its own arguments. -/
def commandOf? (arguments : List String) : Option Command :=
  (Invocation.ofArguments arguments).toOption.join.bind fun invocation =>
    invocation.command.toOption.join

theorem exists_of_commandOf? {arguments : List String} {command : Command}
    (asks : commandOf? arguments = some command) :
    ∃ invocation, Invocation.ofArguments arguments = .ok (some invocation) ∧
      invocation.command = .ok (some command) := by
  have given {ε α : Type} {value : Except ε (Option α)} {a : α} (h : value.toOption.join = some a) :
      value = .ok (some a) := by
    cases value with
    | error error => cases h
    | ok found => exact congrArg Except.ok h
  obtain ⟨invocation, calls, reads⟩ := Option.bind_eq_some_iff.mp asks
  exact ⟨invocation, given calls, given reads⟩

namespace Invocation

/-- The level of the log is known, unless the settings are asked for it and cannot be read. -/
theorem level_cases (invocation : Invocation) (environment : Variables) (folder : Folder) :
    (∃ error, Settings.load folder environment = .error error ∧
      invocation.level (settingsFor environment folder) = throw error.asCommandError) ∨
    ∃ level, invocation.level (settingsFor environment folder) = pure level := by
  unfold level
  split
  · exact .inr ⟨_, rfl⟩
  · cases loads : Settings.load folder environment with
    | error error =>
      rw [settingsFor, loads]
      exact .inl ⟨error, rfl, rfl⟩
    | ok found =>
      rw [settingsFor, loads, of, pure_bind]
      exact .inr ⟨_, rfl⟩

end Invocation

/-- A program runs its command, unless the level of the log is to be found in settings that cannot be
read. -/
theorem runProgram_cases {arguments : List String} {command : Command}
    (asks : commandOf? arguments = some command) (environment : Variables) (folder : Folder) :
    (∃ error, Settings.load folder environment = .error error ∧
      runProgram arguments environment folder = .ofError ⟨"", [], folder⟩ [] error.asCommandError) ∨
    ∃ level, runProgram arguments environment folder =
      command.run level (settingsFor environment folder) folder := by
  obtain ⟨invocation, calls, reads⟩ := exists_of_commandOf? asks
  rw [runProgram, calls]
  dsimp only
  rw [Invocation.run]
  rcases invocation.level_cases environment folder with ⟨error, fails, stops⟩ | ⟨level, known⟩
  · rw [stops]
    exact .inl ⟨error, fails, rfl⟩
  · rw [known, reads]
    exact .inr ⟨level, rfl⟩

/-- A folder holds a store at a path, where it reads back as it was saved, and other files as another
folder has them. -/
structure UsageStore.WrittenAt (store : UsageStore) (path : Path) (before after : Folder) : Prop where
  holds : after.fileAt? path = some (.ofText store.fileText)
  reads : load after path = .ok store
  others : ∀ place, after.locate? path ≠ some place → after.file? place = before.file? place

theorem UsageStore.writtenAt_of_save {store : UsageStore} (textual : store.Textual)
    (back : store.ReadsBack) {folder after : Folder} {path : Path}
    (saves : store.save folder path = (.ok (), after)) :
    store.WrittenAt path folder after where
  holds := Folder.fileAt?_of_write saves
  reads := load_of_save textual back saves
  others := by
    intro place elsewhere
    obtain ⟨written, located, -, files, -⟩ := Folder.exists_of_write saves
    have differ : place ≠ written := fun same => elsewhere (same ▸ located)
    rw [Folder.file?, files, Folder.lookup_putFile, if_neg differ, Folder.file?]

/-- A command that lacks one of its files, be it the configuration, the registry or any of the stores,
fails and changes nothing. If merging ends well, all stores have been read, and the file at the output
is that of all of them merged and reads back as such, also if it was one of them before. -/
theorem lacking_command_changes_nothing {arguments : List String} {command : Command}
    (asks : commandOf? arguments = some command) (environment : Variables) (folder : Folder)
    {outcome : Outcome} (runs : runProgram arguments environment folder = outcome) :
    (command.LacksFile environment folder →
      outcome.ending.exitCode = 1 ∧ outcome.folder = folder) ∧
    ∀ paths output merged, command = .merge paths output →
      merged = (UsageStore.loaded folder paths).foldl UsageStore.merge UsageStore.empty →
      ((∃ found, Settings.load folder environment = .ok found) →
        (∀ path ∈ paths, ∃ store, UsageStore.load folder path = .ok store) →
          outcome.folder = (merged.save folder output).2) ∧
      (outcome.ending.exitCode = 0 →
        (∀ path ∈ paths, ∃ store, UsageStore.load folder path = .ok store) ∧
        merged.WrittenAt output folder outcome.folder) := by
  subst runs
  rcases runProgram_cases asks environment folder with ⟨error, unread, stops⟩ | ⟨level, starts⟩
  · rw [stops, Command.folder_ofError, Command.exitCode_ofError]
    refine ⟨fun _ => ⟨rfl, rfl⟩, fun paths output merged _ _ =>
      ⟨fun loads => ?_, fun ends => nomatch ends⟩⟩
    obtain ⟨found, loads⟩ := loads
    rw [unread] at loads
    cases loads
  · rw [starts]
    refine ⟨fun lacks => Command.run_of_stopsOn lacks.stopsOn level, ?_⟩
    rintro paths output merged rfl whole
    refine ⟨fun _ each => ?_, fun ends => ?_⟩
    · have reads := UsageStore.loadAll_eq_ok.mpr ⟨each, whole⟩
      rw [Command.folder_run_eq]
      exact Command.folder_mergeStores (s := ⟨"", [], folder⟩) reads output
    · have ran : ((Command.merge paths output).work (settingsFor environment folder)).run
          ⟨"", [], folder⟩ = (.ok (), _) :=
        Prod.ext (Command.exitCode_eq_zero.mp ends) rfl
      obtain ⟨store, reads, saves⟩ := Command.save_of_merge ran
      obtain ⟨each, same⟩ := UsageStore.loadAll_eq_ok.mp reads
      cases whole.trans same.symm
      rw [← Command.folder_run_eq] at saves
      exact ⟨each, UsageStore.writtenAt_of_save (UsageStore.textual_loadAll reads)
        (UsageStore.readsBack_loadAll reads) saves⟩

/-! Two stores that share the model `User`, and a record without a table. -/
namespace Gathered

open Exported Markup Report Text

def folder : Folder where
  files := [
    (["a.json"], .ofText "\x7b\"User\": \x7b\"table\": \"users\", \"isInsert\": true\x7d\x7d"),
    (["bad.json"], .ofText "\x7b\"Role\": \x7b\x7d\x7d"),
    (["b.json"], .ofText
      "\x7b\"User\": \x7b\"table\": \"u\", \"isDelete\": 1\x7d, \"Tag\": \x7b\"table\": \"tags\"\x7d\x7d")]
  directories := []
  current := []

def target : Path := ⟨0, ["b.json"]⟩

def paths : List Path := [⟨0, ["a.json"]⟩, target]

def listed : List Path := [⟨0, ["a.json"]⟩, ⟨0, ["bad.json"]⟩, target]

def unset : AnalysisOptions := ⟨".", none, [], none, none⟩

def overwriting : List String := ["merge", "a.json", "b.json", "-o", "b.json"]

def failing : List String := ["merge", "a.json", "bad.json", "b.json", "-o", "out/all.json"]

theorem commands : commandOf? overwriting = some (.merge paths target) ∧
    commandOf? failing = some (.merge listed ⟨0, ["out", "all.json"]⟩) ∧
    commandOf? ["scan"] = some (.scan unset none false false) := by
  decide +kernel

def inserting : UsageStore := .ofUses [⟨"User", .str "users", .inserting⟩]

def deleting : UsageStore := .ofUses [⟨"User", .str "u", .deleting⟩, ⟨"Tag", .str "tags", .none⟩]

/-- What is read from the folder, or is not. -/
theorem contents :
    (UsageStore.load folder ⟨0, ["a.json"]⟩).toOption.map UsageStore.records = some inserting.records ∧
    (UsageStore.load folder target).toOption.map UsageStore.records = some deleting.records ∧
    (UsageStore.load folder ⟨0, ["bad.json"]⟩).toOption.isSome = false ∧
    (Settings.load folder []).toOption.isSome = true ∧
    unset.configName? (Settings.load folder []) = some "tsconfig.json" ∧
    (ProjectConfig.load folder (Path.ofText unset.project).text "tsconfig.json").toOption.isSome =
      false := by
  decide +kernel

theorem load_a : UsageStore.load folder ⟨0, ["a.json"]⟩ = .ok inserting :=
  UsageStore.load_of_records contents.1

theorem load_b : UsageStore.load folder target = .ok deleting :=
  UsageStore.load_of_records contents.2.1

theorem loadAll_paths : UsageStore.loadAll folder paths = .ok (inserting.merge deleting) :=
  UsageStore.loadAll_pair load_a load_b

def report : List Char := "Merged 2 file(s) into 2 model(s): b.json".toList

/-- A colon alone begins no emoji. -/
theorem replace_report (table : EmojiTable) : table.replace report = report := rfl

theorem ok_printMarkup_report (t : Progress) :
    ((printMarkup (Command.mergeReport paths.length (inserting.merge deleting).records.length
      target)).run t).1 = .ok () := by
  have whole : Command.mergeReport paths.length (inserting.merge deleting).records.length target =
      "[green]Merged 2 file(s) into 2 model(s): b.json[/green]" := by
    decide +kernel
  have same : unescape report = report := by decide
  have plain : shownPlain emojiTable report = report := by
    rw [shownPlain, replace_report]
    decide
  rw [whole]
  refine ok_printMarkup_green report (by decide) ?_ t
  rw [same, plain]
  decide

theorem exitCode_overwriting : (runProgram overwriting [] folder).ending.exitCode = 0 := by
  rcases runProgram_cases commands.1 [] folder with ⟨error, unread, -⟩ | ⟨level, starts⟩
  · have known := contents.2.2.2.1
    rw [unread] at known
    cases known
  · rw [starts, Command.exitCode_eq_zero]
    exact Command.ok_mergeStores (s := ⟨"", [], folder⟩) loadAll_paths rfl
      ok_printMarkup_report

theorem exists_error {ε α : Type} {value : Except ε α} (fails : value.toOption.isSome = false) :
    ∃ error, value = .error error := by
  cases value with
  | error error => exact ⟨error, rfl⟩
  | ok found => cases fails

theorem lacksFile_listed (output : Path) : (Command.merge listed output).LacksFile [] folder := by
  obtain ⟨error, fails⟩ := exists_error contents.2.2.1
  exact .merge (List.mem_cons_of_mem _ List.mem_cons_self) fails output

theorem lacksFile_unset : (Command.scan unset none false false).LacksFile [] folder := by
  obtain ⟨-, -, -, -, named, missing⟩ := contents
  obtain ⟨error, fails⟩ := exists_error missing
  exact .scan (.config named fails) none false false

theorem lacking_command_changes_nothing_gathered :
    (commandOf? ["scan"] = some (.scan unset none false false) ∧
      (Command.scan unset none false false).LacksFile [] folder ∧
      (runProgram ["scan"] [] folder).ending.exitCode = 1 ∧
      (runProgram ["scan"] [] folder).folder = folder) ∧
    (commandOf? failing = some (.merge listed ⟨0, ["out", "all.json"]⟩) ∧
      (Command.merge listed ⟨0, ["out", "all.json"]⟩).LacksFile [] folder ∧
      (runProgram failing [] folder).ending.exitCode = 1 ∧
      (runProgram failing [] folder).folder = folder) ∧
    commandOf? overwriting = some (.merge paths target) ∧ target ∈ paths ∧
    (runProgram overwriting [] folder).ending.exitCode = 0 ∧
    (inserting.merge deleting).WrittenAt target folder (runProgram overwriting [] folder).folder := by
  obtain ⟨overwrites, fails, scans⟩ := commands
  have merged : inserting.merge deleting =
      (UsageStore.loaded folder paths).foldl UsageStore.merge UsageStore.empty := by
    rw [paths, UsageStore.loaded_pair load_a load_b]
    rfl
  have whole := (lacking_command_changes_nothing overwrites [] folder rfl).2
    paths target (inserting.merge deleting) rfl merged
  obtain ⟨-, wrote⟩ := whole.2 exitCode_overwriting
  exact ⟨⟨scans, lacksFile_unset,
      (lacking_command_changes_nothing scans [] folder rfl).1 lacksFile_unset⟩,
    ⟨fails, lacksFile_listed _,
      (lacking_command_changes_nothing fails [] folder rfl).1 (lacksFile_listed _)⟩,
    overwrites, List.mem_cons_of_mem _ List.mem_cons_self, exitCode_overwriting, wrote⟩

end Gathered

end LeastGrant
