import LeastGrant.Command.Run

/-! Steps of commands, seen by what they leave alone: files, what has been printed, or both. From this
follows what whole commands leave and print. -/
namespace LeastGrant

open Work

namespace Work

variable {α β : Type} {x : Work α} {f : α → Work β} {s t : Progress}

theorem run_bind_of_ok {a : α} (h : x.run s = (.ok a, t)) : (x >>= f).run s = (f a).run t := by
  have both : (x >>= f).run s = ExceptT.bindCont f (x.run s).1 (x.run s).2 := rfl
  rw [both, h]
  rfl

theorem run_bind_of_fst {a : α} (h : (x.run s).1 = .ok a) :
    (x >>= f).run s = (f a).run (x.run s).2 :=
  run_bind_of_ok (Prod.ext h rfl)

theorem run_bind_of_error {error : CommandError} (h : x.run s = (.error error, t)) :
    (x >>= f).run s = (.error error, t) := by
  have both : (x >>= f).run s = ExceptT.bindCont f (x.run s).1 (x.run s).2 := rfl
  rw [both, h]
  rfl

/-- Steps that end well have gone through their parts. -/
theorem ok_of_run_bind {b : β} (h : (x >>= f).run s = (.ok b, t)) :
    ∃ a u, x.run s = (.ok a, u) ∧ (f a).run u = (.ok b, t) := by
  cases first : x.run s with
  | mk result u =>
    cases result with
    | error error =>
      rw [run_bind_of_error first] at h
      cases h
    | ok a =>
      rw [run_bind_of_ok first] at h
      exact ⟨a, u, rfl, h⟩

/-! ## Steps that change no file -/

/-- A step leaves the folder as it is, also if it fails. -/
def KeepsFolder (x : Work α) : Prop := ∀ s, (x.run s).2.folder = s.folder

theorem folder_run_bind (next : ∀ a, KeepsFolder (f a)) (s : Progress) :
    ((x >>= f).run s).2.folder = (x.run s).2.folder := by
  cases run : x.run s with
  | mk result u =>
    cases result with
    | error error => rw [run_bind_of_error run]
    | ok a =>
      rw [run_bind_of_ok run]
      exact next a u

theorem KeepsFolder.bind (first : KeepsFolder x) (next : ∀ a, KeepsFolder (f a)) :
    KeepsFolder (x >>= f) :=
  fun s => (folder_run_bind next s).trans (first s)

theorem keepsFolder_of {ε : Type} (wrap : ε → CommandError) (value : Except ε α) :
    KeepsFolder (of wrap value) := by
  intro s
  cases value <;> rfl

theorem keepsFolder_print (text : String) : KeepsFolder (print text) := by
  intro s
  unfold print
  split <;> rfl

theorem keepsFolder_printLines (text : List Char) : KeepsFolder (printLines text) :=
  keepsFolder_print _

theorem keepsFolder_printMarkup (text : String) : KeepsFolder (printMarkup text) :=
  (keepsFolder_of _ _).bind fun _ => keepsFolder_printLines _

theorem keepsFolder_printTable (title : String) (columns : List Report.Column)
    (rows : List (List String)) : KeepsFolder (printTable title columns rows) :=
  (keepsFolder_of _ _).bind fun _ => (keepsFolder_of _ _).bind fun _ => keepsFolder_print _

/-! ## Steps that only note -/

/-- A step prints nothing and changes no file. What it gives has a property. -/
structure OnlyNotes (P : α → Prop) (x : Work α) : Prop where
  output : ∀ s, (x.run s).2.output = s.output
  folder : ∀ s, (x.run s).2.folder = s.folder
  gives : ∀ s a, (x.run s).1 = .ok a → P a

theorem OnlyNotes.bind {P : α → Prop} {Q : β → Prop} (first : OnlyNotes P x)
    (next : ∀ a, P a → OnlyNotes Q (f a)) : OnlyNotes Q (x >>= f) := by
  have each (s : Progress) : ((x >>= f).run s).2.output = s.output ∧
      ((x >>= f).run s).2.folder = s.folder ∧ ∀ b, ((x >>= f).run s).1 = .ok b → Q b := by
    obtain ⟨output, folder, gives⟩ := And.intro (first.output s) (And.intro (first.folder s) (first.gives s))
    cases run : x.run s with
    | mk result u =>
      rw [run] at output folder gives
      cases result with
      | error error =>
        rw [run_bind_of_error run]
        exact ⟨output, folder, fun _ same => nomatch same⟩
      | ok a =>
        have onward := next a (gives a rfl)
        rw [run_bind_of_ok run]
        exact ⟨(onward.output u).trans output, (onward.folder u).trans folder, onward.gives u⟩
  exact ⟨fun s => (each s).1, fun s => (each s).2.1, fun s => (each s).2.2⟩

theorem onlyNotes_pure {P : α → Prop} {a : α} (h : P a) : OnlyNotes P (pure a) where
  output _ := rfl
  folder _ := rfl
  gives _ _ same := Except.ok.inj same ▸ h

theorem onlyNotes_of {ε : Type} (wrap : ε → CommandError) (value : Except ε α) :
    OnlyNotes (fun _ => True) (of wrap value) := by
  cases value with
  | error error => exact ⟨fun _ => rfl, fun _ => rfl, fun _ _ _ => trivial⟩
  | ok a => exact onlyNotes_pure trivial

theorem onlyNotes_note (notes : List Note) : OnlyNotes (fun _ => True) (note notes) :=
  ⟨fun _ => rfl, fun _ => rfl, fun _ _ _ => trivial⟩

theorem onlyNotes_folder : OnlyNotes (fun _ => True) folder :=
  ⟨fun _ => rfl, fun _ => rfl, fun _ _ _ => trivial⟩

/-! ## Steps that only print -/

/-- A step looks at nothing but what has been printed. -/
def OnlyPrints (x : Work α) : Prop :=
  ∀ s t, s.output = t.output → (x.run s).1 = (x.run t).1 ∧ (x.run s).2.output = (x.run t).2.output

theorem OnlyPrints.bind (first : OnlyPrints x) (next : ∀ a, OnlyPrints (f a)) :
    OnlyPrints (x >>= f) := by
  intro s t same
  obtain ⟨results, outputs⟩ := first s t same
  cases here : x.run s with
  | mk result u =>
    cases there : x.run t with
    | mk other v =>
      rw [here, there] at results outputs
      cases results
      cases result with
      | error error =>
        rw [run_bind_of_error here, run_bind_of_error there]
        exact ⟨rfl, outputs⟩
      | ok a =>
        rw [run_bind_of_ok here, run_bind_of_ok there]
        exact next a u v outputs

theorem ok_printLines {text : List Char} (writable : Text.hasHalf (Report.screenText text) = false)
    (s : Progress) : ((printLines text).run s).1 = .ok () := by
  have whole : ¬Text.hasHalf (String.ofList (Report.screenText text) ++ "\n").toList = true := by
    have line : "\n".toList = '\n' :: [] := rfl
    rw [String.toList_append, String.toList_ofList, Text.hasHalf, line, Text.codes_append (by decide),
      List.any_append, Bool.or_eq_true, not_or]
    exact ⟨Bool.eq_false_iff.mp writable, by decide⟩
  rw [printLines, print, if_neg whole]
  rfl

theorem onlyPrints_of {ε : Type} (wrap : ε → CommandError) (value : Except ε α) :
    OnlyPrints (of wrap value) := by
  intro s t same
  cases value <;> exact ⟨rfl, same⟩

theorem onlyPrints_print (text : String) : OnlyPrints (print text) := by
  intro s t same
  unfold print
  split
  · exact ⟨rfl, same⟩
  · exact ⟨rfl, congrArg (· ++ text) same⟩

theorem onlyPrints_printText (text : String) : OnlyPrints (printText text) := by
  unfold printText printLines
  exact onlyPrints_print _

theorem onlyPrints_printMarkup (text : String) : OnlyPrints (printMarkup text) :=
  (onlyPrints_of _ _).bind fun _ => onlyPrints_print _

/-! ## Messages in green -/

section Green

open Markup Report Text

/-- Whether or not a table knows the colour, its name is understood. -/
theorem colorName_green : colorName "green".toList = .ok "green".toList ∨
    colorName "green".toList = .error .unknownWord := by
  have word : lower "green".toList = "green".toList := by decide
  have color : inBrackets? "color" "green".toList = none := by decide
  have rgb : inBrackets? "rgb" "green".toList = none := by decide
  unfold colorName
  rw [word]
  dsimp only
  rw [color, rgb]
  split
  · exact .inl rfl
  · exact .inr rfl

theorem readWords_green {color : Except StyleFault (List Char)}
    (known : colorName "green".toList = color) :
    Style.readWords .plain ["green".toList] = color.map fun name => ⟨[], some name, none, none⟩ := by
  have word : String.ofList (lower "green".toList) = "green" := by decide
  have other : attributeOf? "green" = none := by decide
  unfold Style.readWords
  rw [word]
  split
  case h_7 =>
    rw [other, known]
    cases color <;> rfl
  all_goals
    rename_i differs _
    exact absurd differs (by decide)

theorem tagName_green : tagName "green".toList = .ok "green".toList := by
  have whole : words "green".toList = ["green".toList] := by decide
  have spelled : Style.text ⟨[], some "green".toList, none, none⟩ = "green".toList := by decide
  have small : lower (trim "green".toList) = "green".toList := by decide
  have named : ¬"green".toList.isEmpty = true := by decide
  have other : ¬(trim "green".toList == "none".toList) = true := by decide
  rw [tagName, if_neg named, styleName, Style.read, if_neg other, whole]
  rcases colorName_green with known | unknown
  · rw [readWords_green known, Except.map]
    dsimp only
    rw [spelled]
  · rw [readWords_green unknown, Except.map]
    dsimp only
    rw [small]

theorem showTokens_green (text : List Char) :
    showTokens emojiTable .empty [] [.openTag "green".toList none, .text text,
        .closeTag "green".toList] =
      .ok (endTag (.empty ++ .plain (shownPlain emojiTable (unescape text)))
        ⟨"green".toList, none, 0⟩) := by
  have closes : closed? "green".toList [⟨"green".toList, none, 0⟩] =
      some (⟨"green".toList, none, 0⟩, []) := by
    decide
  rw [showTokens, tagName_green]
  dsimp only
  rw [showTokens, showTokens, tagName_green]
  dsimp only
  rw [show StyledText.empty.length = 0 from rfl, closes]
  dsimp only
  rw [if_neg (show ¬OpenTag.isFaulty ⟨"green".toList, none, 0⟩ = true from Bool.false_ne_true),
    showTokens]
  rfl

/-- A message between tags for green can be printed if its text can. -/
theorem ok_printMarkup_green {message : String} (text : List Char)
    (parts : tokens message.toList =
      [.openTag "green".toList none, .text text, .closeTag "green".toList])
    (writable : hasHalf (screenText (shownPlain emojiTable (unescape text))) = false) (t : Progress) :
    ((printMarkup message).run t).1 = .ok () := by
  have fine : ¬([.openTag "green".toList none, .text text, .closeTag "green".toList] :
      List Token).any Token.hasBadColor = true :=
    Bool.false_ne_true
  have chars : (endTag (.empty ++ .plain (shownPlain emojiTable (unescape text)))
      ⟨"green".toList, none, 0⟩).chars = shownPlain emojiTable (unescape text) := rfl
  have shows : markup message = .ok (endTag (.empty ++ .plain (shownPlain emojiTable (unescape text)))
      ⟨"green".toList, none, 0⟩) := by
    rw [markup, Markup.shown, parts, showTokens_green]
    dsimp only
    rw [if_neg fine]
  rw [printMarkup, shows, of, pure_bind, chars]
  exact ok_printLines writable t

end Green

end Work

/-- Two runs end alike and have printed the same. -/
structure Outcome.Alike (a b : Outcome) : Prop where
  ending : a.ending = b.ending
  output : a.output = b.output

namespace Command

/-! ## Analysing and saving -/

theorem onlyNotes_registryFor (options : AnalysisOptions) (files : List SourceFile) :
    OnlyNotes (fun _ => True) (registryFor options files) := by
  unfold registryFor
  split
  · exact onlyNotes_folder.bind fun _ _ => onlyNotes_of _ _
  · split
    · exact (onlyNotes_note _).bind fun _ _ => onlyNotes_pure trivial
    · exact onlyNotes_folder.bind fun _ _ => (onlyNotes_note _).bind fun _ _ => onlyNotes_of _ _

/-- The analysis of a project is that of some registry over some files. -/
theorem onlyNotes_analyzeProject {settings : Work Settings}
    (loads : OnlyNotes (fun _ => True) settings) (options : AnalysisOptions) :
    OnlyNotes (fun analysis => ∃ registry files, analysis = analyze registry options.onlyFrom files)
      (analyzeProject settings options) := by
  have finish (registry : Registry) (files : List SourceFile) :
      OnlyNotes (fun analysis => ∃ registry files, analysis = analyze registry options.onlyFrom files)
        (do note (analyze registry options.onlyFrom files).notes
            return analyze registry options.onlyFrom files) :=
    (onlyNotes_note _).bind fun _ _ => onlyNotes_pure ⟨registry, files, rfl⟩
  unfold analyzeProject
  dsimp only
  split
  rotate_left
  -- without a given name, the settings are asked for one
  refine loads.bind fun found _ => ?_
  all_goals
    refine OnlyNotes.bind (P := fun _ => True) (onlyNotes_pure trivial) fun name _ => onlyNotes_folder.bind fun _ _ =>
      (onlyNotes_of _ _).bind fun config _ => onlyNotes_folder.bind fun _ _ =>
      (onlyNotes_of _ _).bind fun found _ => (onlyNotes_note _).bind fun _ _ =>
      (onlyNotes_registryFor options found.1).bind fun registry _ => ?_
    split
    · exact (onlyNotes_note _).bind fun _ _ => finish registry found.1
    · exact finish registry found.1

theorem keepsFolder_printUsage (store : UsageStore) (title : String) :
    KeepsFolder (printUsage store title) :=
  (keepsFolder_of _ _).bind fun _ => keepsFolder_printTable _ _ _

theorem keepsFolder_printDiagnostics (diagnostics : List Diagnostic) (details : Bool) :
    KeepsFolder (printDiagnostics diagnostics details) := by
  unfold printDiagnostics
  split
  · exact fun _ => rfl
  · split
    · exact keepsFolder_printTable _ _ _
    · exact keepsFolder_printMarkup _

/-- A step that ends well has saved a store. -/
def Saves (store : UsageStore) (path : Path) (x : Work Unit) : Prop :=
  ∀ s t, x.run s = (.ok (), t) → store.save s.folder path = (.ok (), t.folder)

theorem Saves.after {α : Type} {store : UsageStore} {path : Path} {x : Work α} {f : α → Work Unit}
    (first : KeepsFolder x) (next : ∀ a, Saves store path (f a)) : Saves store path (x >>= f) := by
  intro s t h
  obtain ⟨a, u, run, rest⟩ := ok_of_run_bind h
  have same := first s
  rw [run] at same
  rw [← same]
  exact next a u t rest

theorem run_write (store : UsageStore) (path : Path) (s : Progress) :
    (write path store.fileText).run s =
      (of .file (store.save s.folder path).1).run { s with folder := (store.save s.folder path).2 } := rfl

theorem ok_saveStore {store : UsageStore} {path : Path} {s : Progress}
    (saves : (store.save s.folder path).1 = .ok ()) : ((saveStore store path).run s).1 = .ok () := by
  have wrote : ((write path store.fileText).run s).1 = .ok () := by
    rw [run_write, saves]
    rfl
  rw [saveStore, run_bind_of_fst wrote]
  rfl

theorem saves_saveStore (store : UsageStore) (path : Path) : Saves store path (saveStore store path) := by
  intro s t h
  obtain ⟨_, u, wrote, rest⟩ := ok_of_run_bind h
  rw [run_write] at wrote
  cases saved : store.save s.folder path with
  | mk result changed =>
    rw [saved] at wrote
    cases result with
    | error fault => cases wrote
    | ok done =>
      cases wrote
      cases rest
      rfl

theorem Saves.before {store : UsageStore} {path : Path} {x : Work Unit} {f : Unit → Work Unit}
    (first : Saves store path x) (next : ∀ a, KeepsFolder (f a)) : Saves store path (x >>= f) := by
  intro s t h
  obtain ⟨a, u, run, rest⟩ := ok_of_run_bind h
  have same := next a u
  rw [rest] at same
  rw [first s u run, same]

/-- A scan that ends well has saved the store of its analysis. -/
theorem save_of_scan {settings : Work Settings} (loads : OnlyNotes (fun _ => True) settings)
    {options : AnalysisOptions} {path : Path} {asJson details : Bool} {s t : Progress}
    (h : (scanProject settings options (some path) asJson details).run s = (.ok (), t)) :
    ∃ analysis u, (analyzeProject settings options).run s = (.ok analysis, u) ∧
      analysis.store.save s.folder path = (.ok (), t.folder) := by
  obtain ⟨analysis, u, run, rest⟩ := ok_of_run_bind h
  refine ⟨analysis, u, run, ?_⟩
  have finish : Saves analysis.store path (do
      saveStore analysis.store path
      printSaved analysis.store.records.length path) :=
    (saves_saveStore _ _).before fun _ => keepsFolder_printMarkup _
  have same := (onlyNotes_analyzeProject loads options).folder s
  rw [run] at same
  rw [← same]
  refine (?_ : Saves analysis.store path _) u t rest
  dsimp only
  split
  · exact .after (keepsFolder_printLines _) fun _ => finish
  · split
    · exact .after (keepsFolder_printMarkup _) fun _ =>
        .after (keepsFolder_printDiagnostics _ _) fun _ => finish
    · exact .after (keepsFolder_printUsage _ _) fun _ =>
        .after (keepsFolder_printDiagnostics _ _) fun _ => finish

/-- A scan that prints a document ends well if its steps do. -/
theorem ok_of_steps {settings : Work Settings} {options : AnalysisOptions} {path : Path}
    {details : Bool} {s u : Progress} {analysis : Analysis}
    (analyses : (analyzeProject settings options).run s = (.ok analysis, u))
    (prints : ∀ t, ((printLines (Json.render .screen analysis.store.toJson).toList).run t).1 = .ok ())
    (saves : (analysis.store.save u.folder path).1 = .ok ())
    (reports : ∀ t, ((printSaved analysis.store.records.length path).run t).1 = .ok ()) :
    ((scanProject settings options (some path) true details).run s).1 = .ok () := by
  have here := keepsFolder_printLines (Json.render .screen analysis.store.toJson).toList u
  rw [scanProject, run_bind_of_ok analyses]
  dsimp only
  rw [if_pos rfl, run_bind_of_fst (prints u)]
  generalize ((printLines (Json.render .screen analysis.store.toJson).toList).run u).2 = v at here ⊢
  rw [← here] at saves
  rw [run_bind_of_fst (ok_saveStore saves)]
  exact reports _

/-! ## What commands print -/

/-- What an error leaves depends on nothing but what has been printed. -/
theorem ofError_alike {s t : Progress} (same : s.output = t.output) (log other : List Note)
    (error : CommandError) : (Outcome.ofError s log error).Alike (Outcome.ofError t other error) := by
  unfold Outcome.ofError
  cases error.report? with
  | none => exact ⟨rfl, same⟩
  | some message =>
    have prints := onlyPrints_printMarkup ("[bold red]Error:[/bold red] " ++ escaped message) s t same
    dsimp only
    generalize (printMarkup ("[bold red]Error:[/bold red] " ++ escaped message)).run s = here at prints ⊢
    generalize (printMarkup ("[bold red]Error:[/bold red] " ++ escaped message)).run t = there at prints ⊢
    obtain ⟨result, u⟩ := here
    obtain ⟨other, v⟩ := there
    obtain ⟨results, outputs⟩ := prints
    cases results
    cases result <;> exact ⟨rfl, outputs⟩

theorem run_alike {a b : Command} {level : Level} {settings others : Work Settings}
    {folder after : Folder}
    (results : ((a.work settings).run ⟨"", [], folder⟩).1 = ((b.work others).run ⟨"", [], after⟩).1)
    (outputs : ((a.work settings).run ⟨"", [], folder⟩).2.output =
      ((b.work others).run ⟨"", [], after⟩).2.output) :
    (a.run level settings folder).Alike (b.run level others after) := by
  unfold Command.run
  generalize (a.work settings).run ⟨"", [], folder⟩ = here at results outputs ⊢
  generalize (b.work others).run ⟨"", [], after⟩ = there at results outputs ⊢
  obtain ⟨result, u⟩ := here
  obtain ⟨other, v⟩ := there
  cases results
  cases result with
  | error error => exact ofError_alike outputs _ _ error
  | ok done => exact ⟨rfl, outputs⟩

theorem exitCode_ofError (s : Progress) (log : List Note) (error : CommandError) :
    (Outcome.ofError s log error).ending.exitCode = 1 := by
  unfold Outcome.ofError
  cases error.report? with
  | none => rfl
  | some message =>
    dsimp only
    generalize (printMarkup ("[bold red]Error:[/bold red] " ++ escaped message)).run s = printed
    obtain ⟨result, u⟩ := printed
    cases result <;> rfl

/-- A command exits with zero exactly if its work ends well. -/
theorem exitCode_eq_zero {command : Command} {level : Level} {settings : Work Settings}
    {folder : Folder} : (command.run level settings folder).ending.exitCode = 0 ↔
      ((command.work settings).run ⟨"", [], folder⟩).1 = .ok () := by
  unfold Command.run
  generalize (command.work settings).run ⟨"", [], folder⟩ = ran
  obtain ⟨result, t⟩ := ran
  cases result with
  | error error => simp [exitCode_ofError]
  | ok done => simp [Ending.exitCode]

theorem folder_run {command : Command} {level : Level} {settings : Work Settings} {folder : Folder}
    {t : Progress} (h : (command.work settings).run ⟨"", [], folder⟩ = (.ok (), t)) :
    (command.run level settings folder).folder = t.folder := by
  rw [Command.run, h]

theorem grantOptions_cases (settings : Settings) (account : AccountOptions) :
    grantOptions settings account = throw .noUsername ∨
      ∃ grants, grantOptions settings account = pure grants := by
  unfold grantOptions
  split
  · exact .inl rfl
  · exact .inr ⟨_, rfl⟩

section Grants

variable {found : Settings} {account : AccountOptions} {grants : GrantOptions} {folder : Folder}

theorem run_writeGrants (store : UsageStore) (grants : GrantOptions) (s : Progress) :
    (writeGrants store grants).run s =
      (.ok (grantText store grants), { s with notes := s.notes ++ [grantNote store grants] }) := rfl

theorem run_grantStore (named : grantOptions found account = pure grants) {path : Path}
    {store : UsageStore} (reads : UsageStore.load folder path = .ok store) :
    (grantStore (pure found) path account).run ⟨"", [], folder⟩ =
      (printText (grantText store grants)).run ⟨"", [grantNote store grants], folder⟩ := by
  have here : Work.folder.run ⟨"", [], folder⟩ = (.ok folder, ⟨"", [], folder⟩) := rfl
  rw [grantStore, pure_bind, named, pure_bind, run_bind_of_ok here, reads, of, pure_bind,
    run_bind_of_ok (run_writeGrants store grants _), List.nil_append]

theorem run_grantProject (named : grantOptions found account = pure grants) {options : AnalysisOptions}
    {analysis : Analysis} {t : Progress}
    (analyses : (analyzeProject (pure found) options).run ⟨"", [], folder⟩ = (.ok analysis, t))
    (printSql : Bool) (url : Option String) :
    (grantProject (pure found) options account false printSql url).run ⟨"", [], folder⟩ =
      (printText (grantText analysis.store grants)).run
        { t with notes := t.notes ++ [grantNote analysis.store grants] } := by
  rw [grantProject, pure_bind, named, pure_bind]
  dsimp only
  rw [Bool.false_and, if_neg Bool.false_ne_true, run_bind_of_ok analyses,
    run_bind_of_ok (run_writeGrants analysis.store grants t), Bool.not_false, Bool.true_or, if_pos rfl]
  exact congrArg (fun x : Work Unit => x.run _) bind_pure_unit

/-- Grants for a store that is read are printed like those for the store of an analysis, if both have
the same text. -/
theorem sql_alike_grant {loaded : Except SettingsError Settings} {options : AnalysisOptions}
    {after : Folder} {analysis : Analysis} {t : Progress} {store : UsageStore} {path : Path}
    (analyses : (analyzeProject (of SettingsError.asCommandError loaded) options).run ⟨"", [], folder⟩ =
      (.ok analysis, t))
    (reads : UsageStore.load after path = .ok store)
    (same : ∀ grants, grantText store grants = grantText analysis.store grants)
    (account : AccountOptions) (printSql : Bool) (url : Option String) (level : Level) :
    ((sql path account).run level (of SettingsError.asCommandError loaded) after).Alike
      ((grant options account false printSql url).run level (of SettingsError.asCommandError loaded)
        folder) := by
  suffices both : ((grantStore (of SettingsError.asCommandError loaded) path account).run
        ⟨"", [], after⟩).1 = ((grantProject (of SettingsError.asCommandError loaded) options account
          false printSql url).run ⟨"", [], folder⟩).1 ∧
      ((grantStore (of SettingsError.asCommandError loaded) path account).run
        ⟨"", [], after⟩).2.output = ((grantProject (of SettingsError.asCommandError loaded) options
          account false printSql url).run ⟨"", [], folder⟩).2.output from run_alike both.1 both.2
  have quiet := (onlyNotes_analyzeProject (onlyNotes_of SettingsError.asCommandError loaded)
    options).output ⟨"", [], folder⟩
  rw [analyses] at quiet
  cases loaded with
  | error error => exact ⟨rfl, rfl⟩
  | ok found =>
    rcases grantOptions_cases found account with refused | ⟨grants, named⟩
    · rw [show of SettingsError.asCommandError (.ok found) = pure found from rfl, grantStore,
        grantProject, pure_bind, pure_bind, refused]
      exact ⟨rfl, rfl⟩
    · have here := run_grantStore named reads
      have there := run_grantProject named analyses printSql url
      rw [← same] at there
      rw [show of SettingsError.asCommandError (.ok found) = pure found from rfl, here, there]
      exact onlyPrints_printText _ _ _ quiet.symm

end Grants

end Command

end LeastGrant
