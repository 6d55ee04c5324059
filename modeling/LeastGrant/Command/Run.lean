import LeastGrant.Analysis.Run
import LeastGrant.Command.Invocation
import LeastGrant.Command.Settings
import LeastGrant.Command.Work

/-! Running commands on a folder. -/
namespace LeastGrant

open Report Work

/-- The version of the program. -/
def version : String := "0.1.0"

/-- The text itself, unless it is missing or empty. -/
def givenOr (text other : Option String) : Option String :=
  match text with
  | some text => if text = "" then other else some text
  | none => other

namespace Command

/-- The registry for an analysis: from a document, from given sources, or from the sources of the
project. -/
def registryFor (options : AnalysisOptions) (files : List SourceFile) : Work Registry := do
  match options.models with
  | some path => of .registry (Registry.load (← folder) path)
  | none =>
    if options.modelSources.isEmpty then
      let (registry, notes) := Registry.extract files
      note notes
      return registry
    else
      let (registry, notes) := Registry.extractFrom (← folder) options.modelSources
      note notes
      of .file registry

/-- Analyses a project. -/
def analyzeProject (settings : Work Settings) (options : AnalysisOptions) : Work Analysis := do
  let project := (Path.ofText options.project).text
  let configName ← match givenOr options.config none with
    | some name => pure name
    | none => pure (← settings).configName
  let config ← of .config (ProjectConfig.load (← folder) project configName)
  let (files, notes) ← of .setting (config.sourceFiles (← folder))
  note notes
  let registry ← registryFor options files
  if registry.entities.isEmpty then note [.registryEmpty project]
  let analysis := analyze registry options.onlyFrom files
  note analysis.notes
  return analysis

/-- A cell for a privilege. -/
def privilegeCell (granted : Bool) : String := if granted then "[green]yes[/green]" else "[dim]-[/dim]"

/-- The cells of a record. A table has to have a name that is a text. -/
def usageRow (record : UsageRecord) : Except CommandError (List String) :=
  match record.table with
  | .str table =>
    .ok ([record.entity, table] ++
      [record.select, record.writes.insert, record.writes.update, record.writes.delete].map
        privilegeCell)
  | _ => .error .unprintable

def printUsage (store : UsageStore) (title : String) : Work Unit := do
  let rows ← of id (store.records.mapM usageRow)
  printTable title ([⟨"Model", .left⟩, ⟨"Table", .left⟩] ++
    ["SELECT", "INSERT", "UPDATE", "DELETE"].map fun name => ⟨name, .center⟩) rows

/-- Prints diagnostics, or how many there are. -/
def printDiagnostics (diagnostics : List Diagnostic) (details : Bool) : Work Unit := do
  if diagnostics.isEmpty then return
  if details then
    printTable "Diagnostics" [⟨"Kind", .left⟩, ⟨"Location", .left⟩, ⟨"Message", .left⟩]
      (diagnostics.map fun d =>
        [d.problem.kind.name, d.location.getD "", escaped d.problem.message])
  else
    let count := diagnostics.length
    printMarkup (s!"[dim]{count} call(s) could not be analysed " ++
      "(use --show-diagnostics for details)[/dim]")

/-- Writes a store to a file. -/
def saveStore (store : UsageStore) (path : Path) : Work Unit := do
  write path store.fileText
  note [store.savedNote path]

/-- Says how many models were saved, and where. -/
def printSaved (count : Nat) (path : Path) : Work Unit :=
  let target := escaped path.text
  printMarkup s!"[green]Saved {count} model(s) to {target}[/green]"

def scanProject (settings : Work Settings) (options : AnalysisOptions) (output : Option Path)
    (asJson showDiagnostics : Bool) : Work Unit := do
  let analysis ← analyzeProject settings options
  let store := analysis.store
  if asJson then printLines (Json.render .screen store.toJson).toList
  else
    if store.records.isEmpty then printMarkup "[bold green]No model usage found.[/bold green]"
    else printUsage store ("Model Usage: " ++ options.project)
    printDiagnostics analysis.diagnostics showDiagnostics
  match output with
  | some path =>
    saveStore store path
    printSaved store.records.length path
  | none => return

/-- The account for which grants are written. -/
def grantOptions (settings : Settings) (account : AccountOptions) : Work GrantOptions :=
  match givenOr account.username settings.username? with
  | none => throw .noUsername
  | some username =>
    pure
      { username := username
        host := (givenOr account.host none).getD settings.host
        clear := account.clear
        flush := !account.noFlush }

/-- The grant statements for a store. -/
def writeGrants (store : UsageStore) (options : GrantOptions) : Work String := do
  note [grantNote store options]
  return grantText store options

def grantProject (settings : Work Settings) (options : AnalysisOptions) (account : AccountOptions)
    (execute printSql : Bool) (databaseUrl : Option String) : Work Unit := do
  let loaded ← settings
  let grants ← grantOptions loaded account
  let url := givenOr databaseUrl loaded.databaseUrl?
  if execute && url.isNone then throw .noDatabase
  let analysis ← analyzeProject settings options
  let text ← writeGrants analysis.store grants
  if !execute || printSql then printText text
  match execute, url with
  | true, some url =>
    let (result, notes) := applyGrants text url
    note notes
    let count ← of .apply result
    let user := escaped grants.username
    printMarkup s!"[green]Applied {count} statement(s) for {user}[/green]"
  | _, _ => return

def grantStore (settings : Work Settings) (path : Path) (account : AccountOptions) : Work Unit := do
  let grants ← grantOptions (← settings) account
  let store ← of .store (UsageStore.load (← folder) path)
  printText (← writeGrants store grants)

def mergeStores (paths : List Path) (output : Path) : Work Unit := do
  let store ← of .store (UsageStore.loadAll (← folder) paths)
  saveStore store output
  let files := paths.length
  let count := store.records.length
  let target := escaped output.text
  printMarkup s!"[green]Merged {files} file(s) into {count} model(s): {target}[/green]"

/-- The associations of a model in a table. -/
def associationsCell (entity : Entity) : String :=
  if entity.associations.isEmpty then "[dim]-[/dim]"
  else ", ".intercalate (entity.associations.map fun association =>
    association.name ++ " (" ++ association.kind.name ++ " " ++ association.target.plain ++ ")")

def listModels (sources : List Path) (output : Option Path) : Work Unit := do
  let (registry, notes) := Registry.extractFrom (← folder) sources
  note notes
  let registry ← of .file registry
  match output with
  | some path =>
    write path (Json.render .file registry.toJson)
    printSaved registry.entities.length path
  | none =>
    printTable "Registered Models" [⟨"Model", .left⟩, ⟨"Table", .left⟩, ⟨"Associations", .left⟩]
      (registry.entities.map fun entity =>
        [entity.name, entity.table.plain, associationsCell entity])

/-- What a command does. -/
def work (settings : Work Settings) : Command → Work Unit
  | scan options output asJson showDiagnostics =>
    scanProject settings options output asJson showDiagnostics
  | grant options account execute printSql databaseUrl =>
    grantProject settings options account execute printSql databaseUrl
  | sql path account => grantStore settings path account
  | merge paths output => mergeStores paths output
  | models sources output => listModels sources output
  | version => printMarkup ("grantscan " ++ LeastGrant.version)

end Command

/-- How a run ended. -/
inductive Ending where
  | done
  /-- It asked how the program is called. -/
  | help
  /-- Its arguments make no sense. -/
  | misused (error : UsageError)
  /-- It reported an error. -/
  | failed
  /-- An error without a report ended it. -/
  | escaped (error : CommandError)

/-- The exit code of the program. -/
def Ending.exitCode : Ending → Nat
  | .done | .help => 0
  | .failed | .escaped _ => 1
  | .misused _ => 2

/-- What a run leaves. -/
structure Outcome where
  ending : Ending
  output : String
  /-- The notes that are important enough to be logged. -/
  log : List Note
  folder : Folder

namespace Outcome

/-- The outcome of a run that did nothing. -/
def idle (ending : Ending) (folder : Folder) : Outcome := ⟨ending, "", [], folder⟩

/-- Reports an error and ends with a failure. An error without a report is passed on. -/
def ofError (progress : Progress) (log : List Note) (error : CommandError) : Outcome :=
  match error.report? with
  | none => ⟨.escaped error, progress.output, log, progress.folder⟩
  | some message =>
    match (Work.printMarkup ("[bold red]Error:[/bold red] " ++ Work.escaped message)).run progress with
    | (.ok (), progress) => ⟨.failed, progress.output, log, progress.folder⟩
    | (.error error, progress) => ⟨.escaped error, progress.output, log, progress.folder⟩

end Outcome

/-- The error of a command that cannot have its settings. -/
def SettingsError.asCommandError : SettingsError → CommandError
  | .undecodable fault => .file (.undecodable fault)
  | .unusable => .setting .wrongShape

/-- The settings for a run. -/
def settingsFor (environment : Variables) (folder : Folder) : Work Settings :=
  Work.of SettingsError.asCommandError (Settings.load folder environment)

/-- Runs a command on a folder, and logs notes from a level on. -/
def Command.run (command : Command) (level : Level) (settings : Work Settings) (folder : Folder) :
    Outcome :=
  let (result, progress) := (command.work settings).run ⟨"", [], folder⟩
  let log := progress.notes.filter fun note => decide (level.rank ≤ note.level.rank)
  match result with
  | .ok () => ⟨.done, progress.output, log, progress.folder⟩
  | .error error => .ofError progress log error

namespace Invocation

/-- The level from which notes are logged. -/
def level (invocation : Invocation) (settings : Work Settings) : Work Level := do
  match givenOr invocation.logLevel none with
  | some text => return .ofText text
  | none => return .ofText (← settings).logLevel

/-- Runs the command of an invocation. The level of the log is found out before the arguments of the
command are read. -/
def run (invocation : Invocation) (environment : Variables) (folder : Folder) : Outcome :=
  let settings := settingsFor environment folder
  match (invocation.level settings).run ⟨"", [], folder⟩ with
  | (.error error, progress) => .ofError progress [] error
  | (.ok level, _) =>
    match invocation.command with
    | .error error => .idle (.misused error) folder
    | .ok none => .idle .help folder
    | .ok (some command) => command.run level settings folder

end Invocation

/-- Runs the program with some arguments, in an environment and a folder. -/
def runProgram (arguments : List String) (environment : Variables) (folder : Folder) : Outcome :=
  match Invocation.ofArguments arguments with
  | .error error => .idle (.misused error) folder
  | .ok none => .idle .help folder
  | .ok (some invocation) => invocation.run environment folder

end LeastGrant
