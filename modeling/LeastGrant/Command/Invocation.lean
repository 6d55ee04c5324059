import LeastGrant.Command.Arguments
import LeastGrant.Folder

/-! The commands and their options. The arguments up to the name of a command are read first, and its own
arguments only when the level of the log is known. -/
namespace LeastGrant

/-- What to analyse, and where the models come from. -/
structure AnalysisOptions where
  project : String
  models : Option Path
  modelSources : List Path
  config : Option String
  onlyFrom : Option String
  deriving DecidableEq, Repr

/-- For whom grants are written. -/
structure AccountOptions where
  username : Option String
  host : Option String
  clear : Bool
  noFlush : Bool
  deriving DecidableEq, Repr

inductive Command where
  | scan (analysis : AnalysisOptions) (output : Option Path) (asJson showDiagnostics : Bool)
  | grant (analysis : AnalysisOptions) (account : AccountOptions) (execute printSql : Bool)
      (databaseUrl : Option String)
  | sql (store : Path) (account : AccountOptions)
  | merge (stores : List Path) (output : Path)
  | models (sources : List Path) (output : Option Path)
  | version
  deriving DecidableEq, Repr

namespace Command

def helpOption : OptionSpec := .flag "--help"

def outputOption : OptionSpec := .value "--output" (some 'o')

def analysisSpecs : List OptionSpec :=
  [.value "--models" (some 'm'), .value "--model-sources" none, .value "--tsconfig" none,
    .value "--only-from" none]

def accountSpecs : List OptionSpec :=
  [.value "--username" (some 'u'), .value "--host" none, .flag "--clear", .flag "--no-flush"]

/-- The options of a command. -/
def specs : String → Option (List OptionSpec)
  | "scan" => some (helpOption :: outputOption :: .flag "--json" :: .flag "--show-diagnostics" ::
      analysisSpecs)
  | "grant" => some (helpOption :: .flag "--execute" :: .flag "--print-sql" ::
      .value "--database-url" none :: accountSpecs ++ analysisSpecs)
  | "sql" => some (helpOption :: accountSpecs)
  | "merge" => some [helpOption, outputOption]
  | "models" => some [helpOption, outputOption]
  | "version" => some [helpOption]
  | _ => none

/-- The single argument of a command, if it was given. -/
def atMostOne : List String → Except UsageError (Option String)
  | [] => .ok none
  | [argument] => .ok (some argument)
  | _ :: extra :: _ => .error (.unexpectedArgument extra)

/-- A path; it has to be one that a file could have. -/
def pathOf (argument : String) : Except UsageError Path :=
  let path := Path.ofText argument
  if (Folder.nameFault? path.parts).isSome then .error (.unusablePath argument) else .ok path

/-- The path that an option gives. -/
def pathOption (arguments : Arguments) (option : String) : Except UsageError (Option Path) :=
  match arguments.value? option with
  | none => .ok none
  | some value => (pathOf value).map some

/-- The arguments of a command that needs some. -/
def atLeastOne (name : String) : List String → Except UsageError (List Path)
  | [] => .error (.missingArgument name)
  | arguments => arguments.mapM pathOf

def analysisOptions (arguments : Arguments) : Except UsageError AnalysisOptions := do
  let project ← atMostOne arguments.positional
  let models ← pathOption arguments "--models"
  let modelSources ← (arguments.values "--model-sources").mapM pathOf
  .ok
    { project := project.getD "."
      models := models
      modelSources := modelSources
      config := arguments.value? "--tsconfig"
      onlyFrom := arguments.value? "--only-from" }

def accountOptions (arguments : Arguments) : AccountOptions where
  username := arguments.value? "--username"
  host := arguments.value? "--host"
  clear := arguments.has "--clear"
  noFlush := arguments.has "--no-flush"

/-- The command of a name with its arguments. -/
def ofArguments (name : String) (arguments : Arguments) : Except UsageError Command := do
  let output ← pathOption arguments "--output"
  match name with
  | "scan" =>
    .ok (.scan (← analysisOptions arguments) output (arguments.has "--json")
      (arguments.has "--show-diagnostics"))
  | "grant" =>
    .ok (.grant (← analysisOptions arguments) (accountOptions arguments)
      (arguments.has "--execute") (arguments.has "--print-sql")
      (arguments.value? "--database-url"))
  | "sql" =>
    match ← atMostOne arguments.positional with
    | some store => .ok (.sql (← pathOf store) (accountOptions arguments))
    | none => .error (.missingArgument "STORE_FILE")
  | "merge" =>
    let stores ← atLeastOne "STORE_FILES..." arguments.positional
    match output with
    | some output => .ok (.merge stores output)
    | none => .error (.missingOption "--output")
  | "models" =>
    let sources ← atLeastOne "SOURCES..." arguments.positional
    .ok (.models sources output)
  | "version" =>
    match arguments.positional with
    | [] => .ok .version
    | extra :: _ => .error (.unexpectedArgument extra)
  | name => .error (.unknownCommand name)

end Command

/-- The arguments up to the name of a command, and those after it. -/
structure Invocation where
  logLevel : Option String
  jsonLogs : Bool
  /-- The command by its name and options. -/
  name : String
  specs : List OptionSpec
  rest : List String
  deriving DecidableEq, Repr

namespace Invocation

/-- The options that stand before a command. -/
def leadingSpecs : List OptionSpec :=
  [Command.helpOption, .value "--log-level" none, .flag "--json-logs"]

/-- What arguments ask for up to the name of a command; none if they ask for help. -/
def ofArguments (arguments : List String) : Except UsageError (Option Invocation) := do
  let leading ← Arguments.parse leadingSpecs false arguments
  if leading.has "--help" then .ok none
  else
    match leading.positional with
    | [] => .error .missingCommand
    | name :: rest =>
      match Command.specs name with
      | none => .error (.unknownCommand name)
      | some specs =>
        .ok (some ⟨leading.value? "--log-level", leading.has "--json-logs", name, specs, rest⟩)

/-- The command with its own arguments; none if they ask for help. -/
def command (invocation : Invocation) : Except UsageError (Option Command) := do
  let arguments ← Arguments.parse invocation.specs true invocation.rest
  if arguments.has "--help" then .ok none
  else (Command.ofArguments invocation.name arguments).map some

end Invocation

end LeastGrant
