import LeastGrant.Command.EnvFile
import LeastGrant.Folder

/-! Settings from variables: those of the environment, and those of the nearest `.env` file at or above
the working directory. A variable of the environment is never replaced, not even an empty one. -/
namespace LeastGrant

open Text

/-- Why there are no settings. -/
inductive SettingsError where
  | undecodable (fault : DecodeFault)
  /-- A variable of the file cannot be set. -/
  | unusable
  deriving DecidableEq, Repr

/-- The nearest file of variables. -/
def Folder.envFile? (folder : Folder) : Option File :=
  let places := (Path.absolute folder.current).withParents.map fun above => above.child ".env"
  places.findSome? folder.fileAt?

/-- The settings of a run. -/
structure Settings where
  entries : Variables

namespace Settings

/-- The settings of an environment and the folder it runs in. -/
def load (folder : Folder) (environment : Variables) : Except SettingsError Settings :=
  match folder.envFile?.map File.text with
  | none => .ok ⟨environment⟩
  | some (.error fault) => .error (.undecodable fault)
  | some (.ok text) =>
    match EnvFile.added? environment (ofCharacters text) with
    | some added => .ok ⟨environment ++ added⟩
    | none => .error .unusable

def get? (settings : Settings) (name : String) : Option String := settings.entries.lookup name

/-- A variable that is set and not empty. -/
def nonempty? (settings : Settings) (name : String) : Option String :=
  (settings.get? name).filter fun value => value != ""

/-- The user who receives grants. -/
def username? (settings : Settings) : Option String := settings.nonempty? "DB_TARGET_USERNAME"

/-- The host of the account; the percent sign stands for any. -/
def host (settings : Settings) : String := (settings.get? "DB_TARGET_HOST").getD "%"

def databaseUrl? (settings : Settings) : Option String :=
  settings.nonempty? "GRANTSCAN_DATABASE_URL"

/-- The name of project configurations. -/
def configName (settings : Settings) : String :=
  (settings.get? "GRANTSCAN_TSCONFIG").getD "tsconfig.json"

def logLevel (settings : Settings) : String :=
  (settings.get? "GRANTSCAN_LOG_LEVEL").getD "WARNING"

theorem get?_of_environment (environment found : Variables) (name value : String)
    (h : environment.lookup name = some value) :
    (⟨environment ++ found⟩ : Settings).get? name = some value := by
  simp [get?, List.lookup_append, h]

end Settings

end LeastGrant
