import LeastGrant.Folder
import LeastGrant.Json.Elements
import LeastGrant.Json.Relaxed

/-! Project configurations. A configuration is searched from a directory upwards. It may extend
others, whose settings count where it has none of its own, and whose paths are seen from their own
directories. -/
namespace LeastGrant

open Text

/-- What is wrong with a configuration file. -/
inductive ConfigFault where
  | circular
  | notJson (error : Json.ReadError)
  | undecodable (fault : DecodeFault)
  | notObject
  | unresolved (reference : String)
  deriving DecidableEq, Repr

def ConfigFault.message : ConfigFault → String
  | .circular => "circular 'extends'"
  | .notJson error => error.message
  | .undecodable fault => fault.message
  | .notObject => "top-level value must be an object"
  | .unresolved reference => s!"cannot resolve extends '{reference}'"

/-- Why there is no configuration. -/
inductive ConfigError where
  | notFound (name base : String)
  | malformed (path : String) (fault : ConfigFault)
  | unusable (fault : ValueFault)
  deriving DecidableEq, Repr

/-- The wording of an error; a value that cannot be used has none. -/
def ConfigError.message? : ConfigError → Option String
  | .notFound name base => some s!"Could not find a valid '{name}' from {base}."
  | .malformed path fault =>
    some s!"Failed to parse project config at {path}: {fault.message}"
  | .unusable _ => none

/-- A configuration. The lists of patterns are kept as they were written; null stands for none. -/
structure ProjectConfig where
  /-- The place of the file. -/
  place : List String
  files : List Json
  included : Json
  excluded : Json
  options : Json.Table
  deriving DecidableEq

namespace ProjectConfig

/-- The directory of a configuration. -/
def root (config : ProjectConfig) : List String := config.place.dropLast

/-- Whether sources in JavaScript belong to the project. -/
def allowsJs (config : ProjectConfig) : Bool :=
  (config.options.getOrNull "allowJs").isSet || (config.options.getOrNull "checkJs").isSet

/-- The first file among some paths. None can be found behind one that is too long. -/
def firstFile? (folder : Folder) : List Path → Except ConfigError (Option Path)
  | [] => .ok none
  | path :: rest =>
    if folder.isTooLong path then .error (.unusable .tooLong)
    else if folder.isFileAt path then .ok (some path)
    else firstFile? folder rest

/-- What is wrong with a path as the place of a file. -/
def pathFault? (path : String) : Option ValueFault :=
  if hasUnencodable path then some .unencodable
  else if hasNul path then some .wrongShape
  else none

/-- The configuration file of a name for a directory: in it, or in the nearest above that has one. -/
def find? (folder : Folder) (base name : String) : Except ConfigError (Option Path) :=
  let wanted := Path.ofText name
  if wanted.isAbsolute then firstFile? folder [wanted]
  else
    match pathFault? base with
    | some fault => .error (.unusable fault)
    | none =>
      let start := Path.absolute (folder.resolve (.ofText base))
      firstFile? folder (start.withParents.map (· ++ wanted))

/-- The settings of a configuration file itself. -/
def ofJson (place : List String) (document : Json) : Except ValueFault ProjectConfig := do
  let files ← (document.getOrNull "files").elementsIfSet
  let options ← (document.getOrNull "compilerOptions").asTable
  .ok ⟨place, files, document.getOrNull "include", document.getOrNull "exclude", options⟩

/-- The files that a reference may mean at one place: itself, with an ending, or as a directory. -/
def spellings (candidate : Path) : List Path :=
  [candidate, candidate.parent.child (candidate.name ++ ".json"), candidate.child "tsconfig.json"]

/-- The places where a reference is looked for: as a path, or among the packages of the directory
and of those above it. -/
def candidates (directory : Path) (reference : String) : List Path :=
  if startsWith "." reference || (Path.ofText reference).isAbsolute then
    [directory ++ Path.ofText reference]
  else directory.withParents.map fun above => above.child "node_modules" ++ Path.ofText reference

/-- The configuration file that a reference means. -/
def resolveExtends (folder : Folder) (directory : List String) :
    Json → Except ConfigError Path
  | .str reference =>
    let places := candidates (.absolute directory) reference
    if places.any fun place => place.name == "" then .error (.unusable .wrongShape)
    else
      match firstFile? folder (places.flatMap spellings) with
      | .error error => .error error
      | .ok (some path) => .ok path
      | .ok none => .error (.malformed (Path.absolute directory).text (.unresolved reference))
  | _ => .error (.unusable .lacking)

/-- A path of one directory as seen from another. -/
def rebasePath (source target : List String) : Json → Except ValueFault Json
  | .str text =>
    let path := Path.ofText text
    .ok (.str (if path.isAbsolute then text
      else Path.routeText (Path.route target (Path.normalParts true [] (source ++ path.parts)))))
  | _ => .error .wrongSort

/-- A list of patterns of one directory as seen from another; none stays none. -/
def rebasePatterns (source target : List String) : Json → Except ValueFault Json
  | .null => .ok .null
  | patterns => do
    let items ← patterns.elements
    .ok (.arr (← items.mapM (rebasePath source target)))

/-- Fills in what is not set from an extended configuration. -/
def inherit (config parent : ProjectConfig) : Except ValueFault ProjectConfig := do
  let rebaseAll := fun patterns own : Json => match own with
    | .null => rebasePatterns parent.root config.root patterns
    | _ => .ok own
  let files ← if config.files.isEmpty then
      parent.files.mapM (rebasePath parent.root config.root)
    else .ok config.files
  let included ← rebaseAll parent.included config.included
  let excluded ← rebaseAll parent.excluded config.excluded
  .ok { config with
    files := files
    included := included
    excluded := excluded
    options := parent.options.override config.options }

/-- The references of a configuration to others. -/
def extendsReferences (document : Json) : Except ValueFault (List Json) :=
  match document.getOrNull "extends" with
  | .str reference => .ok [.str reference]
  | value => value.elementsIfSet

/-- Turns a fault of a value into an error. -/
def usable {α : Type} : Except ValueFault α → Except ConfigError α
  | .ok value => .ok value
  | .error fault => .error (.unusable fault)

/-- The document of a configuration file. -/
def document (folder : Folder) (place : List String) : Except ConfigError Json :=
  let path := (Path.absolute place).text
  match (folder.file? place).map File.text with
  | none => .error (.unusable .missing)
  | some (.error fault) => .error (.malformed path (.undecodable fault))
  | some (.ok text) =>
    match Json.readRelaxed text with
    | .error error =>
      .error (if error.isLimit then .unusable .wrongShape else .malformed path (.notJson error))
    | .ok (.obj fields) => .ok (.obj fields)
    | .ok _ => .error (.malformed path .notObject)

/-- Places of configuration files that have been read. -/
abbrev Seen := List (List String)

/-- Inherits from extended configurations one after the other. -/
def inheritAll (folder : Folder) (load : List String → Seen → Except ConfigError (ProjectConfig × Seen))
    (config : ProjectConfig) (seen : Seen) : List Json → Except ConfigError (ProjectConfig × Seen)
  | [] => .ok (config, seen)
  | reference :: rest => do
    let path ← resolveExtends folder config.root reference
    let (parent, seen) ← load (folder.resolve path) seen
    let config ← usable (config.inherit parent)
    inheritAll folder load config seen rest

/-- Reads a configuration file and all that it extends, no file twice. Each step down reads a new
file, so the number of files bounds the depth. -/
def loadFrom (folder : Folder) :
    (depth : Nat) → List String → Seen → Except ConfigError (ProjectConfig × Seen)
  | 0, place, _ => .error (.malformed (Path.absolute place).text .circular)
  | depth + 1, place, seen =>
    if seen.contains place then .error (.malformed (Path.absolute place).text .circular)
    else do
      let document ← document folder place
      let config ← usable (ofJson place document)
      let references ← usable (extendsReferences document)
      inheritAll folder (loadFrom folder depth) config (place :: seen) references

/-- Finds and reads the configuration of a project. -/
def load (folder : Folder) (base name : String) : Except ConfigError ProjectConfig := do
  match ← find? folder base name with
  | none => .error (.notFound name base)
  | some path =>
    let (config, _) ← loadFrom folder (folder.files.length + 1) (folder.resolve path) []
    .ok config

end ProjectConfig

end LeastGrant
