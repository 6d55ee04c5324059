import LeastGrant.Entity.Document
import LeastGrant.Entity.Extraction
import LeastGrant.Folder

/-! Registries from files: from a document, or from the sources of model classes in given files and
directories. -/
namespace LeastGrant

open Text

/-- Reads a registry from a document in a file. -/
def Registry.load (folder : Folder) (path : Path) : Except RegistryError Registry :=
  match folder.readText path with
  | .error (.undecodable fault) => .error (.undecodable fault)
  | .error .isDirectory => .error (.isDirectory path.text)
  | .error .nameTooLong => .error (.unusable .tooLong)
  | .error _ => .error (.fileMissing path.text)
  | .ok text =>
    match Json.read text with
    | .error error =>
      .error (if error.isLimit then .unusable .wrongShape else .notJson path.text error)
    | .ok document => ofJson document

namespace Folder

/-- Whatever lies below a place, by the way to it. -/
def below (folder : Folder) (place : List String) : List (List String) :=
  let entries := folder.files.map Prod.fst ++ folder.directories
  let ways := (entries.filter fun entry => place.isPrefixOf entry).map (List.drop place.length)
  ways.flatMap fun way => (List.range way.length).map fun n => way.take (n + 1)

end Folder

/-- Whether a path below a directory is searched for model classes. -/
def isModelSource (path : Path) : Bool :=
  endsIn ".ts" path.name && !endsIn ".d.ts" path.name && !path.parts.contains "node_modules"

/-- The paths to search for model classes: a file itself, or all sources in a directory. -/
def modelPaths (folder : Folder) (path : Path) : List Path :=
  match folder.locate? path with
  | none => []
  | some place =>
    if folder.isDirectory place then
      (Path.sortUnique (folder.below place)).map (fun way => path ++ (⟨0, way⟩ : Path))
        |>.filter isModelSource
    else if (folder.file? place).isSome then [path]
    else []

/-- The sources at some paths up to the first that cannot be read, and the fault if there is one. -/
def readSources (folder : Folder) : List Path → List SourceFile × Option FileFault
  | [] => ([], none)
  | path :: rest =>
    match folder.read path with
    | .error fault => ([], some fault)
    | .ok file =>
      let (files, fault) := readSources folder rest
      (.ofTree path none file.root :: files, fault)

/-- The models declared in given files and directories. What was noted before a fault is kept. -/
def Registry.extractFrom (folder : Folder) (paths : List Path) :
    Except FileFault Registry × List Note :=
  if paths.any folder.isTooLong then (.error .nameTooLong, [])
  else
    let (files, fault) := readSources folder (paths.flatMap (modelPaths folder))
    let (registry, notes) := extract files
    match fault with
    | some fault => (.error fault, notes)
    | none => (.ok registry, notes)

end LeastGrant
