import LeastGrant.Folder
import LeastGrant.Json.Reader
import LeastGrant.Note
import LeastGrant.Usage.Document

/-! Usage stores in files. -/
namespace LeastGrant

open Text

/-- Why a store cannot be read. -/
inductive StoreFileError where
  | missing (path : String)
  /-- The file cannot be opened or decoded. -/
  | file (fault : FileFault)
  | notJson (error : Json.ReadError)
  /-- The file holds a number that is not read. -/
  | hugeNumber
  | malformed (path : String) (error : StoreError)
  deriving DecidableEq, Repr

/-- The wording of an error; a file that cannot be opened, decoded or read has none. -/
def StoreFileError.message? : StoreFileError → Option String
  | .missing path => some s!"File not found: {path}"
  | .notJson error => some error.message
  | .malformed path error => some s!"{path}: {error.message}"
  | .file _ | .hugeNumber => none

namespace UsageStore

/-- Reads a store from a file. -/
def load (folder : Folder) (path : Path) : Except StoreFileError UsageStore :=
  match folder.readText path with
  | .error .notFound => .error (.missing path.text)
  | .error fault => .error (.file fault)
  | .ok text =>
    match Json.read text with
    | .error error => .error (if error.isLimit then .hugeNumber else .notJson error)
    | .ok document =>
      match ofJson document with
      | .ok store => .ok store
      | .error error => .error (.malformed path.text error)

/-- The stores of some files merged into one. -/
def loadAll (folder : Folder) (paths : List Path) : Except StoreFileError UsageStore :=
  (paths.mapM (load folder)).map fun stores => stores.foldl merge empty

/-- The text of a store in a file. -/
def fileText (store : UsageStore) : String := Json.render .file store.toJson

/-- Writes a store to a file. -/
def save (store : UsageStore) (folder : Folder) (path : Path) : Except FileFault Unit × Folder :=
  folder.write path store.fileText

/-- The note on a store that has been written. -/
def savedNote (store : UsageStore) (path : Path) : Note :=
  .storeSaved path.text store.records.length

end UsageStore

end LeastGrant
