import LeastGrant.Grants.Apply
import LeastGrant.Project.ModelSources
import LeastGrant.Project.Sources
import LeastGrant.Report.Markup
import LeastGrant.Report.Table
import LeastGrant.Usage.StoreFile

/-! Steps of a command. A step may print, note what happened, change files, or fail. What was printed
and written before a failure stays. -/
namespace LeastGrant

open Text Markup

/-- Why a command stops. -/
inductive CommandError where
  | noUsername
  | noDatabase
  | config (error : ConfigError)
  | registry (error : RegistryError)
  | store (error : StoreFileError)
  | apply (error : ApplyError)
  /-- A setting of a project that cannot be used. -/
  | setting (fault : ValueFault)
  /-- A file that cannot be read or written. -/
  | file (fault : FileFault)
  /-- Something printed holds markup that cannot be shown. -/
  | markup (fault : MarkupFault)
  /-- A table name that cannot stand in a printed table. -/
  | unprintable
  /-- Something printed holds a character that cannot be encoded. -/
  | unencodable

/-- How an error is reported. An error without a report ends the program as it stands. -/
def CommandError.report? : CommandError → Option String
  | .noUsername =>
    some "`env.DB_TARGET_USERNAME` and `--username` not set, need at least one"
  | .noDatabase => some "`--execute` needs `--database-url` or `env.GRANTSCAN_DATABASE_URL`"
  | .config error => error.message?
  | .registry error => error.message?
  | .store error => error.message?
  | .apply error => some error.message
  | _ => none

/-- What a command has done so far. -/
structure Progress where
  output : String
  notes : List Note
  folder : Folder

/-- A step of a command. -/
abbrev Work := ExceptT CommandError (StateM Progress)

namespace Work

def note (notes : List Note) : Work Unit :=
  modify fun progress => { progress with notes := progress.notes ++ notes }

/-- Prints a text, all of it or nothing. -/
def print (text : String) : Work Unit := do
  if hasHalf text.toList then throw .unencodable
  modify fun progress => { progress with output := progress.output ++ text }

/-- Prints a text on lines of its own. -/
def printLines (text : List Char) : Work Unit :=
  print (String.ofList (Report.screenText text) ++ "\n")

/-- Prints a text without markup. -/
def printText (text : String) : Work Unit :=
  printLines (Markup.shownPlain Report.emojiTable text.toList)

/-- A text with markup as it is shown. -/
def markup (text : String) : Except CommandError Report.StyledText :=
  match Markup.shown Report.emojiTable text.toList with
  | .ok shown => .ok shown
  | .error fault => .error (.markup fault)

/-- The value of a computation, or its failure. -/
def of {ε α : Type} (wrap : ε → CommandError) : Except ε α → Work α
  | .ok value => pure value
  | .error error => throw (wrap error)

/-- Prints a text with markup. -/
def printMarkup (text : String) : Work Unit := do
  let shown ← of id (markup text)
  printLines shown.chars

def folder : Work Folder := return (← get).folder

/-- Writes a file. The directories made for it remain if it cannot be written. -/
def write (path : Path) (text : String) : Work Unit := do
  let (result, changed) := (← folder).write path text
  modify fun progress => { progress with folder := changed }
  of .file result

/-- A text that markup shows as it is. -/
def escaped (text : String) : String := String.ofList (Markup.escape text.toList)

/-- Prints a table whose title and cells hold markup. -/
def printTable (title : String) (columns : List Report.Column) (rows : List (List String)) :
    Work Unit := do
  let title ← of id (markup title)
  let rows ← of id (rows.mapM fun row => row.mapM markup)
  print (Report.Table.text ⟨title, columns, rows⟩)

end Work

end LeastGrant
