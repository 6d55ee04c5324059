import LeastGrant.Command.Run
import LeastGrant.Tree.Document

/-! The command line. It reads the working directory with all below it, and the settings above it,
runs the command on what it has read, and writes back what has changed. The syntax tree of a source
is read from the file of the same name with `.tree.json` after it. -/
namespace LeastGrant.CommandLine

/-- The text of a string of the system. -/
def textOf (string : String) : String := String.ofList (Text.ofCharacters string.toList)

/-- A text as a string of the system. -/
def stringOf (text : String) : String := String.ofList (Text.characters text.toList)

/-- What has been read of a folder. -/
abbrev Contents := List (List String × ByteArray) × List (List String)

/-- The files and directories among some entries, and everything below them. -/
partial def collect (place : List String) (entries : List IO.FS.DirEntry) : IO Contents := do
  match entries with
  | [] => return ([], [])
  | entry :: rest =>
    let here := place ++ [textOf entry.fileName]
    let (files, directories) ← collect place rest
    if ← entry.path.isDir then
      let (inner, innerDirectories) ← collect here (← entry.path.readDir).toList
      return (inner ++ files, here :: innerDirectories ++ directories)
    else
      return ((here, ← IO.FS.readBinFile entry.path) :: files, directories)

/-- The parts of an absolute path. -/
def partsOf (path : String) : List String := (Path.ofText (textOf path)).parts

/-- The settings in the directories above one. -/
partial def collectAbove (path : String) : IO Contents := do
  match (partsOf path).dropLast with
  | [] => return ([], [])
  | above =>
    let text := stringOf (Path.absolute above).text
    let (files, directories) ← collectAbove text
    let mut found := files
    for name in [".env", "tsconfig.json"] do
      let file := text ++ "/" ++ name
      try found := (above ++ [name], ← IO.FS.readBinFile file) :: found
      catch _ => pure ()
    return (found, directories)

/-- The tree of a source among some files. -/
def treeOf (files : List (List String × ByteArray)) (place : List String) : List TreeEntry :=
  let beside := place.dropLast ++ [place.getLast?.getD "" ++ ".tree.json"]
  match files.lookup beside with
  | none => []
  | some bytes =>
    match Text.decode bytes.toList with
    | .error _ => []
    | .ok text =>
      match Json.read text with
      | .ok document => TreeEntry.listOfJson document
      | .error _ => []

/-- The folder of the working directory. -/
def readFolder : IO Folder := do
  let directory ← IO.currentDir
  let current := partsOf directory.toString
  let (files, directories) ← collect current (← directory.readDir).toList
  let (above, _) ← collectAbove directory.toString
  return {
    files := (files ++ above).map fun (place, bytes) => (place, ⟨bytes, treeOf files place⟩)
    directories := current :: directories
    current := current }

/-- Makes the directories and writes the files that differ between two folders. -/
def writeChanges (before after : Folder) : IO Unit := do
  for place in after.directories do
    if !before.isDirectory place then IO.FS.createDirAll (stringOf (Path.absolute place).text)
  for (place, file) in after.files do
    if (before.file? place).map File.bytes != some file.bytes then
      IO.FS.createDirAll (stringOf (Path.absolute place.dropLast).text)
      IO.FS.writeBinFile (stringOf (Path.absolute place).text) file.bytes

/-- A variable from its name, an equals sign and its value. -/
def variableOf (text : List Char) : String × String :=
  let name := text.takeWhile (· != '=')
  (String.ofList name, String.ofList (text.drop (name.length + 1)))

/-- All variables of the environment, where the system lists them. -/
def listedVariables : IO Variables := do
  let bytes ← IO.FS.readBinFile "/proc/self/environ"
  let entries := Text.split (Char.ofNat 0) (Text.ofCharacters (Text.decodeLossy bytes.toList))
  return (entries.filter fun entry => !entry.isEmpty).map variableOf

/-- The variables of the environment, or at least those that the settings ask for. -/
def readEnvironment : IO Variables := do
  try listedVariables
  catch _ =>
    let names := ["DB_TARGET_USERNAME", "DB_TARGET_HOST", "GRANTSCAN_DATABASE_URL",
      "GRANTSCAN_TSCONFIG", "GRANTSCAN_LOG_LEVEL"]
    let mut found := []
    for name in names do
      if let some value ← IO.getEnv name then
        found := found ++ [(name, textOf value)]
    return found

/-- A note as a line of a log. -/
def logLine (jsonLogs : Bool) (note : Note) : String :=
  if jsonLogs then Json.render .line (note.toJson "level")
  else
    "[" ++ note.level.name ++ "] " ++ note.name ++
      String.join (note.fields.map fun (name, value) => " " ++ name ++ "=" ++ value.shown)

/-- How the program is called. -/
def usage : String :=
  "Usage: grantscan [--log-level LEVEL] [--json-logs] COMMAND [ARGS]...\n" ++
  "Commands: scan, grant, sql, merge, models, version"

/-- Runs the program with some arguments. -/
def run (arguments : List String) : IO UInt32 := do
  let folder ← readFolder
  let outcome := runProgram (arguments.map textOf) (← readEnvironment) folder
  for note in outcome.log do
    IO.eprintln (stringOf (logLine (arguments.contains "--json-logs") note))
  IO.print (stringOf outcome.output)
  writeChanges folder outcome.folder
  match outcome.ending with
  | .help => IO.println usage
  | .misused error => IO.eprintln error.message
  | .escaped _ => IO.eprintln "The command ended with an error that it does not report."
  | _ => pure ()
  return outcome.ending.exitCode.toUInt32

end LeastGrant.CommandLine

def main (arguments : List String) : IO UInt32 := LeastGrant.CommandLine.run arguments
