import LeastGrant.Path.Glob
import LeastGrant.Project.Config
import LeastGrant.SourceFile
import LeastGrant.Note

/-! The source files of a project: those that it lists, and those below its directories that match an
include pattern and no exclude pattern. -/
namespace LeastGrant

open Text

/-- The directory that a pattern leads to before its first wildcard. A pattern without wildcards
leads to the directory of the file that it names. -/
def patternBase (root : Path) (pattern : String) : Path :=
  let segments := splitText '/' pattern
  let literal := segments.takeWhile fun segment => !Glob.hasWildcard segment
  let kept := if literal.length = segments.length then literal.dropLast else literal
  (root ++ (⟨0, kept.filter fun part => part != "" && part != "."⟩ : Path)).normalize

/-- Adds a directory to some, unless it lies in one of them. -/
def addRoot (roots : List Path) (base : Path) : List Path :=
  if roots.any fun root => root.isAbove base then roots else roots ++ [base]

/-- The directories to search for some patterns. None of them lies in another. -/
def walkRoots (root : Path) (patterns : List String) : List Path :=
  ((patterns.map (patternBase root)).mergeSort fun p q =>
    decide (p.parts.length ≤ q.parts.length)).foldl addRoot []

/-- Directories of packages. -/
def packageDirectories : List String := ["bower_components", "jspm_packages", "node_modules"]

/-- Whether a search skips a directory: it holds packages or is hidden. -/
def isSkipped (directory : String) : Bool :=
  packageDirectories.contains directory || startsWith "." directory

namespace Folder

/-- The names of the files in a directory. -/
def fileNames (folder : Folder) (place : List String) : List String :=
  folder.files.filterMap fun (file, _) => if file.dropLast = place then file.getLast? else none

/-- The names of the directories in a directory. -/
def directoryNames (folder : Folder) (place : List String) : List String :=
  let known := folder.directories ++ folder.files.map fun (file, _) => file.dropLast
  (known.filterMap fun directory =>
    if place.isPrefixOf directory then directory[place.length]? else none).eraseDups

/-- The most parts that the path of a file has. -/
def height (folder : Folder) : Nat :=
  folder.files.foldl (fun parts (file, _) => parts.max file.length) 0

/-- Walks down from a directory and gathers the files on the way. Directories that a search skips are
not entered. -/
def walk (folder : Folder) : (depth : Nat) → List String → List (List String)
  | 0, _ => []
  | depth + 1, place =>
    let entered := (folder.directoryNames place).filter fun name => !isSkipped name
    (folder.fileNames place).map (fun name => place ++ [name]) ++
      entered.flatMap fun name => folder.walk depth (place ++ [name])

/-- The files that a search from a directory comes to. No file lies deeper than the folder is high. -/
def search (folder : Folder) (place : List String) : List (List String) :=
  folder.walk folder.height place

end Folder

namespace ProjectConfig

/-- The endings of source files. -/
def extensions (config : ProjectConfig) : List String :=
  [".ts", ".tsx", ".mts", ".cts"] ++
    if config.allowsJs then [".js", ".jsx", ".mjs", ".cjs"] else []

/-- A value as a pattern in its normal spelling. -/
def asPattern : Json → Except ValueFault String
  | .str text => .ok (Glob.normalize text)
  | _ => .error .lacking

/-- A value as a pattern, where a directory stands for everything below it. -/
def directoryPattern (folder : Folder) (config : ProjectConfig) (value : Json) :
    Except ValueFault String := do
  let pattern ← asPattern value
  let path := Path.absolute config.root ++ Path.ofText pattern
  if Glob.hasWildcard pattern then .ok pattern
  else if folder.isTooLong path then .error .tooLong
  else .ok (if folder.isDirectoryAt path then pattern ++ "/**/*" else pattern)

/-- The include patterns. Without a list of them or of files everything is included. -/
def includePatterns (folder : Folder) (config : ProjectConfig) :
    Except ValueFault (List String) := do
  let items ← match config.included with
    | .null => .ok (if config.files.isEmpty then [.str "**/*"] else [])
    | value => value.elements
  items.mapM (config.directoryPattern folder)

/-- The exclude patterns. Without a list of them these are the packages and the output. -/
def excludePatterns (config : ProjectConfig) : Except ValueFault (List String) := do
  match config.excluded with
  | .null =>
    let output := config.options.getOrNull "outDir"
    if output.isSet then .ok (packageDirectories ++ [← asPattern output])
    else .ok packageDirectories
  | value => (← value.elements).mapM asPattern

/-- The place of a listed file. -/
def listedPlace (config : ProjectConfig) (folder : Folder) : Json → Except ValueFault (List String)
  | .str name =>
    let place := folder.resolve (Path.absolute config.root ++ Path.ofText name)
    match pathFault? name with
    | some fault => .error fault
    | none => if folder.isTooLong (.absolute place) then .error .tooLong else .ok place
  | _ => .error .wrongSort

/-- Whether the patterns take in a file, judged by its path from the configuration on. -/
def admits (config : ProjectConfig) (includes excludes : List Glob) (file : List String) : Bool :=
  let relative := (Path.routeText (Path.route config.root file)).toList
  (includes.any fun pattern => pattern.fits relative) && !Glob.fitsAtOrAbove excludes relative

/-- Whether a file is a source by its name. -/
def hasExtension (config : ProjectConfig) (file : List String) : Bool :=
  config.extensions.any fun ending => endsIn ending (file.getLast?.getD "")

/-- The places of all source files, in order. -/
def sourcePlaces (config : ProjectConfig) (folder : Folder) :
    Except ValueFault (List (List String)) := do
  let listed ← config.files.mapM (config.listedPlace folder)
  let patterns ← config.includePatterns folder
  let excludes := (← config.excludePatterns).map Glob.ofText
  let includes := patterns.map Glob.ofText
  let roots := walkRoots (.absolute config.root) patterns
  match roots.findSome? fun root => root.parts.findSome? pathFault? with
  | some fault => .error fault
  | none =>
    let found := (roots.flatMap fun root => folder.search root.parts).filter fun file =>
      config.hasExtension file && config.admits includes excludes file
    .ok (Path.sortUnique ((listed.filter fun place => (folder.file? place).isSome) ++ found))

/-- How a file of a project is shown: by its path in the project, if it lies in it. -/
def displayName (config : ProjectConfig) (place : List String) : String :=
  if config.root.isPrefixOf place then Path.routeText (place.drop config.root.length)
  else (Path.absolute place).text

/-- The source file at a place; files of unknown languages are left out. -/
def sourceFile? (config : ProjectConfig) (folder : Folder) (place : List String) :
    Option SourceFile :=
  match folder.file? place, Language.ofPath? (.absolute place) with
  | some file, some language =>
    some ⟨.absolute place, config.displayName place, language, file.root⟩
  | _, _ => none

/-- The source files of a project. -/
def sourceFiles (config : ProjectConfig) (folder : Folder) :
    Except ValueFault (List SourceFile × List Note) := do
  let places ← config.sourcePlaces folder
  let files := places.filterMap (config.sourceFile? folder)
  .ok (files, [.projectLoaded (Path.absolute config.place).text files.length])

end ProjectConfig

end LeastGrant
