import LeastGrant.Fault
import LeastGrant.Path.Basic
import LeastGrant.Text.Lines
import LeastGrant.Text.Unwritable
import LeastGrant.Tree.Node

/-! Folders of files, with a working directory. Paths are looked up part by part: every part but the
last has to be a directory, and `..` leads to the directory above. -/
namespace LeastGrant

open Text

/-- A file: its bytes, and the tree of its source if it has one. -/
structure File where
  bytes : ByteArray
  tree : List TreeEntry

/-- A file of a text. -/
def File.ofText (text : String) : File := ⟨text.toUTF8, []⟩

/-- The tree of a file. -/
def File.root (file : File) : Node :=
  match file.tree with
  | [] => .bare file.bytes
  | entries => .ofEntries file.bytes entries

/-- The text of a file, with line feeds alone between its lines. -/
def File.text (file : File) : Except DecodeFault (List Char) :=
  (decode file.bytes.toList).map unifyNewlines

/-- Files and directories by their absolute paths. Everything above a file or a directory is a
directory. -/
structure Folder where
  files : List (List String × File)
  directories : List (List String)
  /-- The working directory. -/
  current : List String

namespace Folder

def file? (folder : Folder) (place : List String) : Option File := folder.files.lookup place

def isDirectory (folder : Folder) (place : List String) : Bool :=
  place.isEmpty || folder.directories.any (fun directory => place.isPrefixOf directory) ||
    folder.files.any fun (file, _) => place.isPrefixOf file && file != place

/-- The parts of a path from the root on. -/
def absoluteParts (folder : Folder) (path : Path) : List String :=
  if path.isAbsolute then path.parts else folder.current ++ path.parts

/-- The place of a path, judged by its text alone. -/
def resolve (folder : Folder) (path : Path) : List String :=
  Path.normalParts true [] (folder.absoluteParts path)

/-- Follows parts from a directory on. -/
def follow (folder : Folder) : (place parts : List String) → Option (List String)
  | place, [] => some place
  | place, part :: rest =>
    if folder.isDirectory place then
      folder.follow (if part = ".." then place.dropLast else place ++ [part]) rest
    else none

/-- The place that a path leads to. The last part of the path need not exist. -/
def locate? (folder : Folder) (path : Path) : Option (List String) :=
  folder.follow [] (folder.absoluteParts path)

/-- The file that a path leads to. -/
def fileAt? (folder : Folder) (path : Path) : Option File :=
  (folder.locate? path).bind folder.file?

def isFileAt (folder : Folder) (path : Path) : Bool := (folder.fileAt? path).isSome

def isDirectoryAt (folder : Folder) (path : Path) : Bool :=
  match folder.locate? path with
  | some place => folder.isDirectory place
  | none => false

/-- The most bytes that the name of a file can have. -/
def maxNameBytes : Nat := 255

/-- The most bytes that a path can have. -/
def maxPathBytes : Nat := 4095

/-- Whether the way along some parts comes to a name that is too long. A part below something that is
no directory is never looked at. -/
def meetsLongName (folder : Folder) : (place parts : List String) → Bool
  | _, [] => false
  | place, part :: rest =>
    folder.isDirectory place && (maxNameBytes < byteSize part ||
      folder.meetsLongName (if part = ".." then place.dropLast else place ++ [part]) rest)

/-- Whether a path is too long to be looked for. -/
def isTooLong (folder : Folder) (path : Path) : Bool :=
  maxPathBytes < byteSize path.text || folder.meetsLongName [] (folder.absoluteParts path)

/-- The file that a path leads to, or why there is none. -/
def read (folder : Folder) (path : Path) : Except FileFault File :=
  match folder.fileAt? path with
  | some file => .ok file
  | none => .error (if folder.isDirectoryAt path then .isDirectory
      else if folder.isTooLong path then .nameTooLong else .notFound)

/-- The text of the file that a path leads to. -/
def readText (folder : Folder) (path : Path) : Except FileFault (List Char) :=
  match folder.read path with
  | .ok file =>
    match file.text with
    | .ok text => .ok text
    | .error fault => .error (.undecodable fault)
  | .error fault => .error fault

/-- What is wrong with some parts of a path as names of files. -/
def nameFault? (parts : List String) : Option FileFault :=
  if parts.any hasUnencodable then some .unencodablePath
  else if parts.any hasNul then some .nulInPath
  else none

/-- Makes the directories on a way from a place on, and gives the place at its end. A file that stands
in the way is a fault, after which the directories made so far remain: it exists already if it is the
last on the way or `made` says that a directory was made before it, and is no directory otherwise. -/
def makeWay : (made : Bool) → (parts place : List String) → Folder →
    Except FileFault (List String) × Folder
  | _, [], place, folder => (.ok place, folder)
  | made, part :: rest, place, folder =>
    if part = ".." then makeWay made rest place.dropLast folder
    else
      let next := place ++ [part]
      if maxNameBytes < byteSize part then (.error .nameTooLong, folder)
      else if (folder.file? next).isSome then
        (.error (if rest.isEmpty || made then .alreadyExists else .notDirectory), folder)
      else if folder.isDirectory next then makeWay made rest next folder
      else makeWay true rest next { folder with directories := folder.directories ++ [next] }

/-- Making directories leaves the files alone. -/
theorem makeWay_files (made : Bool) (parts place : List String) (folder : Folder) :
    (makeWay made parts place folder).2.files = folder.files := by
  induction parts generalizing made place folder with
  | nil => rfl
  | cons part rest ih =>
    unfold makeWay
    split
    · exact ih _ _ _
    · simp only
      split
      · rfl
      · split
        · rfl
        · split
          · exact ih _ _ _
          · exact ih _ _ _

/-- Sets the file at a place; an old one keeps its place in the list. -/
def putFile (files : List (List String × File)) (place : List String) (file : File) :
    List (List String × File) :=
  match files with
  | [] => [(place, file)]
  | (other, old) :: rest =>
    if other = place then (place, file) :: rest else (other, old) :: putFile rest place file

theorem lookup_putFile (files : List (List String × File)) (place other : List String)
    (file : File) :
    (putFile files place file).lookup other =
      if other = place then some file else files.lookup other := by
  induction files with
  | nil =>
    by_cases h : other = place
    · simp [putFile, h]
    · simp [putFile, List.lookup_cons, beq_eq_false_iff_ne.mpr h, h]
  | cons entry rest ih =>
    obtain ⟨key, old⟩ := entry
    unfold putFile
    by_cases hk : key = place
    · subst hk
      by_cases ho : other = key
      · simp [ho]
      · simp [List.lookup_cons, beq_eq_false_iff_ne.mpr ho, ho]
    · by_cases ho : other = key
      · subst ho
        simp [hk]
      · simp [List.lookup_cons, hk, beq_eq_false_iff_ne.mpr ho, ih]

/-- Writes a file in a directory that has been made. -/
def writeIn (folder : Folder) (directory : List String) (name text : String) :
    Except FileFault Unit × Folder :=
  let place := if name = ".." then directory.dropLast else directory ++ [name]
  match nameFault? [name] with
  | some fault => (.error fault, folder)
  | none =>
    if name = "" || folder.isDirectory place then (.error .isDirectory, folder)
    else if maxNameBytes < byteSize name then (.error .nameTooLong, folder)
    else (.ok (), { folder with files := putFile folder.files place (.ofText text) })

/-- Writes a file, and makes the directories above it. They remain if the file cannot be written. -/
def write (folder : Folder) (path : Path) (text : String) : Except FileFault Unit × Folder :=
  match nameFault? path.parent.parts with
  | some fault => (.error fault, folder)
  | none =>
    match makeWay false (folder.absoluteParts path.parent) [] folder with
    | (.error fault, made) => (.error fault, made)
    | (.ok directory, made) => made.writeIn directory path.name text

theorem writeIn_files_of_error (folder : Folder) (directory : List String) (name text : String)
    (fault : FileFault) (h : (folder.writeIn directory name text).1 = .error fault) :
    (folder.writeIn directory name text).2.files = folder.files := by
  unfold writeIn at h ⊢
  generalize nameFault? [name] = named at h ⊢
  cases named with
  | some other => rfl
  | none =>
    dsimp only at h ⊢
    generalize (if name = ".." then directory.dropLast else directory ++ [name]) = place at h ⊢
    split at h
    · next blocked => rw [if_pos blocked]
    · next free =>
      rw [if_neg free]
      split at h
      · next long => rw [if_pos long]
      · cases h

/-- A file that cannot be written changes no other. -/
theorem write_files_of_error (folder : Folder) (path : Path) (text : String) (fault : FileFault)
    (h : (folder.write path text).1 = .error fault) :
    (folder.write path text).2.files = folder.files := by
  have way := makeWay_files false (folder.absoluteParts path.parent) [] folder
  unfold write at h ⊢
  generalize nameFault? path.parent.parts = named at h ⊢
  cases named with
  | some other => rfl
  | none =>
    generalize makeWay false (folder.absoluteParts path.parent) [] folder = walked at h way ⊢
    obtain ⟨result, made⟩ := walked
    cases result with
    | error other => exact way
    | ok directory =>
      exact (writeIn_files_of_error made directory path.name text fault h).trans way

end Folder

end LeastGrant
