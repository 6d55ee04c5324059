import LeastGrant.Proofs.Directories

/-! Files that have been written. A file that is written at a path is found there afterwards, along the
directories that were made for it, and a text in ASCII is read as it was written. -/
namespace LeastGrant

open Text

namespace Folder

/-- All directories of a folder are directories of another one. -/
def KeepsDirectories (before after : Folder) : Prop :=
  ∀ place, before.isDirectory place = true → after.isDirectory place = true

theorem keepsDirectories_of_subset {before after : Folder}
    (directories : before.directories ⊆ after.directories)
    (files : before.files.map Prod.fst ⊆ after.files.map Prod.fst) : before.KeepsDirectories after := by
  intro place h
  rw [isDirectory_iff] at h ⊢
  rcases h with root | ⟨directory, known, below⟩ | ⟨entry, known, below, differ⟩
  · exact .inl root
  · exact .inr (.inl ⟨directory, directories known, below⟩)
  · obtain ⟨other, there, same⟩ := List.mem_map.mp (files (List.mem_map_of_mem known))
    exact .inr (.inr ⟨other, there, same ▸ below, same ▸ differ⟩)

theorem keepsDirectories_made (folder : Folder) (place : List String) :
    folder.KeepsDirectories { folder with directories := folder.directories ++ [place] } :=
  keepsDirectories_of_subset (List.subset_append_left _ _) (List.Subset.refl _)

theorem isDirectory_made (folder : Folder) (place : List String) :
    ({ folder with directories := folder.directories ++ [place] } : Folder).isDirectory place = true :=
  isDirectory_iff.mpr (.inr (.inl ⟨place, List.mem_append_right _ List.mem_cons_self,
    List.prefix_rfl⟩))

theorem follow_step {folder : Folder} {place : List String} (part : String) (rest : List String)
    (here : folder.isDirectory place = true) :
    folder.follow place (part :: rest) =
      folder.follow (if part = ".." then place.dropLast else place ++ [part]) rest := by
  rw [follow, if_pos here]

theorem follow_of_keeps {before after : Folder} (keeps : before.KeepsDirectories after)
    {place parts goal : List String} (leads : before.follow place parts = some goal) :
    after.follow place parts = some goal := by
  induction parts generalizing place with
  | nil => exact leads
  | cons part rest ih =>
    rw [follow] at leads
    split at leads
    · rename_i here
      rw [follow_step part rest (keeps place here)]
      exact ih leads
    · cases leads

/-- The way that has been made leads to its end. -/
theorem follow_of_makeWay {made : Bool} {parts place goal : List String} {folder after : Folder}
    (makes : makeWay made parts place folder = (.ok goal, after))
    (here : folder.isDirectory place = true) :
    folder.KeepsDirectories after ∧ after.current = folder.current ∧
      after.isDirectory goal = true ∧ after.follow place parts = some goal := by
  induction parts generalizing made place folder with
  | nil =>
    cases makes
    exact ⟨fun _ => id, rfl, here, rfl⟩
  | cons part rest ih =>
    unfold makeWay at makes
    split at makes
    · rename_i up
      have above := isDirectory_of_prefix (List.dropLast_prefix place) here
      obtain ⟨keeps, same, ends, leads⟩ := ih makes above
      refine ⟨keeps, same, ends, ?_⟩
      rw [follow_step part rest (keeps place here), if_pos up, leads]
    · rename_i down
      dsimp only at makes
      split at makes
      · cases makes
      split at makes
      · cases makes
      split at makes
      · rename_i known
        obtain ⟨keeps, same, ends, leads⟩ := ih makes known
        refine ⟨keeps, same, ends, ?_⟩
        rw [follow_step part rest (keeps place here), if_neg down, leads]
      · obtain ⟨keeps, same, ends, leads⟩ := ih makes (isDirectory_made folder (place ++ [part]))
        have grows : folder.KeepsDirectories after := fun directory known =>
          keeps directory (keepsDirectories_made folder (place ++ [part]) directory known)
        refine ⟨grows, same, ends, ?_⟩
        rw [follow_step part rest (grows place here), if_neg down, leads]

theorem places_putFile (files : List (List String × File)) (place : List String) (file : File) :
    files.map Prod.fst ⊆ (putFile files place file).map Prod.fst := by
  induction files with
  | nil => exact List.nil_subset _
  | cons entry rest ih =>
    unfold putFile
    split
    · rename_i same
      rw [List.map_cons, List.map_cons, same]
      exact List.Subset.refl _
    · rw [List.map_cons, List.map_cons]
      exact List.cons_subset_cons _ ih

theorem eq_of_writeIn {folder after : Folder} {directory : List String} {name text : String}
    (inside : folder.isDirectory directory = true)
    (writes : folder.writeIn directory name text = (.ok (), after)) :
    name ≠ "" ∧ name ≠ ".." ∧
      after = { folder with files := putFile folder.files (directory ++ [name]) (.ofText text) } := by
  unfold writeIn at writes
  generalize nameFault? [name] = named at writes
  cases named with
  | some fault => cases writes
  | none =>
    dsimp only at writes
    by_cases up : name = ".."
    · have above := isDirectory_of_prefix (List.dropLast_prefix directory) inside
      rw [if_pos up, above, Bool.or_true, if_pos rfl] at writes
      cases writes
    · rw [if_neg up] at writes
      split at writes
      · cases writes
      · rename_i free
        split at writes
        · cases writes
        · obtain ⟨-, rfl⟩ := Prod.mk.inj writes
          simp only [Bool.or_eq_true, decide_eq_true_eq, not_or] at free
          exact ⟨free.1, up, rfl⟩

theorem absoluteParts_parent (folder : Folder) {path : Path} (named : path.name ≠ "") :
    folder.absoluteParts path = folder.absoluteParts path.parent ++ [path.name] := by
  have parts : path.parts = path.parts.dropLast ++ [path.name] := by
    cases last : path.parts.getLast? with
    | none => simp [Path.name, last] at named
    | some part => simp [Path.name, last, List.dropLast_append_getLast? part last]
  unfold absoluteParts
  split
  · rename_i rooted
    rw [if_pos (show path.parent.isAbsolute = true from rooted)]
    exact parts
  · rename_i relative
    rw [if_neg (show ¬path.parent.isAbsolute = true from relative), List.append_assoc]
    exact congrArg _ parts

/-- Writing sets the file at the place that the path then leads to, and no other. -/
theorem exists_of_write {folder after : Folder} {path : Path} {text : String}
    (writes : folder.write path text = (.ok (), after)) :
    ∃ place, after.locate? path = some place ∧ place.getLast? = some path.name ∧
      after.files = putFile folder.files place (.ofText text) ∧ after.current = folder.current := by
  unfold write at writes
  generalize nameFault? path.parent.parts = named at writes
  cases named with
  | some fault => cases writes
  | none =>
    dsimp only at writes
    split at writes
    · cases writes
    · rename_i directory made makes
      obtain ⟨-, same, ends, leads⟩ := follow_of_makeWay makes rfl
      obtain ⟨given, down, wrote⟩ := eq_of_writeIn ends writes
      have unchanged : made.files = folder.files := by
        have way := makeWay_files false (folder.absoluteParts path.parent) [] folder
        rwa [makes] at way
      have keeps : made.KeepsDirectories after := by
        rw [wrote]
        exact keepsDirectories_of_subset (List.Subset.refl _) (places_putFile _ _ _)
      have current : after.current = folder.current := by
        rw [wrote]
        exact same
      have parts : after.absoluteParts path = folder.absoluteParts path.parent ++ [path.name] := by
        rw [← absoluteParts_parent folder given, absoluteParts, absoluteParts, current]
      refine ⟨directory ++ [path.name], ?_, List.getLast?_concat, ?_, current⟩
      · rw [locate?, parts, follow_append, follow_of_keeps keeps leads, Option.bind_some,
          follow_step _ _ (keeps directory ends), if_neg down, follow]
      · rw [wrote, ← unchanged]

/-- A file that has been written is found at its path. -/
theorem fileAt?_of_write {folder after : Folder} {path : Path} {text : String}
    (writes : folder.write path text = (.ok (), after)) :
    after.fileAt? path = some (.ofText text) := by
  obtain ⟨place, located, -, files, -⟩ := exists_of_write writes
  rw [fileAt?, located, Option.bind_some, file?, files, lookup_putFile, if_pos rfl]

theorem file?_of_write {folder after : Folder} {path : Path} {text : String}
    (writes : folder.write path text = (.ok (), after)) {place : List String}
    (other : place.getLast? ≠ some path.name) : after.file? place = folder.file? place := by
  obtain ⟨written, -, named, files, -⟩ := exists_of_write writes
  have differ : place ≠ written := fun same => other (same ▸ named)
  rw [file?, files, lookup_putFile, if_neg differ, file?]

/-- A file is found by its place, since all above it are directories. -/
theorem fileAt?_absolute (folder : Folder) {names : List String} {name : String}
    (plain : ∀ part ∈ names, part ≠ "..") (named : name ≠ "..") :
    folder.fileAt? (.absolute (names ++ [name])) = folder.file? (names ++ [name]) := by
  have all : ∀ part ∈ names ++ [name], part ≠ ".." := by
    simpa [or_imp, forall_and] using ⟨plain, named⟩
  have parts : folder.absoluteParts (.absolute (names ++ [name])) = names ++ [name] := rfl
  rw [fileAt?, locate?, parts]
  cases leads : folder.follow [] (names ++ [name]) with
  | some place =>
    rw [eq_of_follow all leads]
    rfl
  | none =>
    cases found : folder.file? (names ++ [name]) with
    | none => rfl
    | some file =>
      have above : folder.isDirectory ([] ++ names) = true := by
        refine isDirectory_iff.mpr (.inr (.inr ⟨(names ++ [name], file), ?_, ?_, ?_⟩))
        · obtain ⟨before, behind, same, -⟩ := List.lookup_eq_some_iff.mp found
          simp [same]
        · exact List.prefix_append names [name]
        · simp
      rw [follow_append, follow_of_isDirectory plain above, Option.bind_some, follow_step _ _ above,
        follow] at leads
      cases leads

end Folder

/-- Whether a file keeps a character as it is: all of ASCII but the carriage return. -/
def isKept (c : Char) : Bool := c.toNat < 0x80 && c != '\r'

theorem isKept_iff {c : Char} : isKept c = true ↔ c.toNat < 0x80 ∧ c ≠ '\r' := by
  simp [isKept]

theorem unifyNewlines_of_kept {text : List Char} (kept : ∀ c ∈ text, isKept c = true) :
    unifyNewlines text = text := by
  induction text with
  | nil => rfl
  | cons c rest ih =>
    obtain ⟨first, others⟩ := List.forall_mem_cons.mp kept
    have other := (isKept_iff.mp first).2
    rw [unifyNewlines]
    · rw [if_neg other, ih others]
    · intro tail same
      exact absurd same other

theorem toList_loop (bytes : ByteArray) (i : Nat) (gathered : List UInt8) :
    ByteArray.toList.loop bytes i gathered = gathered.reverse ++ bytes.data.toList.drop i := by
  induction i, gathered using ByteArray.toList.loop.induct bytes with
  | case1 i gathered inside ih =>
    have bound : i < bytes.data.toList.length := inside
    have next : bytes.get! i = bytes.data.toList[i] := by
      rw [ByteArray.get!, Array.getElem_toList]
      exact getElem!_pos bytes.data i inside
    rw [ByteArray.toList.loop, if_pos inside, ih, next, List.reverse_cons, List.append_assoc,
      List.singleton_append, List.getElem_cons_drop]
  | case2 i gathered outside =>
    have bound : bytes.data.toList.length ≤ i := Nat.not_lt.mp outside
    rw [ByteArray.toList.loop, if_neg outside, List.drop_eq_nil_of_le bound, List.append_nil]

theorem toList_toUTF8 (text : List Char) :
    (String.ofList text).toUTF8.toList = text.flatMap String.utf8EncodeChar := by
  rw [ByteArray.toList, toList_loop, List.reverse_nil, List.nil_append, List.drop_zero,
    String.toUTF8, String.toByteArray_ofList, List.utf8Encode, List.toList_data_toByteArray]

theorem decodePieces_kept {text : List Char} (kept : ∀ c ∈ text, isKept c = true) (position : Nat) :
    decodePieces position none (text.flatMap String.utf8EncodeChar) = text.map .char := by
  induction text generalizing position with
  | nil => rfl
  | cons c rest ih =>
    obtain ⟨first, others⟩ := List.forall_mem_cons.mp kept
    have ascii := (isKept_iff.mp first).1
    have byte : String.utf8EncodeChar c = [UInt8.ofNat c.toNat] := if_pos (Nat.le_of_lt_succ ascii)
    have code : (UInt8.ofNat c.toNat).toNat = c.toNat :=
      UInt8.toNat_ofNat_of_lt (Nat.lt_trans ascii (by decide))
    rw [List.flatMap_cons, byte, List.singleton_append, decodePieces,
      decodeByte_ascii position _ (by rw [code]; exact ascii), code, Char.ofNat_toNat]
    dsimp only
    rw [ih others, List.map_cons, List.singleton_append]

theorem collectPieces_chars (text : List Char) : collectPieces (text.map .char) = .ok text := by
  induction text with
  | nil => rfl
  | cons c rest ih => rw [List.map_cons, collectPieces, ih, Except.map]

/-- A text of characters that files keep is read as it was written. -/
theorem readText_of_write {folder after : Folder} {path : Path} {text : List Char}
    (kept : ∀ c ∈ text, isKept c = true)
    (writes : folder.write path (String.ofList text) = (.ok (), after)) :
    after.readText path = .ok text := by
  have read : after.read path = .ok (.ofText (String.ofList text)) := by
    rw [Folder.read, Folder.fileAt?_of_write writes]
  have holds : File.text (.ofText (String.ofList text)) = .ok text := by
    rw [File.text, File.ofText, toList_toUTF8, decode, decodePieces_kept kept, collectPieces_chars,
      Except.map, unifyNewlines_of_kept kept]
  rw [Folder.readText, read]
  dsimp only
  rw [holds]

end LeastGrant
