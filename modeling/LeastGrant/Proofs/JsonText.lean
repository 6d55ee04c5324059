import LeastGrant.Json.Printer
import LeastGrant.Json.Reader
import LeastGrant.Proofs.KeyedList
import LeastGrant.Proofs.WrittenFiles
import Mathlib.Data.List.Chain

/-! Values that are read from the ASCII text of a value. A text is read back as it was, unless two halves
of a surrogate pair stand side by side in it: these come back as one character. A value without numbers
is read back if its texts are. -/
namespace LeastGrant.Json

open Text

/-- A value is read back as it was from the text in which it is saved. -/
def ReadsBack (value : Json) : Prop := read (render .file value).toList = .ok value

/-- What is read where a text has been printed. -/
def asRead (text : String) : String :=
  String.ofList (spell (joinPairs ((codes text.toList).flatMap units)))

/-- No two halves of a surrogate pair stand side by side. -/
def Unpaired (row : List Nat) : Prop := row.IsChain fun high low => ¬IsPair high low

/-! ## Pairs -/

theorem units_of_small {code : Nat} (small : code < 0x10000) : units code = [code] := if_pos small

theorem joinPairs_cons {code : Nat} {row : List Nat} (apart : ∀ next ∈ row.head?, ¬IsPair code next) :
    joinPairs (code :: row) = code :: joinPairs row := by
  cases row with
  | nil => rfl
  | cons next rest => rw [joinPairs, if_neg (apart next rfl)]

/-- The first unit of a code point that is no half is no second half either. -/
theorem isPair_units {code next unit : Nat} {row : List Nat} (bound : next < 0x110000)
    (first : unit ∈ (units next ++ row).head?) (pair : IsPair code unit) : IsPair code next := by
  unfold units at first
  split at first
  · cases first
    exact pair
  · cases first
    omega

theorem joinPairs_units {row : List Nat} (bound : ∀ code ∈ row, code < 0x110000)
    (apart : Unpaired row) : joinPairs (row.flatMap units) = row := by
  induction row with
  | nil => rfl
  | cons code row ih =>
    obtain ⟨first, others⟩ := List.forall_mem_cons.mp bound
    obtain ⟨next, later⟩ := List.isChain_cons.mp apart
    have rest := ih others later
    rw [List.flatMap_cons]
    by_cases small : code < 0x10000
    · rw [units_of_small small, List.singleton_append, joinPairs_cons, rest]
      intro unit starts pair
      cases row with
      | nil => cases starts
      | cons follower row =>
        rw [List.flatMap_cons] at starts
        exact next follower rfl (isPair_units (others _ List.mem_cons_self) starts pair)
    · have whole : 0x10000 + (0xD800 + (code - 0x10000) / 0x400 - 0xD800) * 0x400 +
          (0xDC00 + (code - 0x10000) % 0x400 - 0xDC00) = code := by omega
      rw [units, if_neg small]
      simp only [List.cons_append, List.nil_append]
      rw [joinPairs, if_pos (by omega), whole, rest]

/-- The first code after joining is a joined one, which is no half, or the first code before. -/
theorem head_joinPairs {code first : Nat} {row : List Nat} (starts : first ∈ (joinPairs row).head?)
    (pair : IsPair code first) : ∃ next ∈ row.head?, IsPair code next := by
  fun_cases joinPairs row with
  | case1 => cases starts
  | case2 next => exact ⟨next, rfl, by cases starts; exact pair⟩
  | case3 high low rest joined =>
    rw [joinPairs, if_pos joined, List.head?_cons, Option.mem_some_iff] at starts
    omega
  | case4 high low rest apart =>
    rw [joinPairs, if_neg apart, List.head?_cons, Option.mem_some_iff] at starts
    exact ⟨high, rfl, starts ▸ pair⟩

theorem unpaired_joinPairs (row : List Nat) : Unpaired (joinPairs row) := by
  fun_induction joinPairs row with
  | case1 => exact .nil
  | case2 code => exact .singleton code
  | case3 high low rest joined ih =>
    refine List.isChain_cons.mpr ⟨fun next _ pair => ?_, ih⟩
    omega
  | case4 high low rest apart ih =>
    refine List.isChain_cons.mpr ⟨fun next starts pair => ?_, ih⟩
    obtain ⟨first, same, pairs⟩ := head_joinPairs starts pair
    cases same
    exact apart pairs

theorem joinPairs_lt {row : List Nat} (bound : ∀ code ∈ row, code < 0x110000) :
    ∀ code ∈ joinPairs row, code < 0x110000 := by
  fun_induction joinPairs row with
  | case1 => exact bound
  | case2 code => exact bound
  | case3 high low rest joined ih =>
    rw [List.forall_mem_cons] at bound ⊢
    exact ⟨by omega, ih (List.forall_mem_cons.mp bound.2).2⟩
  | case4 high low rest apart ih =>
    rw [List.forall_mem_cons] at bound ⊢
    exact ⟨bound.1, ih bound.2⟩

/-! ## Strings -/

theorem hexValue?_digitChar : ∀ digit < 16, hexValue? (Nat.digitChar digit) = some digit := by
  decide

theorem exists_unit?_hexDigits {n : Nat} (small : n < 0x10000) :
    ∃ a b c d, hexDigits 4 n = [a, b, c, d] ∧ unit? a b c d = some n := by
  refine ⟨_, _, _, _, rfl, ?_⟩
  simp only [unit?, hexValue?_digitChar _ (Nat.mod_lt _ (by omega : 0 < 16)), bind, Option.bind, pure]
  congr 1
  omega

theorem readCodes_unitEscape (opening : Nat) {n : Nat} (small : n < 0x10000) {rest : List Char}
    (more : rest ≠ []) :
    readCodes opening (unitEscape n ++ rest) = prepend n (readCodes opening rest) := by
  obtain ⟨a, b, c, d, digits, value⟩ := exists_unit?_hexDigits small
  have going : rest.isEmpty = false := by
    cases rest with
    | nil => exact absurd rfl more
    | cons _ _ => rfl
  simp [unitEscape, digits, readCodes, value, going]

theorem readCodes_plain (opening : Nat) {c : Char} (rest : List Char) (quote : c ≠ '"')
    (slash : c ≠ '\\') (visible : 0x20 ≤ c.toNat) :
    readCodes opening (c :: rest) = prepend c.toNat (readCodes opening rest) := by
  rw [readCodes.eq_def]
  split <;> simp_all

theorem readCodes_escape (opening : Nat) {escape c : Char} (rest : List Char) (code : escape ≠ 'u')
    (means : simpleEscape? escape = some c) :
    readCodes opening ('\\' :: escape :: rest) = prepend c.toNat (readCodes opening rest) := by
  simp [readCodes, code, means]

theorem shortEscapes_spec : ∀ entry ∈ shortEscapes, entry.2 ≠ 'u' ∧ entry.1 < 0x80 ∧
    (simpleEscape? entry.2).map Char.toNat = some entry.1 := by
  decide

/-- A code point is printed as a short escape, as its own character, or as escapes of its units. -/
theorem printCode_cases (code : Nat) :
    (∃ letter c, printCode true code = ['\\', letter] ∧ letter ≠ 'u' ∧
      simpleEscape? letter = some c ∧ c.toNat = code ∧ code < 0x80) ∨
    (∃ c, printCode true code = [c] ∧ c ≠ '"' ∧ c ≠ '\\' ∧ c.toNat = code ∧ 0x20 ≤ code ∧
      code < 0x80) ∨
    printCode true code = (units code).flatMap unitEscape := by
  unfold printCode
  cases short : shortEscapes.lookup code with
  | some letter =>
    obtain ⟨before, after, whole, -⟩ := List.lookup_eq_some_iff.mp short
    have listed : (code, letter) ∈ shortEscapes := by
      rw [whole]
      exact List.mem_append_right _ List.mem_cons_self
    obtain ⟨other, small, means⟩ := shortEscapes_spec _ listed
    obtain ⟨c, reads, known⟩ := Option.map_eq_some_iff.mp means
    exact .inl ⟨letter, c, rfl, other, reads, known, small⟩
  | none =>
    by_cases visible : 0x20 ≤ code ∧ code < 0x7F
    · have known : (Char.ofNat code).toNat = code := toNat_ofNat (.inl (by omega))
      have differs (c : Char) (escaped : (shortEscapes.lookup c.toNat).isSome = true) :
          Char.ofNat code ≠ c := by
        rintro rfl
        rw [known, short] at escaped
        cases escaped
      have plain : Char.ofNat code ≠ mark := by
        intro same
        rw [same] at known
        have large : 0x7F < mark.toNat := by decide
        omega
      refine .inr (.inl ⟨Char.ofNat code, ?_, differs '"' rfl, differs '\\' rfl, known, by omega,
        by omega⟩)
      dsimp only
      rw [if_pos (by simpa using visible)]
      nth_rewrite 1 [← known]
      exact spelling_toNat plain
    · exact .inr (.inr (if_neg (by simpa using visible)))

theorem lt_of_mem_units {code unit : Nat} (bound : code < 0x110000) (member : unit ∈ units code) :
    unit < 0x10000 := by
  unfold units at member
  split at member
  · obtain rfl := List.mem_singleton.mp member
    omega
  · simp only [List.mem_cons, List.not_mem_nil, or_false] at member
    omega

theorem readCodes_unitEscapes (opening : Nat) {codes : List Nat}
    (small : ∀ code ∈ codes, code < 0x10000) {rest : List Char} (more : rest ≠ []) :
    readCodes opening (codes.flatMap unitEscape ++ rest) =
      codes.foldr prepend (readCodes opening rest) := by
  induction codes with
  | nil => rfl
  | cons code codes ih =>
    obtain ⟨first, others⟩ := List.forall_mem_cons.mp small
    rw [List.flatMap_cons, List.append_assoc,
      readCodes_unitEscape opening first (List.append_ne_nil_of_right_ne_nil _ more), ih others,
      List.foldr_cons]

theorem readCodes_printCode (opening : Nat) {code : Nat} (bound : code < 0x110000) {rest : List Char}
    (more : rest ≠ []) :
    readCodes opening (printCode true code ++ rest) =
      (units code).foldr prepend (readCodes opening rest) := by
  rcases printCode_cases code with ⟨letter, c, printed, other, means, known, small⟩ |
    ⟨c, printed, quote, slash, known, visible, small⟩ | printed
  · rw [printed, units_of_small (by omega), ← known]
    exact readCodes_escape opening rest other means
  · rw [printed, units_of_small (by omega), ← known]
    exact readCodes_plain opening rest quote slash (known ▸ visible)
  · rw [printed]
    exact readCodes_unitEscapes opening (fun _ => lt_of_mem_units bound) more

theorem foldr_prepend (codes found : List Nat) (rest : List Char) :
    codes.foldr prepend (.ok (found, rest)) = .ok (codes ++ found, rest) := by
  induction codes with
  | nil => rfl
  | cons code codes ih => rw [List.foldr_cons, ih, prepend, List.cons_append]

theorem readCodes_print (opening : Nat) {row : List Nat} (bound : ∀ code ∈ row, code < 0x110000)
    (rest : List Char) :
    readCodes opening (row.flatMap (printCode true) ++ '"' :: rest) =
      .ok (row.flatMap units, rest) := by
  induction row with
  | nil => simp [readCodes]
  | cons code row ih =>
    obtain ⟨first, others⟩ := List.forall_mem_cons.mp bound
    rw [List.flatMap_cons, List.append_assoc, readCodes_printCode opening first (by simp), ih others,
      foldr_prepend, List.flatMap_cons]

theorem readString_print (opening : Nat) (text : String) (rest : List Char) :
    readString opening ((codes text.toList).flatMap (printCode true) ++ '"' :: rest) =
      .ok ((asRead text).toList, rest) := by
  rw [readString, readCodes_print opening (fun _ => lt_of_mem_codes), asRead, String.toList_ofList]

/-- A text stays as it is by printing and reading exactly if it spells code points among which no two
halves of a pair stand side by side. -/
theorem asRead_eq_self {text : String} :
    asRead text = text ↔
      ∃ row, text.toList = spell row ∧ (∀ code ∈ row, code < 0x110000) ∧ Unpaired row := by
  constructor
  · intro same
    refine ⟨joinPairs ((codes text.toList).flatMap units), ?_, joinPairs_lt ?_, unpaired_joinPairs _⟩
    · rw [← String.toList_inj, asRead, String.toList_ofList] at same
      exact same.symm
    · intro unit member
      obtain ⟨code, known, inside⟩ := List.mem_flatMap.mp member
      have small := lt_of_mem_units (lt_of_mem_codes known) inside
      omega
  · rintro ⟨row, spelled, bound, apart⟩
    rw [← String.toList_inj, asRead, String.toList_ofList, spelled, codes_spell bound,
      joinPairs_units bound apart]

/-! ## Values -/

mutual
/-- No number stands in a value, the names in an object are distinct, and texts and names are read
back. -/
def Faithful : Json → Prop
  | int _ | float _ => False
  | str s => asRead s = s
  | arr items => FaithfulItems items
  | obj fields => (fields.map Prod.fst).Nodup ∧ FaithfulFields fields
  | _ => True

def FaithfulItems : List Json → Prop
  | [] => True
  | item :: rest => Faithful item ∧ FaithfulItems rest

def FaithfulFields : List (String × Json) → Prop
  | [] => True
  | (name, value) :: rest => asRead name = name ∧ Faithful value ∧ FaithfulFields rest
end

theorem skipSpace_append {blanks : List Char} (blank : ∀ c ∈ blanks, isSpace c = true)
    (text : List Char) : skipSpace (blanks ++ text) = skipSpace text :=
  List.dropWhile_append_of_pos blank

theorem skipSpace_cons {c : Char} (visible : isSpace c = false) (text : List Char) :
    skipSpace (c :: text) = c :: text := by
  simp [skipSpace, visible]

theorem skipSpace_gap (style : PrintStyle) (level : Nat) (text : List Char) :
    skipSpace (style.gap level ++ text) = skipSpace text := by
  apply skipSpace_append
  intro c member
  unfold PrintStyle.gap at member
  split at member
  · cases member
  · rcases List.mem_cons.mp member with rfl | member
    · rfl
    · rw [List.eq_of_mem_replicate member]
      rfl

theorem exists_comma (style : PrintStyle) (level : Nat) : ∃ blanks,
    style.comma level = ',' :: blanks ∧
      ∀ text, skipSpace (blanks ++ text) = skipSpace text := by
  unfold PrintStyle.comma
  split
  · exact ⟨[' '], rfl, skipSpace_append (by simp [isSpace])⟩
  · exact ⟨style.gap level, rfl, skipSpace_gap style level⟩

theorem exists_print (style : PrintStyle) (level : Nat) {value : Json} (faithful : value.Faithful) :
    ∃ c text, print style level value = c :: text ∧ isSpace c = false ∧ c ≠ ']' ∧ c ≠ '\uFEFF' := by
  cases value with
  | null => exact ⟨_, _, rfl, rfl, by decide, by decide⟩
  | bool b => cases b <;> exact ⟨_, _, rfl, rfl, by decide, by decide⟩
  | int n => cases faithful
  | float x => cases faithful
  | str s => exact ⟨_, _, rfl, rfl, by decide, by decide⟩
  | arr items => exact ⟨_, _, rfl, rfl, by decide, by decide⟩
  | obj fields => exact ⟨_, _, rfl, rfl, by decide, by decide⟩

theorem skipSpace_print (style : PrintStyle) (level : Nat) {value : Json} (faithful : value.Faithful)
    (rest : List Char) :
    skipSpace (print style level value ++ rest) = print style level value ++ rest := by
  obtain ⟨c, text, printed, visible, -⟩ := exists_print style level faithful
  rw [printed, List.cons_append, skipSpace_cons visible]

theorem readScalar_string {style : PrintStyle} (ascii : style.ascii = true) (s : String)
    (rest : List Char) :
    readScalar (printString style.ascii s ++ rest) = .ok (.str (asRead s), rest) := by
  rw [ascii, printString]
  simp only [List.cons_append, List.append_assoc, List.nil_append, readScalar, readString_print,
    String.ofList_toList]

theorem readItems_last {fuel : Nat} {text after rest : List Char} {item : Json}
    (read : readValue fuel text = .ok (item, after)) (ends : skipSpace after = ']' :: rest) :
    readItems (fuel + 1) text = .ok ([item], rest) := by
  simp only [readItems, read, ends]

theorem readItems_more {fuel : Nat} {text after next rest : List Char} {item : Json}
    {items : List Json} (read : readValue fuel text = .ok (item, after))
    (goes : skipSpace after = ',' :: next)
    (others : readItems fuel (skipSpace next) = .ok (items, rest)) :
    readItems (fuel + 1) text = .ok (item :: items, rest) := by
  simp only [readItems, read, goes, others]

theorem readValue_arr {fuel : Nat} {text rest : List Char} {items : List Json}
    (some : ∀ after, skipSpace text ≠ ']' :: after)
    (read : readItems fuel (skipSpace text) = .ok (items, rest)) :
    readValue (fuel + 1) ('[' :: text) = .ok (.arr items, rest) := by
  simp only [readValue, read]

theorem readFields_last {fuel : Nat} {fields : Fields} {body name text after rest : List Char}
    {value : Json}
    (named : readString ('"' :: body).length body = .ok (name, ':' :: text))
    (read : readValue fuel (skipSpace text) = .ok (value, after))
    (ends : skipSpace after = '\x7d' :: rest) :
    readFields (fuel + 1) fields ('"' :: body) = .ok (fields.put (String.ofList name) value, rest) := by
  have colon : skipSpace (':' :: text) = ':' :: text := skipSpace_cons rfl text
  simp only [readFields, named, colon, read, ends]

theorem readFields_more {fuel : Nat} {fields all : Fields} {body name text after next rest : List Char}
    {value : Json}
    (named : readString ('"' :: body).length body = .ok (name, ':' :: text))
    (read : readValue fuel (skipSpace text) = .ok (value, after))
    (goes : skipSpace after = ',' :: next)
    (others : readFields fuel (fields.put (String.ofList name) value) (skipSpace next) =
      .ok (all, rest)) :
    readFields (fuel + 1) fields ('"' :: body) = .ok (all, rest) := by
  have colon : skipSpace (':' :: text) = ':' :: text := skipSpace_cons rfl text
  simp only [readFields, named, colon, read, goes, others]

theorem readValue_obj {fuel : Nat} {text rest : List Char} {fields : Fields}
    (some : ∀ after, skipSpace text ≠ '\x7d' :: after)
    (read : readFields fuel [] (skipSpace text) = .ok (fields, rest)) :
    readValue (fuel + 1) ('\x7b' :: text) = .ok (.obj fields, rest) := by
  simp only [readValue, read]

/-- The elements of an array from the first one on, with the bracket after the last. -/
def itemsText (style : PrintStyle) (level : Nat) : List Json → List Char
  | [] => []
  | item :: more => print style (level + 1) item ++ printItems style level false more

/-- The fields of an object from the first one on, with the brace after the last. -/
def fieldsText (style : PrintStyle) (level : Nat) : List (String × Json) → List Char
  | [] => []
  | (name, value) :: more =>
    printString style.ascii name ++ ([':', ' '] ++
      (print style (level + 1) value ++ printFields style level false more))

theorem printItems_cons (style : PrintStyle) (level : Nat) (first : Bool) (item : Json)
    (more : List Json) :
    printItems style level first (item :: more) =
      (if first then style.gap (level + 1) else style.comma (level + 1)) ++
        itemsText style level (item :: more) :=
  List.append_assoc ..

theorem printFields_cons (style : PrintStyle) (level : Nat) (first : Bool) (field : String × Json)
    (more : List (String × Json)) :
    printFields style level first (field :: more) =
      (if first then style.gap (level + 1) else style.comma (level + 1)) ++
        fieldsText style level (field :: more) := by
  rw [printFields, fieldsText]
  simp only [List.append_assoc]

theorem skipSpace_itemsText (style : PrintStyle) (level : Nat) {item : Json} {more : List Json}
    (faithful : FaithfulItems (item :: more)) (rest : List Char) :
    skipSpace (itemsText style level (item :: more) ++ rest) =
      itemsText style level (item :: more) ++ rest := by
  rw [itemsText, List.append_assoc, skipSpace_print style _ faithful.1]

theorem skipSpace_fieldsText (style : PrintStyle) (level : Nat) (field : String × Json)
    (more : List (String × Json)) (rest : List Char) :
    skipSpace (fieldsText style level (field :: more) ++ rest) =
      fieldsText style level (field :: more) ++ rest :=
  skipSpace_cons rfl _

theorem length_print_pos (style : PrintStyle) (level : Nat) {value : Json} (faithful : value.Faithful) :
    0 < (print style level value).length := by
  obtain ⟨c, text, printed, -⟩ := exists_print style level faithful
  simp [printed]

theorem length_itemsText_pos (style : PrintStyle) (level : Nat) {item : Json} {more : List Json}
    (faithful : FaithfulItems (item :: more)) : 0 < (itemsText style level (item :: more)).length := by
  have first := length_print_pos style (level + 1) faithful.1
  rw [itemsText, List.length_append]
  omega

theorem fieldsText_eq {style : PrintStyle} (ascii : style.ascii = true) (level : Nat) (name : String)
    (value : Json) (more : List (String × Json)) (rest : List Char) :
    fieldsText style level ((name, value) :: more) ++ rest =
      '"' :: ((codes name.toList).flatMap (printCode true) ++ '"' :: ':' :: ' ' ::
        (print style (level + 1) value ++ (printFields style level false more ++ rest))) := by
  simp [fieldsText, printString, ascii]

theorem skipSpace_blank_print (style : PrintStyle) (level : Nat) {value : Json}
    (faithful : value.Faithful) (rest : List Char) :
    skipSpace (' ' :: (print style level value ++ rest)) = print style level value ++ rest :=
  skipSpace_print style level faithful rest

/-- A field whose name is read back is put where it was. -/
theorem put_asRead {name : String} (kept : asRead name = name) (fields : Fields) (value : Json) :
    fields.put (String.ofList (asRead name).toList) value = putByKey Prod.fst fields (name, value) := by
  rw [String.ofList_toList, kept, Fields.put_eq]

mutual
theorem readValue_print {style : PrintStyle} (ascii : style.ascii = true) :
    ∀ (value : Json) (level fuel : Nat) (rest : List Char), value.Faithful →
      (print style level value).length ≤ fuel + 1 →
      readValue (fuel + 1) (print style level value ++ rest) = .ok (value, rest)
  | null, _, _, _, _, _ => rfl
  | bool true, _, _, _, _, _ => rfl
  | bool false, _, _, _, _, _ => rfl
  | int _, _, _, _, faithful, _ => faithful.elim
  | float _, _, _, _, faithful, _ => faithful.elim
  | str s, _, _, rest, kept, _ => by
    have same : asRead s = s := kept
    have reads := readScalar_string ascii s rest
    rw [same] at reads
    exact reads
  | arr [], _, _, _, _, _ => rfl
  | arr (item :: more), level, fuel, rest, faithful, enough => by
    have skip : skipSpace (style.gap (level + 1) ++ itemsText style level (item :: more) ++ rest) =
        itemsText style level (item :: more) ++ rest := by
      rw [List.append_assoc, skipSpace_gap, skipSpace_itemsText style level faithful]
    have printed : print style level (arr (item :: more)) =
        '[' :: (style.gap (level + 1) ++ itemsText style level (item :: more)) :=
      congrArg _ (printItems_cons style level true item more)
    have positive := length_itemsText_pos style level faithful
    rw [printed, List.length_cons, List.length_append] at enough
    rw [printed, List.cons_append]
    cases fuel with
    | zero => omega
    | succ fuel =>
      refine readValue_arr ?_ ?_
      · obtain ⟨c, text, first, -, open_ended, -⟩ := exists_print style (level + 1) faithful.1
        rw [skip, itemsText, first]
        intro after same
        exact open_ended (List.cons.inj same).1
      · rw [skip]
        exact readItems_print ascii (item :: more) level fuel rest (List.cons_ne_nil _ _) faithful
          (by omega)
  | obj [], _, _, _, _, _ => rfl
  | obj (field :: more), level, fuel, rest, faithful, enough => by
    have skip : skipSpace (style.gap (level + 1) ++ fieldsText style level (field :: more) ++ rest) =
        fieldsText style level (field :: more) ++ rest := by
      rw [List.append_assoc, skipSpace_gap, skipSpace_fieldsText]
    have printed : print style level (obj (field :: more)) =
        '\x7b' :: (style.gap (level + 1) ++ fieldsText style level (field :: more)) :=
      congrArg _ (printFields_cons style level true field more)
    have positive : 0 < (fieldsText style level (field :: more)).length := Nat.succ_pos _
    rw [printed, List.length_cons, List.length_append] at enough
    rw [printed, List.cons_append]
    cases fuel with
    | zero => omega
    | succ fuel =>
      refine readValue_obj ?_ ?_
      · rw [skip]
        intro after same
        exact absurd (List.cons.inj same).1 (by decide)
      · rw [skip]
        have put : (field :: more).foldl (putByKey Prod.fst) [] = field :: more :=
          foldl_putByKey_of_nodup Prod.fst faithful.1
        have reads := readFields_print ascii (field :: more) [] level fuel rest (List.cons_ne_nil _ _)
          faithful.2 (by omega)
        rw [put] at reads
        exact reads

theorem readItems_print {style : PrintStyle} (ascii : style.ascii = true) :
    ∀ (items : List Json) (level fuel : Nat) (rest : List Char), items ≠ [] → FaithfulItems items →
      (itemsText style level items).length ≤ fuel + 1 →
      readItems (fuel + 1) (itemsText style level items ++ rest) = .ok (items, rest)
  | [], _, _, _, full, _, _ => absurd rfl full
  | [item], level, fuel, rest, _, faithful, enough => by
    have printed : itemsText style level [item] =
        print style (level + 1) item ++ (style.gap level ++ [']']) := rfl
    have positive := length_print_pos style (level + 1) faithful.1
    rw [printed, List.length_append, List.length_append, List.length_singleton] at enough
    rw [printed, List.append_assoc]
    cases fuel with
    | zero => omega
    | succ fuel =>
      refine readItems_last (readValue_print ascii item (level + 1) fuel _ faithful.1 (by omega)) ?_
      rw [List.append_assoc, skipSpace_gap]
      rfl
  | item :: next :: more, level, fuel, rest, _, faithful, enough => by
    obtain ⟨blanks, comma, skip⟩ := exists_comma style (level + 1)
    have printed : itemsText style level (item :: next :: more) =
        print style (level + 1) item ++ (',' :: (blanks ++ itemsText style level (next :: more))) := by
      rw [itemsText, printItems_cons, if_neg Bool.false_ne_true, comma, List.cons_append]
    have positive := length_print_pos style (level + 1) faithful.1
    rw [printed, List.length_append, List.length_cons, List.length_append] at enough
    rw [printed, List.append_assoc, List.cons_append, List.append_assoc]
    cases fuel with
    | zero => omega
    | succ fuel =>
      refine readItems_more (readValue_print ascii item (level + 1) fuel _ faithful.1 (by omega))
        (skipSpace_cons rfl _) ?_
      rw [skip, skipSpace_itemsText style level faithful.2]
      exact readItems_print ascii (next :: more) level fuel rest (List.cons_ne_nil _ _) faithful.2
        (by omega)

theorem readFields_print {style : PrintStyle} (ascii : style.ascii = true) :
    ∀ (fields : List (String × Json)) (before : Fields) (level fuel : Nat) (rest : List Char),
      fields ≠ [] → FaithfulFields fields → (fieldsText style level fields).length ≤ fuel + 1 →
      readFields (fuel + 1) before (fieldsText style level fields ++ rest) =
        .ok (fields.foldl (putByKey Prod.fst) before, rest)
  | [], _, _, _, _, full, _, _ => absurd rfl full
  | [(name, value)], before, level, fuel, rest, _, faithful, enough => by
    have bound : (print style (level + 1) value).length < fuel + 1 := by
      have whole := congrArg List.length (fieldsText_eq ascii level name value [] [])
      simp only [List.append_nil, List.length_cons, List.length_append] at whole
      omega
    have positive := length_print_pos style (level + 1) faithful.2.1
    rw [fieldsText_eq ascii]
    cases fuel with
    | zero => omega
    | succ fuel =>
      have read (after : List Char) :
          readValue (fuel + 1) (skipSpace (' ' :: (print style (level + 1) value ++ after))) =
            .ok (value, after) := by
        rw [skipSpace_blank_print style _ faithful.2.1]
        exact readValue_print ascii value (level + 1) fuel after faithful.2.1 (by omega)
      have closing : printFields style level false [] = style.gap level ++ ['\x7d'] := rfl
      rw [List.foldl_cons, List.foldl_nil, ← put_asRead faithful.1]
      refine readFields_last (readString_print _ _ _) (read _) ?_
      rw [closing, List.append_assoc, skipSpace_gap]
      rfl
  | (name, value) :: next :: more, before, level, fuel, rest, _, faithful, enough => by
    obtain ⟨blanks, comma, skip⟩ := exists_comma style (level + 1)
    have printed : printFields style level false (next :: more) =
        ',' :: (blanks ++ fieldsText style level (next :: more)) := by
      rw [printFields_cons, if_neg Bool.false_ne_true, comma, List.cons_append]
    have bound : (print style (level + 1) value).length + (fieldsText style level (next :: more)).length <
        fuel + 1 := by
      have whole := congrArg List.length (fieldsText_eq ascii level name value (next :: more) [])
      simp only [List.append_nil, printed, List.length_cons, List.length_append] at whole
      omega
    have positive := length_print_pos style (level + 1) faithful.2.1
    rw [fieldsText_eq ascii, printed, List.cons_append, List.append_assoc]
    cases fuel with
    | zero => omega
    | succ fuel =>
      have read (after : List Char) :
          readValue (fuel + 1) (skipSpace (' ' :: (print style (level + 1) value ++ after))) =
            .ok (value, after) := by
        rw [skipSpace_blank_print style _ faithful.2.1]
        exact readValue_print ascii value (level + 1) fuel after faithful.2.1 (by omega)
      refine readFields_more (readString_print _ _ _) (read _) (skipSpace_cons rfl _) ?_
      rw [skip, skipSpace_fieldsText, put_asRead faithful.1]
      exact readFields_print ascii (next :: more) _ level fuel rest (List.cons_ne_nil _ _) faithful.2.2
        (by omega)
end

theorem read_render {style : PrintStyle} (ascii : style.ascii = true) {value : Json}
    (faithful : value.Faithful) : read (render style value).toList = .ok value := by
  have skip := skipSpace_print style 0 faithful []
  have reads := readValue_print ascii value 0 (2 * (print style 0 value).length + 1) [] faithful (by omega)
  rw [List.append_nil] at skip reads
  have unmarked : (print style 0 value).head? ≠ some '\uFEFF' := by
    obtain ⟨c, text, printed, -, -, visible⟩ := exists_print style 0 faithful
    simpa [printed] using visible
  have all : readAll (print style 0 value) = .ok value := by
    rw [readAll, if_neg unmarked, skip, reads]
    rfl
  rw [render, String.toList_ofList, read, all]

/-! ## Text in files -/

theorem isKept_digitChar : ∀ digit < 16, isKept (Nat.digitChar digit) = true := by decide

theorem isKept_hexDigits {digits n : Nat} : ∀ c ∈ hexDigits digits n, isKept c = true := by
  induction digits generalizing n with
  | zero => exact List.forall_mem_nil _
  | succ digits ih =>
    rw [hexDigits, List.forall_mem_append, List.forall_mem_singleton]
    exact ⟨ih, isKept_digitChar _ (Nat.mod_lt _ (by decide))⟩

theorem isKept_of_simpleEscape? {escape c : Char} (means : simpleEscape? escape = some c) :
    isKept escape = true := by
  unfold simpleEscape? at means
  split at means
  case h_9 => cases means
  all_goals rfl

theorem isKept_unitEscape (unit : Nat) : ∀ c ∈ unitEscape unit, isKept c = true := by
  rw [unitEscape, List.forall_mem_cons, List.forall_mem_cons]
  exact ⟨rfl, rfl, isKept_hexDigits⟩

theorem isKept_printCode (code : Nat) : ∀ c ∈ printCode true code, isKept c = true := by
  rcases printCode_cases code with ⟨letter, _, printed, -, means, -⟩ |
    ⟨c, printed, -, -, known, visible, ascii⟩ | printed
  · rw [printed, List.forall_mem_cons, List.forall_mem_singleton]
    exact ⟨rfl, isKept_of_simpleEscape? means⟩
  · rw [printed, List.forall_mem_singleton, isKept_iff]
    refine ⟨known ▸ ascii, ?_⟩
    rintro rfl
    exact absurd (known ▸ visible) (by decide)
  · rw [printed]
    intro c member
    obtain ⟨unit, -, digit⟩ := List.mem_flatMap.mp member
    exact isKept_unitEscape unit c digit

theorem isKept_printString (s : String) : ∀ c ∈ printString true s, isKept c = true := by
  rw [printString, List.forall_mem_append, List.forall_mem_cons, List.forall_mem_singleton]
  refine ⟨⟨rfl, ?_⟩, rfl⟩
  intro c member
  obtain ⟨code, -, part⟩ := List.mem_flatMap.mp member
  exact isKept_printCode code c part

theorem isKept_gap (style : PrintStyle) (level : Nat) : ∀ c ∈ style.gap level, isKept c = true := by
  unfold PrintStyle.gap
  split
  · exact List.forall_mem_nil _
  · rw [List.forall_mem_cons]
    refine ⟨rfl, ?_⟩
    intro c member
    rw [List.eq_of_mem_replicate member]
    rfl

theorem isKept_lead (style : PrintStyle) (level : Nat) (first : Bool) :
    ∀ c ∈ (if first then style.gap level else style.comma level), isKept c = true := by
  cases first with
  | true => exact isKept_gap style level
  | false =>
    show ∀ c ∈ style.comma level, isKept c = true
    unfold PrintStyle.comma
    split
    · exact List.all_eq_true.mp rfl
    · exact List.forall_mem_cons.mpr ⟨rfl, isKept_gap style level⟩

theorem isKept_close (style : PrintStyle) (level : Nat) (first : Bool) {bracket : Char}
    (kept : isKept bracket = true) :
    ∀ c ∈ (if first then [] else style.gap level) ++ [bracket], isKept c = true := by
  rw [List.forall_mem_append, List.forall_mem_singleton]
  refine ⟨?_, kept⟩
  cases first with
  | true => exact List.forall_mem_nil _
  | false => exact isKept_gap style level

mutual
theorem isKept_print {style : PrintStyle} (ascii : style.ascii = true) (level : Nat) :
    ∀ value : Json, value.Faithful → ∀ c ∈ print style level value, isKept c = true
  | null, _ => List.all_eq_true.mp (by decide : "null".toList.all isKept = true)
  | bool true, _ => List.all_eq_true.mp (by decide : "true".toList.all isKept = true)
  | bool false, _ => List.all_eq_true.mp (by decide : "false".toList.all isKept = true)
  | int _, faithful => faithful.elim
  | float _, faithful => faithful.elim
  | str s, _ => by
    show ∀ c ∈ printString style.ascii s, isKept c = true
    rw [ascii]
    exact isKept_printString s
  | arr items, faithful =>
    List.forall_mem_cons.mpr ⟨rfl, isKept_printItems ascii level true items faithful⟩
  | obj fields, faithful =>
    List.forall_mem_cons.mpr ⟨rfl, isKept_printFields ascii level true fields faithful.2⟩

theorem isKept_printItems {style : PrintStyle} (ascii : style.ascii = true) (level : Nat)
    (first : Bool) : ∀ items : List Json, FaithfulItems items →
      ∀ c ∈ printItems style level first items, isKept c = true
  | [], _ => isKept_close style level first rfl
  | item :: rest, faithful => by
    rw [printItems, List.forall_mem_append, List.forall_mem_append]
    exact ⟨⟨isKept_lead style (level + 1) first, isKept_print ascii (level + 1) item faithful.1⟩,
      isKept_printItems ascii level false rest faithful.2⟩

theorem isKept_printFields {style : PrintStyle} (ascii : style.ascii = true) (level : Nat)
    (first : Bool) : ∀ fields : List (String × Json), FaithfulFields fields →
      ∀ c ∈ printFields style level first fields, isKept c = true
  | [], _ => isKept_close style level first rfl
  | (name, value) :: rest, faithful => by
    rw [printFields, ascii]
    simp only [List.forall_mem_append]
    exact ⟨⟨⟨⟨isKept_lead style (level + 1) first, isKept_printString name⟩, List.all_eq_true.mp rfl⟩,
      isKept_print ascii (level + 1) value faithful.2.1⟩, isKept_printFields ascii level false rest faithful.2.2⟩
end

/-- A faithful value that has been written to a file in ASCII is read from it. -/
theorem read_of_write {style : PrintStyle} (ascii : style.ascii = true) {value : Json}
    (faithful : value.Faithful) {folder after : Folder} {path : Path}
    (writes : folder.write path (render style value) = (.ok (), after)) :
    ∃ text, after.readText path = .ok text ∧ read text = .ok value := by
  refine ⟨_, readText_of_write (isKept_print ascii 0 value faithful) writes, ?_⟩
  rw [← read_render ascii faithful, render, String.toList_ofList]

end LeastGrant.Json
