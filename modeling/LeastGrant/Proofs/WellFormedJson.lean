import LeastGrant.Json.Reader
import LeastGrant.Proofs.KeyedList

/-! JSON values in which no object has two fields of one name. All values that are read from a text
are of this sort, since a field that comes again replaces the first one. -/
namespace LeastGrant.Json

mutual
/-- No object in a value has two fields of one name. -/
def WellFormed : Json → Prop
  | arr items => WellFormedItems items
  | obj fields => (fields.map Prod.fst).Nodup ∧ WellFormedFields fields
  | _ => True

def WellFormedItems : List Json → Prop
  | [] => True
  | item :: rest => WellFormed item ∧ WellFormedItems rest

def WellFormedFields : List (String × Json) → Prop
  | [] => True
  | (_, value) :: rest => WellFormed value ∧ WellFormedFields rest
end

theorem wellFormedFields_iff {fields : Fields} :
    WellFormedFields fields ↔ ∀ field ∈ fields, field.2.WellFormed := by
  induction fields with
  | nil => simp [WellFormedFields]
  | cons field rest ih => simp [WellFormedFields, ih]

theorem Fields.mem_of_get? {fields : Fields} {name : String} {value : Json}
    (h : fields.get? name = some value) : (name, value) ∈ fields := by
  obtain ⟨before, after, rfl, -⟩ := List.lookup_eq_some_iff.mp h
  simp

theorem WellFormed.of_get? {value found : Json} {name : String} (h : value.WellFormed)
    (get : value.get? name = some found) : found.WellFormed := by
  cases value with
  | obj fields => exact wellFormedFields_iff.mp h.2 _ (Fields.mem_of_get? get)
  | _ => cases get

theorem WellFormedFields.put {fields : Fields} {value : Json} (name : String)
    (h : WellFormedFields fields) (new : value.WellFormed) :
    WellFormedFields (fields.put name value) := by
  rw [wellFormedFields_iff] at h ⊢
  intro field member
  rw [Fields.put_eq] at member
  rcases mem_of_mem_putByKey Prod.fst member with rfl | old
  · exact new
  · exact h field old

theorem Fields.nodup_put {fields : Fields} (name : String) (value : Json)
    (h : (fields.map Prod.fst).Nodup) : ((fields.put name value).map Prod.fst).Nodup := by
  rw [Fields.put_eq]
  exact nodup_putByKey Prod.fst (name, value) h

/-- A value that is written as one word: a literal or a number. -/
def isWord : Json → Bool
  | null | bool _ | int _ | float _ => true
  | _ => false

theorem isWord_of_literal? {text rest : List Char} {value : Json}
    (h : literal? text = some (value, rest)) : value.isWord = true := by
  have all : ∀ entry ∈ literals, entry.2.isWord = true := by
    simp [literals, isWord]
  obtain ⟨⟨word, literal⟩, member, found⟩ := List.exists_of_findSome?_eq_some h
  dsimp only at found
  split at found
  · cases found
    exact all _ member
  · cases found

theorem isWord_of_number? {text rest : List Char} {value : Json}
    (h : number? text = some (value, rest)) : value.isWord = true := by
  unfold number? at h
  dsimp only at h
  split at h
  · cases h
  · split at h <;> cases h <;> rfl

/-! ## What the readers do

A reading that succeeds says what it has met at the start of the text, and which readings it has
begun with less fuel. -/

theorem readScalar_cases {text after : List Char} {value : Json}
    (reads : readScalar text = .ok (value, after)) :
    (∃ body name, text = '"' :: body ∧ readString text.length body = .ok (name, after) ∧
      value = .str (String.ofList name)) ∨
    value.isWord = true := by
  unfold readScalar at reads
  split at reads
  · rename_i body
    split at reads <;> cases reads
    rename_i name found
    exact .inl ⟨body, name, rfl, found, rfl⟩
  · refine .inr ?_
    split at reads
    · rename_i found
      cases reads
      exact isWord_of_literal? found
    · split at reads
      · split at reads <;> cases reads
        rfl
      · rename_i found
        cases reads
        exact isWord_of_number? found
      · cases reads

theorem readValue_cases {fuel : Nat} {text after : List Char} {value : Json}
    (reads : readValue (fuel + 1) text = .ok (value, after)) :
    (∃ rest, text = '[' :: rest ∧
      (skipSpace rest = ']' :: after ∧ value = .arr [] ∨
        ∃ items, readItems fuel (skipSpace rest) = .ok (items, after) ∧ value = .arr items)) ∨
    (∃ rest, text = '\x7b' :: rest ∧
      (skipSpace rest = '\x7d' :: after ∧ value = .obj [] ∨
        ∃ fields, readFields fuel [] (skipSpace rest) = .ok (fields, after) ∧ value = .obj fields)) ∨
    readScalar text = .ok (value, after) := by
  unfold readValue at reads
  split at reads
  · refine .inl ⟨_, rfl, ?_⟩
    split at reads
    · rename_i empty
      cases reads
      exact .inl ⟨empty, rfl⟩
    · split at reads <;> cases reads
      rename_i inner
      exact .inr ⟨_, inner, rfl⟩
  · refine .inr (.inl ⟨_, rfl, ?_⟩)
    split at reads
    · rename_i empty
      cases reads
      exact .inl ⟨empty, rfl⟩
    · split at reads <;> cases reads
      rename_i inner
      exact .inr ⟨_, inner, rfl⟩
  · exact .inr (.inr reads)

theorem readItems_cases {fuel : Nat} {text after : List Char} {items : List Json}
    (reads : readItems (fuel + 1) text = .ok (items, after)) :
    ∃ item left, readValue fuel text = .ok (item, left) ∧
      (skipSpace left = ']' :: after ∧ items = [item] ∨
        ∃ rest more, skipSpace left = ',' :: rest ∧
          readItems fuel (skipSpace rest) = .ok (more, after) ∧ items = item :: more) := by
  unfold readItems at reads
  split at reads
  · cases reads
  · rename_i item left first
    refine ⟨item, left, first, ?_⟩
    split at reads
    · rename_i close
      cases reads
      exact .inl ⟨close, rfl⟩
    · rename_i comma
      split at reads <;> cases reads
      rename_i others
      exact .inr ⟨_, _, comma, others, rfl⟩
    · cases reads

theorem readFields_cases {fuel : Nat} {before all : Fields} {text after : List Char}
    (reads : readFields (fuel + 1) before text = .ok (all, after)) :
    ∃ body name afterName afterColon value left, text = '"' :: body ∧
      readString text.length body = .ok (name, afterName) ∧ skipSpace afterName = ':' :: afterColon ∧
      readValue fuel (skipSpace afterColon) = .ok (value, left) ∧
      (skipSpace left = '\x7d' :: after ∧ all = before.put (String.ofList name) value ∨
        ∃ rest, skipSpace left = ',' :: rest ∧
          readFields fuel (before.put (String.ofList name) value) (skipSpace rest) =
            .ok (all, after)) := by
  unfold readFields at reads
  split at reads
  · split at reads
    · cases reads
    · rename_i named
      split at reads
      · rename_i colon
        split at reads
        · cases reads
        · rename_i first
          refine ⟨_, _, _, _, _, _, rfl, named, colon, first, ?_⟩
          split at reads
          · rename_i close
            cases reads
            exact .inl ⟨close, rfl⟩
          · rename_i comma
            exact .inr ⟨_, comma, reads⟩
          · cases reads
      · cases reads
  · cases reads

theorem read_eq_ok {text : List Char} {value : Json} :
    read text = .ok value ↔ text.head? ≠ some '\uFEFF' ∧ ∃ after,
      readValue (2 * text.length + 2) (skipSpace text) = .ok (value, after) ∧
        skipSpace after = [] := by
  unfold read readAll
  by_cases mark : text.head? = some '\uFEFF'
  · simp [mark]
  · simp only [mark, if_false, ne_eq, not_false_eq_true, true_and]
    cases found : readValue (2 * text.length + 2) (skipSpace text) with
    | error fault => simp
    | ok result =>
      obtain ⟨other, after⟩ := result
      cases left : skipSpace after with
      | nil =>
        simp only [left, Except.ok.injEq, Prod.mk.injEq]
        constructor
        · intro same
          exact ⟨after, ⟨same, rfl⟩, left⟩
        · rintro ⟨_, ⟨same, -⟩, -⟩
          exact same
      | cons c rest =>
        simp only [left, reduceCtorEq, Except.ok.injEq, Prod.mk.injEq, false_iff]
        rintro ⟨_, ⟨-, rfl⟩, ends⟩
        rw [left] at ends
        cases ends

/-- Properties of values, of rows of elements and of fields that scalars have, and that arrays and
objects keep as they grow. -/
structure KeptByReaders (P : Json → Prop) (Items : List Json → Prop) (All : Fields → Prop) : Prop where
  word : ∀ {value}, value.isWord = true → P value
  string : ∀ {opening text name rest}, readString opening text = .ok (name, rest) →
    P (.str (String.ofList name))
  nil : Items []
  cons : ∀ {item items}, P item → Items items → Items (item :: items)
  arr : ∀ {items}, Items items → P (.arr items)
  empty : All []
  put : ∀ {fields name value}, All fields → P (.str name) → P value → All (fields.put name value)
  obj : ∀ {fields}, All fields → P (.obj fields)

variable {P : Json → Prop} {Items : List Json → Prop} {All : Fields → Prop}

/-- All that the three readers give has the properties. The fuel is shared, so the induction is on
it. -/
theorem KeptByReaders.readers (kept : KeptByReaders P Items All) (fuel : Nat) :
    (∀ text value rest, readValue fuel text = .ok (value, rest) → P value) ∧
    (∀ text items rest, readItems fuel text = .ok (items, rest) → Items items) ∧
    ∀ fields text all rest, All fields → readFields fuel fields text = .ok (all, rest) → All all := by
  induction fuel with
  | zero => simp [readValue, readItems, readFields]
  | succ fuel ih =>
    obtain ⟨ofValue, ofItems, ofFields⟩ := ih
    refine ⟨fun text value rest h => ?_, fun text items rest h => ?_,
      fun fields text all rest before h => ?_⟩
    · obtain ⟨_, -, inner⟩ | ⟨_, -, inner⟩ | scalar := readValue_cases h
      · obtain ⟨-, rfl⟩ | ⟨items, read, rfl⟩ := inner
        · exact kept.arr kept.nil
        · exact kept.arr (ofItems _ _ _ read)
      · obtain ⟨-, rfl⟩ | ⟨fields, read, rfl⟩ := inner
        · exact kept.obj kept.empty
        · exact kept.obj (ofFields [] _ _ _ kept.empty read)
      · obtain ⟨_, name, -, read, rfl⟩ | single := readScalar_cases scalar
        · exact kept.string read
        · exact kept.word single
    · obtain ⟨item, _, read, ⟨-, rfl⟩ | ⟨_, more, -, others, rfl⟩⟩ := readItems_cases h
      · exact kept.cons (ofValue _ _ _ read) kept.nil
      · exact kept.cons (ofValue _ _ _ read) (ofItems _ _ _ others)
    · obtain ⟨_, name, _, _, value, _, -, named, -, read, goes⟩ := readFields_cases h
      have larger := kept.put before (kept.string named) (ofValue _ _ _ read)
      obtain ⟨-, rfl⟩ | ⟨_, -, others⟩ := goes
      · exact larger
      · exact ofFields _ _ _ _ larger others

theorem KeptByReaders.of_read (kept : KeptByReaders P Items All) {text : List Char} {value : Json}
    (h : read text = .ok value) : P value := by
  obtain ⟨-, after, found, -⟩ := read_eq_ok.mp h
  exact (kept.readers _).1 _ _ _ found

theorem keptByReaders_wellFormed : KeptByReaders WellFormed WellFormedItems
    fun fields => (fields.map Prod.fst).Nodup ∧ WellFormedFields fields where
  word := by
    intro value word
    cases value with
    | arr items => cases word
    | obj fields => cases word
    | _ => trivial
  string _ := trivial
  nil := trivial
  cons first others := ⟨first, others⟩
  arr items := items
  empty := ⟨List.nodup_nil, trivial⟩
  put old _ new := ⟨Fields.nodup_put _ _ old.1, old.2.put _ new⟩
  obj fields := fields

/-- A value that is read from a text has no object with two fields of one name. -/
theorem wellFormed_of_read {text : List Char} {value : Json} (h : read text = .ok value) :
    value.WellFormed :=
  keptByReaders_wellFormed.of_read h

end LeastGrant.Json
