import LeastGrant.Proofs.JsonScalars

/-! A grammar of JSON over tokens. Reading follows it: a text is read as a value exactly if its tokens
spell the value. -/
namespace LeastGrant.Json

/-- A part of a JSON text, with what it stands for. The fields of an object are added to those
before them. -/
inductive Part where
  | value (value : Json)
  | items (items : List Json)
  | fields (before all : Fields)

/-- How values are written in tokens. Items and fields are written with the bracket behind them. -/
inductive Spells : Part → List (List Char) → Prop
  | scalar {token : List Char} {value : Json} (reads : readScalar token = .ok (value, [])) :
      Spells (.value value) [token]
  | emptyArray : Spells (.value (.arr [])) [['['], [']']]
  | array {items : List Json} {written : List (List Char)} (inner : Spells (.items items) written) :
      Spells (.value (.arr items)) (['['] :: written)
  | emptyObject : Spells (.value (.obj [])) [['\x7b'], ['\x7d']]
  | object {fields : Fields} {written : List (List Char)}
      (inner : Spells (.fields [] fields) written) :
      Spells (.value (.obj fields)) (['\x7b'] :: written)
  | lastItem {value : Json} {written : List (List Char)} (item : Spells (.value value) written) :
      Spells (.items [value]) (written ++ [[']']])
  | nextItem {value : Json} {items : List Json} {written others : List (List Char)}
      (item : Spells (.value value) written) (more : Spells (.items items) others) :
      Spells (.items (value :: items)) (written ++ [','] :: others)
  | lastField {before : Fields} {token : List Char} {name : String} {value : Json}
      {written : List (List Char)} (named : readScalar token = .ok (.str name, []))
      (field : Spells (.value value) written) :
      Spells (.fields before (before.put name value)) (token :: [':'] :: (written ++ [['\x7d']]))
  | nextField {before all : Fields} {token : List Char} {name : String} {value : Json}
      {written others : List (List Char)} (named : readScalar token = .ok (.str name, []))
      (field : Spells (.value value) written)
      (more : Spells (.fields (before.put name value) all) others) :
      Spells (.fields before all) (token :: [':'] :: (written ++ [','] :: others))

/-- A reader reads a part off a text, up to where another begins. -/
def Part.Reads (fuel : Nat) (text after : List Char) : Part → Prop
  | .value found => readValue fuel text = .ok (found, after)
  | .items found => readItems fuel text = .ok (found, after)
  | .fields before found => readFields fuel before text = .ok (found, after)

theorem startsWord_of_skipSpace {text rest : List Char} {c : Char} (mark : isMark c = true)
    (start : skipSpace text = c :: rest) : startsWord text = false := by
  cases text with
  | nil => rfl
  | cons d text =>
    cases space : isSpace d with
    | true => simp [startsWord, inWord, space]
    | false =>
      rw [skipSpace_cons space] at start
      cases start
      simp [startsWord, inWord, mark]

theorem tokensOf_of_skipSpace {text rest : List Char} {c : Char} (mark : isMark c = true)
    (start : skipSpace text = c :: rest) : tokensOf text = [c] :: tokensOf rest := by
  rw [← tokensOf_skipSpace, start, tokensOf_mark mark]

/-- What a reader reads is written in the tokens that it has passed. -/
theorem spells_of_reads (fuel : Nat) (part : Part) (text after : List Char)
    (reads : part.Reads fuel text after) (ends : startsWord after = false) :
    ∃ written, Spells part written ∧ tokensOf text = written ++ tokensOf after := by
  induction fuel generalizing part text after with
  | zero => cases part <;> simp [Part.Reads, readValue, readItems, readFields] at reads
  | succ fuel ih =>
    cases part with
    | value found =>
      obtain ⟨rest, rfl, inner⟩ | ⟨rest, rfl, inner⟩ | scalar := readValue_cases reads
      · rw [tokensOf_mark (by decide)]
        obtain ⟨empty, rfl⟩ | ⟨items, inner, rfl⟩ := inner
        · exact ⟨_, .emptyArray, by rw [tokensOf_of_skipSpace (by decide) empty]; rfl⟩
        · obtain ⟨written, spells, cut⟩ := ih (.items items) _ _ inner ends
          exact ⟨_, .array spells, by rw [← tokensOf_skipSpace, cut, List.cons_append]⟩
      · rw [tokensOf_mark (by decide)]
        obtain ⟨empty, rfl⟩ | ⟨fields, inner, rfl⟩ := inner
        · exact ⟨_, .emptyObject, by rw [tokensOf_of_skipSpace (by decide) empty]; rfl⟩
        · obtain ⟨written, spells, cut⟩ := ih (.fields [] fields) _ _ inner ends
          exact ⟨_, .object spells, by rw [← tokensOf_skipSpace, cut, List.cons_append]⟩
      · obtain ⟨token, alone, cut⟩ := exists_scalarToken scalar ends
        exact ⟨[token], .scalar alone, cut⟩
    | items found =>
      obtain ⟨item, left, first, ⟨close, rfl⟩ | ⟨rest, items, comma, others, rfl⟩⟩ :=
        readItems_cases reads
      · obtain ⟨written, spells, cut⟩ :=
          ih (.value item) _ _ first (startsWord_of_skipSpace (by decide) close)
        refine ⟨_, .lastItem spells, ?_⟩
        simp [cut, tokensOf_of_skipSpace (by decide) close]
      · obtain ⟨written, spells, cut⟩ :=
          ih (.value item) _ _ first (startsWord_of_skipSpace (by decide) comma)
        obtain ⟨later, more, cutLater⟩ := ih (.items items) _ _ others ends
        refine ⟨_, .nextItem spells more, ?_⟩
        rw [tokensOf_skipSpace] at cutLater
        simp [cut, tokensOf_of_skipSpace (by decide) comma, cutLater]
    | fields before found =>
      obtain ⟨body, name, afterName, afterColon, value, left, rfl, named, colon, first, goes⟩ :=
        readFields_cases reads
      obtain ⟨token, scalar, cutName⟩ := name_of_readString named
      rw [cutName, tokensOf_of_skipSpace (by decide) colon, ← tokensOf_skipSpace afterColon]
      obtain ⟨close, rfl⟩ | ⟨rest, comma, others⟩ := goes
      · obtain ⟨written, spells, cut⟩ :=
          ih (.value value) _ _ first (startsWord_of_skipSpace (by decide) close)
        refine ⟨_, .lastField scalar spells, ?_⟩
        simp [cut, tokensOf_of_skipSpace (by decide) close]
      · obtain ⟨written, spells, cut⟩ :=
          ih (.value value) _ _ first (startsWord_of_skipSpace (by decide) comma)
        obtain ⟨later, more, cutLater⟩ := ih (.fields _ found) _ _ others ends
        refine ⟨_, .nextField scalar spells more, ?_⟩
        rw [tokensOf_skipSpace] at cutLater
        simp [cut, tokensOf_of_skipSpace (by decide) comma, cutLater]

theorem exists_of_tokens {text token : List Char} {more : List (List Char)}
    (cut : tokensOf text = token :: more) : ∃ rest, skipSpace text = token ++ rest ∧
      tokensOf rest = more ∧ (startsWord token = true → startsWord rest = false) := by
  obtain ⟨-, none⟩ | ⟨first, rest, start, whole, -, ends⟩ := exists_token text
  · rw [none] at cut
    cases cut
  · rw [whole] at cut
    cases cut
    exact ⟨rest, start, rfl, ends⟩

theorem readValue_scalar {fuel : Nat} {text after : List Char} {value : Json}
    (reads : readScalar text = .ok (value, after)) :
    readValue (fuel + 1) text = .ok (value, after) := by
  unfold readValue
  split
  · rw [readScalar_mark (by decide)] at reads
    cases reads
  · rw [readScalar_mark (by decide)] at reads
    cases reads
  · exact reads

theorem readItems_ne_close {fuel : Nat} {text after rest : List Char} {items : List Json}
    (reads : readItems fuel text = .ok (items, after)) : text ≠ ']' :: rest := by
  rintro rfl
  cases fuel with
  | zero => cases reads
  | succ fuel =>
    obtain ⟨item, left, first, -⟩ := readItems_cases reads
    cases fuel with
    | zero => cases first
    | succ fuel =>
      obtain ⟨more, other, -⟩ | ⟨more, other, -⟩ | scalar := readValue_cases first
      · cases other
      · cases other
      · rw [readScalar_mark (by decide)] at scalar
        cases scalar

theorem readFields_close {fuel : Nat} {before : Fields}
    {body name afterName afterColon left rest : List Char} {value : Json}
    (named : readString ('"' :: body).length body = .ok (name, afterName))
    (colon : skipSpace afterName = ':' :: afterColon)
    (first : readValue fuel (skipSpace afterColon) = .ok (value, left))
    (close : skipSpace left = '\x7d' :: rest) :
    readFields (fuel + 1) before ('"' :: body) =
      .ok (before.put (String.ofList name) value, rest) := by
  simp only [readFields, named, colon, first, close]

theorem readFields_comma {fuel : Nat} {before : Fields}
    {body name afterName afterColon left rest : List Char} {value : Json}
    (named : readString ('"' :: body).length body = .ok (name, afterName))
    (colon : skipSpace afterName = ':' :: afterColon)
    (first : readValue fuel (skipSpace afterColon) = .ok (value, left))
    (comma : skipSpace left = ',' :: rest) :
    readFields (fuel + 1) before ('"' :: body) =
      readFields fuel (before.put (String.ofList name) value) (skipSpace rest) := by
  simp only [readFields, named, colon, first, comma]

/-- A field of an object up to its value, as tokens and as text. -/
theorem exists_field {text token : List Char} {name : String} {more : List (List Char)}
    (named : readScalar token = .ok (.str name, [])) (cut : tokensOf text = token :: [':'] :: more) :
    ∃ body chars afterName afterColon, skipSpace text = '"' :: body ∧
      readString ('"' :: body).length body = .ok (chars, afterName) ∧ name = String.ofList chars ∧
      skipSpace afterName = ':' :: afterColon ∧ tokensOf afterColon = more := by
  obtain ⟨rest, start, cutRest, ends⟩ := exists_of_tokens cut
  obtain ⟨afterColon, colon, cutColon, -⟩ := exists_of_tokens cutRest
  obtain ⟨body, chars, whole, reads, rfl⟩ := exists_of_readScalar_str (readScalar_token named ends)
  rw [whole] at start reads
  exact ⟨body, chars, rest, afterColon, start, reads, rfl, colon, cutColon⟩

theorem readFields_ne_close {fuel : Nat} {before all : Fields} {text after rest : List Char}
    (reads : readFields fuel before text = .ok (all, after)) : text ≠ '\x7d' :: rest := by
  rintro rfl
  cases fuel with
  | zero => cases reads
  | succ fuel =>
    obtain ⟨body, _, _, _, _, _, other, -⟩ := readFields_cases reads
    cases other

/-- A part that is written in tokens is read, with fuel for each token, wherever the tokens stand. -/
theorem reads_of_spells {part : Part} {written : List (List Char)} (spells : Spells part written)
    (fuel : Nat) (enough : written.length ≤ fuel) (text : List Char) (more : List (List Char))
    (cut : tokensOf text = written ++ more) :
    ∃ after, part.Reads fuel (skipSpace text) after ∧ tokensOf after = more := by
  -- Each rule writes a token of its own, which pays for the call of the reader.
  induction spells generalizing fuel text more with
  | scalar reads =>
    rw [List.length_singleton] at enough
    obtain ⟨fuel, rfl⟩ : ∃ less, fuel = less + 1 := ⟨fuel - 1, by omega⟩
    obtain ⟨rest, start, cutRest, ends⟩ := exists_of_tokens cut
    rw [start]
    exact ⟨rest, readValue_scalar (readScalar_token reads ends), cutRest⟩
  | emptyArray =>
    rw [List.length_cons] at enough
    obtain ⟨fuel, rfl⟩ : ∃ less, fuel = less + 1 := ⟨fuel - 1, by omega⟩
    obtain ⟨rest, start, cutRest, -⟩ := exists_of_tokens cut
    obtain ⟨after, close, cutAfter, -⟩ := exists_of_tokens cutRest
    rw [List.singleton_append] at start close
    refine ⟨after, ?_, cutAfter⟩
    simp only [Part.Reads, start, readValue, close]
  | @array items written inner ih =>
    rw [List.length_cons] at enough
    obtain ⟨fuel, rfl⟩ : ∃ less, fuel = less + 1 := ⟨fuel - 1, by omega⟩
    obtain ⟨rest, start, cutRest, -⟩ := exists_of_tokens cut
    obtain ⟨after, reads, cutAfter⟩ := ih fuel (by omega) rest more cutRest
    rw [start]
    exact ⟨after, readValue_arr (fun _ => readItems_ne_close reads) reads, cutAfter⟩
  | emptyObject =>
    rw [List.length_cons] at enough
    obtain ⟨fuel, rfl⟩ : ∃ less, fuel = less + 1 := ⟨fuel - 1, by omega⟩
    obtain ⟨rest, start, cutRest, -⟩ := exists_of_tokens cut
    obtain ⟨after, close, cutAfter, -⟩ := exists_of_tokens cutRest
    rw [List.singleton_append] at start close
    refine ⟨after, ?_, cutAfter⟩
    simp only [Part.Reads, start, readValue, close]
  | @object fields written inner ih =>
    rw [List.length_cons] at enough
    obtain ⟨fuel, rfl⟩ : ∃ less, fuel = less + 1 := ⟨fuel - 1, by omega⟩
    obtain ⟨rest, start, cutRest, -⟩ := exists_of_tokens cut
    obtain ⟨after, reads, cutAfter⟩ := ih fuel (by omega) rest more cutRest
    rw [start]
    exact ⟨after, readValue_obj (fun _ => readFields_ne_close reads) reads, cutAfter⟩
  | @lastItem value written item ih =>
    rw [List.length_append, List.length_singleton] at enough
    obtain ⟨fuel, rfl⟩ : ∃ less, fuel = less + 1 := ⟨fuel - 1, by omega⟩
    rw [List.append_assoc] at cut
    obtain ⟨left, reads, cutLeft⟩ := ih fuel (by omega) text _ cut
    obtain ⟨after, close, cutAfter, -⟩ := exists_of_tokens cutLeft
    exact ⟨after, readItems_last reads close, cutAfter⟩
  | @nextItem value items written others item _ ih ihMore =>
    rw [List.length_append, List.length_cons] at enough
    obtain ⟨fuel, rfl⟩ : ∃ less, fuel = less + 1 := ⟨fuel - 1, by omega⟩
    rw [List.append_assoc] at cut
    obtain ⟨left, reads, cutLeft⟩ := ih fuel (by omega) text _ cut
    obtain ⟨rest, comma, cutRest, -⟩ := exists_of_tokens cutLeft
    obtain ⟨after, readsMore, cutAfter⟩ := ihMore fuel (by omega) rest more cutRest
    exact ⟨after, readItems_more reads comma readsMore, cutAfter⟩
  | @lastField before token name value written named field ih =>
    simp only [List.length_cons, List.length_append] at enough
    obtain ⟨fuel, rfl⟩ : ∃ less, fuel = less + 1 := ⟨fuel - 1, by omega⟩
    obtain ⟨body, chars, afterName, afterColon, start, reads, rfl, colon, cutColon⟩ :=
      exists_field named cut
    rw [List.append_eq, List.append_assoc] at cutColon
    obtain ⟨left, first, cutLeft⟩ := ih fuel (by omega) afterColon _ cutColon
    obtain ⟨after, close, cutAfter, -⟩ := exists_of_tokens cutLeft
    rw [start]
    exact ⟨after, readFields_close reads colon first close, cutAfter⟩
  | @nextField before all token name value written others named field _ ih ihMore =>
    simp only [List.length_cons, List.length_append] at enough
    obtain ⟨fuel, rfl⟩ : ∃ less, fuel = less + 1 := ⟨fuel - 1, by omega⟩
    obtain ⟨body, chars, afterName, afterColon, start, reads, rfl, colon, cutColon⟩ :=
      exists_field named cut
    rw [List.append_eq, List.append_assoc] at cutColon
    obtain ⟨left, first, cutLeft⟩ := ih fuel (by omega) afterColon _ cutColon
    obtain ⟨rest, comma, cutRest, -⟩ := exists_of_tokens cutLeft
    obtain ⟨after, others, cutAfter⟩ := ihMore fuel (by omega) rest more cutRest
    rw [start]
    exact ⟨after, (readFields_comma reads colon first comma).trans others, cutAfter⟩

namespace Spells

theorem isToken {part : Part} {written : List (List Char)} (spells : Spells part written) :
    ∀ token ∈ written, IsToken token := by
  have mark {c : Char} (isMark : isMark c = true) : IsToken [c] := .mark isMark
  induction spells with
  | scalar reads => simpa using isToken_of_readScalar reads
  | emptyArray | emptyObject => simp [mark, isMark]
  | array _ ih | object _ ih =>
    rw [List.forall_mem_cons]
    exact ⟨mark (by decide), ih⟩
  | lastItem _ ih =>
    rw [List.forall_mem_append]
    exact ⟨ih, by simp [mark, isMark]⟩
  | nextItem _ _ ih ihMore =>
    rw [List.forall_mem_append, List.forall_mem_cons]
    exact ⟨ih, mark (by decide), ihMore⟩
  | lastField named _ ih =>
    rw [List.forall_mem_cons, List.forall_mem_cons, List.forall_mem_append]
    exact ⟨isToken_of_readScalar named, mark (by decide), ih, by simp [mark, isMark]⟩
  | nextField named _ _ ih ihMore =>
    rw [List.forall_mem_cons, List.forall_mem_cons, List.forall_mem_append, List.forall_mem_cons]
    exact ⟨isToken_of_readScalar named, mark (by decide), ih, mark (by decide), ihMore⟩

end Spells

def isClosing (token : List Char) : Bool := token == [']'] || token == ['\x7d']

/-- What may stand side by side: a word ends before another token begins, and a comma goes on. -/
def MayFollow (token next : List Char) : Prop :=
  (startsWord token = true → startsWord next = false) ∧ (token = [','] → isClosing next = false)

namespace Spells

theorem not_isClosing {part : Part} {written : List (List Char)} (spells : Spells part written) :
    ∃ first more, written = first :: more ∧ isClosing first = false := by
  have scalar {token : List Char} {value : Json} (reads : readScalar token = .ok (value, [])) :
      isClosing token = false := by
    have bracket := mark_ne_of_readScalar reads (c := ']') (by decide)
    have brace := mark_ne_of_readScalar reads (c := '\x7d') (by decide)
    simp [isClosing, bracket, brace]
  induction spells with
  | scalar reads => exact ⟨_, _, rfl, scalar reads⟩
  | emptyArray | emptyObject | array | object => exact ⟨_, _, rfl, by decide⟩
  | lastItem _ ih | nextItem _ _ ih =>
    obtain ⟨first, more, rfl, opens⟩ := ih
    exact ⟨first, _, rfl, opens⟩
  | lastField named | nextField named => exact ⟨_, _, rfl, scalar named⟩

/-- After a mark that is no comma, anything may follow. -/
theorem isChain_mark {c : Char} (mark : isMark c = true) (comma : c ≠ ',')
    {rest : List (List Char)} (chain : rest.IsChain MayFollow) :
    ([c] :: rest).IsChain MayFollow := by
  refine List.isChain_cons.mpr ⟨fun next _ => ?_, chain⟩
  simp [MayFollow, startsWord, inWord, mark, comma]

/-- After a comma, a part may follow. -/
theorem isChain_comma {part : Part} {others rest : List (List Char)} (more : Spells part others)
    (chain : (others ++ rest).IsChain MayFollow) :
    ([','] :: (others ++ rest)).IsChain MayFollow := by
  obtain ⟨first, later, rfl, opens⟩ := more.not_isClosing
  refine List.isChain_cons.mpr ⟨?_, chain⟩
  simpa [MayFollow, startsWord, inWord, isMark] using opens

/-- After a scalar, anything but a word may follow. -/
theorem isChain_scalar {token : List Char} {value : Json}
    (reads : readScalar token = .ok (value, [])) {rest : List (List Char)}
    (chain : rest.IsChain MayFollow) (ends : ∀ next ∈ rest.head?, startsWord next = false) :
    (token :: rest).IsChain MayFollow := by
  refine List.isChain_cons.mpr ⟨fun next member => ⟨fun _ => ends next member, ?_⟩, chain⟩
  exact fun comma => absurd comma (mark_ne_of_readScalar reads (by decide))

theorem startsWord_mark {c : Char} (mark : isMark c = true) (rest : List (List Char)) :
    ∀ token ∈ ([c] :: rest).head?, startsWord token = false := by
  simp [startsWord, inWord, mark]

/-- After the name of a field and its colon, anything may follow. -/
theorem isChain_name {token : List Char} {name : String}
    (named : readScalar token = .ok (.str name, [])) {rest : List (List Char)}
    (chain : rest.IsChain MayFollow) : (token :: [':'] :: rest).IsChain MayFollow :=
  isChain_scalar named (isChain_mark (by decide) (by decide) chain) (startsWord_mark (by decide) rest)

/-- The tokens of a part keep apart, also from what follows if this is no word. -/
theorem isChain {part : Part} {written : List (List Char)} (spells : Spells part written)
    {rest : List (List Char)} (chain : rest.IsChain MayFollow)
    (ends : ∀ token ∈ rest.head?, startsWord token = false) :
    (written ++ rest).IsChain MayFollow := by
  -- What follows a part is general, so that a part may be followed by the rest of a larger one.
  induction spells generalizing rest with
  | scalar reads => exact isChain_scalar reads chain ends
  | emptyArray | emptyObject =>
    exact isChain_mark (by decide) (by decide) (isChain_mark (by decide) (by decide) chain)
  | array _ ih | object _ ih => exact isChain_mark (by decide) (by decide) (ih chain ends)
  | lastItem _ ih =>
    rw [List.append_assoc]
    exact ih (isChain_mark (by decide) (by decide) chain) (startsWord_mark (by decide) _)
  | nextItem _ more ih ihMore =>
    rw [List.append_assoc]
    exact ih (isChain_comma more (ihMore chain ends)) (startsWord_mark (by decide) _)
  | lastField named _ ih =>
    rw [List.cons_append, List.cons_append, List.append_assoc]
    apply isChain_name named
    exact ih (isChain_mark (by decide) (by decide) chain) (startsWord_mark (by decide) _)
  | nextField named _ more ih ihMore =>
    rw [List.cons_append, List.cons_append, List.append_assoc]
    apply isChain_name named
    exact ih (isChain_comma more (ihMore chain ends)) (startsWord_mark (by decide) _)

end Spells

/-- A text is read as a value exactly if its tokens spell the value. -/
theorem read_iff_spells {text : List Char} {value : Json} :
    read text = .ok value ↔ Spells (.value value) (tokensOf text) := by
  rw [read_eq_ok]
  constructor
  · rintro ⟨-, after, reads, blank⟩
    have none : tokensOf after = [] := by rw [← tokensOf_skipSpace, blank, tokensOf_nil]
    have ends : startsWord after = false := by
      cases after with
      | nil => rfl
      | cons c rest =>
        have space : isSpace c = true := by
          by_contra visible
          rw [skipSpace_cons (by simpa using visible)] at blank
          cases blank
        simp [startsWord, inWord, space]
    obtain ⟨written, spells, cut⟩ := spells_of_reads _ (.value value) _ _ reads ends
    rw [tokensOf_skipSpace, none, List.append_nil] at cut
    rwa [cut]
  · intro spells
    have enough : (tokensOf text).length ≤ 2 * text.length + 2 := by
      have := length_tokensOf_le text
      omega
    obtain ⟨after, reads, none⟩ := reads_of_spells spells _ enough text [] (by simp)
    refine ⟨?_, after, reads, ?_⟩
    · intro first
      obtain ⟨rest, rfl⟩ := List.head?_eq_some_iff.mp first
      obtain ⟨-, none⟩ | ⟨token, left, start, cut, some, -⟩ := exists_token ('\uFEFF' :: rest)
      · obtain ⟨_, _, whole, -⟩ := spells.not_isClosing
        rw [none] at whole
        cases whole
      · rw [skipSpace_cons (by decide)] at start
        rw [start, List.head?_append_of_ne_nil _ some] at first
        exact head_ne_of_isToken (spells.isToken token (by simp [cut])) first
    · obtain ⟨blank, -⟩ | ⟨token, rest, -, cut, -⟩ := exists_token after
      · exact blank
      · rw [none] at cut
        cases cut

end LeastGrant.Json
