import LeastGrant.Proofs.JoinedTexts
import LeastGrant.Proofs.JsonTokens

/-! Scalars as tokens. A number or a literal is a word: reading it does not look past the place where
the word ends. A string ends with its closing quote. So a scalar that is read off a text is one token
of the text, and what it reads as is a matter of this token alone. -/
namespace LeastGrant.Json

theorem takeWhile_append_of_stop {p : Char → Bool} {rest : List Char}
    (stop : ∀ c ∈ rest.head?, p c = false) (text : List Char) :
    (text ++ rest).takeWhile p = text.takeWhile p := by
  induction text with
  | nil => cases rest <;> simp_all
  | cons c text ih => simp [List.takeWhile_cons, ih]

theorem dropWhile_append_of_stop {p : Char → Bool} {rest : List Char}
    (stop : ∀ c ∈ rest.head?, p c = false) (text : List Char) :
    (text ++ rest).dropWhile p = text.dropWhile p ++ rest := by
  induction text with
  | nil => cases rest <;> simp_all
  | cons c text ih =>
    simp only [List.cons_append, List.dropWhile_cons, ih]
    split <;> rfl

/-- Whether a character occurs in numbers and literals. -/
def isLetter (c : Char) : Bool := c.isAlphanum || c == '+' || c == '-' || c == '.'

theorem inWord_of_isLetter {c : Char} (letter : isLetter c = true) : inWord c = true := by
  by_contra other
  simp only [inWord, isSpace, isMark, Bool.not_eq_true, Bool.not_eq_false', Bool.or_eq_true,
    beq_iff_eq] at other
  rcases other with
    ((((rfl | rfl) | rfl) | rfl) | (((((rfl | rfl) | rfl) | rfl) | rfl) | rfl)) | rfl <;> cases letter

theorem isLetter_of_literals :
    ∀ entry ∈ literals, ∀ c ∈ entry.1, isLetter c = true := by
  have all : literals.all (fun entry => entry.1.all isLetter) = true := by decide +kernel
  simpa only [List.all_eq_true] using all

/-- The sign of an exponent, and the text behind it. -/
def signOf : List Char → Int × List Char
  | '-' :: rest => (-1, rest)
  | '+' :: rest => (1, rest)
  | text => (1, text)

theorem exponent_cons {c : Char} (letter : (c == 'e' || c == 'E') = true) (text : List Char) :
    exponent (c :: text) =
      if (signOf text).2.takeWhile Char.isDigit = [] then (none, c :: text)
      else (some ((signOf text).1 * decimalValue ((signOf text).2.takeWhile Char.isDigit)),
        (signOf text).2.dropWhile Char.isDigit) := by
  unfold exponent
  simp only [letter, if_true]
  unfold signOf
  split
  · rename_i none
    exact (if_pos none).symm
  · rename_i some
    exact (if_neg some).symm

section Break

variable {rest : List Char} (ends : startsWord rest = false)
include ends

theorem stop_of_break {p : Char → Bool} (letters : ∀ c, p c = true → isLetter c = true) :
    ∀ c ∈ rest.head?, p c = false := by
  cases rest with
  | nil => simp
  | cons c rest =>
    have other : inWord c = false := ends
    simp only [List.head?_cons, Option.mem_def, Option.some_inj, forall_eq']
    by_contra letter
    rw [inWord_of_isLetter (letters c (by simpa using letter))] at other
    cases other

theorem head_ne_of_break {c : Char} (letter : isLetter c = true) (tail : List Char) :
    rest ≠ c :: tail := by
  rintro rfl
  have other : inWord c = false := ends
  rw [inWord_of_isLetter letter] at other
  cases other

theorem isDigit_stop : ∀ c ∈ rest.head?, c.isDigit = false :=
  stop_of_break ends fun c digit => by simp [isLetter, Char.isAlphanum, digit]

theorem fraction_append (text : List Char) :
    fraction (text ++ rest) = ((fraction text).1, (fraction text).2 ++ rest) := by
  cases text with
  | nil =>
    have plain := head_ne_of_break ends (c := '.') (by decide)
    simp only [List.nil_append, fraction]
  | cons c text =>
    by_cases point : c = '.'
    · subst point
      simp only [List.cons_append, fraction, takeWhile_append_of_stop (isDigit_stop ends),
        dropWhile_append_of_stop (isDigit_stop ends)]
      split <;> simp
    · simp [fraction, point]

theorem wholePart?_append (text : List Char) :
    wholePart? (text ++ rest) = (wholePart? text).map fun found => (found.1, found.2 ++ rest) := by
  cases text with
  | nil =>
    have plain := isDigit_stop ends
    cases rest with
    | nil => rfl
    | cons c rest =>
      have zero : c ≠ '0' := by
        rintro rfl
        exact absurd (plain '0' rfl) (by decide)
      simp [wholePart?, plain c rfl]
  | cons c text =>
    by_cases zero : c = '0'
    · simp [wholePart?, zero]
    · have takes := takeWhile_append_of_stop (isDigit_stop ends) (c :: text)
      have drops := dropWhile_append_of_stop (isDigit_stop ends) (c :: text)
      rw [List.cons_append] at takes drops
      simp only [List.cons_append, wholePart?, takes, drops]
      split <;> simp

theorem signOf_append (text : List Char) :
    signOf (text ++ rest) = ((signOf text).1, (signOf text).2 ++ rest) := by
  cases text with
  | nil =>
    have plus := head_ne_of_break ends (c := '+') (by decide)
    have minus := head_ne_of_break ends (c := '-') (by decide)
    simp [signOf]
  | cons c text =>
    by_cases minus : c = '-'
    · simp [signOf, minus]
    · by_cases plus : c = '+'
      · simp [signOf, plus]
      · simp [signOf, minus, plus]

theorem exponent_append (text : List Char) :
    exponent (text ++ rest) = ((exponent text).1, (exponent text).2 ++ rest) := by
  cases text with
  | nil =>
    have lower := head_ne_of_break ends (c := 'e') (by decide)
    have upper := head_ne_of_break ends (c := 'E') (by decide)
    cases rest with
    | nil => rfl
    | cons c rest => simp_all [exponent]
  | cons c text =>
    by_cases letter : (c == 'e' || c == 'E') = true
    · rw [List.cons_append, exponent_cons letter, exponent_cons letter, signOf_append ends,
        takeWhile_append_of_stop (isDigit_stop ends), dropWhile_append_of_stop (isDigit_stop ends)]
      split <;> rfl
    · simp [exponent, letter]

theorem isPrefixOf_append {word : List Char} (letters : ∀ c ∈ word, isLetter c = true)
    (text : List Char) : word.isPrefixOf (text ++ rest) = word.isPrefixOf text := by
  induction word generalizing text with
  | nil => simp
  | cons c word ih =>
    rw [List.forall_mem_cons] at letters
    cases text with
    | nil =>
      have other := head_ne_of_break ends letters.1
      cases rest with
      | nil => rfl
      | cons d rest =>
        have apart : (c == d) = false := by
          rw [beq_eq_false_iff_ne]
          rintro rfl
          exact other rest rfl
        simp [List.isPrefixOf, apart]
    | cons d text => simp [List.isPrefixOf, ih letters.2]

theorem literal?_append (text : List Char) :
    literal? (text ++ rest) = (literal? text).map fun found => (found.1, found.2 ++ rest) := by
  have letters := isLetter_of_literals
  unfold literal?
  generalize literals = entries at letters ⊢
  induction entries with
  | nil => rfl
  | cons entry entries ih =>
    rw [List.forall_mem_cons] at letters
    rw [List.findSome?_cons, List.findSome?_cons, ih letters.2]
    simp only [isPrefixOf_append ends letters.1]
    by_cases starts : entry.1.isPrefixOf text = true
    · have fits := (List.isPrefixOf_iff_prefix.mp starts).length_le
      simp [starts, List.drop_append_of_le_length fits]
    · simp [starts]

theorem exceedsLimit_append {text : List Char} (some : text ≠ []) :
    exceedsLimit (text ++ rest) = exceedsLimit text := by
  have takes := takeWhile_append_of_stop (isDigit_stop ends)
  cases text with
  | nil => contradiction
  | cons c text =>
    by_cases minus : c = '-'
    · simp [exceedsLimit, minus, takes]
    · have takesAll := takes (c :: text)
      rw [List.cons_append] at takesAll
      simp [exceedsLimit, minus, takesAll]

theorem number?_append (text : List Char) :
    number? (text ++ rest) = (number? text).map fun found => (found.1, found.2 ++ rest) := by
  cases text with
  | nil =>
    have minus := head_ne_of_break ends (c := '-') (by decide)
    have whole := wholePart?_append ends []
    rw [List.nil_append] at whole
    simp only [List.nil_append, number?, whole]
    rfl
  | cons c text =>
    by_cases minus : c = '-'
    · subst minus
      simp only [List.cons_append, number?, wholePart?_append ends]
      cases wholePart? text with
      | none => rfl
      | some whole =>
        simp only [Option.map_some, fraction_append ends, exponent_append ends]
        split <;> rfl
    · have whole := wholePart?_append ends (c :: text)
      rw [List.cons_append] at whole
      have unsigned : ∀ more, c :: text ≠ '-' :: more := by simp [minus]
      have unsigned' : ∀ more, c :: (text ++ rest) ≠ '-' :: more := by simp [minus]
      simp only [List.cons_append, number?, whole]
      cases wholePart? (c :: text) with
      | none => rfl
      | some whole =>
        simp only [Option.map_some, fraction_append ends, exponent_append ends]
        split <;> rfl

theorem readScalar_append {text : List Char} (some : text ≠ []) (plain : text.head? ≠ Option.some '"')
    {value : Json} {after : List Char} :
    readScalar (text ++ rest) = .ok (value, after ++ rest) ↔
      readScalar text = .ok (value, after) := by
  cases text with
  | nil => contradiction
  | cons c text =>
    have unquoted : ∀ more, c :: text ≠ '"' :: more := by simpa using plain
    have unquoted' : ∀ more, c :: (text ++ rest) ≠ '"' :: more := by simpa using plain
    have literal := literal?_append ends (c :: text)
    have number := number?_append ends (c :: text)
    have limit := exceedsLimit_append ends (List.cons_ne_nil c text)
    rw [List.cons_append] at literal number limit
    simp only [List.cons_append, readScalar, literal, number, limit]
    cases literal? (c :: text) with
    | some found => simp [Prod.ext_iff]
    | none =>
      cases number? (c :: text) with
      | none => simp
      | some found =>
        obtain ⟨number, left⟩ := found
        cases number with
        | int n =>
          simp only [Option.map_some, Option.map_none]
          split <;> simp
        | _ => simp

end Break

/-- A text goes on with letters up to where another begins, which is its end. -/
def LettersTo (text rest : List Char) : Prop :=
  ∃ word, text = word ++ rest ∧ ∀ c ∈ word, isLetter c = true

namespace LettersTo

theorem refl (text : List Char) : LettersTo text text := ⟨[], rfl, by simp⟩

theorem trans {a b c : List Char} (first : LettersTo a b) (second : LettersTo b c) :
    LettersTo a c := by
  obtain ⟨word, rfl, letters⟩ := first
  obtain ⟨more, rfl, others⟩ := second
  refine ⟨word ++ more, (List.append_assoc ..).symm, ?_⟩
  exact List.forall_mem_append.mpr ⟨letters, others⟩

theorem cons {c : Char} (letter : isLetter c = true) (text : List Char) : LettersTo (c :: text) text :=
  ⟨[c], rfl, by simpa using letter⟩

theorem digits (text : List Char) : LettersTo text (text.dropWhile Char.isDigit) := by
  refine ⟨text.takeWhile Char.isDigit, List.takeWhile_append_dropWhile.symm, fun c member => ?_⟩
  have digit := List.all_eq_true.mp List.all_takeWhile c member
  simp [isLetter, Char.isAlphanum, digit]

end LettersTo

theorem lettersTo_wholePart? {text whole rest : List Char}
    (found : wholePart? text = some (whole, rest)) : LettersTo text rest := by
  unfold wholePart? at found
  split at found
  · cases found
    exact .cons (by decide) _
  · split at found <;> cases found
    exact .digits _
  · cases found

theorem lettersTo_fraction (text : List Char) : LettersTo text (fraction text).2 := by
  unfold fraction
  split
  · split
    · exact .refl _
    · exact (LettersTo.cons (by decide) _).trans (.digits _)
  · exact .refl _

theorem lettersTo_signOf (text : List Char) : LettersTo text (signOf text).2 := by
  unfold signOf
  split
  · exact .cons (by decide) _
  · exact .cons (by decide) _
  · exact .refl _

theorem lettersTo_exponent (text : List Char) : LettersTo text (exponent text).2 := by
  cases text with
  | nil => exact .refl _
  | cons c text =>
    by_cases letter : (c == 'e' || c == 'E') = true
    · have alike : isLetter c = true := by
        rw [Bool.or_eq_true, beq_iff_eq, beq_iff_eq] at letter
        rcases letter with rfl | rfl <;> decide
      rw [exponent_cons letter]
      split
      · exact .refl _
      · exact (LettersTo.cons alike text).trans ((lettersTo_signOf text).trans (.digits _))
    · simpa [exponent, letter] using LettersTo.refl (c :: text)

theorem lettersTo_number? {text rest : List Char} {value : Json}
    (found : number? text = some (value, rest)) : LettersTo text rest := by
  unfold number? at found
  dsimp only at found
  split at found
  · cases found
  · rename_i whole after begins
    have parts : LettersTo after rest := by
      refine (lettersTo_fraction after).trans ((lettersTo_exponent _).trans ?_)
      split at found <;> cases found <;> exact .refl _
    refine LettersTo.trans ?_ ((lettersTo_wholePart? begins).trans parts)
    split
    · exact .cons (by decide) _
    · exact .refl _

theorem lettersTo_literal? {text rest : List Char} {value : Json}
    (found : literal? text = some (value, rest)) : LettersTo text rest := by
  have letters := isLetter_of_literals
  obtain ⟨entry, member, same⟩ := List.exists_of_findSome?_eq_some found
  dsimp only at same
  split at same
  · rename_i starts
    cases same
    refine ⟨entry.1, ?_, letters entry member⟩
    exact (List.prefix_iff_eq_append.mp (List.isPrefixOf_iff_prefix.mp starts)).symm
  · cases same

theorem ne_of_hexValue? {c : Char} {value : Nat} (digit : hexValue? c = some value) :
    c ≠ '"' ∧ c ≠ '\\' := by
  constructor <;> rintro rfl <;> cases digit

theorem readCodes_unit (opening : Nat) {a b c d : Char} {code : Nat} (unit : unit? a b c d = some code)
    {rest : List Char} (more : rest ≠ []) :
    readCodes opening ('\\' :: 'u' :: a :: b :: c :: d :: rest) =
      prepend code (readCodes opening rest) := by
  have going : rest.isEmpty = false := List.isEmpty_eq_false_iff.mpr more
  simp [readCodes, unit, going]

theorem StringRest.ne_nil {body : List Char} (string : StringRest body) : body ≠ [] := by
  cases string <;> simp

theorem StringRest.unit {a b c d : Char} {code : Nat} (unit : unit? a b c d = some code)
    {rest : List Char} (string : StringRest rest) :
    StringRest ('\\' :: 'u' :: a :: b :: c :: d :: rest) := by
  simp only [unit?, Option.bind_eq_bind, Option.bind_eq_some_iff] at unit
  obtain ⟨_, first, _, second, _, third, _, fourth, -⟩ := unit
  have goes {c : Char} {value : Nat} {rest : List Char} (digit : hexValue? c = some value)
      (string : StringRest rest) : StringRest (c :: rest) :=
    .plain (ne_of_hexValue? digit).1 (ne_of_hexValue? digit).2 string
  exact .escaped (by decide) (goes first (goes second (goes third (goes fourth string))))

/-- A string is read up to its closing quote, whatever comes behind. -/
theorem stringRest_of_readCodes {opening : Nat} {text after : List Char} {codes : List Nat}
    (reads : readCodes opening text = .ok (codes, after)) :
    ∃ body, text = body ++ after ∧ StringRest body ∧
      ∀ opening other, readCodes opening (body ++ other) = .ok (codes, other) := by
  fun_induction readCodes opening text generalizing codes with
  | case2 tail =>
    cases reads
    exact ⟨['"'], rfl, .close, fun _ _ => rfl⟩
  | case6 a b c d tail code unit _ ih =>
    obtain ⟨others, rfl, later⟩ := ok_of_prepend reads
    obtain ⟨body, rfl, string, same⟩ := ih later
    refine ⟨'\\' :: 'u' :: a :: b :: c :: d :: body, rfl, .unit unit string, fun opening other => ?_⟩
    have more : body ++ other ≠ [] := List.append_ne_nil_of_left_ne_nil string.ne_nil other
    simp only [List.cons_append, readCodes_unit opening unit more, same, prepend]
  | case9 c tail _ code escape means ih =>
    obtain ⟨others, rfl, later⟩ := ok_of_prepend reads
    obtain ⟨body, rfl, string, same⟩ := ih later
    have lineFeed : c ≠ '\n' := by
      rintro rfl
      cases means
    have apart : c ≠ 'u' := by
      rintro rfl
      cases means
    refine ⟨'\\' :: c :: body, rfl, .escaped lineFeed string, fun opening other => ?_⟩
    simp only [List.cons_append, readCodes_escape opening _ apart means, same, prepend]
  | case11 c tail quote lone unit long escape visible ih =>
    obtain ⟨others, rfl, later⟩ := ok_of_prepend reads
    obtain ⟨body, rfl, string, same⟩ := ih later
    have backslash : c ≠ '\\' := by
      intro slash
      cases string <;> exact escape _ _ slash rfl
    refine ⟨c :: body, rfl, .plain quote backslash string, fun opening other => ?_⟩
    have shown : 0x20 ≤ c.toNat := by omega
    simp only [List.cons_append, readCodes_plain opening _ quote backslash shown, same, prepend]
  | _ => cases reads

theorem readScalar_break {rest : List Char} (ends : startsWord rest = false)
    (plain : rest.head? ≠ some '"') : readScalar rest = .error ⟨.expectingValue, rest.length⟩ := by
  have unquoted : ∀ more, rest ≠ '"' :: more := by
    rintro more rfl
    exact plain rfl
  have literal := literal?_append ends []
  have number := number?_append ends []
  rw [List.nil_append] at literal number
  simp only [readScalar, literal, number]
  rfl

theorem readScalar_mark {c : Char} (mark : isMark c = true) (rest : List Char) :
    readScalar (c :: rest) = .error ⟨.expectingValue, rest.length + 1⟩ := by
  apply readScalar_break
  · simp [startsWord, inWord, mark]
  · simpa using (isSpace_of_isMark mark).2

theorem exists_of_readScalar_quote {text after : List Char} {value : Json}
    (reads : readScalar ('"' :: text) = .ok (value, after)) :
    ∃ body, text = body ++ after ∧ StringRest body ∧
      ∀ other, readScalar ('"' :: body ++ other) = .ok (value, other) := by
  simp only [readScalar, readString, List.length_cons] at reads
  cases found : readCodes (text.length + 1) text with
  | error fault => simp [found] at reads
  | ok codes =>
    obtain ⟨body, whole, string, same⟩ := stringRest_of_readCodes found
    simp only [found, Except.ok.injEq, Prod.mk.injEq] at reads
    obtain ⟨rfl, rfl⟩ := reads
    exact ⟨body, whole, string, fun other => by simp [readScalar, readString, same]⟩

theorem lettersTo_readScalar {text after : List Char} {value : Json}
    (plain : text.head? ≠ some '"') (reads : readScalar text = .ok (value, after)) :
    LettersTo text after := by
  unfold readScalar at reads
  split at reads
  · exact absurd rfl plain
  · split at reads
    · rename_i found
      cases reads
      exact lettersTo_literal? found
    · split at reads
      · rename_i found
        split at reads <;> cases reads
        exact lettersTo_number? found
      · rename_i found
        cases reads
        exact lettersTo_number? found
      · cases reads

/-- What is read as a scalar up to where no word goes on is one token, and reads as this scalar by
itself. -/
theorem exists_scalarToken {text after : List Char} {value : Json}
    (reads : readScalar text = .ok (value, after)) (ends : startsWord after = false) :
    ∃ token, readScalar token = .ok (value, []) ∧ tokensOf text = token :: tokensOf after := by
  by_cases quoted : text.head? = some '"'
  · obtain ⟨rest, rfl⟩ := List.head?_eq_some_iff.mp quoted
    obtain ⟨body, rfl, string, same⟩ := exists_of_readScalar_quote reads
    exact ⟨'"' :: body, by simpa using same [], tokensOf_string string after⟩
  · obtain ⟨word, rfl, letters⟩ := lettersTo_readScalar quoted reads
    have some : word ≠ [] := by
      rintro rfl
      rw [List.nil_append] at reads quoted
      rw [readScalar_break ends quoted] at reads
      cases reads
    have plain : word.head? ≠ Option.some '"' := by
      rwa [List.head?_append_of_ne_nil _ some] at quoted
    refine ⟨word, (readScalar_append ends some plain).mp reads, ?_⟩
    exact tokensOf_word some (fun c member => inWord_of_isLetter (letters c member)) ends

/-- A token that reads as a scalar by itself does so in a text that is cut behind it. -/
theorem readScalar_token {token rest : List Char} {value : Json}
    (reads : readScalar token = .ok (value, []))
    (ends : startsWord token = true → startsWord rest = false) :
    readScalar (token ++ rest) = .ok (value, rest) := by
  by_cases quoted : token.head? = some '"'
  · obtain ⟨body, rfl⟩ := List.head?_eq_some_iff.mp quoted
    obtain ⟨string, rfl, -, same⟩ := exists_of_readScalar_quote reads
    simpa using same rest
  · have word : startsWord token = true := by
      by_contra other
      rw [readScalar_break (by simpa using other) quoted] at reads
      cases reads
    have some : token ≠ [] := by
      rintro rfl
      cases word
    exact (readScalar_append (ends word) some quoted).mpr reads

/-- Only a string reads as a text. -/
theorem exists_of_readScalar_str {text after : List Char} {name : String}
    (reads : readScalar text = .ok (.str name, after)) :
    ∃ body chars, text = '"' :: body ∧ readString text.length body = .ok (chars, after) ∧
      name = String.ofList chars := by
  unfold readScalar at reads
  split at reads
  · split at reads <;> cases reads
    rename_i found
    exact ⟨_, _, rfl, found, rfl⟩
  · exfalso
    split at reads
    · rename_i found
      have texts : ∀ entry ∈ literals, ∀ name, entry.2 ≠ .str name := by simp [literals]
      obtain ⟨entry, member, same⟩ := List.exists_of_findSome?_eq_some found
      dsimp only at same
      cases reads
      split at same
      · exact texts entry member name (Prod.mk.inj (Option.some.inj same)).1
      · cases same
    · split at reads
      · split at reads <;> cases reads
      · rename_i found
        cases reads
        unfold number? at found
        dsimp only at found
        split at found
        · cases found
        · split at found <;> cases found
      · cases reads

theorem name_of_readString {opening : Nat} {body name after : List Char}
    (reads : readString opening body = .ok (name, after)) :
    ∃ token, readScalar token = .ok (.str (String.ofList name), []) ∧
      tokensOf ('"' :: body) = token :: tokensOf after := by
  unfold readString at reads
  split at reads
  · rename_i codes left found
    cases reads
    obtain ⟨body, rfl, string, same⟩ := stringRest_of_readCodes found
    refine ⟨'"' :: body, ?_, tokensOf_string string after⟩
    have alone := same (body.length + 1) []
    rw [List.append_nil] at alone
    simp [readScalar, readString, alone]
  · cases reads

theorem mark_ne_of_readScalar {token : List Char} {value : Json}
    (reads : readScalar token = .ok (value, [])) {c : Char} (mark : isMark c = true) :
    token ≠ [c] := by
  rintro rfl
  rw [readScalar_mark mark] at reads
  cases reads

/-- A token as JSON has them. -/
inductive IsToken : List Char → Prop
  | mark {c : Char} (mark : isMark c = true) : IsToken [c]
  | string {body : List Char} (string : StringRest body) : IsToken ('"' :: body)
  | word {word : List Char} (some : word ≠ []) (letters : ∀ c ∈ word, isLetter c = true) :
      IsToken word

theorem isToken_of_readScalar {token : List Char} {value : Json}
    (reads : readScalar token = .ok (value, [])) : IsToken token := by
  by_cases quoted : token.head? = some '"'
  · obtain ⟨body, rfl⟩ := List.head?_eq_some_iff.mp quoted
    obtain ⟨string, rfl, closed, -⟩ := exists_of_readScalar_quote reads
    rw [List.append_nil]
    exact .string closed
  · obtain ⟨word, rfl, letters⟩ := lettersTo_readScalar quoted reads
    rw [List.append_nil] at reads ⊢
    refine .word ?_ letters
    rintro rfl
    cases reads

theorem head_ne_of_isToken {token : List Char} (isToken : IsToken token) :
    token.head? ≠ some '\uFEFF' := by
  cases isToken with
  | mark mark =>
    rintro ⟨⟩
    cases mark
  | string => simp
  | word some letters =>
    intro first
    exact absurd (letters _ (List.mem_of_head? first)) (by decide)

theorem IsToken.ne_nil {token : List Char} (isToken : IsToken token) : token ≠ [] := by
  cases isToken with
  | mark | string => exact List.cons_ne_nil _ _
  | word some => exact some

theorem IsToken.tokens_append {token : List Char} (isToken : IsToken token) {text : List Char}
    (ends : startsWord token = true → startsWord text = false) :
    tokensOf (token ++ text) = token :: tokensOf text := by
  cases isToken with
  | mark mark => exact tokensOf_mark mark text
  | string string => exact tokensOf_string string text
  | word some letters =>
    refine tokensOf_word some (fun c member => inWord_of_isLetter (letters c member)) (ends ?_)
    obtain ⟨c, rest, rfl⟩ := List.exists_cons_of_ne_nil some
    exact inWord_of_isLetter (letters c List.mem_cons_self)

end LeastGrant.Json
