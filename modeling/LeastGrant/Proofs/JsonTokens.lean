import LeastGrant.Json.Reader
import LeastGrant.Proofs.JsonText

/-! The tokens of a JSON text. A text is cut into marks, strings and words; white space between them
is left out. Cutting is total: a text that is no JSON has tokens as well, and a string that is not
closed goes to the end of the text. -/
namespace LeastGrant.Json

/-- Whether a character is a token of its own. -/
def isMark (c : Char) : Bool :=
  c == '[' || c == ']' || c == '\x7b' || c == '\x7d' || c == ',' || c == ':'

/-- Whether a character belongs to a word, which is how numbers and literals are written. -/
def inWord (c : Char) : Bool := !(isSpace c || isMark c || c == '"')

def startsWord : List Char → Bool
  | [] => false
  | c :: _ => inWord c

/-- Where the cut of a text into tokens stands. -/
inductive Cutting where
  | outside
  | string
  | escape

/-- Puts a character in front of the first token. -/
def extendToken (c : Char) : List (List Char) → List (List Char)
  | [] => [[c]]
  | token :: rest => (c :: token) :: rest

def tokensIn : Cutting → List Char → List (List Char)
  | .outside, [] => []
  | _, [] => [[]]
  | .outside, c :: rest =>
    if isSpace c then tokensIn .outside rest
    else if c == '"' then extendToken c (tokensIn .string rest)
    else if inWord c && startsWord rest then extendToken c (tokensIn .outside rest)
    else [c] :: tokensIn .outside rest
  | .string, c :: rest =>
    if c == '"' then [c] :: tokensIn .outside rest
    else extendToken c (tokensIn (if c == '\\' then .escape else .string) rest)
  | .escape, c :: rest => extendToken c (tokensIn .string rest)

/-- The tokens of a text, strings with their quotes. -/
def tokensOf (text : List Char) : List (List Char) := tokensIn .outside text

/-- A string from behind its opening quote up to and with the closing one. -/
inductive StringRest : List Char → Prop
  | close : StringRest ['"']
  | plain {c : Char} {rest : List Char} (quote : c ≠ '"') (backslash : c ≠ '\\')
      (goes : StringRest rest) : StringRest (c :: rest)
  | escaped {c : Char} {rest : List Char} (lineFeed : c ≠ '\n') (goes : StringRest rest) :
      StringRest ('\\' :: c :: rest)

theorem inWord_iff {c : Char} :
    inWord c = true ↔ isSpace c = false ∧ isMark c = false ∧ c ≠ '"' := by
  simp [inWord, and_assoc]

theorem extendToken_cons (c : Char) (token : List Char) (rest : List (List Char)) :
    extendToken c (token :: rest) = (c :: token) :: rest := rfl

theorem tokensOf_nil : tokensOf [] = [] := rfl

theorem tokensOf_cons (c : Char) (rest : List Char) :
    tokensOf (c :: rest) =
      if isSpace c then tokensOf rest
      else if c == '"' then extendToken c (tokensIn .string rest)
      else if inWord c && startsWord rest then extendToken c (tokensOf rest)
      else [c] :: tokensOf rest := rfl

theorem tokensIn_string (c : Char) (rest : List Char) :
    tokensIn .string (c :: rest) =
      if c == '"' then [c] :: tokensOf rest
      else extendToken c (tokensIn (if c == '\\' then .escape else .string) rest) := rfl

theorem tokensIn_escape (c : Char) (rest : List Char) :
    tokensIn .escape (c :: rest) = extendToken c (tokensIn .string rest) := rfl

theorem tokensOf_space {c : Char} (space : isSpace c = true) (rest : List Char) :
    tokensOf (c :: rest) = tokensOf rest := by
  simp [tokensOf_cons, space]

theorem tokensOf_blanks {blanks : List Char} (blank : ∀ c ∈ blanks, isSpace c = true)
    (text : List Char) : tokensOf (blanks ++ text) = tokensOf text := by
  induction blanks with
  | nil => rfl
  | cons c rest ih =>
    rw [List.forall_mem_cons] at blank
    rw [List.cons_append, tokensOf_space blank.1, ih blank.2]

theorem tokensOf_skipSpace (text : List Char) : tokensOf (skipSpace text) = tokensOf text := by
  have parts : text.takeWhile isSpace ++ skipSpace text = text := List.takeWhile_append_dropWhile
  conv_rhs => rw [← parts]
  exact (tokensOf_blanks (List.all_eq_true.mp List.all_takeWhile) _).symm

theorem isSpace_of_isMark {c : Char} (mark : isMark c = true) : isSpace c = false ∧ c ≠ '"' := by
  simp only [isMark, Bool.or_eq_true, beq_iff_eq] at mark
  rcases mark with ((((rfl | rfl) | rfl) | rfl) | rfl) | rfl <;> exact ⟨rfl, by decide⟩

theorem tokensOf_mark {c : Char} (mark : isMark c = true) (rest : List Char) :
    tokensOf (c :: rest) = [c] :: tokensOf rest := by
  obtain ⟨space, quote⟩ := isSpace_of_isMark mark
  simp [tokensOf_cons, space, quote, inWord, mark]

/-- A word goes as far as it can. -/
theorem tokensOf_word {word rest : List Char} (some : word ≠ [])
    (letters : ∀ c ∈ word, inWord c = true) (ends : startsWord rest = false) :
    tokensOf (word ++ rest) = word :: tokensOf rest := by
  induction word with
  | nil => contradiction
  | cons c more ih =>
    rw [List.forall_mem_cons] at letters
    obtain ⟨space, mark, quote⟩ := inWord_iff.mp letters.1
    cases more with
    | nil => simp [tokensOf_cons, space, quote, letters.1, ends]
    | cons d more =>
      have goes : startsWord (d :: more ++ rest) = true := letters.2 d List.mem_cons_self
      rw [List.cons_append, tokensOf_cons, ih (List.cons_ne_nil _ _) letters.2, goes]
      simp [space, quote, letters.1, extendToken_cons]

theorem tokensIn_stringRest {body : List Char} (string : StringRest body) (rest : List Char) :
    tokensIn .string (body ++ rest) = body :: tokensOf rest := by
  induction string with
  | close => rfl
  | plain quote backslash goes ih => simp [tokensIn_string, quote, backslash, ih, extendToken_cons]
  | escaped lineFeed goes ih => simp [tokensIn_string, tokensIn_escape, ih, extendToken_cons]

theorem tokensOf_string {body : List Char} (string : StringRest body) (rest : List Char) :
    tokensOf ('"' :: body ++ rest) = ('"' :: body) :: tokensOf rest := by
  rw [List.cons_append, tokensOf_cons, tokensIn_stringRest string]
  rfl

/-- A string takes the text up to its end, whether it is closed or not. -/
theorem exists_stringToken (text : List Char) :
    (∃ token rest, text = token ++ rest ∧ tokensIn .string text = token :: tokensOf rest) ∧
      ∃ token rest, text = token ++ rest ∧ tokensIn .escape text = token :: tokensOf rest := by
  induction text with
  | nil => exact ⟨⟨[], [], rfl, rfl⟩, ⟨[], [], rfl, rfl⟩⟩
  | cons c text ih =>
    obtain ⟨⟨token, rest, whole, cut⟩, other, left, wholeEscape, cutEscape⟩ := ih
    constructor
    · by_cases quote : c = '"'
      · exact ⟨[c], text, rfl, by simp [tokensIn_string, quote]⟩
      · by_cases backslash : c = '\\'
        · refine ⟨c :: other, left, by rw [wholeEscape, List.cons_append], ?_⟩
          simp [tokensIn_string, backslash, cutEscape, extendToken_cons]
        · refine ⟨c :: token, rest, by rw [whole, List.cons_append], ?_⟩
          simp [tokensIn_string, quote, backslash, cut, extendToken_cons]
    · refine ⟨c :: token, rest, by rw [whole, List.cons_append], ?_⟩
      rw [tokensIn_escape, cut, extendToken_cons]

theorem exists_word {text : List Char} (starts : startsWord text = true) :
    ∃ token rest, text = token ++ rest ∧ tokensOf text = token :: tokensOf rest ∧
      startsWord rest = false := by
  induction text with
  | nil => cases starts
  | cons c text ih =>
    have letter : inWord c = true := starts
    obtain ⟨space, mark, quote⟩ := inWord_iff.mp letter
    cases goes : startsWord text with
    | false => exact ⟨[c], text, rfl, by simp [tokensOf_cons, space, quote, goes], goes⟩
    | true =>
      obtain ⟨token, rest, whole, cut, ends⟩ := ih goes
      refine ⟨c :: token, rest, by rw [whole, List.cons_append], ?_, ends⟩
      simp [tokensOf_cons, space, quote, letter, goes, cut, extendToken_cons]

theorem isSpace_of_skipSpace {text rest : List Char} {c : Char} (start : skipSpace text = c :: rest) :
    isSpace c = false := by
  have visible := List.head?_dropWhile_not isSpace text
  rw [skipSpace] at start
  simpa [start] using visible

/-- The first token stands where the text begins, behind white space, and the others are the tokens
of what follows. -/
theorem exists_token (text : List Char) :
    skipSpace text = [] ∧ tokensOf text = [] ∨
      ∃ token rest, skipSpace text = token ++ rest ∧ tokensOf text = token :: tokensOf rest ∧
        token ≠ [] ∧ (startsWord token = true → startsWord rest = false) := by
  rw [← tokensOf_skipSpace]
  cases start : skipSpace text with
  | nil => exact .inl ⟨rfl, rfl⟩
  | cons c rest =>
    right
    have space := isSpace_of_skipSpace start
    by_cases quote : c = '"'
    · obtain ⟨⟨token, left, whole, cut⟩, -⟩ := exists_stringToken rest
      refine ⟨c :: token, left, by rw [whole, List.cons_append], ?_, List.cons_ne_nil _ _, ?_⟩
      · subst quote
        rw [tokensOf_cons, cut]
        rfl
      · simp [startsWord, inWord, quote]
    · by_cases mark : isMark c = true
      · refine ⟨[c], rest, rfl, tokensOf_mark mark rest, List.cons_ne_nil _ _, ?_⟩
        simp [startsWord, inWord, mark]
      · have starts : startsWord (c :: rest) = true := by simp [startsWord, inWord, space, mark, quote]
        obtain ⟨token, left, whole, cut, ends⟩ := exists_word starts
        refine ⟨token, left, whole, cut, ?_, fun _ => ends⟩
        rintro rfl
        rw [List.nil_append] at whole
        rw [← whole, starts] at ends
        cases ends

theorem length_lt_of_skipSpace {text token rest : List Char} (start : skipSpace text = token ++ rest)
    (some : token ≠ []) : rest.length < text.length := by
  have shorter : (skipSpace text).length ≤ text.length := (List.dropWhile_suffix _).length_le
  have positive := List.length_pos_iff.mpr some
  rw [start, List.length_append] at shorter
  omega

/-- What holds of a text without tokens, and of a text if it holds behind its first token, holds of
every text. -/
theorem tokensOf_induction {motive : List Char → Prop}
    (last : ∀ text, skipSpace text = [] → tokensOf text = [] → motive text)
    (next : ∀ text token rest, skipSpace text = token ++ rest → tokensOf text = token :: tokensOf rest →
      token ≠ [] → motive rest → motive text) (text : List Char) : motive text := by
  induction size : text.length using Nat.strong_induction_on generalizing text with
  | h n ih =>
    obtain ⟨blank, none⟩ | ⟨token, rest, start, cut, some, -⟩ := exists_token text
    · exact last text blank none
    · have shorter := size ▸ length_lt_of_skipSpace start some
      exact next text token rest start cut some (ih rest.length shorter rest rfl)

theorem length_tokensOf_le (text : List Char) : (tokensOf text).length ≤ text.length := by
  induction text using tokensOf_induction with
  | last text blank none => simp [none]
  | next text token rest start cut some ih =>
    have shorter := length_lt_of_skipSpace start some
    rw [cut, List.length_cons]
    omega

end LeastGrant.Json
