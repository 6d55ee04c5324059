import LeastGrant.Json.Relaxed
import LeastGrant.Proofs.JsonGrammar

/-! Relaxed JSON. A text that writes the tokens of a JSON text with comments and white space between
them, and with commas behind last elements, is read as the JSON text is. The argument follows the
tokens: taking out the comments leaves each token as it is and white space between them, and taking
out the trailing commas leaves the tokens that the commas were added to. Marks, strings and words pass
both alike, so what a string holds is never seen. -/
namespace LeastGrant.Json

open Text

/-- White space and comments. A line comment at the end of a text needs no line feed. -/
inductive Gap : (last : Bool) → List Char → Prop
  | nil {last : Bool} : Gap last []
  | space {last : Bool} {c : Char} {rest : List Char} (space : isSpace c = true)
      (goes : Gap last rest) : Gap last (c :: rest)
  | block {last : Bool} {body rest : List Char} (unclosed : ¬['*', '/'] <:+: body)
      (goes : Gap last rest) : Gap last ('/' :: '*' :: (body ++ '*' :: '/' :: rest))
  | line {last : Bool} {body rest : List Char} (oneLine : '\n' ∉ body) (goes : Gap last rest) :
      Gap last ('/' :: '/' :: (body ++ '\n' :: rest))
  | cut {body : List Char} (oneLine : '\n' ∉ body) : Gap true ('/' :: '/' :: body)

/-- White space alone, the same at the end of a text as before a token. -/
def Blank (_ : Bool) (text : List Char) : Prop := ∀ c ∈ text, isSpace c = true

/-- A text is made of tokens, with gaps between them and at both ends. -/
inductive Interleaved (gap : Bool → List Char → Prop) : List (List Char) → List Char → Prop
  | last {blanks : List Char} (ends : gap true blanks) : Interleaved gap [] blanks
  | next {blanks token text : List Char} {rest : List (List Char)} (before : gap false blanks)
      (goes : Interleaved gap rest text) :
      Interleaved gap (token :: rest) (blanks ++ (token ++ text))

def isOpening (token : List Char) : Bool := token == ['['] || token == ['\x7b']

/-- Commas are put in behind the last elements of arrays and objects; `before` is the token in front
of those that are written. -/
inductive TrailingCommas : (before : List Char) → List (List Char) → List (List Char) → Prop
  | nil {before : List Char} : TrailingCommas before [] []
  | keep {before token : List Char} {rest more : List (List Char)}
      (goes : TrailingCommas token rest more) : TrailingCommas before (token :: rest) (token :: more)
  | comma {before token : List Char} {rest more : List (List Char)} (closes : isClosing token = true)
      (filled : isOpening before = false) (goes : TrailingCommas token rest more) :
      TrailingCommas before (token :: rest) ([','] :: token :: more)

/-- A text writes tokens with comments, white space and trailing commas. -/
def Renders (written : List (List Char)) (text : List Char) : Prop :=
  ∃ more, TrailingCommas [] written more ∧ Interleaved Gap more text

/-- Characters that pass stay in front of what is left of the rest. -/
theorem append_of_passes {left : List Char → List Char} {plains : List Char}
    (passes : ∀ c ∈ plains, ∀ rest, left (c :: rest) = c :: left rest) (text : List Char) :
    left (plains ++ text) = plains ++ left text := by
  induction plains with
  | nil => rfl
  | cons c rest ih =>
    rw [List.forall_mem_cons] at passes
    rw [List.cons_append, passes.1, ih passes.2, List.cons_append]

/-! ## Comments -/

theorem dropComments_nil (inside : Inside) : dropComments inside [] = [] := by
  cases inside <;> rfl

theorem dropComments_string (c : Char) (rest : List Char) :
    dropComments .string (c :: rest) =
      c :: dropComments (if c == '"' then .nothing else if c == '\\' then .escape else .string)
        rest := rfl

theorem dropComments_escape (c : Char) (rest : List Char) :
    dropComments .escape (c :: rest) = c :: dropComments .string rest := rfl

theorem dropComments_lineComment (c : Char) (rest : List Char) :
    dropComments .lineComment (c :: rest) =
      if c == '\n' then c :: dropComments .nothing rest else dropComments .lineComment rest := rfl

theorem dropComments_openLine (rest : List Char) :
    dropComments .nothing ('/' :: '/' :: rest) = dropComments .lineComment rest := rfl

theorem dropComments_openBlock (rest : List Char) :
    dropComments .nothing ('/' :: '*' :: rest) =
      if closesComment rest then dropComments .blockComment rest
      else '/' :: '*' :: dropComments .nothing rest := rfl

theorem dropComments_quote (rest : List Char) :
    dropComments .nothing ('"' :: rest) =
      '"' :: dropComments (if closesString true rest then .string else .nothing) rest := rfl

theorem dropComments_plain {c : Char} (slash : c ≠ '/') (quote : c ≠ '"') (rest : List Char) :
    dropComments .nothing (c :: rest) = c :: dropComments .nothing rest := by
  simp [dropComments, slash, quote]

theorem dropComments_line {body : List Char} (oneLine : '\n' ∉ body) (rest : List Char) :
    dropComments .lineComment (body ++ '\n' :: rest) = '\n' :: dropComments .nothing rest := by
  induction body with
  | nil => rfl
  | cons c body ih =>
    rw [List.mem_cons, not_or] at oneLine
    simp [dropComments_lineComment, Ne.symm oneLine.1, ih oneLine.2]

theorem dropComments_cut {body : List Char} (oneLine : '\n' ∉ body) :
    dropComments .lineComment body = [] := by
  induction body with
  | nil => rfl
  | cons c body ih =>
    rw [List.mem_cons, not_or] at oneLine
    simp [dropComments_lineComment, Ne.symm oneLine.1, ih oneLine.2]

theorem closesComment_append (body rest : List Char) :
    closesComment (body ++ '*' :: '/' :: rest) = true := by
  induction body with
  | nil => rfl
  | cons c body ih =>
    rw [List.cons_append, closesComment.eq_def]
    split
    · contradiction
    · rfl
    · rename_i same
      cases same
      exact ih

theorem dropComments_block {body : List Char} (unclosed : ¬['*', '/'] <:+: body) (rest : List Char) :
    dropComments .blockComment (body ++ '*' :: '/' :: rest) = dropComments .nothing rest := by
  induction body with
  | nil => rfl
  | cons c body ih =>
    -- The body goes on, so its first two characters are no `*/`, and neither are its last one and
    -- the `*` behind it.
    have early : ∀ tail, c = '*' → body ++ '*' :: '/' :: rest = '/' :: tail → False := by
      rintro tail rfl starts
      cases body with
      | nil => cases starts
      | cons d body =>
        cases starts
        exact unclosed (List.prefix_append ['*', '/'] body).isInfix
    rw [List.cons_append, dropComments, ih fun found =>
      unclosed (found.trans (List.suffix_cons c body).isInfix)]
    exact early

theorem closesString_append {body : List Char} (string : StringRest body) (breaks : Bool)
    (rest : List Char) : closesString breaks (body ++ rest) = true := by
  induction string with
  | close => rfl
  | plain quote backslash goes ih =>
    rw [List.cons_append, closesString, ih] <;> simp [quote, backslash]
  | escaped lineFeed goes ih => simp [closesString, lineFeed, ih]

theorem dropComments_stringRest {body : List Char} (string : StringRest body) (rest : List Char) :
    dropComments .string (body ++ rest) = body ++ dropComments .nothing rest := by
  induction string with
  | close => rfl
  | plain quote backslash goes ih => simp [dropComments_string, quote, backslash, ih]
  | escaped lineFeed goes ih => simp [dropComments_string, dropComments_escape, ih]

/-- Of a gap, white space is left. -/
theorem dropComments_gap {last : Bool} {blanks : List Char} (gap : Gap last blanks) :
    ∃ clean, Blank last clean ∧ ∀ text, (last = true → text = []) →
      dropComments .nothing (blanks ++ text) = clean ++ dropComments .nothing text := by
  induction gap with
  | nil => exact ⟨[], by simp [Blank], fun _ _ => rfl⟩
  | @space last c rest space goes ih =>
    obtain ⟨clean, blank, same⟩ := ih
    have plain : c ≠ '/' ∧ c ≠ '"' := by
      constructor <;> rintro rfl <;> cases space
    refine ⟨c :: clean, List.forall_mem_cons.mpr ⟨space, blank⟩, fun text ends => ?_⟩
    rw [List.cons_append, dropComments_plain plain.1 plain.2, same text ends, List.cons_append]
  | @block last body rest unclosed goes ih =>
    obtain ⟨clean, blank, same⟩ := ih
    refine ⟨clean, blank, fun text ends => ?_⟩
    simp [dropComments_openBlock, closesComment_append, dropComments_block unclosed, same text ends]
  | @line last body rest oneLine goes ih =>
    obtain ⟨clean, blank, same⟩ := ih
    refine ⟨'\n' :: clean, List.forall_mem_cons.mpr ⟨by decide, blank⟩, fun text ends => ?_⟩
    simp [dropComments_openLine, dropComments_line oneLine, same text ends]
  | @cut body oneLine =>
    refine ⟨[], by simp [Blank], fun text ends => ?_⟩
    simp [ends rfl, dropComments_openLine, dropComments_cut oneLine, dropComments_nil]

theorem dropComments_token {token : List Char} (isToken : IsToken token) (text : List Char) :
    dropComments .nothing (token ++ text) = token ++ dropComments .nothing text := by
  cases isToken with
  | mark mark =>
    refine dropComments_plain ?_ (isSpace_of_isMark mark).2 text
    rintro rfl
    cases mark
  | string string =>
    simp [dropComments_quote, closesString_append string, dropComments_stringRest string]
  | word some letters =>
    refine append_of_passes (fun c member => ?_) text
    have letter := letters c member
    apply dropComments_plain <;> rintro rfl <;> cases letter

/-- Without its comments, a text has the same tokens between white space. -/
theorem interleaved_dropComments {written : List (List Char)} {text : List Char}
    (whole : Interleaved Gap written text) (isToken : ∀ token ∈ written, IsToken token) :
    Interleaved Blank written (dropComments .nothing text) := by
  induction whole with
  | @last blanks ends =>
    obtain ⟨clean, blank, same⟩ := dropComments_gap ends
    have alone := same [] fun _ => rfl
    rw [List.append_nil, dropComments_nil, List.append_nil] at alone
    rw [alone]
    exact .last blank
  | @next blanks token text rest before goes ih =>
    obtain ⟨clean, blank, same⟩ := dropComments_gap before
    rw [List.forall_mem_cons] at isToken
    rw [same _ (by simp), dropComments_token isToken.1]
    exact .next blank (ih isToken.2)

/-! ## Trailing commas -/

theorem isBlank_of_isSpace {c : Char} (space : isSpace c = true) : isBlank c = true := by
  simp only [isSpace, Bool.or_eq_true, beq_iff_eq] at space
  obtain ((rfl | rfl) | rfl) | rfl := space <;> decide

theorem toNat_of_isAlphanum {c : Char} (alphanum : c.isAlphanum = true) :
    48 ≤ c.toNat ∧ c.toNat ≤ 122 := by
  change ((decide (65 ≤ c.val ∧ c.val ≤ 90) || (97 ≤ c.val && c.val ≤ 122)) ||
    (48 ≤ c.val && c.val ≤ 57)) = true at alphanum
  simp only [Bool.or_eq_true, Bool.and_eq_true, decide_eq_true_eq, UInt32.le_iff_toNat_le,
    UInt32.reduceToNat, Char.toNat_val] at alphanum
  omega

theorem isBlank_of_isLetter {c : Char} (letter : isLetter c = true) : isBlank c = false := by
  have bounds : 33 ≤ c.toNat ∧ c.toNat ≤ 126 := by
    simp only [isLetter, Bool.or_eq_true, beq_iff_eq] at letter
    obtain ((alphanum | rfl) | rfl) | rfl := letter
    · have := toNat_of_isAlphanum alphanum
      omega
    all_goals decide
  simp only [isBlank, Bool.or_eq_false_iff, Bool.and_eq_false_imp, decide_eq_true_eq,
    decide_eq_false_iff_not, beq_eq_false_iff_ne]
  omega

theorem closesNext_blanks {last : Bool} {blanks : List Char} (blank : Blank last blanks)
    (text : List Char) : closesNext (blanks ++ text) = closesNext text := by
  rw [closesNext, closesNext,
    List.dropWhile_append_of_pos fun c member => isBlank_of_isSpace (blank c member)]

/-- A token is a closing bracket if its first character is one. -/
theorem closesNext_token {token : List Char} (isToken : IsToken token) (text : List Char) :
    closesNext (token ++ text) = isClosing token := by
  cases isToken with
  | @mark c mark =>
    simp only [isMark, Bool.or_eq_true, beq_iff_eq] at mark
    obtain ((((rfl | rfl) | rfl) | rfl) | rfl) | rfl := mark <;> rfl
  | string => rfl
  | word some letters =>
    obtain ⟨c, rest, rfl⟩ := List.exists_cons_of_ne_nil some
    have letter := letters c List.mem_cons_self
    have closing : c ≠ ']' ∧ c ≠ '\x7d' := by
      constructor <;> rintro rfl <;> cases letter
    simp [closesNext, isBlank_of_isLetter letter, isClosing, beq_false_of_ne closing.1,
      beq_false_of_ne closing.2]

theorem closesNext_interleaved {written : List (List Char)} {text : List Char}
    (whole : Interleaved Blank written text) (isToken : ∀ token ∈ written.head?, IsToken token) :
    closesNext text = written.head?.any isClosing := by
  cases whole with
  | last ends =>
    rw [← List.append_nil text, closesNext_blanks ends]
    rfl
  | @next _ token rest _ before _ =>
    rw [closesNext_blanks before, closesNext_token (isToken token rfl)]
    rfl

theorem dropTrailingCommas_nil (inside : Inside) : dropTrailingCommas inside [] = [] := by
  cases inside <;> rfl

theorem dropTrailingCommas_cons (c : Char) (rest : List Char) :
    dropTrailingCommas .nothing (c :: rest) =
      if c == ',' && closesNext rest then dropTrailingCommas .nothing rest
      else c :: dropTrailingCommas (if c == '"' && closesString false rest then .string else .nothing)
        rest := rfl

theorem dropTrailingCommas_string (c : Char) (rest : List Char) :
    dropTrailingCommas .string (c :: rest) =
      c :: dropTrailingCommas (if c == '"' then .nothing else if c == '\\' then .escape else .string)
        rest := rfl

theorem dropTrailingCommas_escape (c : Char) (rest : List Char) :
    dropTrailingCommas .escape (c :: rest) = c :: dropTrailingCommas .string rest := rfl

theorem dropTrailingCommas_plain {c : Char} (comma : c ≠ ',') (quote : c ≠ '"')
    (rest : List Char) :
    dropTrailingCommas .nothing (c :: rest) = c :: dropTrailingCommas .nothing rest := by
  simp [dropTrailingCommas_cons, comma, quote]

theorem dropTrailingCommas_comma (rest : List Char) :
    dropTrailingCommas .nothing (',' :: rest) =
      bif closesNext rest then dropTrailingCommas .nothing rest
      else ',' :: dropTrailingCommas .nothing rest := by
  cases next : closesNext rest <;> simp [dropTrailingCommas_cons, next]

theorem dropTrailingCommas_stringRest {body : List Char} (string : StringRest body)
    (rest : List Char) :
    dropTrailingCommas .string (body ++ rest) = body ++ dropTrailingCommas .nothing rest := by
  induction string with
  | close => rfl
  | plain quote backslash goes ih => simp [dropTrailingCommas_string, quote, backslash, ih]
  | escaped lineFeed goes ih => simp [dropTrailingCommas_string, dropTrailingCommas_escape, ih]

theorem dropTrailingCommas_blanks {last : Bool} {blanks : List Char} (blank : Blank last blanks)
    (text : List Char) :
    dropTrailingCommas .nothing (blanks ++ text) = blanks ++ dropTrailingCommas .nothing text := by
  refine append_of_passes (fun c member => ?_) text
  have space := blank c member
  apply dropTrailingCommas_plain <;> rintro rfl <;> cases space

theorem dropTrailingCommas_token {token : List Char} (isToken : IsToken token)
    (comma : token ≠ [',']) (text : List Char) :
    dropTrailingCommas .nothing (token ++ text) = token ++ dropTrailingCommas .nothing text := by
  cases isToken with
  | @mark c mark =>
    exact dropTrailingCommas_plain (by simpa using comma) (isSpace_of_isMark mark).2 text
  | string string =>
    simp [dropTrailingCommas_cons, closesString_append string, dropTrailingCommas_stringRest string]
  | word some letters =>
    refine append_of_passes (fun c member => ?_) text
    have letter := letters c member
    apply dropTrailingCommas_plain <;> rintro rfl <;> cases letter

namespace TrailingCommas

theorem isToken {before : List Char} {written more : List (List Char)}
    (commas : TrailingCommas before written more) (isToken : ∀ token ∈ written, IsToken token) :
    ∀ token ∈ more, IsToken token := by
  induction commas with
  | nil => simp
  | keep goes ih =>
    rw [List.forall_mem_cons] at isToken ⊢
    exact ⟨isToken.1, ih isToken.2⟩
  | comma closes filled goes ih =>
    rw [List.forall_mem_cons] at isToken
    rw [List.forall_mem_cons, List.forall_mem_cons]
    exact ⟨.mark (by decide), isToken.1, ih isToken.2⟩

/-- Added commas bring no closing bracket to the front. -/
theorem not_isClosing {before : List Char} {written more : List (List Char)}
    (commas : TrailingCommas before written more)
    (opens : ∀ token ∈ written.head?, isClosing token = false) :
    more.head?.any isClosing = false := by
  cases commas with
  | nil => rfl
  | keep => exact opens _ rfl
  | comma => rfl

end TrailingCommas

/-- Without its trailing commas, a text has the tokens that they were added to. -/
theorem interleaved_dropTrailingCommas {before : List Char} {written more : List (List Char)}
    (commas : TrailingCommas before written more) {text : List Char}
    (whole : Interleaved Blank more text) (isToken : ∀ token ∈ written, IsToken token)
    (chain : written.IsChain MayFollow) :
    Interleaved Blank written (dropTrailingCommas .nothing text) := by
  induction commas generalizing text with
  | nil =>
    cases whole with
    | last ends =>
      rw [← List.append_nil text, dropTrailingCommas_blanks ends, dropTrailingCommas_nil,
        List.append_nil]
      exact .last ends
  | @keep before token rest more goes ih =>
    cases whole with
    | @next blanks _ text _ gap whole =>
      rw [List.forall_mem_cons] at isToken
      rw [List.isChain_cons] at chain
      rw [dropTrailingCommas_blanks gap]
      suffices dropTrailingCommas .nothing (token ++ text) =
          token ++ dropTrailingCommas .nothing text by
        rw [this]
        exact .next gap (ih whole isToken.2 chain.2)
      by_cases comma : token = [',']
      · subst comma
        have opens := goes.not_isClosing fun next first => (chain.1 next first).2 rfl
        have goesOn := closesNext_interleaved whole fun next first =>
          goes.isToken isToken.2 next (List.mem_of_mem_head? first)
        rw [List.singleton_append, dropTrailingCommas_comma, goesOn, opens]
        rfl
      · exact dropTrailingCommas_token isToken.1 comma text
  | @comma before token rest more closes filled goes ih =>
    cases whole with
    | @next blanks _ _ _ gap whole =>
      have closing := closesNext_interleaved whole (by simpa using isToken token List.mem_cons_self)
      cases whole with
      | @next inner _ text _ gapInner whole =>
        rw [List.forall_mem_cons] at isToken
        rw [List.isChain_cons] at chain
        have comma : token ≠ [','] := by
          rintro rfl
          cases closes
        rw [List.head?_cons, Option.any_some, closes] at closing
        rw [dropTrailingCommas_blanks gap, List.singleton_append, dropTrailingCommas_comma, closing,
          cond_true, dropTrailingCommas_blanks gapInner, dropTrailingCommas_token isToken.1 comma,
          ← List.append_assoc]
        exact .next (List.forall_mem_append.mpr ⟨gap, gapInner⟩) (ih whole isToken.2 chain.2)

/-! ## Tokens -/

theorem startsWord_append {token : List Char} (some : token ≠ []) (text : List Char) :
    startsWord (token ++ text) = startsWord token := by
  cases token with
  | nil => contradiction
  | cons => rfl

theorem startsWord_blanks {last : Bool} {blanks : List Char} (blank : Blank last blanks)
    (text : List Char) (ends : startsWord text = false) : startsWord (blanks ++ text) = false := by
  cases blanks with
  | nil => exact ends
  | cons c rest => simp [startsWord, inWord, blank c List.mem_cons_self]

/-- A text of tokens that keep apart is cut into them. -/
theorem tokensOf_of_interleaved {written : List (List Char)} {text : List Char}
    (whole : Interleaved Blank written text) (isToken : ∀ token ∈ written, IsToken token)
    (chain : written.IsChain MayFollow) : tokensOf text = written := by
  induction whole with
  | @last blanks ends =>
    rw [← List.append_nil blanks, tokensOf_blanks ends, tokensOf_nil]
  | @next blanks token text rest before goes ih =>
    rw [List.forall_mem_cons] at isToken
    rw [List.isChain_cons] at chain
    have ends (starts : startsWord token = true) : startsWord text = false := by
      cases goes with
      | @last blanks ends => simpa using startsWord_blanks ends [] rfl
      | @next _ next text _ gap _ =>
        apply startsWord_blanks gap
        rw [startsWord_append (isToken.2 next List.mem_cons_self).ne_nil]
        exact (chain.1 next rfl).1 starts
    rw [tokensOf_blanks before, isToken.1.tokens_append ends, ih isToken.2 chain.2]

/-- Every text has its tokens between white space. -/
theorem interleaved_tokens (text : List Char) : Interleaved Blank (tokensOf text) text := by
  have split (text : List Char) : ∃ blanks, Blank false blanks ∧ text = blanks ++ skipSpace text :=
    ⟨_, List.all_eq_true.mp List.all_takeWhile, List.takeWhile_append_dropWhile.symm⟩
  induction text using tokensOf_induction with
  | last text blank none =>
    obtain ⟨blanks, spaces, whole⟩ := split text
    rw [blank, List.append_nil] at whole
    rw [none, whole]
    exact .last spaces
  | next text token rest start cut some ih =>
    obtain ⟨blanks, spaces, whole⟩ := split text
    rw [cut, whole, start]
    exact .next spaces ih

theorem Blank.gap {last : Bool} {blanks : List Char} (blank : Blank last blanks) :
    Gap last blanks := by
  induction blanks with
  | nil => exact .nil
  | cons c rest ih =>
    have spaces := List.forall_mem_cons.mp blank
    exact .space spaces.1 (ih spaces.2)

theorem Interleaved.gaps {written : List (List Char)} {text : List Char}
    (whole : Interleaved Blank written text) : Interleaved Gap written text := by
  induction whole with
  | last ends => exact .last ends.gap
  | next before _ ih => exact .next before.gap ih

theorem TrailingCommas.refl (before : List Char) (written : List (List Char)) :
    TrailingCommas before written written := by
  induction written generalizing before with
  | nil => exact .nil
  | cons token rest ih => exact .keep (ih token)

/-- The strict text of a rendering has the tokens that were rendered. -/
theorem tokensOf_strict {written : List (List Char)} {text : List Char}
    (renders : Renders written text) (isToken : ∀ token ∈ written, IsToken token)
    (chain : written.IsChain MayFollow) : tokensOf (strict text) = written := by
  obtain ⟨more, commas, whole⟩ := renders
  have plain := interleaved_dropComments whole (commas.isToken isToken)
  have strict := interleaved_dropTrailingCommas commas plain isToken chain
  exact tokensOf_of_interleaved strict isToken chain

/-- A JSON text and all its renderings have one value, and no token of it is altered on the way: a
string keeps what it holds, whatever this looks like. -/
theorem readRelaxed_of_renders {text : List Char} {value : Json} (accepted : read text = .ok value) :
    Renders (tokensOf text) text ∧ readRelaxed text = .ok value ∧
      ∀ rendered, Renders (tokensOf text) rendered →
        tokensOf (strict rendered) = tokensOf text ∧ readRelaxed rendered = .ok value := by
  have spells := read_iff_spells.mp accepted
  have chain : (tokensOf text ++ []).IsChain MayFollow := spells.isChain .nil (by simp)
  rw [List.append_nil] at chain
  have relaxed (rendered : List Char) (renders : Renders (tokensOf text) rendered) :
      tokensOf (strict rendered) = tokensOf text ∧ readRelaxed rendered = .ok value := by
    have same := tokensOf_strict renders spells.isToken chain
    exact ⟨same, read_iff_spells.mpr (by rwa [same])⟩
  have own : Renders (tokensOf text) text :=
    ⟨_, TrailingCommas.refl [] _, (interleaved_tokens text).gaps⟩
  exact ⟨own, (relaxed text own).2, relaxed⟩

/-- The text `["/*,]\"", {"k": 1}]`. -/
def plainText : List Char :=
  ['[', '"', '/', '*', ',', ']', '\\', '"', '"', ',', ' ', '\x7b', '"', 'k', '"', ':', ' ', '1',
    '\x7d', ']']

/-- The same with a block comment behind the string, a line comment behind the number, a comma before
each closing bracket, and a line comment that the end of the text cuts off. -/
def commentedText : List Char :=
  ['[', ' ', '"', '/', '*', ',', ']', '\\', '"', '"', '/', '*', '"', ',', ']', '/', '/', '*', '/',
    ',', '\x7b', '"', 'k', '"', ':', '1', ',', '/', '/', '"', '\x7d', '\n', '\x7d', ',', ']', ' ',
    '/', '/', ',']

theorem readRelaxed_of_renders_nested :
    read plainText = .ok (.arr [.str "/*,]\"", .obj [("k", .int 1)]]) ∧
      Renders (tokensOf plainText) commentedText ∧
      tokensOf (strict commentedText) = tokensOf plainText ∧
      readRelaxed commentedText = .ok (.arr [.str "/*,]\"", .obj [("k", .int 1)]]) := by
  have accepted : read plainText = .ok (.arr [.str "/*,]\"", .obj [("k", .int 1)]]) := rfl
  have renders : Renders (tokensOf plainText) commentedText := by
    have block : Gap false ['/', '*', '"', ',', ']', '/', '/', '*', '/'] :=
      @Gap.block false ['"', ',', ']', '/', '/'] [] (by decide) .nil
    have line : Gap false ['/', '/', '"', '\x7d', '\n'] :=
      @Gap.line false ['"', '\x7d'] [] (by decide) .nil
    have space : Gap false [' '] := .space rfl .nil
    have ends : Gap true [' ', '/', '/', ','] := .space rfl (.cut (by decide))
    refine ⟨[['['], ['"', '/', '*', ',', ']', '\\', '"', '"'], [','], ['\x7b'], ['"', 'k', '"'],
      [':'], ['1'], [','], ['\x7d'], [','], [']']], ?_, ?_⟩
    · exact .keep <| .keep <| .keep <| .keep <| .keep <| .keep <| .keep <| .comma rfl rfl <|
        .comma rfl rfl .nil
    · exact .next .nil <| .next space <| .next block <| .next .nil <| .next .nil <| .next .nil <|
        .next .nil <| .next .nil <| .next line <| .next .nil <| .next .nil <| .last ends
  exact ⟨accepted, renders, (readRelaxed_of_renders accepted).2.2 commentedText renders⟩

end LeastGrant.Json
