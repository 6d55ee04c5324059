/-! Code points. A text may hold one half of a surrogate pair by itself, which is no character. It is
spelled by two characters, the mark and a carrier; the mark itself is spelled by two marks, and any
other code point by its own character. So every row of code points has a spelling of its own, texts
that are put together spell the code points of both, and texts compare as their code points do.

Some code points cannot be written everywhere: a NUL ends a path of the system, and a half has no place
in encoded text. In paths, the halves U+DC80 to U+DCFF stand for single bytes. -/
namespace LeastGrant.Text

/-- The character that begins the spelling of a half: the last one before the halves. -/
def mark : Char := '\uD7FF'

/-- How far the carriers lie above the halves. -/
def carrierOffset : Nat := 0x102000

/-- Whether a code point is one half of a surrogate pair. -/
def isHalf (code : Nat) : Bool := 0xD800 ≤ code && code ≤ 0xDFFF

/-- The characters that spell a code point. -/
def spelling (code : Nat) : List Char :=
  if isHalf code then [mark, Char.ofNat (code + carrierOffset)]
  else if code = mark.toNat then [mark, mark]
  else [Char.ofNat code]

/-- The text of some code points. -/
def spell (codes : List Nat) : List Char := codes.flatMap spelling

/-- The code point that the mark and the character behind it spell. -/
def marked? (c : Char) : Option Nat :=
  if c = mark then some mark.toNat
  else if 0xD800 + carrierOffset ≤ c.toNat then some (c.toNat - carrierOffset)
  else none

/-- The code points of a text. A mark that spells nothing with what is behind it stands for itself. -/
def codes : List Char → List Nat
  | [] => []
  | [c] => [c.toNat]
  | c :: d :: rest =>
    if c = mark then
      match marked? d with
      | some code => code :: codes rest
      | none => c.toNat :: codes (d :: rest)
    else c.toNat :: codes (d :: rest)

/-- The text of some characters. -/
def ofCharacters (characters : List Char) : List Char := spell (characters.map Char.toNat)

/-- The characters of a text without halves. -/
def characters (text : List Char) : List Char := (codes text).map Char.ofNat

/-- Whether a text holds a half. -/
def hasHalf (text : List Char) : Bool := (codes text).any isHalf

/-- Whether a half stands for a byte in paths. -/
def isEscapedByte (code : Nat) : Bool := 0xDC80 ≤ code && code ≤ 0xDCFF

/-- Whether a text holds a half that does not stand for a byte either. -/
def hasUnencodable (text : String) : Bool :=
  (codes text.toList).any fun code => isHalf code && !isEscapedByte code

/-- The number of bytes of a text in a path. -/
def byteSize (text : String) : Nat :=
  (codes text.toList).foldl (fun size code =>
    size + if isEscapedByte code then 1 else (Char.ofNat code).utf8Size) 0

/-- Whether a text holds a NUL. -/
def hasNul (text : String) : Bool := text.toList.any fun c => c.toNat == 0

/-! ## Spelling and reading -/

theorem isHalf_iff {code : Nat} : isHalf code = true ↔ 0xD800 ≤ code ∧ code ≤ 0xDFFF := by
  simp [isHalf]

theorem toNat_valid (c : Char) : c.toNat < 0xD800 ∨ 0xDFFF < c.toNat ∧ c.toNat < 0x110000 := c.valid

theorem toNat_lt (c : Char) : c.toNat < 0x110000 := by
  have valid := toNat_valid c
  omega

theorem toNat_ofNat {code : Nat} (valid : code.isValidChar) : (Char.ofNat code).toNat = code := by
  rw [Char.ofNat, dif_pos valid]
  rfl

theorem spelling_toNat {c : Char} (plain : c ≠ mark) : spelling c.toNat = [c] := by
  have valid := toNat_valid c
  have whole : ¬isHalf c.toNat = true := by
    rw [isHalf_iff]
    omega
  have other : c.toNat ≠ mark.toNat := fun same => plain (Char.toNat_inj.mp same)
  rw [spelling, if_neg whole, if_neg other, Char.ofNat_toNat]

/-- The mark and the character behind it are the spelling of what they stand for. -/
theorem spelling_of_marked? {c : Char} {code : Nat} (stands : marked? c = some code) :
    code < 0x110000 ∧ spelling code = [mark, c] := by
  have valid := toNat_valid c
  unfold marked? carrierOffset at stands
  split at stands
  · rename_i same
    cases stands
    cases same
    exact ⟨by decide, rfl⟩
  split at stands
  · rename_i carries
    obtain rfl := Option.some.inj stands
    have half : isHalf (c.toNat - 0x102000) = true := by
      rw [isHalf_iff]
      omega
    have back : c.toNat - 0x102000 + 0x102000 = c.toNat := by omega
    refine ⟨by omega, ?_⟩
    rw [spelling, if_pos half, carrierOffset, back, Char.ofNat_toNat]
  · cases stands

/-- A code point is spelled by the mark and the character for it, or else by its own character. -/
theorem spelling_cases {code : Nat} (bound : code < 0x110000) :
    (∃ c, spelling code = [mark, c] ∧ marked? c = some code) ∨
    ∃ c, spelling code = [c] ∧ c ≠ mark ∧ c.toNat = code := by
  by_cases half : isHalf code = true
  · have range := isHalf_iff.mp half
    have valid : (code + 0x102000).isValidChar := .inr ⟨by omega, by omega⟩
    have known : (Char.ofNat (code + 0x102000)).toNat = code + 0x102000 := toNat_ofNat valid
    have other : Char.ofNat (code + 0x102000) ≠ mark := by
      intro same
      rw [same] at known
      have small : mark.toNat < 0x102000 := by decide
      omega
    refine .inl ⟨Char.ofNat (code + 0x102000), if_pos half, ?_⟩
    rw [marked?, if_neg other, known, carrierOffset, if_pos (by omega), Nat.add_sub_cancel]
  by_cases itself : code = mark.toNat
  · subst itself
    exact .inl ⟨mark, rfl, rfl⟩
  · have valid : code.isValidChar := by
      rw [isHalf_iff] at half
      simp only [Nat.isValidChar]
      omega
    refine .inr ⟨Char.ofNat code, ?_, ?_, toNat_ofNat valid⟩
    · rw [spelling, if_neg half, if_neg itself]
    · intro same
      rw [← same, toNat_ofNat valid] at itself
      exact itself rfl

theorem codes_cons {c : Char} (plain : c ≠ mark) (rest : List Char) :
    codes (c :: rest) = c.toNat :: codes rest := by
  cases rest with
  | nil => rfl
  | cons d rest => rw [codes, if_neg plain]

theorem codes_marked {c : Char} {code : Nat} (stands : marked? c = some code) (rest : List Char) :
    codes (mark :: c :: rest) = code :: codes rest := by
  rw [codes, if_pos rfl, stands]

theorem codes_spelling {code : Nat} (bound : code < 0x110000) (rest : List Char) :
    codes (spelling code ++ rest) = code :: codes rest := by
  rcases spelling_cases bound with ⟨c, spelled, stands⟩ | ⟨c, spelled, plain, known⟩
  · rw [spelled]
    exact codes_marked stands rest
  · rw [spelled, ← known]
    exact codes_cons plain rest

/-- What is spelled out has the code points that it was spelled from. -/
theorem codes_spell_append {row : List Nat} (bound : ∀ code ∈ row, code < 0x110000)
    (rest : List Char) : codes (spell row ++ rest) = row ++ codes rest := by
  induction row with
  | nil => rfl
  | cons code row ih =>
    obtain ⟨first, others⟩ := List.forall_mem_cons.mp bound
    rw [spell, List.flatMap_cons, List.append_assoc, codes_spelling first, ← spell, ih others,
      List.cons_append]

theorem codes_spell {row : List Nat} (bound : ∀ code ∈ row, code < 0x110000) :
    codes (spell row) = row := by
  simpa [codes] using codes_spell_append bound []

theorem lt_of_mem_codes {text : List Char} {code : Nat} (member : code ∈ codes text) :
    code < 0x110000 := by
  fun_induction codes text with
  | case1 => cases member
  | case2 c =>
    obtain rfl := List.mem_singleton.mp member
    exact toNat_lt c
  | case3 d rest found stands ih =>
    rcases List.mem_cons.mp member with rfl | later
    · exact (spelling_of_marked? stands).1
    · exact ih later
  | case4 d rest _ ih =>
    rcases List.mem_cons.mp member with rfl | later
    · exact toNat_lt mark
    · exact ih later
  | case5 c d rest _ ih =>
    rcases List.mem_cons.mp member with rfl | later
    · exact toNat_lt c
    · exact ih later

/-- A character that carries nothing begins a code point of its own. -/
theorem codes_append {c : Char} (plain : marked? c = none) (text rest : List Char) :
    codes (text ++ c :: rest) = codes text ++ codes (c :: rest) := by
  fun_induction codes text with
  | case1 => rfl
  | case2 d =>
    rw [List.singleton_append, codes, plain]
    split <;> rfl
  | case3 d more code stands ih =>
    rw [List.cons_append, List.cons_append, codes_marked stands, ih, List.cons_append]
  | case4 d more stands ih =>
    rw [List.cons_append, List.cons_append, codes, if_pos rfl, stands, ← List.cons_append, ih]
    rfl
  | case5 d e more other ih =>
    rw [List.cons_append, codes_cons other, ih, List.cons_append]

end LeastGrant.Text
