/-! Cutting a text at every occurrence of one character, and putting the pieces together again. -/
namespace LeastGrant.Text

/-- The pieces between the separators; there is always at least one. -/
def split (separator : Char) : List Char → List (List Char)
  | [] => [[]]
  | c :: rest =>
    if c = separator then [] :: split separator rest
    else
      match split separator rest with
      | [] => [[c]]
      | piece :: others => (c :: piece) :: others

/-- The pieces with a separator between any two. -/
def join (separator : Char) : List (List Char) → List Char
  | [] => []
  | [piece] => piece
  | piece :: others => piece ++ separator :: join separator others

theorem split_ne_nil (separator : Char) (text : List Char) : split separator text ≠ [] := by
  cases text with
  | nil => simp [split]
  | cons c rest =>
    simp only [split]
    split
    · simp
    · split <;> simp

theorem join_cons_cons (separator c : Char) (piece : List Char) (others : List (List Char)) :
    join separator ((c :: piece) :: others) = c :: join separator (piece :: others) := by
  cases others <;> simp [join]

theorem join_split (separator : Char) (text : List Char) :
    join separator (split separator text) = text := by
  induction text with
  | nil => rfl
  | cons c rest ih =>
    simp only [split]
    split
    · next h =>
      subst h
      cases hs : split c rest with
      | nil => exact absurd hs (split_ne_nil c rest)
      | cons piece others => rw [join, ← hs, ih]; rfl; simp
    · cases hs : split separator rest with
      | nil => exact absurd hs (split_ne_nil separator rest)
      | cons piece others =>
        rw [hs] at ih
        simp only [join_cons_cons, ih]

/-- The pieces of a text between the separators. -/
def splitText (separator : Char) (text : String) : List String :=
  (split separator text.toList).map String.ofList

/-- Whether a text ends in another. -/
def endsIn (suffix text : String) : Bool :=
  suffix.toList.isSuffixOf text.toList

/-- Whether a text begins with another. -/
def startsWith (start text : String) : Bool :=
  start.toList.isPrefixOf text.toList

/-- Lower case of the ASCII letters. -/
def lowerAscii (text : String) : String :=
  String.ofList (text.toList.map Char.toLower)

end LeastGrant.Text
