/-! Blank characters: the white space of Unicode together with the four separator controls
U+001C to U+001F. -/
namespace LeastGrant.Text

def isBlank (c : Char) : Bool :=
  let n := c.toNat
  (9 ≤ n && n ≤ 13) || (28 ≤ n && n ≤ 32) || n == 0x85 || n == 0xA0 || n == 0x1680 ||
    (0x2000 ≤ n && n ≤ 0x200A) || n == 0x2028 || n == 0x2029 || n == 0x202F || n == 0x205F ||
    n == 0x3000

/-- The text without blanks at its end. -/
def trimEnd (text : List Char) : List Char :=
  (text.reverse.dropWhile isBlank).reverse

/-- The text without blanks at either end. -/
def trim (text : List Char) : List Char :=
  trimEnd (text.dropWhile isBlank)

/-- The words of a text, given the letters of the one being gathered in reverse. -/
def wordsFrom : (gathered : List Char) → List Char → List (List Char)
  | gathered, [] => if gathered.isEmpty then [] else [gathered.reverse]
  | gathered, c :: rest =>
    if isBlank c then
      if gathered.isEmpty then wordsFrom [] rest else gathered.reverse :: wordsFrom [] rest
    else wordsFrom (c :: gathered) rest

/-- The words of a text between blanks. -/
def words (text : List Char) : List (List Char) := wordsFrom [] text

theorem trimEnd_append_of_not_blank (text : List Char) (c : Char) (h : isBlank c = false) :
    trimEnd (text ++ [c]) = text ++ [c] := by
  simp [trimEnd, h]

theorem trimEnd_append_of_blank (text : List Char) (c : Char) (h : isBlank c = true) :
    trimEnd (text ++ [c]) = trimEnd text := by
  simp [trimEnd, h]

theorem trim_cons_append (first last : Char) (text : List Char) (hf : isBlank first = false)
    (hl : isBlank last = false) :
    trim (first :: text ++ [last]) = first :: text ++ [last] := by
  have drop : (first :: (text ++ [last])).dropWhile isBlank = first :: (text ++ [last]) := by
    simp [hf]
  simp only [trim, List.cons_append, drop]
  exact trimEnd_append_of_not_blank (first :: text) last hl

end LeastGrant.Text
