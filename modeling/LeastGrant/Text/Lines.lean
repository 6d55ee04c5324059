/-! Lines of a text. A line ends at a line feed, a carriage return (with the line feed after it,
if there is one), a vertical tab, a form feed, U+001C to U+001E, U+0085, U+2028 or U+2029. -/
namespace LeastGrant.Text

def isLineBreak (c : Char) : Bool :=
  let n := c.toNat
  (10 ≤ n && n ≤ 13) || (28 ≤ n && n ≤ 30) || n == 0x85 || n == 0x2028 || n == 0x2029

/-- The lines of a text without their ends. A break at the very end opens no further line. -/
def lines : List Char → List (List Char)
  | [] => []
  | '\r' :: '\n' :: rest => [] :: lines rest
  | c :: rest =>
    if isLineBreak c then [] :: lines rest
    else
      match lines rest with
      | [] => [[c]]
      | line :: others => (c :: line) :: others

/-- A text file read as text: each carriage return, with the line feed after it if there is one,
becomes one line feed. -/
def unifyNewlines : List Char → List Char
  | [] => []
  | '\r' :: '\n' :: rest => '\n' :: unifyNewlines rest
  | c :: rest => (if c = '\r' then '\n' else c) :: unifyNewlines rest

theorem lines_cons_of_not_break (c : Char) (rest : List Char) (h : isLineBreak c = false) :
    lines (c :: rest) =
      match lines rest with
      | [] => [[c]]
      | line :: others => (c :: line) :: others := by
  have notReturn : c ≠ '\r' := by rintro rfl; simp [isLineBreak] at h
  rw [lines]
  · simp [h]
  · intro tail hc
    exact absurd hc notReturn

end LeastGrant.Text
