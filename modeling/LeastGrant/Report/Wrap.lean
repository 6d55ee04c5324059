import LeastGrant.Report.StyledText

/-! Lines in a terminal. Lines that are too wide are broken between words. A word that is too wide for
any line is either cut into pieces or left to be cut off. -/
namespace LeastGrant.Report

open Text

/-- A text as the terminal shows it on lines without an end: with blanks in place of tabs. -/
def screenText (text : List Char) : List Char :=
  join '\n' ((StyledText.plain text).splitLines.map fun line => line.expandTabs.chars)

/-- The words of a line, each with the blanks after it; blanks at the start belong to the first. -/
def lineWords : (inWord : Bool) → List Char → List (List Char)
  | _, [] => [[]]
  | inWord, c :: rest =>
    let ends := inWord && isBlank c && match rest with
      | next :: _ => !isBlank next
      | [] => false
    match lineWords (inWord || !isBlank c) rest with
    | word :: others => if ends then [c] :: word :: others else (c :: word) :: others
    | [] => [[c]]

/-- The offsets at which pieces begin. -/
def pieceStarts : (start : Nat) → List (List Char) → List Nat
  | _, [] => []
  | start, piece :: rest => start :: pieceStarts (start + piece.length) rest

/-- The offsets at which words have to begin new lines of a width. The first of the words begins at
`start`, and `used` is the width of the line before it. A word that is too wide for any line is cut
into pieces if `cut` is set, and stands on a line of its own otherwise. -/
def breaksFrom (cut : Bool) (size : Nat) : (start used : Nat) → List (List Char) → List Nat
  | _, _, [] => []
  | start, used, word :: rest =>
    let own := width (trimEnd word)
    let next := start + word.length
    if used + own ≤ size then breaksFrom cut size next (used + width word) rest
    else if cut && decide (size < own) then
      let pieces := chop size word
      pieceStarts start pieces ++
        breaksFrom cut size next ((pieces.getLast?.map width).getD used) rest
    else start :: breaksFrom cut size next (width word) rest

/-- The offsets at which a line is broken for a width. -/
def breaks (cut : Bool) (size : Nat) (line : List Char) : List Nat :=
  (breaksFrom cut size 0 0 (lineWords false line)).filter (· != 0)

/-- A word that fits behind the others breaks nothing. -/
theorem breaksFrom_of_fits (cut : Bool) (size start used : Nat) (word : List Char)
    (h : used + width (trimEnd word) ≤ size) : breaksFrom cut size start used [word] = [] := by
  simp [breaksFrom, h]

/-- The lines of a text in a width, before they are aligned. -/
def wrapped (cut : Bool) (size : Nat) (text : StyledText) : List StyledText :=
  text.splitLines.flatMap fun line =>
    let line := line.expandTabs
    (line.divide (breaks cut size line.chars)).map (StyledText.trimExcess size)

/-- A line cut off at a width; dots stand for what is missing. -/
def cutOff (size : Nat) (line : StyledText) : StyledText :=
  if size < width line.chars then line.withChars (fitted (size - 1) line.chars ++ ['…']) else line

theorem cutOff_of_fits (size : Nat) (line : StyledText) (h : width line.chars ≤ size) :
    cutOff size line = line := by
  simp [cutOff, Nat.not_lt.mpr h]

end LeastGrant.Report
