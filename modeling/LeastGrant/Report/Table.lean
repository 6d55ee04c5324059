import LeastGrant.Report.Wrap
import LeastGrant.Text.Lines

/-! Tables in a terminal: a title centred above, a heavy frame around the names of the columns, and a
light frame around the rows. A column is as wide as its widest line. -/
namespace LeastGrant.Report

open Text

inductive Alignment where
  | left
  | center
  deriving DecidableEq, Repr

structure Column where
  name : String
  alignment : Alignment

structure Table where
  title : StyledText
  columns : List Column
  rows : List (List StyledText)

/-- A line in the middle of a width; the smaller half of the blanks stands before it. -/
def centered (size : Nat) (line : StyledText) : StyledText :=
  let shifted := line.padLeft ((size - width line.chars) / 2)
  shifted.padRight (size - width shifted.chars)

/-- A line with blanks around it to fill a width, or cut off at it. -/
def aligned (size : Nat) : Alignment → StyledText → StyledText
  | .left, line =>
    let cut := cutOff size line
    cutOff size (cut.padRight (size - width line.chars))
  | .center, line => cutOff size (centered size (cutOff size line.trimEnd))

/-- The pieces of a line up to a width. The piece that reaches it is cut there. -/
def cropped : (size : Nat) → List (List Char) → List (List Char)
  | _, [] => []
  | size, piece :: rest =>
    if width piece < size then piece :: cropped (size - width piece) rest
    else [fitted size piece]

/-- The sum of some numbers. -/
def total (numbers : List Nat) : Nat := numbers.foldl (· + ·) 0

/-- The pieces of a line cut or filled with blanks to a width. Each piece is measured by itself. -/
def adjusted (size : Nat) (pieces : List (List Char)) : List (List Char) :=
  let own := total (pieces.map width)
  if own < size then pieces ++ [List.replicate (size - own) ' ']
  else if size < own then cropped size pieces
  else pieces

theorem adjusted_of_width (pieces : List (List Char)) :
    adjusted (total (pieces.map width)) pieces = pieces := by
  simp [adjusted]

/-- The largest of some numbers, zero if there are none. -/
def largest (numbers : List Nat) : Nat := numbers.foldl max 0

/-- The width that a cell asks for. Every sort of line break counts, and tabs have no width. -/
def cellWidth (text : StyledText) : Nat := largest ((Text.lines text.chars).map width)

/-- A line of a cell between its two blanks, in a column of a width. -/
def cellLine (size : Nat) (line : StyledText) : List Char :=
  (adjusted (size + 2) ([[' ']] ++ adjusted size line.segments ++ [[' ']])).flatten

/-- The lines of a cell in a column of a width. -/
def cellLines (size : Nat) (alignment : Alignment) (text : StyledText) : List (List Char) :=
  (wrapped false size text).map fun line => cellLine size (aligned size alignment line)

namespace Table

/-- The cells of the names of the columns. -/
def header (table : Table) : List StyledText :=
  table.columns.map fun column => .plain column.name.toList

/-- The widths of the columns. -/
def widths (table : Table) : List Nat :=
  (List.range table.columns.length).map fun n =>
    largest ((table.header :: table.rows).map fun row => cellWidth (row.getD n .empty))

/-- The width of a table with columns of some widths. -/
def fullWidth (widths : List Nat) : Nat := total (widths.map (· + 2)) + widths.length + 1

/-- A border line. -/
def border (widths : List Nat) (first line between last : Char) : List Char :=
  first :: (List.intercalate [between] (widths.map fun n => List.replicate (n + 2) line)) ++ [last]

/-- The lines of a row, each cell padded to the height of the highest. -/
def rowLines (columns : List (Column × Nat)) (wall : Char) (row : List StyledText) :
    List (List Char) :=
  let cells := (row.zip columns).map fun (text, column, size) =>
    (cellLines size column.alignment text, List.replicate (size + 2) ' ')
  let height := largest (cells.map fun (lines, _) => lines.length)
  (List.range height).map fun n =>
    let parts := cells.map fun (lines, blank) => lines.getD n blank
    wall :: List.intercalate [wall] parts ++ [wall]

/-- A line of a title in the middle of a width. -/
def titleLine (size : Nat) (line : StyledText) : List Char :=
  let own := line.trimEnd
  (centered size (if size < width own.chars then own.withChars (fitted size own.chars) else own)).chars

/-- The lines of a title for a table of a width. -/
def titleLines (size : Nat) (title : StyledText) : List (List Char) :=
  (wrapped true size title).map (titleLine size)

/-- All lines of a table. -/
def lines (table : Table) : List (List Char) :=
  let widths := table.widths
  let columns := table.columns.zip widths
  titleLines (fullWidth widths) table.title ++ [border widths '┏' '━' '┳' '┓'] ++
    rowLines columns '┃' table.header ++ [border widths '┡' '━' '╇' '┩'] ++
    table.rows.flatMap (rowLines columns '│') ++ [border widths '└' '─' '┴' '┘']

/-- A table as text, each line with its end. -/
def text (table : Table) : String := String.ofList (table.lines.flatMap (· ++ ['\n']))

end Table

end LeastGrant.Report
