import LeastGrant.Text.Blank
import LeastGrant.Text.Cluster
import LeastGrant.Text.Split
import LeastGrant.Text.Unwritable

/-! Text with styles. A span says from where to where a style reaches. Spans have no look of their own
here, but a line is measured and cut piece by piece where they begin and end. -/
namespace LeastGrant.Report

open Text

/-- Where a style begins, and where it ends. -/
structure Span where
  start : Nat
  stop : Nat
  deriving DecidableEq, Repr

namespace Span

def shift (n : Nat) (span : Span) : Span := ⟨span.start + n, span.stop + n⟩

/-- The part of a span in a piece of the text, seen from there. -/
def within? (start stop : Nat) (span : Span) : Option Span :=
  let inside : Span := ⟨span.start - start, min span.stop stop - start⟩
  if inside.start < inside.stop then some inside else none

/-- The part of a span before a length. -/
def before? (length : Nat) (span : Span) : Option Span :=
  if span.start < length then some ⟨span.start, min span.stop length⟩ else none

end Span

structure StyledText where
  chars : List Char
  spans : List Span
  deriving DecidableEq, Repr

namespace StyledText

/-- A text without styles. -/
def plain (chars : List Char) : StyledText := ⟨chars, []⟩

def empty : StyledText := plain []

def length (text : StyledText) : Nat := text.chars.length

def append (a b : StyledText) : StyledText :=
  ⟨a.chars ++ b.chars, a.spans ++ b.spans.map (Span.shift a.length)⟩

instance : Append StyledText := ⟨append⟩

theorem chars_append (a b : StyledText) : (a ++ b).chars = a.chars ++ b.chars := rfl

/-- The piece of a text from one offset to another. -/
def slice (text : StyledText) (start stop : Nat) : StyledText :=
  ⟨(text.chars.drop start).take (stop - start), text.spans.filterMap (Span.within? start stop)⟩

/-- The pieces of a text from an offset on, cut at further ones. -/
def slicesFrom (text : StyledText) : (start : Nat) → List Nat → List StyledText
  | start, [] => [text.slice start text.length]
  | start, next :: rest => text.slice start next :: slicesFrom text next rest

/-- Cuts a text at some offsets. Without any the text stays as it is. -/
def divide (text : StyledText) (offsets : List Nat) : List StyledText :=
  if offsets.isEmpty then [text] else text.slicesFrom 0 offsets

/-- The offsets at which a character stands. -/
def offsetsFrom (wanted : Char) : (offset : Nat) → List Char → List Nat
  | _, [] => []
  | offset, c :: rest =>
    if c = wanted then offset :: offsetsFrom wanted (offset + 1) rest
    else offsetsFrom wanted (offset + 1) rest

/-- The lines of a text. -/
def splitLines (text : StyledText) : List StyledText :=
  match offsetsFrom '\n' 0 text.chars with
  | [] => [text]
  | ends =>
    ((0 :: ends.map (· + 1)).zip (ends ++ [text.length])).map fun (start, stop) =>
      text.slice start stop

/-- Other characters for the same spans. Spans do not reach beyond a shorter text. -/
def withChars (text : StyledText) (chars : List Char) : StyledText :=
  ⟨chars, if chars.length < text.length then text.spans.filterMap (Span.before? chars.length)
    else text.spans⟩

/-- Puts blanks in front of a text. -/
def padLeft (text : StyledText) (n : Nat) : StyledText :=
  if n = 0 then text
  else ⟨List.replicate n ' ' ++ text.chars, text.spans.map (Span.shift n)⟩

/-- Puts blanks behind a text. -/
def padRight (text : StyledText) (n : Nat) : StyledText :=
  ⟨text.chars ++ List.replicate n ' ', text.spans⟩

/-- Puts blanks behind a text, and lets the styles at its end reach over them. -/
def extend (text : StyledText) (n : Nat) : StyledText :=
  ⟨text.chars ++ List.replicate n ' ',
    text.spans.map fun span => if text.length ≤ span.stop then ⟨span.start, span.stop + n⟩ else span⟩

/-- A text without blanks at its end. -/
def trimEnd (text : StyledText) : StyledText := text.withChars (Text.trimEnd text.chars)

/-- Drops blanks at the end of a text that has more code points than `size`, down to that number. -/
def trimExcess (size : Nat) (text : StyledText) : StyledText :=
  let blanks := (text.chars.reverse.takeWhile isBlank).length
  text.withChars (text.chars.take (text.length - min blanks ((codes text.chars).length - size)))

/-- How far apart tab stops are. -/
def tabStop : Nat := 8

/-- A part of a line up to its tab, which becomes blanks up to the next tab stop, and the column
after it. A part without a tab stays as it is. -/
def expandPart (column : Nat) (part : StyledText) : StyledText × Nat :=
  if part.chars.getLast? = some '\t' then
    let blank := { part with chars := part.chars.dropLast ++ [' '] }
    let reached := column + width blank.chars
    let missing := (tabStop - reached % tabStop) % tabStop
    (blank.extend missing, reached + missing)
  else (part, column + width part.chars)

/-- Puts parts of a line together, each with its tab expanded. -/
def expandParts : (column : Nat) → List StyledText → StyledText
  | _, [] => empty
  | column, part :: rest =>
    let (expanded, column) := expandPart column part
    expanded ++ expandParts column rest

/-- A line with blanks in place of its tabs. -/
def expandTabs (line : StyledText) : StyledText :=
  match offsetsFrom '\t' 0 line.chars with
  | [] => line
  | tabs =>
    let parts := line.divide (tabs.map (· + 1))
    expandParts 0 (if line.chars.getLast? = some '\t' then parts.dropLast else parts)

/-- The pieces of a line between the places where styles begin and end. -/
def segments (line : StyledText) : List (List Char) :=
  let bounds := (line.spans.flatMap fun span => [span.start, span.stop]).filter fun n =>
    0 < n && n < line.length
  let cuts := (bounds.mergeSort fun a b => decide (a ≤ b)).eraseReps
  ((plain line.chars).divide cuts).map StyledText.chars

end StyledText

end LeastGrant.Report
