import LeastGrant.Report.EmojiNames
import LeastGrant.Text.Blank
import LeastGrant.Text.Cluster
import LeastGrant.Text.LowerCase

/-! Emoji in printed text. A name between two colons stands for its emoji, in any case of letters. With
`-text` or `-emoji` after the name the sign for plain drawing or for a picture follows the emoji. A name
that is not known stays as it is, colons included. -/
namespace LeastGrant.Report

open Text

/-- Words taken two by two. -/
def pairsOf : List (List Char) → List (List Char × List Char)
  | first :: second :: rest => (first, second) :: pairsOf rest
  | _ => []

/-- Emoji by name. -/
abbrev EmojiTable := List (List Char × List Char)

/-- All emoji. -/
@[irreducible] def emojiTable : EmojiTable := emojiParts.flatMap fun part => pairsOf (words part.toList)

/-- The sign that asks for plain drawing. -/
def plainSign : Char := '\ufe0e'

/-- The endings of a code that ask for a way of drawing. -/
def drawingEndings : List (List Char × Char) :=
  [("-text".toList, plainSign), ("-emoji".toList, pictureSign)]

/-- A name and the sign for its drawing, from what stands between two colons. -/
def codeParts (code : List Char) : List Char × List Char :=
  match drawingEndings.find? fun entry => entry.1.isSuffixOf code with
  | some (ending, sign) => (code.take (code.length - ending.length), [sign])
  | none => (code, [])

/-- What a code between two colons stands for. -/
def EmojiTable.find? (table : EmojiTable) (code : List Char) : Option (List Char) :=
  let (name, sign) := codeParts code
  (table.lookup (lower name)).map fun found => found ++ sign

/-- The code at the start of a text, which begins behind a colon and goes on to the next. -/
def codeAt? (text : List Char) : Option (List Char) :=
  let code := text.takeWhile fun c => c != ':' && !isBlank c
  if (text.drop code.length).head? = some ':' then some code else none

namespace EmojiTable

/-- Replaces codes, after `skip` characters that are copied if `keep` is set and dropped
otherwise. -/
def replaceFrom (table : EmojiTable) : (skip : Nat) → (keep : Bool) → List Char → List Char
  | _, _, [] => []
  | skip + 1, keep, c :: rest =>
    if keep then c :: replaceFrom table skip keep rest else replaceFrom table skip keep rest
  | 0, _, c :: rest =>
    if c = ':' then
      match codeAt? rest with
      | none => c :: replaceFrom table 0 true rest
      | some code =>
        match table.find? code with
        | some found => found ++ replaceFrom table (code.length + 1) false rest
        | none => c :: replaceFrom table (code.length + 1) true rest
    else c :: replaceFrom table 0 true rest

/-- A text with emoji in place of their codes. -/
def replace (table : EmojiTable) (text : List Char) : List Char := table.replaceFrom 0 true text

/-- A text without a colon has no codes. -/
theorem replace_of_no_colon (table : EmojiTable) (text : List Char) (h : ∀ c ∈ text, c ≠ ':') :
    table.replace text = text := by
  unfold replace
  induction text with
  | nil => rfl
  | cons c rest ih =>
    have plain : c ≠ ':' := h c (by simp)
    simp [replaceFrom, plain, ih fun d hd => h d (by simp [hd])]

end EmojiTable

end LeastGrant.Report
