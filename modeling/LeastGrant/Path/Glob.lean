import LeastGrant.Text.Split
import LeastGrant.Text.Unwritable

/-! File patterns. `?` stands for one code point and `*` for any number of them, both within a part;
`**/` stands for any number of whole parts and `**` elsewhere for any characters of a line. All other
characters stand for themselves. -/
namespace LeastGrant

open Text

inductive GlobToken where
  | directories
  | anything
  | within
  | one
  | char (c : Char)
  deriving DecidableEq, Repr

/-- A file pattern, token by token. -/
abbrev Glob := List GlobToken

namespace Glob

def ofChars : List Char → Glob
  | [] => []
  | '*' :: '*' :: '/' :: rest => .directories :: ofChars rest
  | '*' :: '*' :: rest => .anything :: ofChars rest
  | '*' :: rest => .within :: ofChars rest
  | '?' :: rest => .one :: ofChars rest
  | c :: rest => .char c :: ofChars rest

def ofText (pattern : String) : Glob := ofChars pattern.toList

/-- Any number of characters of a kind, and then what `next` accepts. -/
def matchMany (kind : Char → Bool) (next : List Char → Bool) : List Char → Bool
  | [] => next []
  | c :: rest => next (c :: rest) || (kind c && matchMany kind next rest)

/-- Any number of parts, each with the slash after it, and then what `next` accepts. With `inPart`
set, a part has begun. -/
def matchDirectories (next : List Char → Bool) : (inPart : Bool) → List Char → Bool
  | inPart, [] => !inPart && next []
  | true, c :: rest => matchDirectories next (c != '/') rest
  | false, c :: rest => next (c :: rest) || (c != '/' && matchDirectories next true rest)

/-- Whether a pattern fits a whole text. -/
def fits : Glob → List Char → Bool
  | [], text => text.isEmpty
  | .directories :: rest, text => matchDirectories (fits rest) false text
  | .anything :: rest, text => matchMany (· != '\n') (fits rest) text
  | .within :: rest, text => matchMany (· != '/') (fits rest) text
  | .one :: rest, text =>
    match text with
    | c :: tail =>
      if c = mark then
        match tail with
        | d :: more => (marked? d).isSome && fits rest more
        | [] => false
      else c != '/' && fits rest tail
    | [] => false
  | .char d :: rest, text =>
    match text with
    | c :: tail => c == d && fits rest tail
    | [] => false

theorem fits_nil (text : List Char) : fits [] text = true ↔ text = [] := by
  simp [fits]

theorem matchMany_iff (kind : Char → Bool) (next : List Char → Bool) (text : List Char) :
    matchMany kind next text = true ↔
      ∃ front back, text = front ++ back ∧ (∀ c ∈ front, kind c = true) ∧ next back = true := by
  induction text with
  | nil =>
    constructor
    · intro h
      exact ⟨[], [], rfl, by simp, by simpa [matchMany] using h⟩
    · rintro ⟨front, back, hs, _, hn⟩
      obtain ⟨rfl, rfl⟩ := List.append_eq_nil_iff.mp hs.symm
      simpa [matchMany] using hn
  | cons c rest ih =>
    simp only [matchMany, Bool.or_eq_true, Bool.and_eq_true, ih]
    constructor
    · rintro (hn | ⟨hc, front, back, rfl, hf, hn⟩)
      · exact ⟨[], c :: rest, rfl, by simp, hn⟩
      · exact ⟨c :: front, back, rfl, by simpa [hc] using hf, hn⟩
    · rintro ⟨front, back, hs, hf, hn⟩
      cases front with
      | nil => exact Or.inl (by simpa [hs] using hn)
      | cons d front =>
        simp only [List.cons_append, List.cons.injEq] at hs
        obtain ⟨rfl, rfl⟩ := hs
        exact Or.inr ⟨hf c (by simp), front, back, rfl, fun x hx => hf x (by simp [hx]), hn⟩

/-- The path itself and the paths of the directories above it. -/
def ancestry (text : List Char) : List (List Char) :=
  let parts := split '/' text
  (List.range parts.length).map fun n => join '/' (parts.take (n + 1))

/-- Whether one of the patterns fits the path or a directory above it. -/
def fitsAtOrAbove (patterns : List Glob) (text : List Char) : Bool :=
  patterns.any fun pattern => (ancestry text).any pattern.fits

/-- Whether a text holds a wildcard. -/
def hasWildcard (text : String) : Bool :=
  text.toList.any fun c => c == '*' || c == '?'

/-- The text without any `./` at its start. -/
def dropDotSlash : List Char → List Char
  | '.' :: '/' :: rest => dropDotSlash rest
  | text => text

/-- A pattern in its normal spelling: slashes for backslashes, no `./` before it and no slash at its
end. -/
def normalize (pattern : String) : String :=
  let slashed := pattern.toList.map fun c => if c == '\\' then '/' else c
  String.ofList ((dropDotSlash slashed).reverse.dropWhile (· == '/')).reverse

end Glob

end LeastGrant
