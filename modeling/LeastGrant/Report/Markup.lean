import LeastGrant.Report.Emoji
import LeastGrant.Report.Literal
import LeastGrant.Report.Style
import LeastGrant.Report.StyledText

/-! Markup in printed text. A tag stands in brackets and begins with a small letter, `#`, `/` or `@`.
A tag that begins with a slash closes an earlier one. Tags are not shown. A backslash before a tag
makes it plain text, and two backslashes before a tag stand for one. -/
namespace LeastGrant.Markup

open Text Report

/-- Why markup cannot be shown. -/
inductive MarkupFault where
  /-- A tag closes nothing. -/
  | nothingToClose
  /-- The parameters of an action are no value. -/
  | badParameters
  /-- A colour lacks one of its numbers. -/
  | badColor
  deriving DecidableEq, Repr

/-- Whether a character can begin a tag. -/
def beginsTag (c : Char) : Bool :=
  ('a' ≤ c && c ≤ 'z') || c == '#' || c == '/' || c == '@'

/-- A tag found in a text: how many backslashes stand before it, and what it holds. -/
structure Found where
  backslashes : Nat
  inside : List Char

/-- How many characters a tag takes with its backslashes and brackets. -/
def Found.length (found : Found) : Nat := found.backslashes + found.inside.length + 2

/-- A tag with its brackets. -/
def Found.tag (found : Found) : List Char := '[' :: found.inside ++ [']']

/-- The inside of the tag that a text begins with. -/
def insideAt? : List Char → Option (List Char)
  | '[' :: c :: rest =>
    if beginsTag c then
      let inside := rest.takeWhile fun d => d != ']' && d != '['
      match rest.drop inside.length with
      | ']' :: _ => some (c :: inside)
      | _ => none
    else none
  | _ => none

/-- The tag that a text begins with. -/
def tagAt? (text : List Char) : Option Found :=
  let backslashes := text.takeWhile (· == '\\')
  (insideAt? (text.drop backslashes.length)).map fun inside => ⟨backslashes.length, inside⟩

inductive Token where
  | text (text : List Char)
  /-- A tag, with what follows an equals sign in it. -/
  | openTag (name : List Char) (parameters : Option (List Char))
  | closeTag (name : List Char)
  deriving DecidableEq, Repr

/-- What a tag does. -/
def Token.ofTag (inside : List Char) : Token :=
  let name := inside.takeWhile (· != '=')
  match name with
  | '/' :: closed => .closeTag (trim closed)
  | name => .openTag name (inside.drop name.length).tail?

/-- The token of a text, unless it is empty. -/
def textToken (text : List Char) : List Token := if text.isEmpty then [] else [.text text]

/-- The tokens of a tag with backslashes before it. -/
def Found.tokens (found : Found) : List Token :=
  textToken (List.replicate (found.backslashes / 2) '\\') ++
    [if found.backslashes % 2 = 1 then .text found.tag else .ofTag found.inside]

/-- The tokens of a text, after `skip` characters that have been read already. The plain text before
them stands in reverse. -/
def tokensFrom : (skip : Nat) → (before : List Char) → List Char → List Token
  | _, before, [] => textToken before.reverse
  | skip + 1, before, _ :: rest => tokensFrom skip before rest
  | 0, before, c :: rest =>
    match tagAt? (c :: rest) with
    | some found =>
      textToken before.reverse ++ found.tokens ++ tokensFrom (found.length - 1) [] rest
    | none => tokensFrom 0 (c :: before) rest

/-- The tokens of a text. -/
def tokens (text : List Char) : List Token := tokensFrom 0 [] text

/-- Drops every backslash before an opening bracket. -/
def unescape : List Char → List Char
  | '\\' :: '[' :: rest => '[' :: unescape rest
  | c :: rest => c :: unescape rest
  | [] => []

/-- Whether a terminal would act on a character instead of showing it. -/
def isControl (c : Char) : Bool := [7, 8, 11, 12, 13].contains c.toNat

/-- Plain text as it is shown: with emoji, and without controls. -/
def shownPlain (emoji : EmojiTable) (text : List Char) : List Char :=
  (emoji.replace text).filter fun c => !isControl c

/-- A tag that has been opened, by the normal spelling of its name, and where. -/
structure OpenTag where
  name : List Char
  parameters : Option (List Char)
  start : Nat
  deriving DecidableEq, Repr

namespace OpenTag

/-- Whether a tag asks for an action rather than a style. -/
def isAction (tag : OpenTag) : Bool := tag.name.head? == some '@'

/-- Whether the parameters of a tag are wrong for an action. -/
def isFaulty (tag : OpenTag) : Bool :=
  match tag.parameters with
  | none | some [] => false
  | some parameters => tag.isAction && !isLiteral (actionParameters (trim parameters))

end OpenTag

/-- Takes the last open tag that fits from those in reverse. -/
def take? (fits : OpenTag → Bool) : List OpenTag → Option (OpenTag × List OpenTag)
  | [] => none
  | tag :: rest =>
    if fits tag then some (tag, rest)
    else (take? fits rest).map fun (found, others) => (found, tag :: others)

/-- The last open tag of a name in normal spelling, or the last of all without a name. -/
def closed? (name : List Char) (opened : List OpenTag) : Option (OpenTag × List OpenTag) :=
  take? (fun tag => name.isEmpty || tag.name == name) opened

/-- The normal spelling of a name; an empty one stays empty. -/
def tagName (name : List Char) : Except MarkupFault (List Char) :=
  if name.isEmpty then .ok []
  else
    match styleName name with
    | .ok normal => .ok normal
    | .error _ => .error .badColor

/-- Adds the span of a tag that ends here. -/
def endTag (text : StyledText) (tag : OpenTag) : StyledText :=
  { text with spans := ⟨tag.start, text.length⟩ :: text.spans }

/-- Adds tokens to the text shown so far; the open tags stand in reverse. -/
def showTokens (emoji : EmojiTable) :
    StyledText → (opened : List OpenTag) → List Token → Except MarkupFault StyledText
  | shown, opened, [] => .ok (opened.foldl endTag shown)
  | shown, opened, .text text :: rest =>
    showTokens emoji (shown ++ .plain (shownPlain emoji (unescape text))) opened rest
  | shown, opened, .openTag name parameters :: rest =>
    match tagName name with
    | .error fault => .error fault
    | .ok name => showTokens emoji shown (⟨name, parameters, shown.length⟩ :: opened) rest
  | shown, opened, .closeTag name :: rest =>
    match tagName name with
    | .error fault => .error fault
    | .ok name =>
      match closed? name opened with
      | none => .error .nothingToClose
      | some (tag, opened) =>
        if tag.isFaulty then .error .badParameters
        else showTokens emoji (endTag shown tag) opened rest

/-- Whether a tag with its parameters is a style with a colour that lacks a number. -/
def Token.hasBadColor : Token → Bool
  | .openTag name (some parameters) =>
    match styleName name with
    | .ok name => (Style.read (name ++ ' ' :: parameters) matches .error .missingNumber)
    | .error _ => true
  | _ => false

/-- A text with markup as it is shown. -/
def shown (emoji : EmojiTable) (text : List Char) : Except MarkupFault StyledText :=
  match showTokens emoji .empty [] (tokens text) with
  | .error fault => .error fault
  | .ok shown => if (tokens text).any Token.hasBadColor then .error .badColor else .ok shown

/-- Puts backslashes before whatever would be read as a tag, and doubles those that stand there
already, after `skip` characters that have been written. -/
def escapeFrom : (skip : Nat) → List Char → List Char
  | _, [] => []
  | skip + 1, _ :: rest => escapeFrom skip rest
  | 0, c :: rest =>
    match tagAt? (c :: rest) with
    | some found =>
      List.replicate (2 * found.backslashes + 1) '\\' ++ found.tag ++
        escapeFrom (found.length - 1) rest
    | none => c :: escapeFrom 0 rest

/-- A text with markup that is shown as the given text. A single backslash at the end is doubled, so
that it does not reach what follows. -/
def escape (text : List Char) : List Char :=
  let escaped := escapeFrom 0 text
  match escaped.reverse with
  | '\\' :: '\\' :: _ => escaped
  | '\\' :: _ => escaped ++ ['\\']
  | _ => escaped

/-- A text token adds its characters and changes no tag. -/
theorem showTokens_text (emoji : EmojiTable) (before : StyledText) (opened : List OpenTag)
    (text : List Char) (rest : List Token) :
    showTokens emoji before opened (.text text :: rest) =
      showTokens emoji (before ++ .plain (shownPlain emoji (unescape text))) opened rest := by
  rw [showTokens]

end LeastGrant.Markup
