import LeastGrant.Json.Basic
import LeastGrant.Text.Unwritable
import LeastGrant.Text.Utf8

/-! Reading JSON text. Beyond the standard, `NaN`, `Infinity` and `-Infinity` are numbers, and a whole
number has at most 4300 digits. Of fields with one name the last value counts, at the place of the
first. A fault is reported with the line, the column and the offset of the character where it
shows. -/
namespace LeastGrant.Json

open Decimal

inductive ReadProblem where
  | byteOrderMark
  | expectingValue
  | extraData
  | expectingName
  | expectingColon
  | expectingComma
  | controlCharacter
  | unterminatedString
  | invalidEscape
  | invalidCodeEscape
  | tooManyDigits
  deriving DecidableEq, Repr

def ReadProblem.text : ReadProblem → String
  | .byteOrderMark => "Unexpected UTF-8 BOM (decode using utf-8-sig)"
  | .expectingValue => "Expecting value"
  | .extraData => "Extra data"
  | .expectingName => "Expecting property name enclosed in double quotes"
  | .expectingColon => "Expecting ':' delimiter"
  | .expectingComma => "Expecting ',' delimiter"
  | .controlCharacter => "Invalid control character at"
  | .unterminatedString => "Unterminated string starting at"
  | .invalidEscape => "Invalid \\escape"
  | .invalidCodeEscape => "Invalid \\uXXXX escape"
  | .tooManyDigits => "Too many digits"

/-- A problem, and how many characters there are from its place to the end of the text. -/
structure ReadFault where
  problem : ReadProblem
  left : Nat
  deriving DecidableEq, Repr

/-- A problem at its place in the text. -/
structure ReadError where
  problem : ReadProblem
  line : Nat
  column : Nat
  offset : Nat
  deriving DecidableEq, Repr

def ReadError.message (e : ReadError) : String :=
  s!"{e.problem.text}: line {e.line} column {e.column} (char {e.offset})"

/-- Whether a text follows the rules, but holds a number that is not read. -/
def ReadError.isLimit (e : ReadError) : Bool := e.problem == .tooManyDigits

/-- The place of a fault in its text: lines and columns count from one. -/
def ReadFault.locate (text : List Char) (fault : ReadFault) : ReadError :=
  let offset := text.length - fault.left
  let before := text.take offset
  let lastLine := before.reverse.takeWhile (· != '\n')
  ⟨fault.problem, before.count '\n' + 1, lastLine.length + 1, offset⟩

/-- What a step of reading gives: a result and the text after it. -/
abbrev Reading (α : Type) := Except ReadFault (α × List Char)

def isSpace (c : Char) : Bool := c == ' ' || c == '\t' || c == '\n' || c == '\r'

def skipSpace (text : List Char) : List Char := text.dropWhile isSpace

def hexValue? (c : Char) : Option Nat :=
  if '0' ≤ c ∧ c ≤ '9' then some (c.toNat - 48)
  else if 'a' ≤ c ∧ c ≤ 'f' then some (c.toNat - 87)
  else if 'A' ≤ c ∧ c ≤ 'F' then some (c.toNat - 55)
  else none

/-- The number that four hexadecimal digits stand for. -/
def unit? (a b c d : Char) : Option Nat := do
  let a ← hexValue? a
  let b ← hexValue? b
  let c ← hexValue? c
  let d ← hexValue? d
  return ((a * 16 + b) * 16 + c) * 16 + d

/-- Two codes are the halves of a surrogate pair. -/
abbrev IsPair (high low : Nat) : Prop := 0xD800 ≤ high ∧ high ≤ 0xDBFF ∧ 0xDC00 ≤ low ∧ low ≤ 0xDFFF

/-- A row of codes with the two halves of a surrogate pair as one code point. -/
def joinPairs : List Nat → List Nat
  | [] => []
  | [code] => [code]
  | high :: low :: rest =>
    if IsPair high low then (0x10000 + (high - 0xD800) * 0x400 + (low - 0xDC00)) :: joinPairs rest
    else high :: joinPairs (low :: rest)

def simpleEscape? : Char → Option Char
  | '"' => some '"'
  | '\\' => some '\\'
  | '/' => some '/'
  | 'b' => some '\x08'
  | 'f' => some '\x0c'
  | 'n' => some '\n'
  | 'r' => some '\r'
  | 't' => some '\t'
  | _ => none

/-- Puts a code in front of a string that has been read. -/
def prepend (code : Nat) : Reading (List Nat) → Reading (List Nat)
  | .ok (codes, after) => .ok (code :: codes, after)
  | .error fault => .error fault

/-- The codes of a string from behind its opening quote on; `opening` is the length of the text from
that quote on. -/
def readCodes (opening : Nat) : List Char → Reading (List Nat)
  | [] => .error ⟨.unterminatedString, opening⟩
  | '"' :: rest => .ok ([], rest)
  | '\\' :: [] => .error ⟨.unterminatedString, opening⟩
  | '\\' :: 'u' :: a :: b :: c :: d :: rest =>
    match unit? a b c d with
    | none => .error ⟨.invalidCodeEscape, rest.length + 5⟩
    | some code =>
      if rest.isEmpty then .error ⟨.invalidCodeEscape, 5⟩
      else prepend code (readCodes opening rest)
  | '\\' :: 'u' :: rest => .error ⟨.invalidCodeEscape, rest.length + 1⟩
  | '\\' :: c :: rest =>
    match simpleEscape? c with
    | none => .error ⟨.invalidEscape, rest.length + 2⟩
    | some e => prepend e.toNat (readCodes opening rest)
  | c :: rest =>
    if c.toNat < 0x20 then .error ⟨.controlCharacter, rest.length + 1⟩
    else prepend c.toNat (readCodes opening rest)

/-- A string from behind its opening quote on. -/
def readString (opening : Nat) (text : List Char) : Reading (List Char) :=
  match readCodes opening text with
  | .ok (codes, after) => .ok (Text.spell (joinPairs codes), after)
  | .error fault => .error fault

/-- The number that a row of decimal digits stands for. -/
def decimalValue (digits : List Char) : Nat :=
  digits.foldl (fun n c => n * 10 + (c.toNat - 48)) 0

/-- A fraction: a point and the digits after it. -/
def fraction (text : List Char) : Option (List Char) × List Char :=
  match text with
  | '.' :: rest =>
    match rest.takeWhile Char.isDigit with
    | [] => (none, text)
    | digits => (some digits, rest.dropWhile Char.isDigit)
  | _ => (none, text)

/-- An exponent: the letter, perhaps a sign, and digits. -/
def exponent (text : List Char) : Option Int × List Char :=
  match text with
  | e :: rest =>
    if e == 'e' || e == 'E' then
      let (sign, rest') : Int × List Char := match rest with
        | '-' :: r => (-1, r)
        | '+' :: r => (1, r)
        | r => (1, r)
      match rest'.takeWhile Char.isDigit with
      | [] => (none, text)
      | digits => (some (sign * decimalValue digits), rest'.dropWhile Char.isDigit)
    else (none, text)
  | [] => (none, text)

/-- The digits of the whole part of a number: a single zero, or digits that start with another. -/
def wholePart? (text : List Char) : Option (List Char × List Char) :=
  match text with
  | '0' :: rest => some (['0'], rest)
  | c :: _ => if c.isDigit then some (text.takeWhile Char.isDigit, text.dropWhile Char.isDigit) else none
  | [] => none

/-- A number, if the text starts with one. Without fraction and exponent it is whole. -/
def number? (text : List Char) : Option (Json × List Char) :=
  let (isNegative, unsigned) := match text with
    | '-' :: rest => (true, rest)
    | _ => (false, text)
  match wholePart? unsigned with
  | none => none
  | some (whole, afterWhole) =>
    let (fractionDigits, afterFraction) := fraction afterWhole
    let (power, rest) := exponent afterFraction
    match fractionDigits, power with
    | none, none =>
      let n := decimalValue whole
      some (.int (if isNegative then -n else n), rest)
    | _, _ =>
      let places := fractionDigits.getD []
      let value := Double.ofDecimal isNegative (decimalValue (whole ++ places))
        (power.getD 0 - places.length)
      some (.float value, rest)

/-- The words that are values of their own. -/
def literals : List (List Char × Json) :=
  [("null".toList, .null), ("true".toList, .bool true), ("false".toList, .bool false),
    ("NaN".toList, .float .notANumber), ("Infinity".toList, .float (.infinity false)),
    ("-Infinity".toList, .float (.infinity true))]

/-- A literal, if the text starts with one. -/
def literal? (text : List Char) : Option (Json × List Char) :=
  literals.findSome? fun (word, value) =>
    if word.isPrefixOf text then some (value, text.drop word.length) else none

/-- How many digits a whole number may have. -/
def maxDigits : Nat := 4300

/-- Whether a text starts with more digits than a whole number may have. -/
def exceedsLimit (text : List Char) : Bool :=
  let unsigned := if text.head? = some '-' then text.tail else text
  maxDigits < (unsigned.takeWhile Char.isDigit).length

/-- A value that holds no other value. -/
def readScalar (text : List Char) : Reading Json :=
  match text with
  | '"' :: rest =>
    match readString text.length rest with
    | .ok (s, after) => .ok (.str (String.ofList s), after)
    | .error fault => .error fault
  | _ =>
    match literal? text with
    | some found => .ok found
    | none =>
      match number? text with
      | some (.int n, after) =>
        if exceedsLimit text then .error ⟨.tooManyDigits, text.length⟩ else .ok (.int n, after)
      | some found => .ok found
      | none => .error ⟨.expectingValue, text.length⟩

mutual
/-- A value at the start of the text. The fuel bounds the number of steps. -/
def readValue : (fuel : Nat) → List Char → Reading Json
  | 0, text => .error ⟨.expectingValue, text.length⟩
  | fuel + 1, text =>
    match text with
    | '[' :: rest =>
      match skipSpace rest with
      | ']' :: after => .ok (.arr [], after)
      | body =>
        match readItems fuel body with
        | .ok (items, after) => .ok (.arr items, after)
        | .error fault => .error fault
    | '\x7b' :: rest =>
      match skipSpace rest with
      | '\x7d' :: after => .ok (.obj [], after)
      | body =>
        match readFields fuel [] body with
        | .ok (fields, after) => .ok (.obj fields, after)
        | .error fault => .error fault
    | _ => readScalar text

/-- The elements of an array up to its closing bracket. -/
def readItems : (fuel : Nat) → List Char → Reading (List Json)
  | 0, text => .error ⟨.expectingValue, text.length⟩
  | fuel + 1, text =>
    match readValue fuel text with
    | .error fault => .error fault
    | .ok (item, after) =>
      match skipSpace after with
      | ']' :: rest => .ok ([item], rest)
      | ',' :: rest =>
        match readItems fuel (skipSpace rest) with
        | .ok (items, rest) => .ok (item :: items, rest)
        | .error fault => .error fault
      | rest => .error ⟨.expectingComma, rest.length⟩

/-- The fields of an object up to its closing brace, added to those before. -/
def readFields : (fuel : Nat) → Fields → List Char → Reading Fields
  | 0, _, text => .error ⟨.expectingValue, text.length⟩
  | fuel + 1, fields, text =>
    match text with
    | '"' :: body =>
      match readString text.length body with
      | .error fault => .error fault
      | .ok (name, afterName) =>
        match skipSpace afterName with
        | ':' :: afterColon =>
          match readValue fuel (skipSpace afterColon) with
          | .error fault => .error fault
          | .ok (value, after) =>
            match skipSpace after with
            | '\x7d' :: rest => .ok (fields.put (String.ofList name) value, rest)
            | ',' :: rest =>
              readFields fuel (fields.put (String.ofList name) value) (skipSpace rest)
            | rest => .error ⟨.expectingComma, rest.length⟩
        | rest => .error ⟨.expectingColon, rest.length⟩
    | _ => .error ⟨.expectingName, text.length⟩
end

/-- The value of a whole text. -/
def readAll (text : List Char) : Except ReadFault Json :=
  if text.head? = some '\uFEFF' then .error ⟨.byteOrderMark, text.length⟩
  else
    match readValue (2 * text.length + 2) (skipSpace text) with
    | .error fault => .error fault
    | .ok (value, after) =>
      match skipSpace after with
      | [] => .ok value
      | rest => .error ⟨.extraData, rest.length⟩

/-- The value of a JSON text. -/
def read (text : List Char) : Except ReadError Json :=
  match readAll text with
  | .ok value => .ok value
  | .error fault => .error (fault.locate text)

def readText (text : String) : Except ReadError Json := read text.toList

end LeastGrant.Json
