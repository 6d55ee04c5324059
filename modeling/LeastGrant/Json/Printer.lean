import LeastGrant.Json.Basic
import LeastGrant.Decimal.Shortest
import LeastGrant.Text.Quoted
import LeastGrant.Text.Unwritable

/-! JSON text of a value: on one line, or with one field or element a line. Characters beyond ASCII
are either kept or written as escapes of their UTF-16 units, of which one half of a surrogate pair
that stands alone has a single one. -/
namespace LeastGrant.Json

open Text

/-- How a value is laid out: whether all output is ASCII, and by how many spaces each level is
indented, if it is. -/
structure PrintStyle where
  ascii : Bool
  indent : Option Nat
  deriving DecidableEq, Repr

namespace PrintStyle

/-- One line, with a space after each comma and colon. -/
def line : PrintStyle := ⟨true, none⟩

/-- The form in which files are saved. -/
def file : PrintStyle := ⟨true, some 2⟩

/-- The form shown on the screen. -/
def screen : PrintStyle := ⟨false, some 2⟩

/-- The break before an element at a level. -/
def gap (style : PrintStyle) (level : Nat) : List Char :=
  match style.indent with
  | none => []
  | some width => '\n' :: List.replicate (width * level) ' '

/-- What stands between two elements at a level. -/
def comma (style : PrintStyle) (level : Nat) : List Char :=
  match style.indent with
  | none => [',', ' ']
  | some _ => ',' :: style.gap level

end PrintStyle

/-- The escape of one UTF-16 unit. -/
def unitEscape (unit : Nat) : List Char :=
  '\\' :: 'u' :: hexDigits 4 unit

/-- The letters of the short escapes. -/
def shortEscapes : List (Nat × Char) :=
  [(34, '"'), (92, '\\'), (10, 'n'), (13, 'r'), (9, 't'), (12, 'f'), (8, 'b')]

/-- The UTF-16 units of a code point. -/
def units (code : Nat) : List Nat :=
  if code < 0x10000 then [code]
  else [0xD800 + (code - 0x10000) / 0x400, 0xDC00 + (code - 0x10000) % 0x400]

/-- A code point between the quotes of a string. -/
def printCode (ascii : Bool) (code : Nat) : List Char :=
  match shortEscapes.lookup code with
  | some letter => ['\\', letter]
  | none =>
    if 0x20 ≤ code && (!ascii || code < 0x7F) then spelling code else (units code).flatMap unitEscape

def printString (ascii : Bool) (s : String) : List Char :=
  '"' :: (codes s.toList).flatMap (printCode ascii) ++ ['"']

def printNumber (x : Decimal.Double) : List Char :=
  if x.isNaN then "NaN".toList
  else if x.isInfinite then (if x.negative then "-Infinity" else "Infinity").toList
  else x.text.toList

mutual
/-- The text of a value at a level of nesting. -/
def print (style : PrintStyle) (level : Nat) : Json → List Char
  | null => "null".toList
  | bool true => "true".toList
  | bool false => "false".toList
  | int n => (toString n).toList
  | float x => printNumber x
  | str s => printString style.ascii s
  | arr items => '[' :: printItems style level true items
  | obj fields => '\x7b' :: printFields style level true fields

/-- The elements from here on, with the bracket after the last. -/
def printItems (style : PrintStyle) (level : Nat) (first : Bool) : List Json → List Char
  | [] => (if first then [] else style.gap level) ++ [']']
  | item :: rest =>
    (if first then style.gap (level + 1) else style.comma (level + 1)) ++
      print style (level + 1) item ++ printItems style level false rest

/-- The fields from here on, with the brace after the last. -/
def printFields (style : PrintStyle) (level : Nat) (first : Bool) :
    List (String × Json) → List Char
  | [] => (if first then [] else style.gap level) ++ ['\x7d']
  | (name, value) :: rest =>
    (if first then style.gap (level + 1) else style.comma (level + 1)) ++
      printString style.ascii name ++ [':', ' '] ++ print style (level + 1) value ++
      printFields style level false rest
end

/-- The JSON text of a value. -/
def render (style : PrintStyle) (value : Json) : String :=
  String.ofList (print style 0 value)

end LeastGrant.Json
