import LeastGrant.Json.Reader
import LeastGrant.Text.Blank

/-! JSON with comments and trailing commas. Comments are taken out first, then each comma that is
followed, after blanks, by a closing bracket; both leave strings as they are. What is left is read as
JSON. A quote that opens no complete string and a `/*` without its `*/` stand for themselves. -/
namespace LeastGrant.Json

open Text

/-- Whether a string that has been opened is closed later on. With `breaks` false, a backslash
before a line feed spoils it. -/
def closesString (breaks : Bool) : List Char → Bool
  | [] => false
  | '"' :: _ => true
  | '\\' :: [] => false
  | '\\' :: c :: rest => if c == '\n' && !breaks then false else closesString breaks rest
  | _ :: rest => closesString breaks rest

/-- Whether a block comment that has been opened is closed later on. -/
def closesComment : List Char → Bool
  | [] => false
  | '*' :: '/' :: _ => true
  | _ :: rest => closesComment rest

/-- Where a reader of relaxed JSON stands. -/
inductive Inside where
  | nothing
  | string
  | escape
  | lineComment
  | blockComment
  deriving DecidableEq, Repr

/-- The text without its comments. -/
def dropComments : Inside → List Char → List Char
  | _, [] => []
  | .string, c :: rest =>
    c :: dropComments (if c == '"' then .nothing else if c == '\\' then .escape else .string) rest
  | .escape, c :: rest => c :: dropComments .string rest
  | .lineComment, c :: rest =>
    if c == '\n' then c :: dropComments .nothing rest else dropComments .lineComment rest
  | .blockComment, '*' :: '/' :: rest => dropComments .nothing rest
  | .blockComment, _ :: rest => dropComments .blockComment rest
  | .nothing, '/' :: '/' :: rest => dropComments .lineComment rest
  | .nothing, '/' :: '*' :: rest =>
    if closesComment rest then dropComments .blockComment rest
    else '/' :: '*' :: dropComments .nothing rest
  | .nothing, c :: rest =>
    c :: dropComments (if c == '"' && closesString true rest then .string else .nothing) rest

/-- Whether only blanks stand before a closing bracket. -/
def closesNext (text : List Char) : Bool :=
  match text.dropWhile isBlank with
  | c :: _ => c == '\x7d' || c == ']'
  | [] => false

/-- The text without commas that stand before a closing bracket. -/
def dropTrailingCommas : Inside → List Char → List Char
  | _, [] => []
  | .string, c :: rest =>
    c :: dropTrailingCommas (if c == '"' then .nothing else if c == '\\' then .escape else .string) rest
  | .escape, c :: rest => c :: dropTrailingCommas .string rest
  | inside, c :: rest =>
    if c == ',' && closesNext rest then dropTrailingCommas inside rest
    else c :: dropTrailingCommas (if c == '"' && closesString false rest then .string else inside) rest

/-- The JSON text that a relaxed text stands for. -/
def strict (text : List Char) : List Char :=
  dropTrailingCommas .nothing (dropComments .nothing text)

/-- The value of a relaxed JSON text; places in errors refer to the strict text. -/
def readRelaxed (text : List Char) : Except ReadError Json :=
  read (strict text)

end LeastGrant.Json
