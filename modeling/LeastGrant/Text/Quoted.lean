import LeastGrant.Text.Printable
import LeastGrant.Text.Unwritable

/-! Quoted text for messages. Single quotes stand around it, or double quotes if it holds a single
quote and no double one. The quote itself, the backslash, line feed, carriage return and tab are
escaped by a backslash, other code points without a visible form by their number in hexadecimal. -/
namespace LeastGrant.Text

/-- The last `digits` hexadecimal digits of a number, in lower case. -/
def hexDigits : (digits : Nat) → (n : Nat) → List Char
  | 0, _ => []
  | digits + 1, n => hexDigits digits (n / 16) ++ [Nat.digitChar (n % 16)]

theorem length_hexDigits (digits n : Nat) : (hexDigits digits n).length = digits := by
  induction digits generalizing n with
  | zero => rfl
  | succ digits ih => simp [hexDigits, ih]

/-- The quote to put around a text. -/
def quoteFor (text : List Char) : Char :=
  if text.contains '\'' && !text.contains '"' then '"' else '\''

/-- A code point as it stands between the quotes. -/
def quoteCode (quote : Char) (code : Nat) : List Char :=
  let c := Char.ofNat code
  if c == quote || c == '\\' then ['\\', c]
  else if c == '\n' then ['\\', 'n']
  else if c == '\r' then ['\\', 'r']
  else if c == '\t' then ['\\', 't']
  else if !isHalf code && isPrintable c then [c]
  else if code < 0x100 then '\\' :: 'x' :: hexDigits 2 code
  else if code < 0x10000 then '\\' :: 'u' :: hexDigits 4 code
  else '\\' :: 'U' :: hexDigits 8 code

/-- A text in quotes. -/
def quoted (text : String) : String :=
  let quote := quoteFor text.toList
  String.ofList (quote :: (codes text.toList).flatMap (quoteCode quote) ++ [quote])

end LeastGrant.Text
