import LeastGrant.Json.Basic
import LeastGrant.Decimal.Shortest
import LeastGrant.Text.Quoted

/-! Values as they appear in messages. `shown` puts quotes around every text, `plain` leaves a text
that is the whole value as it is. -/
namespace LeastGrant.Json

open Text

/-- The parts with commas between them. -/
def joined (parts : List String) : String :=
  ", ".intercalate parts

mutual
/-- A value in a message, texts in quotes. -/
def shown : Json → String
  | null => "None"
  | bool true => "True"
  | bool false => "False"
  | int n => toString n
  | float x => x.text
  | str s => quoted s
  | arr items => "[" ++ joined (shownItems items) ++ "]"
  | obj fields => "\x7b" ++ joined (shownFields fields) ++ "\x7d"

def shownItems : List Json → List String
  | [] => []
  | item :: rest => shown item :: shownItems rest

def shownFields : List (String × Json) → List String
  | [] => []
  | (name, value) :: rest => (quoted name ++ ": " ++ shown value) :: shownFields rest
end

/-- A value in running text. -/
def plain : Json → String
  | str s => s
  | value => shown value

theorem plain_str (s : String) : (str s).plain = s := rfl

end LeastGrant.Json
