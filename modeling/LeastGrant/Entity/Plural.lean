/-! English plurals of model names, from which default table names are made. A letter is meant in
either case; `s` includes the long s, and `i` the dotted capital and the dotless small letter. A line
feed at the very end does not hide the letters before it. -/
namespace LeastGrant.Entity

def isVowel (c : Char) : Bool :=
  "aeiouAEIOU".contains c || c == 'İ' || c == 'ı'

def isLetter (lower c : Char) : Bool :=
  c.toLower == lower || (lower == 's' && c == 'ſ')

/-- The name read backwards, and again without a line feed at its end. -/
def endings (name : List Char) : List (List Char) :=
  match name.reverse with
  | '\n' :: before => ['\n' :: before, before]
  | backwards => [backwards]

/-- A `y` after anything but a vowel. -/
def endsInConsonantY : List Char → Bool
  | y :: c :: _ => isLetter 'y' y && !isVowel c
  | _ => false

/-- An ending that takes `es`: `s`, `x`, `z`, `ch` or `sh`. -/
def endsInSibilant : List Char → Bool
  | last :: rest =>
    isLetter 's' last || isLetter 'x' last || isLetter 'z' last ||
      (isLetter 'h' last && match rest with
        | before :: _ => isLetter 'c' before || isLetter 's' before
        | [] => false)
  | [] => false

/-- The plural of a name. -/
def plural (name : String) : String :=
  let ends := endings name.toList
  if ends.any endsInConsonantY then String.ofList name.toList.dropLast ++ "ies"
  else if ends.any endsInSibilant then name ++ "es"
  else name ++ "s"

end LeastGrant.Entity
