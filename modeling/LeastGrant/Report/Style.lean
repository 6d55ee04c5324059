import LeastGrant.Text.Blank
import LeastGrant.Text.LowerCase
import LeastGrant.Text.Split

/-! Styles of printed text: attributes, a colour, a colour of the background and a link. A style is
written in words, and two ways to write one style have the same normal spelling. -/
namespace LeastGrant.Report

open Text

/-- Why words make no style. -/
inductive StyleFault where
  /-- A word means nothing where it stands. -/
  | unknownWord
  /-- A colour lacks one of its numbers. -/
  | missingNumber
  deriving DecidableEq, Repr

/-- The names of colours other than greys, with a blank between any two. -/
def colorList : String := "
  aquamarine1 aquamarine3 black blue blue1 blue3 blue_violet bright_black bright_blue bright_cyan
  bright_green bright_magenta bright_red bright_white bright_yellow cadet_blue chartreuse1
  chartreuse2 chartreuse3 chartreuse4 cornflower_blue cornsilk1 cyan cyan1 cyan2 cyan3 dark_blue
  dark_cyan dark_goldenrod dark_green dark_khaki dark_magenta dark_olive_green1 dark_olive_green2
  dark_olive_green3 dark_orange dark_orange3 dark_red dark_sea_green dark_sea_green1
  dark_sea_green2 dark_sea_green3 dark_sea_green4 dark_slate_gray1 dark_slate_gray2
  dark_slate_gray3 dark_turquoise dark_violet deep_pink1 deep_pink2 deep_pink3 deep_pink4
  deep_sky_blue1 deep_sky_blue2 deep_sky_blue3 deep_sky_blue4 dodger_blue1 dodger_blue2
  dodger_blue3 gold1 gold3 green green1 green3 green4 green_yellow honeydew2 hot_pink hot_pink2
  hot_pink3 indian_red indian_red1 khaki1 khaki3 light_coral light_cyan1 light_cyan3
  light_goldenrod1 light_goldenrod2 light_goldenrod3 light_green light_pink1 light_pink3
  light_pink4 light_salmon1 light_salmon3 light_sea_green light_sky_blue1 light_sky_blue3
  light_slate_blue light_slate_gray light_slate_grey light_steel_blue light_steel_blue1
  light_steel_blue3 light_yellow3 magenta magenta1 magenta2 magenta3 medium_orchid medium_orchid1
  medium_orchid3 medium_purple medium_purple1 medium_purple2 medium_purple3 medium_purple4
  medium_spring_green medium_turquoise medium_violet_red misty_rose1 misty_rose3 navajo_white1
  navajo_white3 navy_blue orange1 orange3 orange4 orange_red1 orchid orchid1 orchid2 pale_green1
  pale_green3 pale_turquoise1 pale_turquoise4 pale_violet_red1 pink1 pink3 plum1 plum2 plum3 plum4
  purple purple3 purple4 red red1 red3 rosy_brown royal_blue1 salmon1 sandy_brown sea_green1
  sea_green2 sea_green3 sky_blue1 sky_blue2 sky_blue3 slate_blue1 slate_blue3 spring_green1
  spring_green2 spring_green3 spring_green4 steel_blue steel_blue1 steel_blue3 tan thistle1
  thistle3 turquoise2 turquoise4 violet wheat1 wheat4 white yellow yellow1 yellow2 yellow3 yellow4"

/-- The numbers of greys. -/
def greyNumbers : List Nat :=
  [0, 3, 7, 11, 15, 19, 23, 27, 30, 35, 37, 39, 42, 46, 50, 53, 54, 58, 62, 63, 66, 69, 70, 74,
    78, 82, 84, 85, 89, 93, 100]

/-- The names of all colours. -/
def colorNames : List String :=
  (words colorList.toList).map String.ofList ++ greyNumbers.flatMap fun n => [s!"grey{n}", s!"gray{n}"]

/-- What stands between a word with an opening bracket and a closing bracket. -/
def inBrackets? (word : String) (text : List Char) : Option (List Char) :=
  let rest := text.drop (word.length + 1)
  if (word ++ "(").toList.isPrefixOf text && rest.getLast? == some ')' then some rest.dropLast
  else none

/-- The number that decimal digits stand for. -/
def digitsValue (digits : List Char) : Nat :=
  digits.foldl (fun n c => n * 10 + (c.toNat - '0'.toNat)) 0

/-- Whether a text is a number up to 255. -/
def isByte (digits : List Char) : Bool :=
  !digits.isEmpty && digits.all Char.isDigit && digitsValue digits ≤ 255

/-- Whether a text is a colour by six hexadecimal digits. -/
def isHexColor : List Char → Bool
  | '#' :: digits => digits.length == 6 && digits.all fun c => c.isDigit || ('a' ≤ c && c ≤ 'f')
  | _ => false

/-- Whether three numbers make a colour. -/
def rgbFault? (text : List Char) : Option StyleFault :=
  let parts := split ',' text
  if text.isEmpty || !(text.all fun c => c.isDigit || c == ',') || parts.length != 3 then
    some .unknownWord
  else if parts.any List.isEmpty then some .missingNumber
  else if parts.all isByte then none
  else some .unknownWord

/-- The normal spelling of a colour: by its name, its number, or its shares of red, green and
blue. -/
def colorName (word : List Char) : Except StyleFault (List Char) :=
  let name := lower word
  if name == "default".toList || colorNames.contains (String.ofList name) || isHexColor name then
    .ok name
  else
    match inBrackets? "color" name, inBrackets? "rgb" name with
    | some digits, _ =>
      if digits.length ≤ 3 && isByte digits then .ok name else .error .unknownWord
    | none, some numbers =>
      match rgbFault? numbers with
      | some fault => .error fault
      | none => .ok name
    | none, none => .error .unknownWord

/-- The attributes in their normal order, each with its short names. -/
def attributes : List (String × List String) :=
  [("bold", ["b"]), ("dim", ["d"]), ("italic", ["i"]), ("underline", ["u"]), ("blink", []),
    ("blink2", []), ("reverse", ["r"]), ("conceal", ["c"]), ("strike", ["s"]),
    ("underline2", ["uu"]), ("frame", []), ("encircle", []), ("overline", ["o"])]

/-- The attribute that a word means. -/
def attributeOf? (word : String) : Option String :=
  (attributes.find? fun (name, short) => name == word || short.contains word).map Prod.fst

structure Style where
  /-- The attributes that are set or taken away; the first entry for a name counts. -/
  attributes : List (String × Bool)
  color : Option (List Char)
  background : Option (List Char)
  link : Option (List Char)
  deriving DecidableEq, Repr

namespace Style

/-- The style that changes nothing. -/
def plain : Style := ⟨[], none, none, none⟩

/-- Sets an attribute or takes it away. -/
def set (style : Style) (name : String) (on : Bool) : Style :=
  { style with attributes := (name, on) :: style.attributes }

/-- Adds what some words mean to a style. -/
def readWords : Style → List (List Char) → Except StyleFault Style
  | style, [] => .ok style
  | style, word :: rest =>
    match String.ofList (lower word), rest with
    | "on", [] | "not", [] | "link", [] => .error .unknownWord
    | "on", color :: rest =>
      match colorName color with
      | .ok name => readWords { style with background := some name } rest
      | .error fault => .error fault
    | "not", word :: rest =>
      match attributeOf? (String.ofList word) with
      | some name => readWords (style.set name false) rest
      | none => .error .unknownWord
    | "link", target :: rest => readWords { style with link := some target } rest
    | own, rest =>
      match attributeOf? own with
      | some name => readWords (style.set name true) rest
      | none =>
        match colorName word with
        | .ok name => readWords { style with color := some name } rest
        | .error fault => .error fault

/-- The style that a text describes. -/
def read (text : List Char) : Except StyleFault Style :=
  if trim text == "none".toList then .ok plain else readWords plain (words text)

/-- The words of a style in their normal order. -/
def inWords (style : Style) : List (List Char) :=
  (Report.attributes.flatMap fun (name, _) =>
    match style.attributes.lookup name with
    | some true => [name.toList]
    | some false => ["not".toList, name.toList]
    | none => []) ++
  style.color.toList ++
  (style.background.toList.flatMap fun color => ["on".toList, color]) ++
  (style.link.toList.flatMap fun target => ["link".toList, target])

/-- The normal spelling of a style. -/
def text (style : Style) : List Char :=
  if style.inWords.isEmpty then "none".toList else join ' ' style.inWords

end Style

/-- The normal spelling of the name of a style. A name that means nothing stands for itself in lower
case; only a colour that lacks a number is refused. -/
def styleName (name : List Char) : Except StyleFault (List Char) :=
  match Style.read name with
  | .ok style => .ok style.text
  | .error .unknownWord => .ok (lower (trim name))
  | .error .missingNumber => .error .missingNumber

end LeastGrant.Report
