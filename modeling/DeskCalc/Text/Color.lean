import DeskCalc.Number.Reading
import DeskCalc.Text.Split

namespace DeskCalc.Text

/-- The named colours of the palette that have no number in a scale of greys. -/
def hueNames : List String :=
  ["black", "red", "green", "yellow", "blue", "magenta", "cyan", "white", "bright_black",
   "bright_red", "bright_green", "bright_yellow", "bright_blue", "bright_magenta", "bright_cyan",
   "bright_white", "navy_blue", "dark_blue", "blue3", "blue1", "dark_green", "deep_sky_blue4",
   "dodger_blue3", "dodger_blue2", "green4", "spring_green4", "turquoise4", "deep_sky_blue3",
   "dodger_blue1", "green3", "spring_green3", "dark_cyan", "light_sea_green", "deep_sky_blue2",
   "deep_sky_blue1", "spring_green2", "cyan3", "dark_turquoise", "turquoise2", "green1",
   "spring_green1", "medium_spring_green", "cyan2", "cyan1", "dark_red", "deep_pink4", "purple4",
   "purple3", "blue_violet", "orange4", "medium_purple4", "slate_blue3", "royal_blue1",
   "chartreuse4", "dark_sea_green4", "pale_turquoise4", "steel_blue", "steel_blue3",
   "cornflower_blue", "chartreuse3", "cadet_blue", "sky_blue3", "steel_blue1", "pale_green3",
   "sea_green3", "aquamarine3", "medium_turquoise", "chartreuse2", "sea_green2", "sea_green1",
   "aquamarine1", "dark_slate_gray2", "dark_magenta", "dark_violet", "purple", "light_pink4",
   "plum4", "medium_purple3", "slate_blue1", "yellow4", "wheat4", "light_slate_grey",
   "light_slate_gray", "medium_purple", "light_slate_blue", "dark_olive_green3", "dark_sea_green",
   "light_sky_blue3", "sky_blue2", "dark_sea_green3", "dark_slate_gray3", "sky_blue1",
   "chartreuse1", "light_green", "pale_green1", "dark_slate_gray1", "red3", "medium_violet_red",
   "magenta3", "dark_orange3", "indian_red", "hot_pink3", "medium_orchid3", "medium_orchid",
   "medium_purple2", "dark_goldenrod", "light_salmon3", "rosy_brown", "medium_purple1", "gold3",
   "dark_khaki", "navajo_white3", "light_steel_blue3", "light_steel_blue", "yellow3",
   "dark_sea_green2", "light_cyan3", "light_sky_blue1", "green_yellow", "dark_olive_green2",
   "dark_sea_green1", "pale_turquoise1", "deep_pink3", "magenta2", "hot_pink2", "orchid",
   "medium_orchid1", "orange3", "light_pink3", "pink3", "plum3", "violet", "light_goldenrod3",
   "tan", "misty_rose3", "thistle3", "plum2", "khaki3", "light_goldenrod2", "light_yellow3",
   "light_steel_blue1", "yellow2", "dark_olive_green1", "honeydew2", "light_cyan1", "red1",
   "deep_pink2", "deep_pink1", "magenta1", "orange_red1", "indian_red1", "hot_pink", "dark_orange",
   "salmon1", "light_coral", "pale_violet_red1", "orchid2", "orchid1", "orange1", "sandy_brown",
   "light_salmon1", "light_pink1", "pink1", "plum1", "gold1", "navajo_white1", "misty_rose1",
   "thistle1", "yellow1", "light_goldenrod1", "khaki1", "wheat1", "cornsilk1"]

/-- The greys of the palette in percent of white. -/
def greyLevels : List Nat :=
  [0, 37, 53, 63, 69, 84, 100, 3, 7, 11, 15, 19, 23, 27, 30, 35, 39, 42, 46, 50, 54, 58, 62, 66, 70,
   74, 78, 82, 85, 89, 93]

/-- A grey has two spellings. -/
def greyNames : List String :=
  greyLevels.flatMap fun level => ["grey" ++ toString level, "gray" ++ toString level]

def isHex (c : Char) : Bool := '0' ≤ c && c ≤ '9' || 'a' ≤ c && c ≤ 'f'

/-- What stands between brackets after a name, if a word is of that form. -/
def arguments? (name word : List Char) : Option (List Char) :=
  if (name ++ ['(']) <+: word ∧ word.getLast? = some ')' then
    some (word.drop (name.length + 1)).dropLast
  else none

/-- A colour by its parts: `#` and six hexadecimal digits. -/
def isHexColor : List Char → Bool
  | '#' :: digits => digits.length = 6 && digits.all isHex
  | _ => false

/-- A colour by its number in the palette, of at most three digits. -/
def isNumberedColor (word : List Char) : Bool :=
  (arguments? ['c', 'o', 'l', 'o', 'r'] word).any fun digits =>
    digits ≠ [] && digits.length ≤ 3 && digits.all (fun c => '0' ≤ c && c ≤ '9') &&
      digitsValue digits < 256

/-- A colour by its three parts in brackets. A part that is left out is an error, not just no
colour. -/
def isMixedColor (word : List Char) : Except Reading.IntegerError Bool :=
  match arguments? ['r', 'g', 'b'] word with
  | none => .ok false
  | some inside =>
    let parts := splitAt (· = ',') inside
    if inside.all (fun c => isDigit c || c = ',') ∧ parts.length = 3 then do
      let levels ← parts.mapM fun part => Reading.integer (.ofList part)
      return levels.all (· < 256)
    else .ok false

/-- Whether a word in lower case stands for a colour. -/
def isColor (word : String) : Except Reading.IntegerError Bool :=
  if word = "default" || hueNames.contains word || greyNames.contains word ||
      isHexColor word.toList || isNumberedColor word.toList then .ok true
  else isMixedColor word.toList

end DeskCalc.Text
