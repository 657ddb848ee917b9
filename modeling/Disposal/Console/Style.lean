import Disposal.Text.Blank
import Disposal.Text.Split

/-!
# Names of styles

A style is named by words: attributes such as `bold`, perhaps after `not`, a colour, `on` with the
colour behind the text, and `link` with a target.  Styles that have the same effect have the same
normal name, whatever the order of the words.  What does not name a style stands for itself, but a
colour of three parts with a part left out is an error.

* `Console.Style.parse` reads the words of a style, `Console.Style.name` writes its normal name;
* `Console.normalName` is the normal name of any text.
-/

namespace Disposal.Console

/-- A colour is known by its name. -/
abbrev Colour := List Char

/-- Rows of the colours with a name. -/
def colourNames : List String := [
  "aquamarine1 aquamarine3 black blue blue1 blue3 blue_violet bright_black bright_blue",
  "bright_cyan bright_green bright_magenta bright_red bright_white bright_yellow cadet_blue",
  "chartreuse1 chartreuse2 chartreuse3 chartreuse4 cornflower_blue cornsilk1 cyan cyan1 cyan2",
  "cyan3 dark_blue dark_cyan dark_goldenrod dark_green dark_khaki dark_magenta",
  "dark_olive_green1 dark_olive_green2 dark_olive_green3 dark_orange dark_orange3 dark_red",
  "dark_sea_green dark_sea_green1 dark_sea_green2 dark_sea_green3 dark_sea_green4",
  "dark_slate_gray1 dark_slate_gray2 dark_slate_gray3 dark_turquoise dark_violet deep_pink1",
  "deep_pink2 deep_pink3 deep_pink4 deep_sky_blue1 deep_sky_blue2 deep_sky_blue3 deep_sky_blue4",
  "dodger_blue1 dodger_blue2 dodger_blue3 gold1 gold3 gray0 gray100 gray11 gray15 gray19 gray23",
  "gray27 gray3 gray30 gray35 gray37 gray39 gray42 gray46 gray50 gray53 gray54 gray58 gray62",
  "gray63 gray66 gray69 gray7 gray70 gray74 gray78 gray82 gray84 gray85 gray89 gray93 green",
  "green1 green3 green4 green_yellow grey0 grey100 grey11 grey15 grey19 grey23 grey27 grey3",
  "grey30 grey35 grey37 grey39 grey42 grey46 grey50 grey53 grey54 grey58 grey62 grey63 grey66",
  "grey69 grey7 grey70 grey74 grey78 grey82 grey84 grey85 grey89 grey93 honeydew2 hot_pink",
  "hot_pink2 hot_pink3 indian_red indian_red1 khaki1 khaki3 light_coral light_cyan1 light_cyan3",
  "light_goldenrod1 light_goldenrod2 light_goldenrod3 light_green light_pink1 light_pink3",
  "light_pink4 light_salmon1 light_salmon3 light_sea_green light_sky_blue1 light_sky_blue3",
  "light_slate_blue light_slate_gray light_slate_grey light_steel_blue light_steel_blue1",
  "light_steel_blue3 light_yellow3 magenta magenta1 magenta2 magenta3 medium_orchid",
  "medium_orchid1 medium_orchid3 medium_purple medium_purple1 medium_purple2 medium_purple3",
  "medium_purple4 medium_spring_green medium_turquoise medium_violet_red misty_rose1",
  "misty_rose3 navajo_white1 navajo_white3 navy_blue orange1 orange3 orange4 orange_red1 orchid",
  "orchid1 orchid2 pale_green1 pale_green3 pale_turquoise1 pale_turquoise4 pale_violet_red1",
  "pink1 pink3 plum1 plum2 plum3 plum4 purple purple3 purple4 red red1 red3 rosy_brown",
  "royal_blue1 salmon1 sandy_brown sea_green1 sea_green2 sea_green3 sky_blue1 sky_blue2",
  "sky_blue3 slate_blue1 slate_blue3 spring_green1 spring_green2 spring_green3 spring_green4",
  "steel_blue steel_blue1 steel_blue3 tan thistle1 thistle3 turquoise2 turquoise4 violet wheat1",
  "wheat4 white yellow yellow1 yellow2 yellow3 yellow4"]

/-- A text in lower case, for the letters of the names of styles. -/
def lowerName (s : List Char) : List Char := s.map Char.toLower

/-- The words of a text. -/
def nameWords (s : List Char) : List (List Char) :=
  (Text.splitAt Text.isBlank s).filter (· ≠ [])

/-- What stands between an opening and the final closing bracket. -/
def arguments? (opening word : List Char) : Option (List Char) :=
  (opening.isPrefixOf? word).bind fun rest =>
    if rest.getLast? = some ')' then some rest.dropLast else none

/-- Whether a text is a decimal number up to 255. -/
def isByte (digits : List Char) : Bool :=
  !digits.isEmpty && digits.all Char.isDigit &&
    digits.foldl (fun n c => 10 * n + (c.toNat - '0'.toNat)) 0 ≤ 255

/-- Whether a character is a hexadecimal digit in lower case. -/
def isHexDigit (c : Char) : Bool := c.isDigit || ('a' ≤ c && c ≤ 'f')

/-- Whether a word in lower case is a colour: one with a name, one of 256 numbers, or red, green
and blue parts. -/
def isColour (word : List Char) : Bool :=
  word == "default".toList ||
    (colourNames.any fun row => (Text.splitAt (· = ' ') row.toList).contains word) ||
    (word.head? == some '#' && word.length == 7 && (word.drop 1).all isHexDigit) ||
    (arguments? "color(".toList word).any (fun n => n.length ≤ 3 && isByte n) ||
    (arguments? "rgb(".toList word).any fun parts =>
      let parts := Text.splitAt (· = ',') parts
      parts.length == 3 && parts.all isByte

/-- Whether a word in lower case gives red, green and blue parts, one of them empty. -/
def lacksPart (word : List Char) : Bool :=
  (arguments? "rgb(".toList word).any fun parts =>
    let parts := Text.splitAt (· = ',') parts
    parts.length == 3 && (parts.all fun part => part.all Char.isDigit) && parts.contains []

/-- Why a text is read as no style. -/
inductive StyleFault where
  /-- It does not name one. -/
  | unknown
  /-- A part of a colour is empty. -/
  | noNumber
  deriving DecidableEq, Repr, Inhabited

/-- The colour that a word in lower case names. -/
def readColour (word : List Char) : Except StyleFault Colour :=
  if isColour word then .ok word
  else if lacksPart word then .error .noNumber
  else .error .unknown

/-- The attributes of a style in the order of its normal name, each with its short name. -/
def attributes : List (String × Option String) :=
  [("bold", some "b"), ("dim", some "d"), ("italic", some "i"), ("underline", some "u"),
    ("blink", none), ("blink2", none), ("reverse", some "r"), ("conceal", some "c"),
    ("strike", some "s"), ("underline2", some "uu"), ("frame", none), ("encircle", none),
    ("overline", some "o")]

/-- The attribute with a long or short name. -/
def attribute? (word : List Char) : Option String :=
  (attributes.find? fun a =>
    a.1.toList == word || a.2.any fun short => short.toList == word).map Prod.fst

/-- A style. -/
structure Style where
  /-- Attributes that are set on or off; the last setting counts. -/
  settings : List (String × Bool) := []
  colour : Option Colour := none
  background : Option Colour := none
  link : Option (List Char) := none
  deriving DecidableEq, Repr, Inhabited

namespace Style

/-- Read the words of a style. -/
def read : Style → List (List Char) → Except StyleFault Style
  | style, [] => .ok style
  | style, word :: words =>
    let low := lowerName word
    if low = "on".toList then
      match words with
      | [] => .error .unknown
      | colour :: words =>
        match readColour (lowerName colour) with
        | .ok colour => read { style with background := some colour } words
        | .error e => .error e
    else if low = "not".toList then
      match words with
      | [] => .error .unknown
      | setting :: words =>
        match attribute? setting with
        | some a => read { style with settings := (a, false) :: style.settings } words
        | none => .error .unknown
    else if low = "link".toList then
      match words with
      | [] => .error .unknown
      | target :: words => read { style with link := some target } words
    else match attribute? low with
      | some a => read { style with settings := (a, true) :: style.settings } words
      | none =>
        match readColour low with
        | .ok colour => read { style with colour := some colour } words
        | .error e => .error e

/-- The style that a text names. -/
def parse (s : List Char) : Except StyleFault Style :=
  if Text.trimBlank s = "none".toList then .ok {} else read {} (nameWords s)

/-- The normal name of a style: attributes in their order, colours, link. -/
def name (style : Style) : List Char :=
  let set := attributes.filterMap fun (a, _) =>
    (style.settings.lookup a).map fun (value : Bool) =>
      if value then a.toList else "not ".toList ++ a.toList
  let words := set ++ style.colour.toList ++
    (style.background.toList.map ("on ".toList ++ ·)) ++
    (style.link.toList.map ("link ".toList ++ ·))
  if words.isEmpty then "none".toList else (words.intersperse [' ']).flatten

end Style

/-- The normal name of a text: of the style that it names, or the text in lower case. -/
def normalName (s : List Char) : Except StyleFault (List Char) :=
  match Style.parse s with
  | .ok style => .ok style.name
  | .error .unknown => .ok (lowerName (Text.trimBlank s))
  | .error .noNumber => .error .noNumber

end Disposal.Console
