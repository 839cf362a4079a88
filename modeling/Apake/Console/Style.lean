import Apake.Error
import Apake.Json.Reader
import Apake.Text.Lines
import Apake.Text.Lower
import Apake.Text.Numeral

/-!
# Styles

A style is described by words: attributes, each perhaps behind `not`, a colour, a background behind
`on` and the target behind `link`.  Descriptions of one style are put into one form, so that a tag
can be closed under another description of its style.
-/

namespace Apake.Style

/-- The attributes in the order in which a style tells them, each with its short name. -/
def attributes : List (String × Option String) := [
  ("bold", some "b"), ("dim", some "d"), ("italic", some "i"), ("underline", some "u"),
  ("blink", none), ("blink2", none), ("reverse", some "r"), ("conceal", some "c"),
  ("strike", some "s"), ("underline2", some "uu"), ("frame", none), ("encircle", none),
  ("overline", some "o")]

/-- The attribute of a given name. -/
def attribute? (word : String) : Option String :=
  (attributes.find? fun (name, short) ↦ word = name || short = some word).map Prod.fst

/-- The names of colours, divided by blanks and line ends. -/
def colourNames : String := "
black red green yellow blue magenta cyan white bright_black bright_red bright_green bright_yellow
bright_blue bright_magenta bright_cyan bright_white grey0 gray0 navy_blue dark_blue blue3 blue1
dark_green deep_sky_blue4 dodger_blue3 dodger_blue2 green4 spring_green4 turquoise4 deep_sky_blue3
dodger_blue1 green3 spring_green3 dark_cyan light_sea_green deep_sky_blue2 deep_sky_blue1
spring_green2 cyan3 dark_turquoise turquoise2 green1 spring_green1 medium_spring_green cyan2 cyan1
dark_red deep_pink4 purple4 purple3 blue_violet orange4 grey37 gray37 medium_purple4 slate_blue3
royal_blue1 chartreuse4 dark_sea_green4 pale_turquoise4 steel_blue steel_blue3 cornflower_blue
chartreuse3 cadet_blue sky_blue3 steel_blue1 pale_green3 sea_green3 aquamarine3 medium_turquoise
chartreuse2 sea_green2 sea_green1 aquamarine1 dark_slate_gray2 dark_magenta dark_violet purple
light_pink4 plum4 medium_purple3 slate_blue1 yellow4 wheat4 grey53 gray53 light_slate_grey
light_slate_gray medium_purple light_slate_blue dark_olive_green3 dark_sea_green light_sky_blue3
sky_blue2 dark_sea_green3 dark_slate_gray3 sky_blue1 chartreuse1 light_green pale_green1
dark_slate_gray1 red3 medium_violet_red magenta3 dark_orange3 indian_red hot_pink3 medium_orchid3
medium_orchid medium_purple2 dark_goldenrod light_salmon3 rosy_brown grey63 gray63 medium_purple1
gold3 dark_khaki navajo_white3 grey69 gray69 light_steel_blue3 light_steel_blue yellow3
dark_sea_green2 light_cyan3 light_sky_blue1 green_yellow dark_olive_green2 dark_sea_green1
pale_turquoise1 deep_pink3 magenta2 hot_pink2 orchid medium_orchid1 orange3 light_pink3 pink3 plum3
violet light_goldenrod3 tan misty_rose3 thistle3 plum2 khaki3 light_goldenrod2 light_yellow3 grey84
gray84 light_steel_blue1 yellow2 dark_olive_green1 honeydew2 light_cyan1 red1 deep_pink2 deep_pink1
magenta1 orange_red1 indian_red1 hot_pink dark_orange salmon1 light_coral pale_violet_red1 orchid2
orchid1 orange1 sandy_brown light_salmon1 light_pink1 pink1 plum1 gold1 navajo_white1 misty_rose1
thistle1 yellow1 light_goldenrod1 khaki1 wheat1 cornsilk1 grey100 gray100 grey3 gray3 grey7 gray7
grey11 gray11 grey15 gray15 grey19 gray19 grey23 gray23 grey27 gray27 grey30 gray30 grey35 gray35
grey39 gray39 grey42 gray42 grey46 gray46 grey50 gray50 grey54 gray54 grey58 gray58 grey62 gray62
grey66 gray66 grey70 gray70 grey74 gray74 grey78 gray78 grey82 gray82 grey85 gray85 grey89 gray89
grey93 gray93
"

/-- Whether a word names a colour. -/
def isColourName (word : String) : Bool :=
  word = "default" || (Text.words colourNames).contains word

/-- The value of a number between the commas of a colour. -/
def component (digits : List Char) : Except Error Nat :=
  match Text.digits? digits with
  | some ds =>
    if digitLimit < ds.length then .error .colourNumber
    else .ok (ds.foldl (fun n d ↦ n * 10 + d) 0)
  | none => .error .colourNumber

/-- What stands between brackets behind a name. -/
def arguments? (name : String) (cs : List Char) : Option (List Char) :=
  let opening := name.toList ++ ['(']
  if opening.isPrefixOf cs && cs.getLast? = some ')' && opening.length < cs.length then
    some ((cs.drop opening.length).dropLast)
  else none

/-- Whether a word in small letters stands for a colour: by its name, by six hexadecimal digits, by
its number, or by three numbers none of which may be missing. -/
def isColour (cs : List Char) : Except Error Bool :=
  if isColourName (String.ofList cs) then .ok true
  else match cs with
    | '#' :: digits => .ok (digits.length = 6 && digits.all (Json.hexValue? · |>.isSome))
    | _ =>
      match arguments? "color" cs, arguments? "rgb" cs with
      | some digits, _ =>
        .ok (1 ≤ digits.length && digits.length ≤ 3 && digits.all Json.isDigit &&
          Json.digitsValue digits ≤ 255)
      | none, some inner =>
        if inner.isEmpty || !inner.all fun c ↦ c = ',' || (Text.digit? c).isSome then .ok false
        else match inner.splitOn ',' with
          | [red, green, blue] => do
            return (← [red, green, blue].mapM component).all (· ≤ 255)
          | _ => .ok false
      | none, none => .ok false

/-- A style. -/
structure Description where
  /-- The attributes that are set or unset, the last word on each first. -/
  attributes : List (String × Bool) := []
  colour : Option (List Char) := none
  background : Option (List Char) := none
  link : Option (List Char) := none

/-- The style that words describe, added to one described before; no style if one of the words makes
no sense. -/
def describe? (d : Description) : List (List Char) → Except Error (Option Description)
  | [] => .ok (some d)
  | given :: words =>
    let word := Text.lower given
    match String.ofList word, words with
    | "on", colour :: words => do
      let colour := Text.lower colour
      if ← isColour colour then describe? { d with background := some colour } words
      else return none
    | "not", name :: words =>
      match attribute? (String.ofList name) with
      | some name => describe? { d with attributes := (name, false) :: d.attributes } words
      | none => .ok none
    | "link", target :: words => describe? { d with link := some target } words
    | "on", [] | "not", [] | "link", [] => .ok none
    | name, words =>
      match attribute? name with
      | some name => describe? { d with attributes := (name, true) :: d.attributes } words
      | none => do
        if ← isColour word then describe? { d with colour := some word } words else return none

/-- The words of a text. -/
def words (cs : List Char) : List (List Char) :=
  (cs.splitOnP Text.isBlank).filter (!·.isEmpty)

/-- The style that a text describes, if it describes one. -/
def ofText? (cs : List Char) : Except Error (Option Description) :=
  if words cs = ["none".toList] then .ok (some {}) else describe? {} (words cs)

/-- The words of a style in their order. -/
def Description.words (d : Description) : List (List Char) :=
  let told := Style.attributes.filterMap fun (name, _) ↦
    (d.attributes.lookup name).map fun isSet ↦ (if isSet then name else s!"not {name}").toList
  let coloured := (d.colour.map ([·])).getD []
  let background := (d.background.map (["on".toList, ·])).getD []
  let link := (d.link.map (["link".toList, ·])).getD []
  told ++ coloured ++ background ++ link

/-- The one form of all descriptions of a style; a text that describes none is put in small letters
without blanks around it. -/
def normal (cs : List Char) : Except Error (List Char) := do
  match ← ofText? cs with
  | some d => return if d.words.isEmpty then "none".toList else [' '].intercalate d.words
  | none => return Text.lower (Text.stripEnd (cs.dropWhile Text.isBlank))

end Apake.Style
