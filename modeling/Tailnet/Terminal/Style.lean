import Tailnet.Integer.Numeral
import Tailnet.Json.Reader
import Tailnet.Text.Blank
import Tailnet.Text.Lowercase
import Tailnet.Text.Split

/-!
Styles of text on a terminal: attributes such as bold, colours, and a link. Different words may
stand for the same style, which then has one name.
-/

namespace Tailnet.Terminal

/-- Why words name no style. A colour may also have a part that is no number at all. -/
inductive StyleFault where
  | unknown
  | numeral (cause : Integer.NumeralError)
deriving DecidableEq, Repr

/-- The attributes, each with its spellings, the name first. -/
def attributes : List (List String) :=
  [ ["bold", "b"], ["dim", "d"], ["italic", "i"], ["underline", "u"], ["blink"], ["blink2"],
    ["reverse", "r"], ["conceal", "c"], ["strike", "s"], ["underline2", "uu"], ["frame"],
    ["encircle"], ["overline", "o"] ]

def attribute? (word : String) : Option String :=
  (attributes.find? fun spellings => spellings.contains word).bind List.head?

def colourNames : List String :=
  (Text.words names.toList).map String.ofList
where
  /-- The names with blanks between them. -/
  names : String :=
    "black red green yellow blue magenta cyan white bright_black bright_red bright_green
      bright_yellow bright_blue bright_magenta bright_cyan bright_white grey0 gray0 navy_blue
      dark_blue blue3 blue1 dark_green deep_sky_blue4 dodger_blue3 dodger_blue2 green4
      spring_green4 turquoise4 deep_sky_blue3 dodger_blue1 green3 spring_green3 dark_cyan
      light_sea_green deep_sky_blue2 deep_sky_blue1 spring_green2 cyan3 dark_turquoise turquoise2
      green1 spring_green1 medium_spring_green cyan2 cyan1 dark_red deep_pink4 purple4 purple3
      blue_violet orange4 grey37 gray37 medium_purple4 slate_blue3 royal_blue1 chartreuse4
      dark_sea_green4 pale_turquoise4 steel_blue steel_blue3 cornflower_blue chartreuse3
      cadet_blue sky_blue3 steel_blue1 pale_green3 sea_green3 aquamarine3 medium_turquoise
      chartreuse2 sea_green2 sea_green1 aquamarine1 dark_slate_gray2 dark_magenta dark_violet
      purple light_pink4 plum4 medium_purple3 slate_blue1 yellow4 wheat4 grey53 gray53
      light_slate_grey light_slate_gray medium_purple light_slate_blue dark_olive_green3
      dark_sea_green light_sky_blue3 sky_blue2 dark_sea_green3 dark_slate_gray3 sky_blue1
      chartreuse1 light_green pale_green1 dark_slate_gray1 red3 medium_violet_red magenta3
      dark_orange3 indian_red hot_pink3 medium_orchid3 medium_orchid medium_purple2 dark_goldenrod
      light_salmon3 rosy_brown grey63 gray63 medium_purple1 gold3 dark_khaki navajo_white3 grey69
      gray69 light_steel_blue3 light_steel_blue yellow3 dark_sea_green2 light_cyan3
      light_sky_blue1 green_yellow dark_olive_green2 dark_sea_green1 pale_turquoise1 deep_pink3
      magenta2 hot_pink2 orchid medium_orchid1 orange3 light_pink3 pink3 plum3 violet
      light_goldenrod3 tan misty_rose3 thistle3 plum2 khaki3 light_goldenrod2 light_yellow3 grey84
      gray84 light_steel_blue1 yellow2 dark_olive_green1 honeydew2 light_cyan1 red1 deep_pink2
      deep_pink1 magenta1 orange_red1 indian_red1 hot_pink dark_orange salmon1 light_coral
      pale_violet_red1 orchid2 orchid1 orange1 sandy_brown light_salmon1 light_pink1 pink1 plum1
      gold1 navajo_white1 misty_rose1 thistle1 yellow1 light_goldenrod1 khaki1 wheat1 cornsilk1
      grey100 gray100 grey3 gray3 grey7 gray7 grey11 gray11 grey15 gray15 grey19 gray19 grey23
      gray23 grey27 gray27 grey30 gray30 grey35 gray35 grey39 gray39 grey42 gray42 grey46 gray46
      grey50 gray50 grey54 gray54 grey58 gray58 grey62 gray62 grey66 gray66 grey70 gray70 grey74
      gray74 grey78 gray78 grey82 gray82 grey85 gray85 grey89 gray89 grey93 gray93"

/-- Check the parts of a colour given as red, green and blue. -/
def checkParts (parts : List (List Char)) : Except StyleFault Unit := do
  if parts.length != 3 then throw .unknown
  let levels ← parts.mapM fun part => (Integer.read (String.ofList part)).mapError .numeral
  if levels.any (255 < ·) then throw .unknown

/-- The characters between a beginning and a closing parenthesis. -/
def argument? (start : String) (cs : List Char) : Option (List Char) :=
  let rest := cs.drop start.length
  if start.toList.isPrefixOf cs && rest.getLast? == some ')' then some rest.dropLast else none

/-- Check that a word in small letters means a colour: a name, a code, or numbers. -/
def checkColour (word : String) : Except StyleFault Unit :=
  let cs := word.toList
  if word = "default" || colourNames.contains word then .ok ()
  else
    match argument? "color(" cs, argument? "rgb(" cs with
    | some digits, _ =>
      if !digits.isEmpty && digits.length ≤ 3 && digits.all Json.isDigit &&
          Json.digitsValue digits ≤ 255 then .ok () else .error .unknown
    | none, some inside =>
      if !inside.isEmpty && inside.all fun c => c == ',' || Text.isDecimal c then
        checkParts (Text.splitAt ',' inside)
      else .error .unknown
    | none, none =>
      match cs with
      | '#' :: digits =>
        if digits.length = 6 && digits.all fun c => (Json.hexValue? c).isSome then .ok ()
        else .error .unknown
      | _ => .error .unknown

/-- A style: attributes that are switched on or off, colours of the text and behind it, and a
link. -/
structure Style where
  attributes : Table String Bool
  colour : Option String
  background : Option String
  link : Option String

namespace Style

def plain : Style := ⟨[], none, none, none⟩

def readWords (style : Style) : List String → Except StyleFault Style
  | [] => .ok style
  | written :: rest =>
    let word := Text.lower written
    if word = "on" then
      match rest with
      | [] => .error .unknown
      | colour :: rest => do
        checkColour (Text.lower colour)
        readWords { style with background := some (Text.lower colour) } rest
    else if word = "not" then
      match rest with
      | [] => .error .unknown
      | name :: rest =>
        match attribute? name with
        | some name =>
          readWords { style with attributes := style.attributes.insert name false } rest
        | none => .error .unknown
    else if word = "link" then
      match rest with
      | [] => .error .unknown
      | target :: rest => readWords { style with link := some target } rest
    else
      match attribute? word with
      | some name => readWords { style with attributes := style.attributes.insert name true } rest
      | none => do
        checkColour word
        readWords { style with colour := some word } rest

def read (text : String) : Except StyleFault Style :=
  if Text.trim text = "none" then .ok plain
  else plain.readWords ((Text.words text.toList).map String.ofList)

def words (style : Style) : List String :=
  (Terminal.attributes.filterMap fun spellings =>
    spellings.head?.bind fun name => (style.attributes.get? name).map fun isOn =>
      if isOn then name else "not " ++ name) ++
    style.colour.toList ++
    (style.background.map fun colour => "on " ++ colour).toList ++
    (style.link.map fun target => "link " ++ target).toList

def name (style : Style) : String :=
  if style.words.isEmpty then "none" else Text.joinWith " " style.words

/-- The one name of the style that a text means. A text that means none is a name itself, in small
letters and without blanks around it. -/
def usualName (text : String) : Except Integer.NumeralError String :=
  match read text with
  | .ok style => .ok style.name
  | .error .unknown => .ok (Text.lower (Text.trim text))
  | .error (.numeral cause) => .error cause

end Style

end Tailnet.Terminal
