import Refit.Datum.Fault

/-!
Styles of a text, and the one way in which each is written.
-/

namespace Refit.Markup

open Datum (Read)

structure Style where
  -- The attributes that are set, and whether they are on.
  attributes : List (String × Bool) := []
  color : Option String := none
  background : Option String := none
  link : Option String := none

namespace Style

-- The attributes in the order in which they are written, each with its short name.
def attributeNames : List (String × Option String) :=
  [("bold", "b"), ("dim", "d"), ("italic", "i"), ("underline", "u"), ("blink", none),
    ("blink2", none), ("reverse", "r"), ("conceal", "c"), ("strike", "s"), ("underline2", "uu"),
    ("frame", none), ("encircle", none), ("overline", "o")]

def attribute? (word : String) : Option String :=
  (attributeNames.find? fun a => a.1 == word || a.2 == some word).map Prod.fst

/-! Colours -/

-- Lines of names.
def colorNames : List String := [
  "black red green yellow blue magenta cyan white bright_black bright_red bright_green",
  "bright_yellow bright_blue bright_magenta bright_cyan bright_white grey0 gray0 navy_blue",
  "dark_blue blue3 blue1 dark_green deep_sky_blue4 dodger_blue3 dodger_blue2 green4",
  "spring_green4 turquoise4 deep_sky_blue3 dodger_blue1 green3 spring_green3 dark_cyan",
  "light_sea_green deep_sky_blue2 deep_sky_blue1 spring_green2 cyan3 dark_turquoise turquoise2",
  "green1 spring_green1 medium_spring_green cyan2 cyan1 dark_red deep_pink4 purple4 purple3",
  "blue_violet orange4 grey37 gray37 medium_purple4 slate_blue3 royal_blue1 chartreuse4",
  "dark_sea_green4 pale_turquoise4 steel_blue steel_blue3 cornflower_blue chartreuse3",
  "cadet_blue sky_blue3 steel_blue1 pale_green3 sea_green3 aquamarine3 medium_turquoise",
  "chartreuse2 sea_green2 sea_green1 aquamarine1 dark_slate_gray2 dark_magenta dark_violet",
  "purple light_pink4 plum4 medium_purple3 slate_blue1 yellow4 wheat4 grey53 gray53",
  "light_slate_grey light_slate_gray medium_purple light_slate_blue dark_olive_green3",
  "dark_sea_green light_sky_blue3 sky_blue2 dark_sea_green3 dark_slate_gray3 sky_blue1",
  "chartreuse1 light_green pale_green1 dark_slate_gray1 red3 medium_violet_red magenta3",
  "dark_orange3 indian_red hot_pink3 medium_orchid3 medium_orchid medium_purple2 dark_goldenrod",
  "light_salmon3 rosy_brown grey63 gray63 medium_purple1 gold3 dark_khaki navajo_white3 grey69",
  "gray69 light_steel_blue3 light_steel_blue yellow3 dark_sea_green2 light_cyan3",
  "light_sky_blue1 green_yellow dark_olive_green2 dark_sea_green1 pale_turquoise1 deep_pink3",
  "magenta2 hot_pink2 orchid medium_orchid1 orange3 light_pink3 pink3 plum3 violet",
  "light_goldenrod3 tan misty_rose3 thistle3 plum2 khaki3 light_goldenrod2 light_yellow3 grey84",
  "gray84 light_steel_blue1 yellow2 dark_olive_green1 honeydew2 light_cyan1 red1 deep_pink2",
  "deep_pink1 magenta1 orange_red1 indian_red1 hot_pink dark_orange salmon1 light_coral",
  "pale_violet_red1 orchid2 orchid1 orange1 sandy_brown light_salmon1 light_pink1 pink1 plum1",
  "gold1 navajo_white1 misty_rose1 thistle1 yellow1 light_goldenrod1 khaki1 wheat1 cornsilk1",
  "grey100 gray100 grey3 gray3 grey7 gray7 grey11 gray11 grey15 gray15 grey19 gray19 grey23",
  "gray23 grey27 gray27 grey30 gray30 grey35 gray35 grey39 gray39 grey42 gray42 grey46 gray46",
  "grey50 gray50 grey54 gray54 grey58 gray58 grey62 gray62 grey66 gray66 grey70 gray70 grey74",
  "gray74 grey78 gray78 grey82 gray82 grey85 gray85 grey89 gray89 grey93 gray93"]

def hasName (word : String) : Bool :=
  colorNames.any fun line => (Text.words line.toList).contains word.toList

-- What stands in brackets behind a word.
def inBrackets? (start : String) (word : String) : Option (List Char) :=
  if word.beginsWith (start ++ "(") && word.finishesWith ")" then
    some ((word.skipChars (start.length + 1)).skipLastChars 1).toList
  else none

def isHexColor (word : String) : Bool :=
  match word.toList with
  | '#' :: ds => ds.length == 6 && ds.all Letter.isHex
  | _ => false

def isNumbered (word : String) : Bool :=
  match inBrackets? "color" word with
  | some ds =>
    !ds.isEmpty && ds.length ≤ 3 && ds.all Letter.isAsciiDigit
      && ds.foldl (fun n d => n * 10 + (d.toNat - '0'.toNat)) 0 ≤ 255
  | none => false

-- Three parts between commas, each of which has to be a number.
def isMixed (word : String) : Read Bool :=
  match inBrackets? "rgb" word with
  | some cs =>
    let parts := (String.ofList cs).splitAt ','
    if cs.all (fun c => c == ',' || (Letter.digitValue? c).isSome) && parts.length == 3 then do
      return (← parts.mapM Datum.readInteger).all (· ≤ 255)
    else return false
  | none => return false

-- Whether a word names a colour.
def isColor (word : String) : Read Bool := do
  let word := word.lowered
  if word == "default" || hasName word || isHexColor word || isNumbered word then return true
  else isMixed word

/-! Reading and writing -/

def setAttribute (s : Style) (name : String) (isOn : Bool) : Style :=
  { s with attributes := (name, isOn) :: s.attributes.filter (·.1 != name) }

-- The style of words, if they make one.
def ofWords (s : Style) : List String → Read (Option Style)
  | [] => return some s
  | w :: ws =>
    match w.lowered, ws with
    | "on", [] | "not", [] | "link", [] => return none
    | "on", color :: ws => do
      if ← isColor color then ofWords { s with background := some color.lowered } ws
      else return none
    | "not", name :: ws =>
      match attribute? name with
      | some a => ofWords (s.setAttribute a false) ws
      | none => return none
    | "link", target :: ws => ofWords { s with link := some target } ws
    | word, ws => do
      match attribute? word with
      | some a => ofWords (s.setAttribute a true) ws
      | none =>
        if ← isColor word then ofWords { s with color := some word } ws else return none

def text (s : Style) : String :=
  let attributes := attributeNames.filterMap fun (a, _) =>
    (s.attributes.lookup a).map fun isOn => if isOn then a else "not " ++ a
  let words := attributes ++ s.color.toList ++ (s.background.map ("on " ++ ·)).toList
    ++ (s.link.map ("link " ++ ·)).toList
  if words.isEmpty then "none" else " ".joining words

end Style

-- The written form of a style, which is the same for styles of one effect. What is no style is
-- written in small letters.
def normalStyle (name : String) : Read String := do
  if name == "" || name.stripped == "none" then return "none"
  else
    match ← Style.ofWords {} ((Text.words name.toList).map String.ofList) with
    | some s => return s.text
    | none => return name.stripped.lowered

end Refit.Markup
