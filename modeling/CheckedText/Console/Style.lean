import CheckedText.Console.Line
import CheckedText.Number
import CheckedText.Text.Lower

/-!
# Styles

A style is written in words: attributes, which `not` switches off, a colour, a background after `on`
and a link. Styles that mean the same have the same name in the end. What is no style is a name of
its own, up to blanks around it and case.
-/

namespace CheckedText

structure Style where
  switched : List (Text × Bool) := []
  colour : Option Text := none
  background : Option Text := none
  link : Option Text := none
  deriving DecidableEq, Repr

namespace Style

def attributes : List (String × List String) :=
  [("bold", ["b"]), ("dim", ["d"]), ("italic", ["i"]), ("underline", ["u"]), ("blink", []),
    ("blink2", []), ("reverse", ["r"]), ("conceal", ["c"]), ("strike", ["s"]),
    ("underline2", ["uu"]), ("frame", []), ("encircle", []), ("overline", ["o"])]

def attribute? (word : Text) : Option Text :=
  (attributes.find? fun a => (a.1 :: a.2).any (·.toList = word)).map (·.1.toList)

def colourNames : List String :=
  ["black", "red", "green", "yellow", "blue", "magenta", "cyan", "white", "bright_black",
    "bright_red", "bright_green", "bright_yellow", "bright_blue", "bright_magenta", "bright_cyan",
    "bright_white", "grey0", "gray0", "navy_blue", "dark_blue", "blue3", "blue1", "dark_green",
    "deep_sky_blue4", "dodger_blue3", "dodger_blue2", "green4", "spring_green4", "turquoise4",
    "deep_sky_blue3", "dodger_blue1", "green3", "spring_green3", "dark_cyan", "light_sea_green",
    "deep_sky_blue2", "deep_sky_blue1", "spring_green2", "cyan3", "dark_turquoise", "turquoise2",
    "green1", "spring_green1", "medium_spring_green", "cyan2", "cyan1", "dark_red", "deep_pink4",
    "purple4", "purple3", "blue_violet", "orange4", "grey37", "gray37", "medium_purple4",
    "slate_blue3", "royal_blue1", "chartreuse4", "dark_sea_green4", "pale_turquoise4",
    "steel_blue", "steel_blue3", "cornflower_blue", "chartreuse3", "cadet_blue", "sky_blue3",
    "steel_blue1", "pale_green3", "sea_green3", "aquamarine3", "medium_turquoise", "chartreuse2",
    "sea_green2", "sea_green1", "aquamarine1", "dark_slate_gray2", "dark_magenta", "dark_violet",
    "purple", "light_pink4", "plum4", "medium_purple3", "slate_blue1", "yellow4", "wheat4",
    "grey53", "gray53", "light_slate_grey", "light_slate_gray", "medium_purple",
    "light_slate_blue", "dark_olive_green3", "dark_sea_green", "light_sky_blue3", "sky_blue2",
    "dark_sea_green3", "dark_slate_gray3", "sky_blue1", "chartreuse1", "light_green",
    "pale_green1", "dark_slate_gray1", "red3", "medium_violet_red", "magenta3", "dark_orange3",
    "indian_red", "hot_pink3", "medium_orchid3", "medium_orchid", "medium_purple2",
    "dark_goldenrod", "light_salmon3", "rosy_brown", "grey63", "gray63", "medium_purple1",
    "gold3", "dark_khaki", "navajo_white3", "grey69", "gray69", "light_steel_blue3",
    "light_steel_blue", "yellow3", "dark_sea_green2", "light_cyan3", "light_sky_blue1",
    "green_yellow", "dark_olive_green2", "dark_sea_green1", "pale_turquoise1", "deep_pink3",
    "magenta2", "hot_pink2", "orchid", "medium_orchid1", "orange3", "light_pink3", "pink3",
    "plum3", "violet", "light_goldenrod3", "tan", "misty_rose3", "thistle3", "plum2", "khaki3",
    "light_goldenrod2", "light_yellow3", "grey84", "gray84", "light_steel_blue1", "yellow2",
    "dark_olive_green1", "honeydew2", "light_cyan1", "red1", "deep_pink2", "deep_pink1",
    "magenta1", "orange_red1", "indian_red1", "hot_pink", "dark_orange", "salmon1", "light_coral",
    "pale_violet_red1", "orchid2", "orchid1", "orange1", "sandy_brown", "light_salmon1",
    "light_pink1", "pink1", "plum1", "gold1", "navajo_white1", "misty_rose1", "thistle1",
    "yellow1", "light_goldenrod1", "khaki1", "wheat1", "cornsilk1", "grey100", "gray100", "grey3",
    "gray3", "grey7", "gray7", "grey11", "gray11", "grey15", "gray15", "grey19", "gray19",
    "grey23", "gray23", "grey27", "gray27", "grey30", "gray30", "grey35", "gray35", "grey39",
    "gray39", "grey42", "gray42", "grey46", "gray46", "grey50", "gray50", "grey54", "gray54",
    "grey58", "gray58", "grey62", "gray62", "grey66", "gray66", "grey70", "gray70", "grey74",
    "gray74", "grey78", "gray78", "grey82", "gray82", "grey85", "gray85", "grey89", "gray89",
    "grey93", "gray93"]

def enclosed? (front : String) (t : Text) : Option Text :=
  if front.toList.isPrefixOf t && t.getLast? = some ')' then
    some (t.drop front.length).dropLast
  else none

def componentLimit : Nat :=
  255

def component (ds : Text) : Except Nat Nat :=
  if ds = [] || Number.digitLimit < ds.length then .error ds.length
  else .ok (Number.ofDigits 10 (ds.map fun c => (Text.digitValue? c).getD 0))

def isTriplet (body : Text) : Except Nat Bool :=
  let parts := Console.splitAt (· = ',') body
  if body.all (fun c => c = ',' || (Text.digitValue? c).isSome) && parts.length = 3 then do
    return (← parts.mapM component).all (· ≤ componentLimit)
  else .ok false

def isIndex (ds : Text) : Bool :=
  1 ≤ ds.length && ds.length ≤ 3 && ds.all Char.isDigit
    && Number.ofDigits 10 (ds.map fun c => c.toNat - 48) ≤ componentLimit

def isHexColour (ds : Text) : Bool :=
  ds.length = 6 && ds.all fun c => c.isDigit || ('a' ≤ c && c ≤ 'f')

/-- Whether a word in lower case is a colour. A part of it that cannot be read as a number is an
error, given by the number of its digits. -/
def isColour (word : Text) : Except Nat Bool :=
  if word = "default".toList || colourNames.contains (String.ofList word) then .ok true
  else if word.head? = some '#' then .ok (isHexColour (word.drop 1))
  else match enclosed? "color(" word, enclosed? "rgb(" word with
    | some ds, _ => .ok (isIndex ds)
    | none, some body => isTriplet body
    | none, none => .ok false

def ofWords (s : Style) : List Text → Except Nat (Option Style)
  | [] => .ok (some s)
  | word :: rest =>
    let lowered := Text.lower word
    if lowered = "on".toList then
      match rest with
      | [] => .ok none
      | next :: rest => do
        if ← isColour (Text.lower next) then
          ofWords { s with background := some (Text.lower next) } rest
        else return none
    else if lowered = "not".toList then
      match rest with
      | [] => .ok none
      | next :: rest =>
        match attribute? next with
        | some a => ofWords { s with switched := (a, false) :: s.switched } rest
        | none => .ok none
    else if lowered = "link".toList then
      match rest with
      | [] => .ok none
      | next :: rest => ofWords { s with link := some next } rest
    else match attribute? lowered with
      | some a => ofWords { s with switched := (a, true) :: s.switched } rest
      | none => do
        if ← isColour lowered then ofWords { s with colour := some lowered } rest
        else return none

def name (s : Style) : Text :=
  let switched := attributes.filterMap fun a =>
    (s.switched.lookup a.1.toList).map fun on =>
      if on then a.1.toList else "not ".toList ++ a.1.toList
  let words := switched ++ s.colour.toList
    ++ s.background.toList.map ("on ".toList ++ ·) ++ s.link.toList.map ("link ".toList ++ ·)
  if words = [] then "none".toList else [' '].intercalate words

/-- The name that stands for all ways to write a style. -/
def normalName (t : Text) : Except Nat Text := do
  if Text.strip t = "none".toList then return Text.strip t
  else match ← ofWords {} ((Console.splitAt Text.isBlank t).filter (· ≠ [])) with
    | some s => return s.name
    | none => return Text.lower (Text.strip t)

end Style

end CheckedText
