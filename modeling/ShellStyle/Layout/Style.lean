import ShellStyle.Decimal.Numeral
import ShellStyle.Text.LowerCase
import ShellStyle.Text.Search

/-!
# Styles

A style is described by words: attributes, which `not` switches off, a colour, a colour behind `on`,
and an address behind `link`. Descriptions that mean the same have the same normal form. A
description that cannot be read is its own normal form, in lower case.
-/

namespace ShellStyle.Layout

open Text

/-- The attributes of a style, in the order of the normal form. -/
inductive Attribute where
  | bold
  | dim
  | italic
  | underline
  | blink
  | fastBlink
  | reverse
  | conceal
  | strike
  | doubleUnderline
  | frame
  | encircle
  | overline
  deriving DecidableEq, Repr

namespace Attribute

/-- All attributes. -/
def all : List Attribute :=
  [bold, dim, italic, underline, blink, fastBlink, reverse, conceal, strike, doubleUnderline,
    frame, encircle, overline]

/-- The names of an attribute, the one of the normal form first. -/
def names : Attribute → List Text
  | bold => ["bold".toList, "b".toList]
  | dim => ["dim".toList, "d".toList]
  | italic => ["italic".toList, "i".toList]
  | underline => ["underline".toList, "u".toList]
  | blink => ["blink".toList]
  | fastBlink => ["blink2".toList]
  | reverse => ["reverse".toList, "r".toList]
  | conceal => ["conceal".toList, "c".toList]
  | strike => ["strike".toList, "s".toList]
  | doubleUnderline => ["underline2".toList, "uu".toList]
  | frame => ["frame".toList]
  | encircle => ["encircle".toList]
  | overline => ["overline".toList, "o".toList]

/-- The name of an attribute in the normal form. -/
def name (a : Attribute) : Text :=
  a.names.head?.getD []

/-- The attribute of a name. -/
def ofName? (name : Text) : Option Attribute :=
  all.find? fun a => a.names.elem name

end Attribute

/-- The names of colours, many in a row. -/
def colorRows : List String :=
  ["black red green yellow blue magenta cyan white bright_black bright_red bright_green",
    "bright_yellow bright_blue bright_magenta bright_cyan bright_white grey0 gray0 navy_blue",
    "dark_blue blue3 blue1 dark_green deep_sky_blue4 dodger_blue3 dodger_blue2 green4",
    "spring_green4 turquoise4 deep_sky_blue3 dodger_blue1 green3 spring_green3 dark_cyan",
    "light_sea_green deep_sky_blue2 deep_sky_blue1 spring_green2 cyan3 dark_turquoise turquoise2",
    "green1 spring_green1 medium_spring_green cyan2 cyan1 dark_red deep_pink4 purple4 purple3",
    "blue_violet orange4 grey37 gray37 medium_purple4 slate_blue3 royal_blue1 chartreuse4",
    "dark_sea_green4 pale_turquoise4 steel_blue steel_blue3 cornflower_blue chartreuse3 cadet_blue",
    "sky_blue3 steel_blue1 pale_green3 sea_green3 aquamarine3 medium_turquoise chartreuse2",
    "sea_green2 sea_green1 aquamarine1 dark_slate_gray2 dark_magenta dark_violet purple",
    "light_pink4 plum4 medium_purple3 slate_blue1 yellow4 wheat4 grey53 gray53 light_slate_grey",
    "light_slate_gray medium_purple light_slate_blue dark_olive_green3 dark_sea_green",
    "light_sky_blue3 sky_blue2 dark_sea_green3 dark_slate_gray3 sky_blue1 chartreuse1 light_green",
    "pale_green1 dark_slate_gray1 red3 medium_violet_red magenta3 dark_orange3 indian_red",
    "hot_pink3 medium_orchid3 medium_orchid medium_purple2 dark_goldenrod light_salmon3 rosy_brown",
    "grey63 gray63 medium_purple1 gold3 dark_khaki navajo_white3 grey69 gray69 light_steel_blue3",
    "light_steel_blue yellow3 dark_sea_green2 light_cyan3 light_sky_blue1 green_yellow",
    "dark_olive_green2 dark_sea_green1 pale_turquoise1 deep_pink3 magenta2 hot_pink2 orchid",
    "medium_orchid1 orange3 light_pink3 pink3 plum3 violet light_goldenrod3 tan misty_rose3",
    "thistle3 plum2 khaki3 light_goldenrod2 light_yellow3 grey84 gray84 light_steel_blue1 yellow2",
    "dark_olive_green1 honeydew2 light_cyan1 red1 deep_pink2 deep_pink1 magenta1 orange_red1",
    "indian_red1 hot_pink dark_orange salmon1 light_coral pale_violet_red1 orchid2 orchid1 orange1",
    "sandy_brown light_salmon1 light_pink1 pink1 plum1 gold1 navajo_white1 misty_rose1 thistle1",
    "yellow1 light_goldenrod1 khaki1 wheat1 cornsilk1 grey100 gray100 grey3 gray3 grey7 gray7",
    "grey11 gray11 grey15 gray15 grey19 gray19 grey23 gray23 grey27 gray27 grey30 gray30 grey35",
    "gray35 grey39 gray39 grey42 gray42 grey46 gray46 grey50 gray50 grey54 gray54 grey58 gray58",
    "grey62 gray62 grey66 gray66 grey70 gray70 grey74 gray74 grey78 gray78 grey82 gray82 grey85",
    "gray85 grey89 gray89 grey93 gray93"]

/-- The names of colours. -/
def colorNames : List Text :=
  colorRows.flatMap fun row => splitAt ' ' row.toList

/-- What a word says about a colour. -/
inductive ColorReading where
  | color
  | noColor
  /-- A component of the colour is missing. -/
  | missingComponent
  deriving DecidableEq, Repr

/-- Whether a text is a number of one to three digits that is at most 255. -/
def isColorNumber (t : Text) : Bool :=
  t.length ≤ 3 && t.all Char.isDigit &&
    match Numeral.read t with
    | .ok n => n ≤ 255
    | .error _ => false

/-- Reads the components of a colour, which stand between commas. -/
def readComponents (t : Text) : ColorReading :=
  if t.isEmpty || !t.all fun c => c == ',' || (digitValue? c).isSome then .noColor
  else
    let components := splitAt ',' t
    if components.length ≠ 3 then .noColor
    else if components.any List.isEmpty then .missingComponent
    else if components.all fun part => Numeral.value (part.filterMap digitValue?) ≤ 255 then .color
    else .noColor

/-- What stands between a word with an opening parenthesis and a closing one. -/
def enclosed? (word t : Text) : Option Text :=
  (after? (word ++ ['(']) t).bind fun rest =>
    if endsWith [')'] rest then some rest.dropLast else none

/-- Reads a colour in lower case: a name, six hexadecimal digits, a number or three components. -/
def readColor (t : Text) : ColorReading :=
  let isHex := fun c => c.isDigit || ('a' ≤ c && c ≤ 'f')
  if t = "default".toList || colorNames.elem t then .color
  else match t with
    | '#' :: digits => if digits.length = 6 && digits.all isHex then .color else .noColor
    | _ =>
      match enclosed? "color".toList t, enclosed? "rgb".toList t with
      | some number, _ => if isColorNumber number then .color else .noColor
      | none, some components => readComponents components
      | none, none => .noColor

/-- A style. -/
structure Style where
  attributes : List (Attribute × Bool)
  color : Option Text
  background : Option Text
  link : Option Text
  deriving DecidableEq, Repr

/-- Why a description is no style. -/
inductive StyleFault where
  | unknown
  /-- A component of a colour is missing. -/
  | missingComponent
  deriving DecidableEq, Repr

namespace Style

/-- The style without anything. -/
def empty : Style :=
  ⟨[], none, none, none⟩

/-- The style with an attribute switched on or off. -/
def set (s : Style) (a : Attribute) (isOn : Bool) : Style :=
  ⟨(a, isOn) :: s.attributes, s.color, s.background, s.link⟩

/-- The name of the colour that a word is. -/
def colorOf (word : Text) : Except StyleFault Text :=
  let name := lower word
  match readColor name with
  | .color => .ok name
  | .noColor => .error .unknown
  | .missingComponent => .error .missingComponent

/-- Adds the words of a description to a style. -/
def readWords (s : Style) : List Text → Except StyleFault Style
  | [] => .ok s
  | word :: rest =>
    let small := lower word
    if small = "on".toList then
      match rest with
      | [] => .error .unknown
      | color :: rest => do
        let color ← colorOf color
        readWords ⟨s.attributes, s.color, some color, s.link⟩ rest
    else if small = "not".toList then
      match rest with
      | [] => .error .unknown
      | name :: rest =>
        match Attribute.ofName? name with
        | none => .error .unknown
        | some a => readWords (s.set a false) rest
    else if small = "link".toList then
      match rest with
      | [] => .error .unknown
      | address :: rest => readWords ⟨s.attributes, s.color, s.background, some address⟩ rest
    else
      match Attribute.ofName? small with
      | some a => readWords (s.set a true) rest
      | none => do
        let color ← colorOf word
        readWords ⟨s.attributes, some color, s.background, s.link⟩ rest

/-- The words of the normal form. -/
def words (s : Style) : List Text :=
  let attributes := Attribute.all.flatMap fun a =>
    match s.attributes.lookup a with
    | none => []
    | some true => [a.name]
    | some false => ["not".toList, a.name]
  attributes ++ s.color.toList ++
    (match s.background with
      | some color => ["on".toList, color]
      | none => []) ++
    (match s.link with
      | some address => ["link".toList, address]
      | none => [])

/-- The normal form of a style. -/
def text (s : Style) : Text :=
  match s.words with
  | [] => "none".toList
  | words => joinWith [' '] words

/-- The normal form of a description. -/
def normalForm (description : Text) : Except StyleFault Text :=
  if trim description = "none".toList then .ok empty.text
  else match readWords empty (splitBlanks description) with
    | .ok s => .ok s.text
    | .error .unknown => .ok (lower (trim description))
    | .error .missingComponent => .error .missingComponent

end Style

end ShellStyle.Layout
