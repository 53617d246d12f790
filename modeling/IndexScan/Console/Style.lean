import IndexScan.Text.Blank
import IndexScan.Text.Decimal
import IndexScan.Text.Digit
import IndexScan.Text.Lowercase
import IndexScan.Text.Pieces
import IndexScan.Text.Quoted

/-!
Style definitions: words that name attributes and colours. Two definitions with the same effect have
the same canonical text, by which a closing tag finds the tag that it closes.
-/

namespace IndexScan.Console

open IndexScan.Text

/-- The attributes in canonical order, each with the words that name it. -/
def attributeNames : List (String × List String) :=
  [("bold", ["bold", "b"]), ("dim", ["dim", "d"]), ("italic", ["italic", "i"]),
   ("underline", ["underline", "u"]), ("blink", ["blink"]), ("blink2", ["blink2"]),
   ("reverse", ["reverse", "r"]), ("conceal", ["conceal", "c"]), ("strike", ["strike", "s"]),
   ("underline2", ["underline2", "uu"]), ("frame", ["frame"]), ("encircle", ["encircle"]),
   ("overline", ["overline", "o"])]

/-- The attribute that a word names. -/
def attribute? (word : List Char) : Option String :=
  (attributeNames.find? fun a => a.2.any fun name => name.toList = word).map (·.1)

/-- The colours that have names. -/
def colorNames : List String :=
  ["black", "red", "green", "yellow", "blue", "magenta", "cyan", "white", "bright_black",
   "bright_red", "bright_green", "bright_yellow", "bright_blue", "bright_magenta", "bright_cyan",
   "bright_white", "grey0", "gray0", "navy_blue", "dark_blue", "blue3", "blue1", "dark_green",
   "deep_sky_blue4", "dodger_blue3", "dodger_blue2", "green4", "spring_green4", "turquoise4",
   "deep_sky_blue3", "dodger_blue1", "green3", "spring_green3", "dark_cyan", "light_sea_green",
   "deep_sky_blue2", "deep_sky_blue1", "spring_green2", "cyan3", "dark_turquoise", "turquoise2",
   "green1", "spring_green1", "medium_spring_green", "cyan2", "cyan1", "dark_red", "deep_pink4",
   "purple4", "purple3", "blue_violet", "orange4", "grey37", "gray37", "medium_purple4",
   "slate_blue3", "royal_blue1", "chartreuse4", "dark_sea_green4", "pale_turquoise4",
   "steel_blue", "steel_blue3", "cornflower_blue", "chartreuse3", "cadet_blue", "sky_blue3",
   "steel_blue1", "pale_green3", "sea_green3", "aquamarine3", "medium_turquoise", "chartreuse2",
   "sea_green2", "sea_green1", "aquamarine1", "dark_slate_gray2", "dark_magenta", "dark_violet",
   "purple", "light_pink4", "plum4", "medium_purple3", "slate_blue1", "yellow4", "wheat4",
   "grey53", "gray53", "light_slate_grey", "light_slate_gray", "medium_purple",
   "light_slate_blue", "dark_olive_green3", "dark_sea_green", "light_sky_blue3", "sky_blue2",
   "dark_sea_green3", "dark_slate_gray3", "sky_blue1", "chartreuse1", "light_green",
   "pale_green1", "dark_slate_gray1", "red3", "medium_violet_red", "magenta3", "dark_orange3",
   "indian_red", "hot_pink3", "medium_orchid3", "medium_orchid", "medium_purple2",
   "dark_goldenrod", "light_salmon3", "rosy_brown", "grey63", "gray63", "medium_purple1", "gold3",
   "dark_khaki", "navajo_white3", "grey69", "gray69", "light_steel_blue3", "light_steel_blue",
   "yellow3", "dark_sea_green2", "light_cyan3", "light_sky_blue1", "green_yellow",
   "dark_olive_green2", "dark_sea_green1", "pale_turquoise1", "deep_pink3", "magenta2",
   "hot_pink2", "orchid", "medium_orchid1", "orange3", "light_pink3", "pink3", "plum3", "violet",
   "light_goldenrod3", "tan", "misty_rose3", "thistle3", "plum2", "khaki3", "light_goldenrod2",
   "light_yellow3", "grey84", "gray84", "light_steel_blue1", "yellow2", "dark_olive_green1",
   "honeydew2", "light_cyan1", "red1", "deep_pink2", "deep_pink1", "magenta1", "orange_red1",
   "indian_red1", "hot_pink", "dark_orange", "salmon1", "light_coral", "pale_violet_red1",
   "orchid2", "orchid1", "orange1", "sandy_brown", "light_salmon1", "light_pink1", "pink1",
   "plum1", "gold1", "navajo_white1", "misty_rose1", "thistle1", "yellow1", "light_goldenrod1",
   "khaki1", "wheat1", "cornsilk1", "grey100", "gray100", "grey3", "gray3", "grey7", "gray7",
   "grey11", "gray11", "grey15", "gray15", "grey19", "gray19", "grey23", "gray23", "grey27",
   "gray27", "grey30", "gray30", "grey35", "gray35", "grey39", "gray39", "grey42", "gray42",
   "grey46", "gray46", "grey50", "gray50", "grey54", "gray54", "grey58", "gray58", "grey62",
   "gray62", "grey66", "gray66", "grey70", "gray70", "grey74", "gray74", "grey78", "gray78",
   "grey82", "gray82", "grey85", "gray85", "grey89", "gray89", "grey93", "gray93"]

/-- What a word is as a colour. -/
inductive ColorReading where
  | color
  | noColor
  /-- A component between brackets that is no number, for want of digits. -/
  | badComponent
  deriving DecidableEq, Repr

/-- The number with the digits `cs` of any script. -/
def digitsValue (cs : List Char) : Nat :=
  cs.foldl (fun n c => 10 * n + (digitValue? c).getD 0) 0

/-- What follows `start` in `cs` up to a closing bracket at the end. -/
def between? (start : String) (cs : List Char) : Option (List Char) :=
  if start.toList.isPrefixOf cs && cs.getLast? = some ')' then
    some ((cs.drop start.length).dropLast)
  else none

/-- Whether `c` is a hexadecimal digit in lower case. -/
def isLowerHex (c : Char) : Bool :=
  ('0' ≤ c && c ≤ '9') || ('a' ≤ c && c ≤ 'f')

/-- Reads a colour in lower case: a name, six hexadecimal digits, a number up to 255, or three
components up to 255. -/
def readColor (cs : List Char) : ColorReading :=
  if cs = "default".toList || colorNames.any fun name => name.toList = cs then .color
  else if cs.head? = some '#' then
    if cs.length = 7 && (cs.drop 1).all isLowerHex then .color else .noColor
  else
    match between? "color(" cs with
    | some body =>
      if body.all Char.isDigit && 1 ≤ body.length && body.length ≤ 3
          && Decimal.value body ≤ 255 then .color else .noColor
    | none =>
      match between? "rgb(" cs with
      | none => .noColor
      | some body =>
        if body.isEmpty || !(body.all fun c => c = ',' || (digitValue? c).isSome) then .noColor
        else
          let parts := pieces ',' body
          if parts.length ≠ 3 then .noColor
          else if parts.any List.isEmpty then .badComponent
          else if parts.all fun p => digitsValue p ≤ 255 then .color
          else .noColor

/-- A style: which attributes are set or unset, the colours and the link. -/
structure Style where
  attributes : List (String × Bool)
  color : Option (List Char)
  background : Option (List Char)
  link : Option (List Char)

namespace Style

/-- The style without any effect. -/
def plain : Style := ⟨[], none, none, none⟩

/-- The style with an attribute set or unset. -/
def set (s : Style) (name : String) (value : Bool) : Style :=
  { s with attributes := (name, value) :: s.attributes.filter fun a => a.1 ≠ name }

/-- Why a definition has no style. -/
inductive Refusal where
  | malformed
  | badComponent
  deriving DecidableEq, Repr

/-- Reads a colour word. -/
def colorOf (word : List Char) : Except Refusal (List Char) :=
  let word := lower word
  match readColor word with
  | .color => .ok word
  | .noColor => .error .malformed
  | .badComponent => .error .badComponent

/-- Reads the words of a definition into a style. -/
def ofWords (s : Style) : List (List Char) → Except Refusal Style
  | [] => .ok s
  | word :: rest =>
    let low := lower word
    if low = "on".toList then
      match rest with
      | [] => .error .malformed
      | word :: rest => do
        let color ← colorOf word
        ofWords { s with background := some color } rest
    else if low = "not".toList then
      match rest with
      | [] => .error .malformed
      | word :: rest =>
        match attribute? word with
        | none => .error .malformed
        | some a => ofWords (s.set a false) rest
    else if low = "link".toList then
      match rest with
      | [] => .error .malformed
      | word :: rest => ofWords { s with link := some word } rest
    else
      match attribute? low with
      | some a => ofWords (s.set a true) rest
      | none => do
        let color ← colorOf word
        ofWords { s with color := some color } rest

/-- The canonical text of a style. -/
def text (s : Style) : List Char :=
  let attributes := attributeNames.filterMap fun a =>
    (s.attributes.find? fun b => b.1 = a.1).map fun b =>
      (if b.2 then "" else "not ").toList ++ a.1.toList
  let words := attributes ++ s.color.toList
    ++ (s.background.elim [] fun c => ["on".toList, c])
    ++ (s.link.elim [] fun l => ["link".toList, l])
  if words.isEmpty then "none".toList else [' '].intercalate words

/-- The canonical text of a definition; one that has no style stands for itself, trimmed and in
lower case. The refusal is that of a colour with an empty component. -/
def normalize (definition : List Char) : Except Refusal (List Char) :=
  if trim isBlank definition = "none".toList || definition.isEmpty then .ok plain.text
  else
    match ofWords plain (words definition) with
    | .ok s => .ok s.text
    | .error .malformed => .ok (lower (trim isBlank definition))
    | .error .badComponent => .error .badComponent

end Style

end IndexScan.Console
