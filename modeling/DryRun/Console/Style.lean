import DryRun.Text.Digit
import DryRun.Text.LowerCase

/-!
# Names of styles

A style is a list of words: attributes such as `bold`, which `not` before them turns off, a colour, a
colour after `on` for the background, and an address after `link`. `styleName` writes it in one way, so
that two lists of words for the same style have the same name. A text that is no style is its own name, in
lower case and without the blanks around it. Where the share of a colour should stand and no number does,
reading fails.
-/

namespace DryRun.Console

/-! ## Colours -/

def colorNames : List String :=
  ["black", "red", "green", "yellow", "blue", "magenta", "cyan", "white", "bright_black", "bright_red",
   "bright_green", "bright_yellow", "bright_blue", "bright_magenta", "bright_cyan", "bright_white",
   "grey0", "gray0", "navy_blue", "dark_blue", "blue3", "blue1", "dark_green", "deep_sky_blue4",
   "dodger_blue3", "dodger_blue2", "green4", "spring_green4", "turquoise4", "deep_sky_blue3",
   "dodger_blue1", "green3", "spring_green3", "dark_cyan", "light_sea_green", "deep_sky_blue2",
   "deep_sky_blue1", "spring_green2", "cyan3", "dark_turquoise", "turquoise2", "green1",
   "spring_green1", "medium_spring_green", "cyan2", "cyan1", "dark_red", "deep_pink4", "purple4",
   "purple3", "blue_violet", "orange4", "grey37", "gray37", "medium_purple4", "slate_blue3",
   "royal_blue1", "chartreuse4", "dark_sea_green4", "pale_turquoise4", "steel_blue", "steel_blue3",
   "cornflower_blue", "chartreuse3", "cadet_blue", "sky_blue3", "steel_blue1", "pale_green3",
   "sea_green3", "aquamarine3", "medium_turquoise", "chartreuse2", "sea_green2", "sea_green1",
   "aquamarine1", "dark_slate_gray2", "dark_magenta", "dark_violet", "purple", "light_pink4", "plum4",
   "medium_purple3", "slate_blue1", "yellow4", "wheat4", "grey53", "gray53", "light_slate_grey",
   "light_slate_gray", "medium_purple", "light_slate_blue", "dark_olive_green3", "dark_sea_green",
   "light_sky_blue3", "sky_blue2", "dark_sea_green3", "dark_slate_gray3", "sky_blue1", "chartreuse1",
   "light_green", "pale_green1", "dark_slate_gray1", "red3", "medium_violet_red", "magenta3",
   "dark_orange3", "indian_red", "hot_pink3", "medium_orchid3", "medium_orchid", "medium_purple2",
   "dark_goldenrod", "light_salmon3", "rosy_brown", "grey63", "gray63", "medium_purple1", "gold3",
   "dark_khaki", "navajo_white3", "grey69", "gray69", "light_steel_blue3", "light_steel_blue",
   "yellow3", "dark_sea_green2", "light_cyan3", "light_sky_blue1", "green_yellow", "dark_olive_green2",
   "dark_sea_green1", "pale_turquoise1", "deep_pink3", "magenta2", "hot_pink2", "orchid",
   "medium_orchid1", "orange3", "light_pink3", "pink3", "plum3", "violet", "light_goldenrod3", "tan",
   "misty_rose3", "thistle3", "plum2", "khaki3", "light_goldenrod2", "light_yellow3", "grey84",
   "gray84", "light_steel_blue1", "yellow2", "dark_olive_green1", "honeydew2", "light_cyan1", "red1",
   "deep_pink2", "deep_pink1", "magenta1", "orange_red1", "indian_red1", "hot_pink", "dark_orange",
   "salmon1", "light_coral", "pale_violet_red1", "orchid2", "orchid1", "orange1", "sandy_brown",
   "light_salmon1", "light_pink1", "pink1", "plum1", "gold1", "navajo_white1", "misty_rose1",
   "thistle1", "yellow1", "light_goldenrod1", "khaki1", "wheat1", "cornsilk1", "grey100", "gray100",
   "grey3", "gray3", "grey7", "gray7", "grey11", "gray11", "grey15", "gray15", "grey19", "gray19",
   "grey23", "gray23", "grey27", "gray27", "grey30", "gray30", "grey35", "gray35", "grey39", "gray39",
   "grey42", "gray42", "grey46", "gray46", "grey50", "gray50", "grey54", "gray54", "grey58", "gray58",
   "grey62", "gray62", "grey66", "gray66", "grey70", "gray70", "grey74", "gray74", "grey78", "gray78",
   "grey82", "gray82", "grey85", "gray85", "grey89", "gray89", "grey93", "gray93"]

/-- Whether a text is a number of one to three digits up to 255. -/
def isColorNumber (t : Text) : Bool := t.length ≤ 3 && (Text.toNat? t).any (· ≤ 255)

/-- What stands between `lead` and a closing parenthesis at the end. -/
def enclosed? (lead : String) (t : Text) : Option Text :=
  (Text.after? lead.toList t).bind fun rest =>
    if rest.getLast? == some ')' then some rest.dropLast else none

/-- Why a share of a colour is no number. -/
inductive ShareError where
  /-- Nothing stands where a number is expected. -/
  | missing
  /-- A number has more digits than can be read. -/
  | tooLong (digits : Nat)
deriving DecidableEq, Repr

def ShareError.message : ShareError → Text
  | .missing => "invalid literal for int() with base 10: \x27\x27".toList
  | .tooLong digits =>
    "Exceeds the limit (4300 digits) for integer string conversion: value has ".toList ++ Text.ofNat digits ++
      " digits; use sys.set_int_max_str_digits() to increase the limit".toList

/-- Reads a share of digits, which may be those of any script. -/
def readShare (share : Text) : Except ShareError Nat :=
  if 4300 < share.length then .error (.tooLong share.length)
  else match Text.toNat? (Text.plainDigits share) with
    | some n => .ok n
    | none => .error .missing

/-- Whether shares are those of a colour: red, green and blue, which are read before any is found too big. -/
def readShares (shares : Text) : Except ShareError Bool :=
  match Text.splitBy (· == ',') shares with
  | [red, green, blue] => do
    let red ← readShare red
    let green ← readShare green
    let blue ← readShare blue
    return red ≤ 255 && green ≤ 255 && blue ≤ 255
  | _ => .ok false

/-- Whether a word in lower case is a colour: a name, `#` and six hexadecimal digits, a number of the
palette, or the shares of red, green and blue. -/
def readColor (word : Text) : Except ShareError Bool :=
  match enclosed? "rgb(" word with
  | some shares =>
    if !shares.isEmpty && shares.all (fun c => c == ',' || Text.isDigit (Text.plainDigit c)) then readShares shares
    else .ok false
  | none =>
    .ok (word == "default".toList || colorNames.contains (String.ofList word) ||
      (match word with
        | '#' :: digits => digits.length == 6 && digits.all fun c => (Text.hexDigit? c).isSome
        | _ => false) ||
      (enclosed? "color(" word).any isColorNumber)

/-! ## Attributes -/

/-- The attributes in the order in which they are written. -/
def attributeNames : List Text :=
  ["bold", "dim", "italic", "underline", "blink", "blink2", "reverse", "conceal", "strike", "underline2", "frame",
   "encircle", "overline"].map String.toList

/-- Short names of attributes. -/
def attributeShorts : List (Text × Text) :=
  [("b".toList, "bold".toList), ("c".toList, "conceal".toList), ("d".toList, "dim".toList),
   ("i".toList, "italic".toList), ("o".toList, "overline".toList), ("r".toList, "reverse".toList),
   ("s".toList, "strike".toList), ("u".toList, "underline".toList),
   ("uu".toList, "underline2".toList)]

def attribute? (word : Text) : Option Text :=
  match attributeShorts.find? (·.1 == word) with
  | some entry => some entry.2
  | none => if attributeNames.contains word then some word else none

/-! ## Styles -/

/-- A style. -/
structure Style where
  /-- Attributes that are on or off; the first entry of an attribute counts. -/
  attributes : List (Text × Bool) := []
  color : Option Text := none
  background : Option Text := none
  link : Option Text := none
deriving DecidableEq, Repr

/-- Reads the words of a style; there is none if they are not those of one. -/
def readStyle (style : Style) : List Text → Except ShareError (Option Style)
  | [] => .ok (some style)
  | first :: rest =>
    let word := Text.lower first
    if word == "on".toList then
      match rest with
      | ground :: rest => do
        let ground := Text.lower ground
        if ← readColor ground then readStyle { style with background := some ground } rest else return none
      | [] => .ok none
    else if word == "not".toList then
      match rest with
      | name :: rest =>
        match attribute? name with
        | some a => readStyle { style with attributes := (a, false) :: style.attributes } rest
        | none => .ok none
      | [] => .ok none
    else if word == "link".toList then
      match rest with
      | address :: rest => readStyle { style with link := some address } rest
      | [] => .ok none
    else match attribute? word with
      | some a => readStyle { style with attributes := (a, true) :: style.attributes } rest
      | none => do
        if ← readColor word then readStyle { style with color := some word } rest else return none

/-- The words of a style in their order. -/
def Style.words (style : Style) : List Text :=
  (attributeNames.flatMap fun name =>
    match style.attributes.find? (·.1 == name) with
    | some (_, true) => [name]
    | some (_, false) => ["not".toList, name]
    | none => []) ++
  style.color.toList ++
  (match style.background with
    | some ground => ["on".toList, ground]
    | none => []) ++
  (match style.link with
    | some address => ["link".toList, address]
    | none => [])

/-- The name of a style. -/
def styleName (t : Text) : Except ShareError Text :=
  let noStyle := "none".toList
  if Text.strip t == noStyle then .ok noStyle
  else (readStyle {} (Text.words t)).map fun
    | some style => if style.words.isEmpty then noStyle else Text.join [' '] style.words
    | none => Text.lower (Text.strip t)

/-- Why a text cannot be looked up as a style, whether it is one or not. -/
def styleFault? (t : Text) : Option ShareError :=
  match readStyle {} (Text.words t) with
  | .ok _ => none
  | .error e => some e

end DryRun.Console
