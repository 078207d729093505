import DryRun.Json.Basic
import DryRun.Number.Shortest

/-!
# Writing JSON

One writer for all outputs, with a `Style` for what differs between them: the separators, whether
nested values go on indented lines, and whether characters outside of ASCII are escaped.
-/

namespace DryRun.Json

/-- How a value is laid out. -/
structure Style where
  /-- Between two items on one line. -/
  comma : Text
  /-- Between a key and its value. -/
  colon : Text
  /-- Whether items go on lines of their own, two spaces deeper. -/
  indented : Bool
  /-- Whether everything but printable ASCII is escaped. -/
  ascii : Bool

/-- No blanks at all. -/
def Style.compact : Style := ⟨[','], [':'], false, false⟩

/-- A blank after each separator, on one line. -/
def Style.spaced : Style := ⟨", ".toList, ": ".toList, false, false⟩

/-- Items on lines of their own. -/
def Style.pretty : Style := ⟨[','], ": ".toList, true, false⟩

/-- Items on lines of their own, in ASCII. -/
def Style.prettyAscii : Style := ⟨[','], ": ".toList, true, true⟩

/-- No blanks at all, in ASCII. -/
def Style.compactAscii : Style := ⟨[','], [':'], false, true⟩

/-! ## Strings -/

def unitEscape (n : Nat) : Text := '\\' :: 'u' :: Text.hex 4 n

/-- A character inside a string. A character beyond 16 bits is escaped as two units. -/
def escapeChar (ascii : Bool) (c : Char) : Text :=
  if c == '\x22' then ['\\', c]
  else if c == '\\' then ['\\', c]
  else if c == '\n' then ['\\', 'n']
  else if c == '\r' then ['\\', 'r']
  else if c == '\t' then ['\\', 't']
  else if c == '\x08' then ['\\', 'b']
  else if c == '\x0c' then ['\\', 'f']
  else if c.toNat < 32 then unitEscape c.toNat
  else if ascii && 127 ≤ c.toNat then
    if c.toNat < 0x10000 then unitEscape c.toNat
    else
      unitEscape (0xd800 + (c.toNat - 0x10000) / 0x400) ++
        unitEscape (0xdc00 + (c.toNat - 0x10000) % 0x400)
  else [c]

/-- A string with its quotes. -/
def quoted (ascii : Bool) (t : Text) : Text :=
  '\x22' :: t.flatMap (escapeChar ascii) ++ ['\x22']

/-! ## Values -/

/-- The texts of numbers that are not finite. -/
def specialTexts : Real64.SpecialTexts := ⟨"NaN".toList, "Infinity".toList⟩

/-- A line feed and the indentation of a depth. -/
def lineBreak (depth : Nat) : Text := '\n' :: List.replicate (2 * depth) ' '

def beforeItem (style : Style) (depth : Nat) (first : Bool) : Text :=
  (if first then [] else style.comma) ++ (if style.indented then lineBreak depth else [])

def beforeClose (style : Style) (depth : Nat) : Text :=
  if style.indented then lineBreak depth else []

mutual

/-- The text of a value at a depth. -/
def write (style : Style) (depth : Nat) : Json → Text
  | .null => "null".toList
  | .bool true => "true".toList
  | .bool false => "false".toList
  | .int n => Text.ofInt n
  | .real x => x.text specialTexts
  | .string t => quoted style.ascii t
  | .array [] => "[]".toList
  | .array (item :: items) =>
    '[' :: beforeItem style (depth + 1) true ++ write style (depth + 1) item ++
      writeItems style (depth + 1) items ++ beforeClose style depth ++ [']']
  | .object [] => "\x7b\x7d".toList
  | .object ((key, value) :: fields) =>
    '\x7b' :: beforeItem style (depth + 1) true ++ quoted style.ascii key ++ style.colon ++
      write style (depth + 1) value ++ writeFields style (depth + 1) fields ++
      beforeClose style depth ++ ['\x7d']

/-- The items after the first. -/
def writeItems (style : Style) (depth : Nat) : List Json → Text
  | [] => []
  | item :: items =>
    beforeItem style depth false ++ write style depth item ++ writeItems style depth items

/-- The fields after the first. -/
def writeFields (style : Style) (depth : Nat) : List (Text × Json) → Text
  | [] => []
  | (key, value) :: fields =>
    beforeItem style depth false ++ quoted style.ascii key ++ style.colon ++ write style depth value ++
      writeFields style depth fields

end

def render (style : Style) (value : Json) : Text := write style 0 value

end DryRun.Json
