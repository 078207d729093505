import DryRun.Json.Basic

/-!
# Reading JSON

`parse?` reads a text as one JSON value with nothing but blanks around it. Beyond the standard the
numbers `NaN`, `Infinity` and `-Infinity` are read. A text is refused if a string holds a bare control
character or the escape of half a character, if a number has over 4300 digits before its point, or if
containers that are not empty nest deeper than 200.
-/

namespace DryRun.Json

/-- The deepest nesting of containers. -/
def depthLimit : Nat := 200

/-- The most digits before the point of a number. -/
def digitLimit : Nat := 4300

/-- A blank between values. -/
def isSpace (c : Char) : Bool := c == ' ' || c == '\n' || c == '\r' || c == '\t'

/-- The text without blanks at its start. -/
def skipSpace (t : Text) : Text := t.dropWhile isSpace

/-! ## Strings -/

/-- The 16-bit unit that four hexadecimal digits write, and what follows. -/
def readUnit : Text → Option (Nat × Text)
  | a :: b :: c :: d :: rest =>
    match Text.hexDigit? a, Text.hexDigit? b, Text.hexDigit? c, Text.hexDigit? d with
    | some a, some b, some c, some d => some (((a * 16 + b) * 16 + c) * 16 + d, rest)
    | _, _, _, _ => none
  | _ => none

/-- The character after `\u`: one unit, or two that make a character beyond 16 bits. -/
def readEscape (t : Text) : Option (Char × Text) :=
  match readUnit t with
  | none => none
  | some (high, rest) =>
    if high < 0xd800 || 0xe000 ≤ high then some (Char.ofNat high, rest)
    else if 0xdc00 ≤ high then none
    else match rest with
      | '\\' :: 'u' :: rest =>
        match readUnit rest with
        | some (low, rest) =>
          if 0xdc00 ≤ low && low < 0xe000 then
            some (Char.ofNat (0x10000 + (high - 0xd800) * 0x400 + (low - 0xdc00)), rest)
          else none
        | none => none
      | _ => none

/-- The character that a single letter after a backslash writes. -/
def shortEscape? (c : Char) : Option Char :=
  if c == 'n' then some '\n'
  else if c == 't' then some '\t'
  else if c == 'r' then some '\r'
  else if c == 'b' then some '\x08'
  else if c == 'f' then some '\x0c'
  else if c == '\\' || c == '/' || c == '\x22' then some c
  else none

/-- Reads a string after its opening quote: the content after `content`, which is reversed, and what
follows the closing quote. The fuel is the number of characters ahead. -/
def readString : Nat → Text → Text → Option (Text × Text)
  | 0, _, _ => none
  | _ + 1, _, [] => none
  | fuel + 1, content, c :: rest =>
    if c == '\x22' then some (content.reverse, rest)
    else if c == '\\' then
      match rest with
      | [] => none
      | 'u' :: rest =>
        match readEscape rest with
        | some (d, rest) => readString fuel (d :: content) rest
        | none => none
      | d :: rest =>
        match shortEscape? d with
        | some e => readString fuel (e :: content) rest
        | none => none
    else if c.toNat < 32 then none
    else readString fuel (c :: content) rest

/-! ## Numbers -/

def digitsValue (digits : Text) : Nat :=
  digits.foldl (fun n c => n * 10 + (c.toNat - '0'.toNat)) 0

/-- The digits at the head, and what follows. -/
def readDigits (t : Text) : Text × Text := (t.takeWhile Text.isDigit, t.dropWhile Text.isDigit)

/-- Reads the part after the point, if there is one. -/
def readFraction : Text → Option (Option Text × Text)
  | '.' :: rest =>
    match readDigits rest with
    | ([], _) => none
    | (digits, rest) => some (some digits, rest)
  | t => some (none, t)

def readExponent : Text → Option (Option Int × Text)
  | c :: rest =>
    if c == 'e' || c == 'E' then
      let (negative, rest) := match rest with
        | '-' :: rest => (true, rest)
        | '+' :: rest => (false, rest)
        | rest => (false, rest)
      match readDigits rest with
      | ([], _) => none
      | (digits, rest) =>
        let n : Int := digitsValue digits
        some (some (if negative then -n else n), rest)
    else some (none, c :: rest)
  | [] => some (none, [])

/-- Reads a number after its sign. -/
def readNumber (negative : Bool) (t : Text) : Option (Json × Text) :=
  match readDigits t with
  | ([], _) => none
  | (whole, rest) =>
    if whole.head? == some '0' && whole.length != 1 then none
    -- the limit holds for the whole part of a real number too
    else if digitLimit < whole.length then none
    else match readFraction rest with
      | none => none
      | some (fraction, rest) =>
        match readExponent rest with
        | none => none
        | some (exponent, rest) =>
          match fraction, exponent with
          | none, none =>
            let n : Int := digitsValue whole
            some (.int (if negative then -n else n), rest)
          | _, _ =>
            let fraction := fraction.getD []
            let digits := digitsValue (whole ++ fraction)
            some (.real (Real64.ofDecimal negative digits (exponent.getD 0 - fraction.length)), rest)

/-! ## Values -/

/-- Reads a value that is not a container. -/
def readScalar (t : Text) : Option (Json × Text) :=
  match t with
  | '\x22' :: rest => (readString (rest.length + 1) [] rest).map fun r => (.string r.1, r.2)
  | '-' :: rest =>
    match Text.after? "Infinity" rest with
    | some rest => some (.real (.infinite true), rest)
    | none => readNumber true rest
  | _ =>
    match Text.after? "null" t with
    | some rest => some (.null, rest)
    | none =>
      match Text.after? "true" t with
      | some rest => some (.bool true, rest)
      | none =>
        match Text.after? "false" t with
        | some rest => some (.bool false, rest)
        | none =>
          match Text.after? "NaN" t with
          | some rest => some (.real .nan, rest)
          | none =>
            match Text.after? "Infinity" t with
            | some rest => some (.real (.infinite false), rest)
            | none => readNumber false t

mutual

/-- Reads a value, with `depth` levels of containers allowed. -/
def readValue : Nat → Nat → Text → Option (Json × Text)
  | 0, _, _ => none
  | fuel + 1, depth, t =>
    match t with
    | '[' :: rest =>
      match skipSpace rest with
      -- an empty container takes no level
      | ']' :: rest => some (.array [], rest)
      | rest =>
        match depth with
        | 0 => none
        | depth + 1 => (readItems fuel depth [] rest).map fun r => (.array r.1, r.2)
    | '\x7b' :: rest =>
      match skipSpace rest with
      | '\x7d' :: rest => some (.object [], rest)
      | rest =>
        match depth with
        | 0 => none
        | depth + 1 => (readFields fuel depth [] rest).map fun r => (.object r.1, r.2)
    | t => readScalar t

/-- Reads the items of an array from the next one on; `items` are those before it, reversed. -/
def readItems : Nat → Nat → List Json → Text → Option (List Json × Text)
  | 0, _, _, _ => none
  | fuel + 1, depth, items, t =>
    match readValue fuel depth t with
    | none => none
    | some (item, rest) =>
      match skipSpace rest with
      | ',' :: rest => readItems fuel depth (item :: items) (skipSpace rest)
      | ']' :: rest => some ((item :: items).reverse, rest)
      | _ => none

/-- Reads the fields of an object from the next one on; `fields` are those before it, reversed. -/
def readFields : Nat → Nat → List (Text × Json) → Text → Option (List (Text × Json) × Text)
  | 0, _, _, _ => none
  | fuel + 1, depth, fields, t =>
    match t with
    | '\x22' :: rest =>
      match readString (rest.length + 1) [] rest with
      | none => none
      | some (key, rest) =>
        match skipSpace rest with
        | ':' :: rest =>
          match readValue fuel depth (skipSpace rest) with
          | none => none
          | some (value, rest) =>
            match skipSpace rest with
            | ',' :: rest => readFields fuel depth ((key, value) :: fields) (skipSpace rest)
            | '\x7d' :: rest => some (((key, value) :: fields).reverse, rest)
            | _ => none
        | _ => none
    | _ => none

end

/-- The value that a text writes. -/
def parse? (t : Text) : Option Json :=
  match readValue (2 * t.length + 2) depthLimit (skipSpace t) with
  | some (value, rest) => if (skipSpace rest).isEmpty then some value else none
  | none => none

end DryRun.Json
