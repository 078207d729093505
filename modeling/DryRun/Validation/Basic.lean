import DryRun.Json.Basic

/-!
# Validation

Reading values of given shapes from JSON. A value that does not have the shape gives a list of issues,
each with the place where it was found; the issues of several fields are all reported, in the order of
the fields.
-/

namespace DryRun

namespace Validation

/-- One step on the way to a place inside a value. -/
inductive Step where
  | key (name : Text)
  | index (position : Nat)
deriving DecidableEq, Repr

/-- What is wrong with a value. -/
inductive Fault where
  /-- The text is not JSON. -/
  | notJson
  | notObject
  | notList
  | notString
  | missing
  /-- None of the allowed names. -/
  | notMember
  | notBool
  /-- A string or integer that stands for no truth value. -/
  | unreadableBool
  | notInt
  | unreadableInt
  | tooLongInt
  | fractional
  | notFinite
  | unknownKey
  /-- A rule of the field is broken. -/
  | rule (reason : Text)
deriving DecidableEq, Repr

def Fault.label : Fault → Text
  | .notJson => "json_invalid".toList
  | .notObject => "model_type".toList
  | .notList => "list_type".toList
  | .notString => "string_type".toList
  | .missing => "missing".toList
  | .notMember => "enum".toList
  | .notBool => "bool_type".toList
  | .unreadableBool => "bool_parsing".toList
  | .notInt => "int_type".toList
  | .unreadableInt => "int_parsing".toList
  | .tooLongInt => "int_parsing_size".toList
  | .fractional => "int_from_float".toList
  | .notFinite => "finite_number".toList
  | .unknownKey => "extra_forbidden".toList
  | .rule _ => "value_error".toList

/-- The text that goes with a broken rule. -/
def Fault.detail? : Fault → Option Text
  | .rule reason => some ("Value error, ".toList ++ reason)
  | _ => none

/-- A fault, its place, and the value that has it. -/
structure Issue where
  place : List Step
  fault : Fault
  input : Json
deriving Repr

/-- The issue one step further out. -/
def Issue.under (step : Step) (issue : Issue) : Issue := { issue with place := step :: issue.place }

/-- A value, or the issues that were found instead. -/
abbrev Validated (α : Type) := Except (List Issue) α

/-- A fault of a value at this very place. -/
def fail {α : Type} (input : Json) (fault : Fault) : Validated α := .error [⟨[], fault, input⟩]

/-- Moves the issues one step further out. -/
def under {α : Type} (step : Step) : Validated α → Validated α
  | .ok a => .ok a
  | .error issues => .error (issues.map (Issue.under step))

/-- Applies a function to one more value and gathers the issues of both. -/
def apply {α β : Type} : Validated (α → β) → Validated α → Validated β
  | .ok f, .ok a => .ok (f a)
  | .ok _, .error issues => .error issues
  | .error issues, .ok _ => .error issues
  | .error before, .error after => .error (before ++ after)

/-! ## Shapes -/

/-- A string. -/
def text : Json → Validated Text
  | .string t => .ok t
  | input => fail input .notString

/-- The items of a list from a position on. -/
def items {α : Type} (item : Json → Validated α) : Nat → List Json → Validated (List α)
  | _, [] => .ok []
  | position, value :: values =>
    apply ((under (.index position) (item value)).map List.cons) (items item (position + 1) values)

/-- A list. -/
def list {α : Type} (item : Json → Validated α) : Json → Validated (List α)
  | .array values => items item 0 values
  | input => fail input .notList

def optional {α : Type} (fields : List (Text × Json)) (key : String) (default : α)
    (shape : Json → Validated α) : Validated α :=
  match Json.field? fields key.toList with
  | some value => under (.key key.toList) (shape value)
  | none => .ok default

/-- A field that has to be there. -/
def required {α : Type} (fields : List (Text × Json)) (key : String) (shape : Json → Validated α) :
    Validated α :=
  match Json.field? fields key.toList with
  | some value => under (.key key.toList) (shape value)
  | none => under (.key key.toList) (fail (.object fields) .missing)

/-! ## Truth values -/

def trueWords : List Text :=
  ["1".toList, "on".toList, "t".toList, "true".toList, "y".toList, "yes".toList]

def falseWords : List Text :=
  ["0".toList, "off".toList, "f".toList, "false".toList, "n".toList, "no".toList]

/-- The truth value that a word stands for, in any case and with nothing around it. -/
def boolWord? (t : Text) : Option Bool :=
  let word := t.map Char.toLower
  if trueWords.contains word then some true
  else if falseWords.contains word then some false
  else none

/-- The truth value that a number stands for. -/
def boolNumber? (n : Int) : Option Bool :=
  if n == 0 then some false else if n == 1 then some true else none

/-- A truth value that was read from an input. -/
def readBool (input : Json) : Option Bool → Validated Bool
  | some b => .ok b
  | none => fail input .unreadableBool

/-- Whether an integer fits in 64 bits. -/
def isWordSized (n : Int) : Bool := -9223372036854775808 ≤ n && n < 9223372036854775808

/-- Whether an integer lies strictly between the bounds of 64 bits. -/
def isWithinWord (n : Int) : Bool := -9223372036854775808 < n && n < 9223372036854775808

/-- A truth value: itself, 0 or 1, or a word. -/
def bool (input : Json) : Validated Bool :=
  match input with
  | .bool b => .ok b
  | .int n => if isWordSized n then readBool input (boolNumber? n) else fail input .notBool
  | .real x =>
    match x.toInt? with
    | some n => if isWithinWord n then readBool input (boolNumber? n) else fail input .notBool
    | none => fail input .notBool
  | .string t => readBool input (boolWord? t)
  | _ => fail input .notBool

/-! ## Integers -/

/-- The most digits that an integer may be written with. -/
def digitLimit : Nat := 4300

/-- The integer of a plain numeral: digits without a needless zero in front, after an optional minus.
A numeral with too many digits is refused before what follows it is looked at. -/
def readNumeral (t : Text) : Except Fault Int :=
  let (negative, body) := match t with
    | '-' :: rest => (true, rest)
    | rest => (false, rest)
  let digits := body.takeWhile Text.isDigit
  if digits.head? == some '0' && digits.length != 1 then .error .unreadableInt
  else if digitLimit < digits.length then .error .tooLongInt
  else if digits.length != body.length then .error .unreadableInt
  else match Text.toNat? digits with
    | some n => .ok (if negative then -(n : Int) else n)
    | none => .error .unreadableInt

/-- What is left of a numeral that begins with a zero: from the first other digit on, or from the
character right before the point, or the last character. `last` is the one read before. -/
def dropLeadingZeros (last : Char) : Text → Option Text
  | [] => some [last]
  | c :: cs =>
    if c == '0' || c == '_' then dropLeadingZeros c cs
    else if Text.isDigit c then some (c :: cs)
    else if c == '.' then some (last :: c :: cs)
    else none

/-- The numeral without a plus and without zeros in front. -/
def dropLead (t : Text) : Option Text :=
  let (signed, body) := match t with
    | '+' :: rest => (true, rest)
    | rest => (false, rest)
  match body with
  | [] => none
  | c :: cs =>
    if c == '0' then dropLeadingZeros c cs
    else if Text.isDigit c || (c == '-' && !signed) then some body
    else none

/-- The numeral without a point and zeros at its end. -/
def dropZeroFraction (t : Text) : Text :=
  let whole := t.takeWhile (· != '.')
  match t.drop whole.length with
  | '.' :: zero :: zeros => if (zero :: zeros).all (· == '0') then whole else t
  | _ => t

/-- Whether two underscores stand side by side. -/
def hasDoubleUnderscore : Text → Bool
  | '_' :: '_' :: _ => true
  | _ :: cs => hasDoubleUnderscore cs
  | [] => false

/-- The numeral without the underscores between its digits. -/
def dropUnderscores (t : Text) : Text :=
  if t.head? == some '_' || t.getLast? == some '_' || hasDoubleUnderscore t then t
  else t.filter (· != '_')

/-- The integer that a text writes: a plain numeral, or one with a plus, zeros in front, single
underscores between digits, or nothing but zeros after a point. -/
def intWord (t : Text) : Except Fault Int :=
  let t := Text.trimMargin t
  match readNumeral t with
  | .error .unreadableInt =>
    match dropLead t with
    | some t => readNumeral (dropUnderscores (dropZeroFraction t))
    | none => .error .unreadableInt
  | result => result

/-- An integer: itself, a truth value, a number without fraction, or a text that writes one. -/
def int (input : Json) : Validated Int :=
  match input with
  | .int n => .ok n
  | .bool b => .ok (if b then 1 else 0)
  | .real x =>
    match x with
    | .finite .. =>
      match x.toInt? with
      | some n => if isWithinWord n then .ok n else fail input .tooLongInt
      | none => fail input .fractional
    | _ => fail input .notFinite
  | .string t =>
    match intWord t with
    | .ok n => .ok n
    | .error fault => fail input fault
  | _ => fail input .notInt

end Validation

end DryRun
