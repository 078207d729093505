import DryRun.Json.Shown
import DryRun.Number.Places

/-!
# Messages with arguments

A message may hold places for arguments. A place begins with `%`; then come a key in parentheses, flags,
a width, a precision and a letter that says how the argument is written, all optional but the letter;
`%%` writes the percent sign. Arguments are taken from the left, and all have to be used. A single table
of values that is not empty is looked up by the keys instead, and may be left unused. Without arguments
the message is taken as it is.
-/

namespace DryRun.Log

/-- Why arguments do not fit a message. -/
inductive MessageError where
  | notEnough
  | tooMany
  /-- The message ends inside a place. -/
  | incomplete
  /-- The message ends inside a key. -/
  | incompleteKey
  /-- A key, but no table of values. -/
  | noTable
  | missingKey (key : Text)
  /-- A width or precision that is to be an argument and is no integer. -/
  | starNotInteger
  | widthTooBig
  | precisionTooBig
  /-- A width in an argument that does not fit in 64 bits. -/
  | starWidthTooBig
  /-- A precision in an argument that does not fit in 32 bits. -/
  | starPrecisionTooBig
  /-- More characters than can be held. -/
  | outOfMemory
  /-- A letter that stands for no way of writing, and where it is. -/
  | unsupported (letter : Char) (index : Nat)
  /-- A value of the named type where an integer or a number without its fraction is to be written. -/
  | notNumber (letter : Char) (type : Text)
  /-- A value of the named type where an integer is to be written. -/
  | notInteger (letter : Char) (type : Text)
  /-- A value of the named type where a number with a fraction is to be written. -/
  | notReal (type : Text)
  | notCharacter
  | characterRange
  | infinite
  | notANumber
  | tooLarge
deriving DecidableEq, Repr

/-- The hexadecimal digits of a number without zeros in front. -/
def hexText (n : Nat) : Text := Nat.toDigits 16 n

def MessageError.message : MessageError → Text
  | .notEnough => "not enough arguments for format string".toList
  | .tooMany => "not all arguments converted during string formatting".toList
  | .incomplete => "incomplete format".toList
  | .incompleteKey => "incomplete format key".toList
  | .noTable => "format requires a mapping".toList
  | .missingKey key => Text.quoted key
  | .starNotInteger => "* wants int".toList
  | .widthTooBig => "width too big".toList
  | .precisionTooBig => "precision too big".toList
  | .starWidthTooBig => "Python int too large to convert to C ssize_t".toList
  | .starPrecisionTooBig => "Python int too large to convert to C int".toList
  | .outOfMemory => []
  | .unsupported letter index =>
    "unsupported format character \x27".toList ++
      [if 31 ≤ letter.toNat && letter.toNat ≤ 126 then letter else '?'] ++ "\x27 (0x".toList ++
      hexText letter.toNat ++ ") at index ".toList ++ Text.ofNat index
  | .notNumber letter type =>
    '%' :: letter :: " format: a real number is required, not ".toList ++ type
  | .notInteger letter type => '%' :: letter :: " format: an integer is required, not ".toList ++ type
  | .notReal type => "must be real number, not ".toList ++ type
  | .notCharacter => "%c requires int or char".toList
  | .characterRange => "%c arg not in range(0x110000)".toList
  | .infinite => "cannot convert float infinity to integer".toList
  | .notANumber => "cannot convert float NaN to integer".toList
  | .tooLarge => "int too large to convert to float".toList

/-! ## Arguments -/

/-- The arguments that are left, and the table that keys are looked up in. -/
structure Supply where
  table : Option (List (Text × Json))
  pending : List Json

namespace Supply

def ofArguments : List Json → Supply
  | [.object (f :: fs)] => ⟨some (f :: fs), [.object (f :: fs)]⟩
  | arguments => ⟨none, arguments⟩

def take (s : Supply) : Except MessageError (Json × Supply) :=
  match s.pending with
  | [] => .error .notEnough
  | a :: pending => .ok (a, { s with pending })

/-- Makes the value of a key the next argument. -/
def select (s : Supply) (key : Text) : Except MessageError Supply :=
  match s.table with
  | none => .error .noTable
  | some fields =>
    match Json.field? fields key with
    | some value => .ok { s with pending := [value] }
    | none => .error (.missingKey key)

/-- The next argument, which has to be an integer. -/
def takeInt (s : Supply) : Except MessageError (Int × Supply) :=
  match s.take with
  | .error e => .error e
  | .ok (.int n, s) => .ok (n, s)
  | .ok (.bool b, s) => .ok (if b then 1 else 0, s)
  | .ok _ => .error .starNotInteger

end Supply

/-! ## Places -/

/-- How an argument is to be written. -/
structure Spec where
  left : Bool := false
  plus : Bool := false
  blank : Bool := false
  alternate : Bool := false
  zeros : Bool := false
  width : Option Nat := none
  precision : Option Nat := none
  letter : Char := 's'

/-- Reads a key after its opening parenthesis, up to the one that closes it. -/
def readKey (depth : Nat) (key : Text) : Text → Option (Text × Text)
  | [] => none
  | c :: rest =>
    if c == ')' then
      match depth with
      | 0 => some (key.reverse, rest)
      | depth + 1 => readKey depth (c :: key) rest
    else readKey (if c == '(' then depth + 1 else depth) (c :: key) rest

def readFlags (spec : Spec) : Text → Spec × Text
  | [] => (spec, [])
  | c :: rest =>
    if c == '-' then readFlags { spec with left := true } rest
    else if c == '+' then readFlags { spec with plus := true } rest
    else if c == ' ' then readFlags { spec with blank := true } rest
    else if c == '#' then readFlags { spec with alternate := true } rest
    else if c == '0' then readFlags { spec with zeros := true } rest
    else (spec, c :: rest)

/-- The greatest width. -/
def widthLimit : Nat := 9223372036854775807

def precisionLimit : Nat := 2147483647

/-- The greatest width that is written out. -/
def memoryLimit : Nat := 100000000000

/-- Whether an integer lies within a limit and the next one below its negation. -/
def isWithin (limit : Nat) (n : Int) : Bool := -(limit : Int) - 1 ≤ n && n ≤ limit

/-- The number that the digits at the head write, and what follows. -/
def readCount (t : Text) : Option Nat × Text :=
  let digits := t.takeWhile Text.isDigit
  (Text.toNat? digits, t.drop digits.length)

/-- Reads a width, which may be an argument; a negative one also means alignment to the left. -/
def readWidth (spec : Spec) (s : Supply) (t : Text) : Except MessageError (Spec × Supply × Text) :=
  match t with
  | '*' :: rest =>
    match s.takeInt with
    | .error e => .error e
    | .ok (n, s) =>
      if !isWithin widthLimit n then .error .starWidthTooBig
      else .ok ({ spec with width := some n.natAbs, left := spec.left || decide (n < 0) }, s, rest)
  | _ =>
    let (count, rest) := readCount t
    if count.any (widthLimit < ·) then .error .widthTooBig else .ok ({ spec with width := count }, s, rest)

/-- Reads a precision after a point, which may be an argument; none written means zero. -/
def readPrecision (spec : Spec) (s : Supply) (t : Text) : Except MessageError (Spec × Supply × Text) :=
  match t with
  | '.' :: '*' :: rest =>
    match s.takeInt with
    | .error e => .error e
    | .ok (n, s) =>
      if !isWithin precisionLimit n then .error .starPrecisionTooBig
      else .ok ({ spec with precision := some n.toNat }, s, rest)
  | '.' :: rest =>
    let (count, rest) := readCount rest
    if count.any (precisionLimit < ·) then .error .precisionTooBig
    else .ok ({ spec with precision := some (count.getD 0) }, s, rest)
  | _ => .ok (spec, s, t)

/-- Reads the letter of a place, before which one of `h`, `l` and `L` is passed over. -/
def readLetter (spec : Spec) (t : Text) : Except MessageError (Spec × Text) :=
  let t := match t with
    | c :: rest => if c == 'h' || c == 'l' || c == 'L' then rest else t
    | [] => []
  match t with
  | [] => .error .incomplete
  | c :: rest => .ok ({ spec with letter := c }, rest)

/-- Reads a place after its percent sign. -/
def readSpec (s : Supply) (t : Text) : Except MessageError (Spec × Supply × Text) := do
  let (s, t) ← match t with
    | '(' :: rest =>
      if s.table.isNone then Except.error MessageError.noTable
      else match readKey 0 [] rest with
        | none => Except.error MessageError.incompleteKey
        | some (key, rest) => (s.select key).map fun s => (s, rest)
    | t => Except.ok (s, t)
  let (spec, t) := readFlags {} t
  let (spec, s, t) ← readWidth spec s t
  let (spec, s, t) ← readPrecision spec s t
  let (spec, t) ← readLetter spec t
  return (spec, s, t)

/-! ## Writing arguments -/

/-- The text of an argument: a string as it is, any other value as inside another one. -/
def argumentText : Json → Text
  | .string t => t
  | value => Json.shown value

/-- The text with characters beyond ASCII written by their numbers. -/
def asciiText (t : Text) : Text :=
  t.flatMap fun c =>
    if c.toNat < 0x80 then [c]
    else if c.toNat < 0x100 then '\\' :: 'x' :: Text.hex 2 c.toNat
    else if c.toNat < 0x10000 then '\\' :: 'u' :: Text.hex 4 c.toNat
    else '\\' :: 'U' :: Text.hex 8 c.toNat

/-- Whether a letter asks for an integer in a base other than ten. -/
def isBased (letter : Char) : Bool := letter == 'o' || letter == 'x' || letter == 'X'

/-- The integer that is written for an argument; in base ten a number loses its fraction. -/
def integerOf (letter : Char) : Json → Except MessageError Int
  | .int n => .ok n
  | .bool b => .ok (if b then 1 else 0)
  | .real x =>
    if isBased letter then .error (.notInteger letter (Json.real x).typeName)
    else match x with
      | .finite negative m e =>
        let whole := (Real64.split m e).1
        .ok (if negative then -(whole : Int) else whole)
      | .infinite _ => .error .infinite
      | .nan => .error .notANumber
  | value =>
    .error (if isBased letter then .notInteger letter value.typeName
      else .notNumber letter value.typeName)

/-- The number that is written for an argument. -/
def realOf : Json → Except MessageError Real64
  | .int n =>
    match Real64.ofInt n with
    | .infinite _ => .error .tooLarge
    | x => .ok x
  | .bool b => .ok (Real64.ofInt (if b then 1 else 0))
  | .real x => .ok x
  | value => .error (.notReal value.typeName)

/-- The character that is written for an argument. -/
def characterOf : Json → Except MessageError Char
  | .string [c] => .ok c
  | .int n => if 0 ≤ n && n < 0x110000 then .ok (Char.ofNat n.toNat) else .error .characterRange
  | .bool b => .ok (Char.ofNat (if b then 1 else 0))
  | _ => .error .notCharacter

/-- A sign, a mark of the base and what follows them. -/
structure Parts where
  sign : Text := []
  mark : Text := []
  body : Text

/-- The sign before a number. -/
def signText (spec : Spec) (negative : Bool) : Text :=
  if negative then ['-'] else if spec.plus then ['+'] else if spec.blank then [' '] else []

/-- The parts of an integer: its digits in the base of the letter, with zeros up to the precision. -/
def integerParts (spec : Spec) (n : Int) : Parts :=
  let base := if spec.letter == 'o' then 8 else if isBased spec.letter then 16 else 10
  let digits := Nat.toDigits base n.natAbs
  let digits := List.replicate (spec.precision.getD 0 - digits.length) '0' ++ digits
  let mark := if spec.alternate && isBased spec.letter then ['0', spec.letter] else []
  ⟨signText spec (n < 0), mark, if spec.letter == 'X' then digits.map Char.toUpper else digits⟩

/-- The parts of a number with a fraction. -/
def realParts (spec : Spec) (x : Real64) : Parts :=
  let places := spec.precision.getD 6
  let letter := spec.letter.toLower
  let (negative, body) := match x with
    | .nan => (false, "nan".toList)
    | .infinite negative => (negative, "inf".toList)
    | .finite negative m e =>
      (negative,
        if letter == 'f' then Real64.fixed spec.alternate places m e
        else if letter == 'e' then Real64.scientific spec.alternate places m e
        else Real64.general spec.alternate places m e)
  ⟨signText spec negative, [], if spec.letter.isUpper then body.map Char.toUpper else body⟩

/-- A number in its width: blanks before it, zeros between its marks and its digits, or blanks after
it. -/
def padNumber (spec : Spec) (parts : Parts) : Text :=
  let length := parts.sign.length + parts.mark.length + parts.body.length
  let gap := spec.width.getD 0 - length
  let marks := parts.sign ++ parts.mark
  if spec.left then marks ++ parts.body ++ List.replicate gap ' '
  else if spec.zeros then marks ++ List.replicate gap '0' ++ parts.body
  else List.replicate gap ' ' ++ marks ++ parts.body

/-- A text in its width. -/
def padText (spec : Spec) (t : Text) : Text :=
  let gap := List.replicate (spec.width.getD 0 - t.length) ' '
  if spec.left then t ++ gap else gap ++ t

/-- A text cut to the precision, in its width. -/
def fitText (spec : Spec) (t : Text) : Text :=
  padText spec (match spec.precision with
    | some n => t.take n
    | none => t)

/-- The text of an argument in a width that can be held; `index` is where its letter stands. -/
def writeSized (spec : Spec) (index : Nat) (value : Json) : Except MessageError Text :=
  let letter := spec.letter
  if letter == 's' then .ok (fitText spec (argumentText value))
  else if letter == 'r' then .ok (fitText spec (Json.shown value))
  else if letter == 'a' then .ok (fitText spec (asciiText (Json.shown value)))
  else if letter == 'd' || letter == 'i' || letter == 'u' || isBased letter then
    (integerOf letter value).map fun n => padNumber spec (integerParts spec n)
  else if "eEfFgG".toList.contains letter then
    (realOf value).map fun x => padNumber spec (realParts spec x)
  else if letter == 'c' then (characterOf value).map fun c => padText spec [c]
  else .error (.unsupported letter index)

/-- The text of an argument; `index` is where its letter stands. -/
def writeArgument (spec : Spec) (index : Nat) (value : Json) : Except MessageError Text :=
  if spec.width.any (memoryLimit < ·) then
    match writeSized { spec with width := none } index value with
    | .error e => .error e
    | .ok _ => .error .outOfMemory
  else writeSized spec index value

/-! ## Messages -/

/-- Fills the places of a message from the left. `size` is the length of the whole message, and the fuel
that of what is ahead. -/
def fill (size : Nat) : Nat → Supply → Text → Except MessageError Text
  | 0, s, _ => if s.table.isNone && !s.pending.isEmpty then .error .tooMany else .ok []
  | _ + 1, s, [] => if s.table.isNone && !s.pending.isEmpty then .error .tooMany else .ok []
  | fuel + 1, s, '%' :: '%' :: rest => (fill size fuel s rest).map ('%' :: ·)
  | fuel + 1, s, '%' :: rest => do
    let (spec, s, rest) ← readSpec s rest
    let (value, s) ← s.take
    let text ← writeArgument spec (size - rest.length - 1) value
    (fill size fuel s rest).map (text ++ ·)
  | fuel + 1, s, c :: rest => (fill size fuel s rest).map (c :: ·)

/-- The text of a message with its arguments. -/
def formatMessage (message : Text) (arguments : List Json) : Except MessageError Text :=
  if arguments.isEmpty then .ok message
  else fill message.length (message.length + 1) (Supply.ofArguments arguments) message

end DryRun.Log
