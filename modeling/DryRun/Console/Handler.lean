import DryRun.Text.Utf8
import DryRun.Text.WordChar

/-!
# Values for handlers

A tag that begins with `@` may say what is called, and with which values: `@click=open('notes', 2)`.
`Handler.arguments?` finds the text of the values. `Handler.isValue` tells whether a text writes a value:
a number, strings or strings of octets, `True`, `False`, `None`, an ellipsis, or a tuple, set or table of
values. Characters are not named in strings here.
-/

namespace DryRun.Handler

/-- The text of the values of a call; there are none if it has a name alone. -/
def arguments? (parameters : Text) : Option Text :=
  let call := Text.strip parameters
  let name := call.takeWhile fun c => Text.isWordChar c || c == '.'
  match call.drop name.length with
  | [] => none
  | '(' :: rest =>
    if rest.getLast? == some ')' && !rest.contains '\n' then some ('(' :: rest) else some call
  | _ => some call

/-! ## Blanks -/

/-- What follows blanks, comments and escaped line ends; line ends are blanks if `nested`. The flag tells
whether a comment goes on. -/
def skipFrom (nested : Bool) : Bool → Text → Text
  | _, [] => []
  | comment, c :: rest =>
    if c == '\n' then (if nested then skipFrom nested false rest else c :: rest)
    else if comment || c == '#' then skipFrom nested true rest
    else if c == ' ' || c == '\t' || c.toNat == 12 then skipFrom nested false rest
    else match c, rest with
      | '\\', '\n' :: next => if next.isEmpty then ['\\', '\n'] else skipFrom nested false next
      | c, next => c :: next

/-- What follows blanks at a depth of parentheses. -/
def skip (depth : Nat) (t : Text) : Text := skipFrom (depth != 0) false t

/-! ## Numbers and strings -/

/-- What can be done with a value. -/
inductive Value where
  | real
  | imaginary
  /-- A real number after a sign. -/
  | signed
  /-- Any other value, which may be a member of a set or a key just if it is frozen. -/
  | other (frozen : Bool)
deriving DecidableEq, Repr

def Value.isFrozen : Value → Bool
  | .other frozen => frozen
  | _ => true

/-- The digits at the start of a text, which may have single underscores between them, and what follows. -/
def takeDigits (isDigit : Char → Bool) : Text → Text × Text
  | [] => ([], [])
  | c :: rest =>
    if isDigit c then
      match rest with
      | '_' :: next =>
        if next.head?.any isDigit then
          let (digits, after) := takeDigits isDigit next
          (c :: digits, after)
        else ([c], '_' :: next)
      | next =>
        let (digits, after) := takeDigits isDigit next
        (c :: digits, after)
    else ([], c :: rest)

/-- Whether digits are a whole number: it has no zeros before it, and is not too long to be read. -/
def isWhole : Text → Bool
  | '0' :: digits => digits.all (· == '0')
  | digits => digits.length ≤ 4300

def dropUnderscore : Text → Text
  | '_' :: rest => rest
  | t => t

/-- The digits of a number with a mark for its base. -/
def readBased (isDigit : Char → Bool) (t : Text) : Option (Value × Text) :=
  let (digits, after) := takeDigits isDigit (dropUnderscore t)
  if digits.isEmpty then none else some (.real, after)

/-- What follows the digits of a fraction, if there is one. -/
def readFraction : Text → Option (Text × Text)
  | '.' :: rest => some (takeDigits Text.isDigit rest)
  | _ => none

/-- What follows an exponent, if there is one. -/
def readExponent : Text → Option Text
  | c :: rest =>
    let unsigned := match rest with
      | '+' :: next | '-' :: next => next
      | _ => rest
    let (digits, after) := takeDigits Text.isDigit unsigned
    if (c == 'e' || c == 'E') && !digits.isEmpty then some after else none
  | [] => none

def readDecimal (t : Text) : Option (Value × Text) :=
  let (whole, rest) := takeDigits Text.isDigit t
  let fraction := readFraction rest
  let rest := (fraction.map (·.2)).getD rest
  if whole.isEmpty && (fraction.map (·.1)).all List.isEmpty then none
  else
    let exponent := readExponent rest
    match exponent.getD rest with
    | 'j' :: after | 'J' :: after => some (.imaginary, after)
    | after =>
      if fraction.isNone && exponent.isNone && !isWhole whole then none else some (.real, after)

def readNumber (t : Text) : Option (Value × Text) :=
  match t with
  | '0' :: c :: rest =>
    if c == 'x' || c == 'X' then readBased (fun d => (Text.hexDigit? d).isSome) rest
    else if c == 'o' || c == 'O' then readBased (fun d => '0' ≤ d && d ≤ '7') rest
    else if c == 'b' || c == 'B' then readBased (fun d => d == '0' || d == '1') rest
    else readDecimal t
  | _ => readDecimal t

/-- Whether a text begins with so many hexadecimal digits of a number up to `top`. -/
def hexAhead (count top : Nat) (t : Text) : Bool :=
  let digits := (t.take count).filterMap Text.hexDigit?
  digits.length == count && digits.foldl (fun n d => 16 * n + d) 0 ≤ top

/-- How a string is written. -/
structure Quotation where
  quote : Char
  triple : Bool
  octets : Bool
  raw : Bool

/-- Whether what follows a backslash is an escape. -/
def Quotation.escapes (q : Quotation) (c : Char) (rest : Text) : Bool :=
  q.raw ||
    (if c == 'x' then hexAhead 2 255 rest
    else if c == 'u' then q.octets || hexAhead 4 0xffff rest
    else if c == 'U' then q.octets || hexAhead 8 0x10ffff rest
    else c != 'N' || q.octets)

/-- What follows the end of a string. -/
def Quotation.skip (q : Quotation) : Text → Option Text
  | [] => none
  | c :: rest =>
    if c == q.quote then
      if q.triple then
        match rest with
        | d :: e :: after => if d == q.quote && e == q.quote then some after else q.skip (d :: e :: after)
        | _ => none
      else some rest
    else if (c == '\n' && !q.triple) || (q.octets && 128 ≤ c.toNat) then none
    else match c, rest with
      | '\\', d :: next =>
        if q.escapes d next && !(q.octets && 128 ≤ d.toNat) then q.skip next else none
      | _, next => q.skip next

/-- The way in which a string with the given letters before it is written: of octets or not, raw or not. -/
def quotationKind? (letters : Text) : Option (Bool × Bool) :=
  let letters := letters.map Char.toLower
  if letters.isEmpty || letters == ['u'] then some (false, false)
  else if letters == ['r'] then some (false, true)
  else if letters == ['b'] then some (true, false)
  else if letters == ['b', 'r'] || letters == ['r', 'b'] then some (true, true)
  else none

/-- A string: whether it is one of octets, and what follows. -/
def readString (t : Text) : Option (Bool × Text) := do
  let letters := t.takeWhile Char.isAlpha
  let (octets, raw) ← quotationKind? letters
  match t.drop letters.length with
  | quote :: rest =>
    if quote == '"' || quote == '\'' then
      let triple := rest.take 2 == [quote, quote]
      let body := if triple then rest.drop 2 else rest
      let after ← Quotation.skip ⟨quote, triple, octets, raw⟩ body
      return (octets, after)
    else none
  | [] => none

/-- What follows strings of one kind. -/
def skipStrings (depth : Nat) (octets : Bool) : Nat → Text → Option Text
  | 0, _ => none
  | fuel + 1, t =>
    match readString (skip depth t) with
    | some (same, after) => if same == octets then skipStrings depth octets fuel after else none
    | none => some t

/-! ## Values -/

/-- How deep parentheses may be nested. -/
def nestingLimit : Nat := 200

/-- A value that a word stands for; `set` has to be called. -/
def readWord (depth : Nat) (t : Text) : Option (Value × Text) :=
  let word := t.takeWhile Text.isWordChar
  let rest := t.drop word.length
  if word == "True".toList || word == "False".toList || word == "None".toList then some (.other true, rest)
  else if word == "set".toList && depth < nestingLimit then
    match skip depth rest with
    | '(' :: rest =>
      match skip (depth + 1) rest with
      | ')' :: rest => some (.other false, rest)
      | _ => none
    | _ => none
  else none

mutual

/-- Reads a value without a sign. -/
def readAtom (depth : Nat) : Nat → Text → Option (Value × Text)
  | 0, _ => none
  | fuel + 1, t =>
    match t with
    | '(' :: rest =>
      if depth == nestingLimit then none
      else match skip (depth + 1) rest with
        | ')' :: rest => some (.other true, rest)
        | inner => do
          let (first, rest) ← readValue (depth + 1) fuel inner
          let (frozen, after) ← readMembers (depth + 1) false ')' fuel rest
          -- a comma makes a tuple of a value in parentheses
          if (skip (depth + 1) rest).head? == some ',' then return (.other (first.isFrozen && frozen), after)
          else return (first, after)
    | '\x7b' :: rest =>
      if depth == nestingLimit then none
      else match skip (depth + 1) rest with
        | '\x7d' :: rest => some (.other false, rest)
        | inner => do
          let (first, rest) ← readValue (depth + 1) fuel inner
          let (isTable, rest) ← (match skip (depth + 1) rest with
            | ':' :: rest => do
              let (_, rest) ← readValue (depth + 1) fuel (skip (depth + 1) rest)
              return (true, rest)
            | _ => some (false, rest))
          let (frozen, after) ← readMembers (depth + 1) isTable '\x7d' fuel rest
          if first.isFrozen && frozen then return (.other false, after) else none
    | '.' :: '.' :: '.' :: rest => some (.other true, rest)
    | _ =>
      match readString t with
      | some (octets, rest) => (skipStrings depth octets fuel rest).map fun after => (.other true, after)
      | none => readNumber t <|> readWord depth t

/-- Reads a value, which may have a sign or be the sum of a real and an imaginary number. -/
def readValue (depth : Nat) : Nat → Text → Option (Value × Text)
  | 0, _ => none
  | fuel + 1, t => do
    let (first, rest) ← (match t with
      | '+' :: rest | '-' :: rest => do
        let (value, rest) ← readAtom depth fuel (skip depth rest)
        match value with
        | .real => return (.signed, rest)
        | .imaginary => return (.other true, rest)
        | _ => none
      | _ => readAtom depth fuel t)
    match skip depth rest with
    | '+' :: second | '-' :: second =>
      let (value, rest) ← readAtom depth fuel (skip depth second)
      if (first == .real || first == .signed) && value == .imaginary then return (.other true, rest) else none
    | _ => return (first, rest)

/-- Reads members after the first one up to the closing sign, each of them with a value if they are keys of a
table: whether all are frozen, and what follows. -/
def readMembers (depth : Nat) (isTable : Bool) (close : Char) : Nat → Text → Option (Bool × Text)
  | 0, _ => none
  | fuel + 1, t =>
    match skip depth t with
    | ',' :: rest =>
      match skip depth rest with
      | [] => none
      | c :: inner =>
        if c == close then some (true, inner)
        else do
          let (value, rest) ← readValue depth fuel (c :: inner)
          let rest ← (if isTable then
            match skip depth rest with
            | ':' :: rest => (readValue depth fuel (skip depth rest)).map (·.2)
            | _ => none
          else some rest)
          let (frozen, after) ← readMembers depth isTable close fuel rest
          return (value.isFrozen && frozen, after)
    | c :: rest => if c == close then some (true, rest) else none
    | [] => none

end

/-- Whether nothing but blanks and comments follows on the lines after this one. -/
def endsHere : Text → Bool
  | [] => true
  | '\n' :: rest => (skip 1 rest).isEmpty
  | _ => false

/-- Whether values with commas between them and nothing else follow. -/
def endsWith : Nat → Text → Bool
  | 0, _ => false
  | fuel + 1, t =>
    match skip 0 t with
    | ',' :: rest =>
      let rest := skip 0 rest
      endsHere rest || (readValue 0 (8 * rest.length + 8) rest).any fun r => endsWith fuel r.2
    | rest => endsHere rest

/-- Whether a text writes a value. -/
def isValue (t : Text) : Bool :=
  let lines := (Text.lines (Text.unifyLines (t.dropWhile fun c => c == ' ' || c == '\t'))).dropWhile fun l =>
    (skip 0 l).isEmpty
  let body := Text.join ['\n'] lines
  !body.contains '\x00' && !(body.head? == some ' ' || body.head? == some '\t') &&
    (readValue 0 (8 * body.length + 8) (skip 0 body)).any fun r => endsWith body.length.succ r.2

end DryRun.Handler
