import DryRun.Sql.Token
import DryRun.Text.Digit
import DryRun.Text.WordChar

/-!
# Reading one lexeme

`readLexeme previous t` reads the lexeme at the head of `t`, which does not begin with a blank, and
says how many code points it takes. The answer depends on the text ahead and on the lexeme before,
never on the place in the statement. A number with a type suffix (`1L`) gives three lexemes: the
number, `::` and the suffix.
-/

namespace DryRun.Sql

/-- Why a text cannot be cut into tokens. -/
inductive LexError where
  | unclosedString
  | unclosedName
  | unclosedComment
  | malformedHex
deriving DecidableEq, Repr

/-- The characters that end a word: brackets, operators, separators and quotes. -/
def breakChars : Text := "()[]\x7b\x7d&^:,.-=><%!|+;/\\*~?@#$\x27\x60\x22".toList

/-- Whether a word ends before `c`. -/
def endsWord (c : Char) : Bool := Text.isBlank c || breakChars.contains c

/-- The characters up to the next blank or break character. -/
def wordAhead (t : Text) : Text := t.takeWhile (!endsWord ·)

/-! ## Quoted texts -/

/-- The character that `\c` stands for, if it is a control or the backslash. -/
def controlEscape? (c : Char) : Option Char :=
  if c == 'a' then some '\x07'
  else if c == 'b' then some '\x08'
  else if c == 'f' then some '\x0c'
  else if c == 'n' then some '\n'
  else if c == 'r' then some '\r'
  else if c == 't' then some '\t'
  else if c == 'v' then some '\x0b'
  else if c == '\\' then some '\\'
  else none

/-- How a quoted text writes its own closing quote. -/
inductive Escaping where
  /-- Not at all. -/
  | none
  /-- By a backslash before it; a backslash also writes control characters and itself. -/
  | backslash
  /-- By writing it twice. -/
  | doubled
deriving DecidableEq, Repr

/-- Reads a quoted text after its opening quote: its content and the code points taken, closing quote
included. `content` is what was read so far, reversed. -/
def quotedBody (escaping : Escaping) (quote : Char) : Text → Nat → Text → Option (Text × Nat)
  | _, _, [] => none
  | content, used, c :: d :: rest =>
    if escaping == .backslash && c == '\\' then
      match controlEscape? d with
      | some e => quotedBody escaping quote (e :: content) (used + 2) rest
      | none =>
        -- before any other character the backslash stands for itself
        if d == quote then quotedBody escaping quote (d :: content) (used + 2) rest
        else quotedBody escaping quote (c :: content) (used + 1) (d :: rest)
    else if escaping == .doubled && c == quote && d == quote then
      quotedBody escaping quote (c :: content) (used + 2) rest
    else if c == quote then some (content.reverse, used + 1)
    else quotedBody escaping quote (c :: content) (used + 1) (d :: rest)
  | content, used, [c] => if c == quote then some (content.reverse, used + 1) else none

/-- A quoted text of the given kind whose opening mark takes `mark` code points. -/
def readQuoted (kind : Kind) (escaping : Escaping) (quote : Char) (mark : Nat) (body : Text) :
    Option (Lexeme × Nat) :=
  (quotedBody escaping quote [] mark body).map fun r => (⟨kind, r.1⟩, r.2)

/-! ## Comments -/

/-- The code points up to the end of the line. -/
def lineAhead (t : Text) : Text := t.takeWhile fun c => c != '\n' && c != '\r'

/-- Reads a block comment after its opening mark, up to the `close` that matches it; `depth` counts
the open comments, and `skip` the code points of a mark already seen. A mark that opens an inner
comment is looked for from the second code point after any mark on. -/
def blockComment (opening close : Text) : Nat → Nat → Nat → Text → Option Nat
  | _, _, _, [] => none
  | depth, skip + 1, used, _ :: cs => blockComment opening close depth skip (used + 1) cs
  | depth, 0, used, c :: cs =>
    if Text.startsWith (c :: cs) close && depth ≤ 1 then some (used + close.length)
    else
      let depth := if Text.startsWith (c :: cs) close then depth - 1 else depth
      if Text.startsWith cs opening then
        blockComment opening close (depth + 1) opening.length (used + 1) cs
      else blockComment opening close depth 0 (used + 1) cs

/-- The code points up to and with the first `close`. -/
def flatComment (close : Text) : Nat → Text → Option Nat
  | _, [] => none
  | used, c :: cs =>
    if Text.startsWith (c :: cs) close then some (used + close.length)
    else flatComment close (used + 1) cs

/-- Reads a comment if one begins here. A comment opened by `/*+` ends at the first `*/`, the others
nest; a line comment ends before the line end. -/
def readComment? (previous : Option Lexeme) (t : Text) : Option (Except LexError (Lexeme × Nat)) :=
  if Text.startsWith t "--" then
    let body := lineAhead t
    some (.ok (⟨.comment, body⟩, body.length))
  else if Text.startsWith t "/*+" then
    let kind := if previous.any Lexeme.takesHint then Kind.hint else Kind.comment
    some (finish kind (flatComment "*/" 3 (t.drop 3)))
  else if Text.startsWith t "/*" then some (finish .comment (blockComment "/*" "*/" 1 0 2 (t.drop 2)))
  else if Text.startsWith t "\x7b#" then
    some (finish .comment (blockComment "\x7b#" "#\x7d" 1 0 2 (t.drop 2)))
  else none
where
  /-- The comment of the given length. -/
  finish (kind : Kind) : Option Nat → Except LexError (Lexeme × Nat)
    | some n => .ok (⟨kind, t.take n⟩, n)
    | none => .error .unclosedComment

/-! ## Numbers -/

/-- Hexadecimal digits with single underscores between them, at least one. -/
def isHexDigits (afterDigit : Bool) : Text → Bool
  | [] => afterDigit
  | c :: cs =>
    if c == '_' then afterDigit && isHexDigits false cs
    else (Text.hexDigit? c).isSome && isHexDigits true cs

/-- Hexadecimal digits after an optional `0x`, which an underscore may follow. -/
def isHexNumber (t : Text) : Bool :=
  match t with
  | '0' :: x :: '_' :: rest =>
    if x == 'x' || x == 'X' then isHexDigits false rest else isHexDigits false t
  | '0' :: x :: rest =>
    if x == 'x' || x == 'X' then isHexDigits false rest else isHexDigits false t
  | _ => isHexDigits false t

/-- A hexadecimal number in digits of any script, with blanks around it and a sign in front allowed. -/
def isHexContent (t : Text) : Bool :=
  match Text.plainDigits (Text.trimMargin t) with
  | c :: rest => if c == '+' || c == '-' then isHexNumber rest else isHexNumber (c :: rest)
  | [] => false

/-- The suffixes that give a number a type. -/
def numberSuffixes : List Text :=
  ["L".toList, "S".toList, "Y".toList, "D".toList, "F".toList, "BD".toList]

/-- What has been seen of a number. -/
structure NumberState where
  point : Bool := false
  exponent : Bool := false
  sign : Bool := false

/-- The length of the number at the head of a text: digits, at most one point (none after a sigil),
at most one exponent mark, and after that one sign that a digit follows. -/
def numberLength (afterSigil : Bool) : NumberState → Nat → Text → Nat
  | _, used, [] => used
  | s, used, c :: cs =>
    if Text.isDigit c then numberLength afterSigil s (used + 1) cs
    else if c == '.' && !s.point && !afterSigil then
      numberLength afterSigil { s with point := true } (used + 1) cs
    else if (c == '+' || c == '-') && s.exponent && !s.sign && cs.head?.any Text.isDigit then
      numberLength afterSigil { s with sign := true } (used + 1) cs
    else if (c == 'e' || c == 'E') && !s.exponent then
      numberLength afterSigil { s with exponent := true } (used + 1) cs
    else used

/-- Reads a number: `0x` and hexadecimal digits, or digits with an optional type suffix. A number that
runs into other word characters is a plain word. -/
def readNumber (afterSigil : Bool) (t : Text) : List Lexeme × Nat :=
  match t with
  | '0' :: x :: rest =>
    if x == 'x' || x == 'X' then
      let value := wordAhead t
      if isHexNumber (Text.plainDigits value) then ([⟨.hexString, value.drop 2⟩], value.length)
      else ([⟨.quotedName, value⟩], value.length)
    -- the digits after `0b` are left to the next lexeme
    else if x == 'b' || x == 'B' then ([⟨.number, ['0']⟩], 1)
    else decimal (x :: rest)
  | _ => decimal (t.drop 1)
where
  /-- A number whose first digit is followed by `rest`. -/
  decimal (rest : Text) : List Lexeme × Nat :=
    let n := numberLength afterSigil {} 1 rest
    let ahead := t.drop n
    if ahead.head?.any Text.startsName then
      let suffix := wordAhead ahead
      if numberSuffixes.contains (Text.upper suffix) then
        ([⟨.number, t.take n⟩, ⟨.symbol, "::".toList⟩, ⟨.suffix, suffix⟩], n + suffix.length)
      else ([⟨.word, t.take (n + suffix.length)⟩], n + suffix.length)
    else ([⟨.number, t.take n⟩], n)

/-! ## Phrases and operators -/

/-- Phrases of several words that make one token. -/
def phrases : List Text :=
  ["CLUSTER BY".toList, "CONNECT BY".toList, "DISTRIBUTE BY".toList, "FOREIGN KEY".toList,
   "GROUP BY".toList, "GROUPING SETS".toList, "ORDER BY".toList, "PARTITION BY".toList,
   "PARTITIONED BY".toList, "PRIMARY KEY".toList, "SIMILAR TO".toList, "SORT BY".toList,
   "SQL SECURITY".toList, "DOUBLE PRECISION".toList, "CHAR VARYING".toList,
   "CHARACTER VARYING".toList, "ADD ARCHIVES".toList, "ADD ARCHIVE".toList, "ADD FILES".toList,
   "ADD FILE".toList, "ADD JARS".toList, "ADD JAR".toList, "MSCK REPAIR".toList]

/-- The code points that spell `phrase` in any ASCII case, a run of blanks counting as one space. -/
def phraseLength (phrase : Text) (afterBlank : Bool) (used : Nat) : Text → Option Nat
  | [] => if phrase.isEmpty then some used else none
  | c :: cs =>
    if phrase.isEmpty then some used
    else if Text.isBlank c then
      if afterBlank then phraseLength phrase true (used + 1) cs
      else match Text.after? [' '] phrase with
        | some rest => phraseLength rest true (used + 1) cs
        | none => none
    else match Text.after? [c.toUpper] phrase with
      | some rest => phraseLength rest false (used + 1) cs
      | none => none

/-- Reads a phrase that ends where a word ends, or `USER-DEFINED`. -/
def readPhrase? (t : Text) : Option (Lexeme × Nat) :=
  match phrases.findSome? fun p =>
      (phraseLength p false 0 t).bind fun n =>
        if (t.drop n).head?.all endsWord then some (⟨.phrase, p⟩, n) else none with
  | some r => some r
  | none => (phraseLength "USER-DEFINED" false 0 t).map fun n => (⟨.phrase, "USER-DEFINED".toList⟩, n)

/-- Operators of more than one character, the longer before the shorter. -/
def operators : List Text :=
  ["<<->>".toList, "\x7b%+".toList, "\x7b%-".toList, "+%\x7d".toList, "-%\x7d".toList,
   "\x7b\x7b+".toList, "\x7b\x7b-".toList, "+\x7d\x7d".toList, "-\x7d\x7d".toList, "?::".toList,
   "<=>".toList, "->>".toList, "#>>".toList, "<->".toList, "~~~".toList, "~~*".toList,
   "-|-".toList, "\x7b%".toList, "%\x7d".toList, "&<".toList, "&>".toList, "==".toList,
   "::".toList, "||".toList, "|>".toList, ">=".toList, "<=".toList, "<>".toList, "!=".toList,
   ":=".toList, "->".toList, "=>".toList, "#>".toList, "&&".toList, "??".toList, "~~".toList,
   "~*".toList]

/-- The sort of a single break character. -/
def signKind (c : Char) : Kind :=
  if c == '(' then .leftParen
  else if c == ')' then .rightParen
  else if c == ',' then .comma
  else if c == '.' then .dot
  else if c == ';' then .semicolon
  else .symbol

/-! ## The lexeme ahead -/

/-- Reads a string marked by a letter directly before its quote. -/
def readMarkedString? (t : Text) : Option (Except LexError (Lexeme × Nat)) :=
  match t with
  | mark :: quote :: body =>
    if quote != '\x27' && quote != '\x22' then none
    else if mark == 'n' || mark == 'N' then
      some (close (readQuoted .nationalString .backslash quote 2 body))
    else if mark == 'r' || mark == 'R' then some (close (readQuoted .rawString .none quote 2 body))
    else if (mark == 'x' || mark == 'X') && quote == '\x27' then
      some (close (readQuoted .hexString .backslash quote 2 body) >>= fun r =>
        if r.1.text.isEmpty || isHexContent r.1.text then .ok r else .error .malformedHex)
    else none
  | _ => none
where
  /-- A string that was closed. -/
  close : Option (Lexeme × Nat) → Except LexError (Lexeme × Nat)
    | some r => .ok r
    | none => .error .unclosedString

/-- Reads what stands at the head of a text that does not begin with a blank: the lexemes it gives and
the code points it takes, at least one. -/
def readLexeme (previous : Option Lexeme) (t : Text) : Except LexError (List Lexeme × Nat) :=
  match t with
  | [] => .ok ([], 0)
  | c :: cs =>
    if Text.isDigit c then .ok (readNumber (previous.any Lexeme.isSigil) t)
    else if c == '\x60' then
      match readQuoted .quotedName .doubled c 1 cs with
      | some r => .ok ([r.1], r.2)
      | none => .error .unclosedName
    else if c == '\x27' || c == '\x22' then
      match readQuoted .string .backslash c 1 cs with
      | some r => .ok ([r.1], r.2)
      | none => .error .unclosedString
    else match (readComment? previous t).orElse fun _ => readMarkedString? t with
      | some (.ok r) => .ok ([r.1], r.2)
      | some (.error e) => .error e
      | none =>
        match readPhrase? t with
        | some r => .ok ([r.1], r.2)
        | none =>
          match operators.find? (Text.startsWith t) with
          | some o => .ok ([⟨.symbol, o⟩], o.length)
          | none =>
            if breakChars.contains c then .ok ([⟨signKind c, [c]⟩], 1)
            else
              let word := wordAhead t
              let kind := if previous.any Lexeme.isSigil then Kind.parameter else Kind.word
              .ok ([⟨kind, word⟩], word.length)

end DryRun.Sql
