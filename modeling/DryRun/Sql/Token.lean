import DryRun.Text.UpperCase

/-!
# Tokens

The tokens of a statement under the job-script convention: names in back-ticks, strings in single or
double quotes, everything else as written. A `Lexeme` is a token without its place in the text; the
grammar reads lexemes only, so where a statement stands does not change what it is.
-/

namespace DryRun.Sql

/-- The sort of a token. -/
inductive Kind where
  /-- A plain word, which is a keyword if it spells one. -/
  | word
  /-- A word directly after `@` or `$`, which is never a keyword. -/
  | parameter
  /-- A phrase of several words that counts as one keyword, such as `GROUP BY`. -/
  | phrase
  | number
  /-- The suffix of a number, which names its type. -/
  | suffix
  /-- A name in back-ticks, or a malformed hexadecimal number. -/
  | quotedName
  | string
  /-- A string marked `n`. -/
  | nationalString
  /-- A string marked `r`, in which a backslash stands for itself. -/
  | rawString
  /-- A string marked `x`, or a number marked `0x`. -/
  | hexString
  /-- A comment opened by `/*+` right after `SELECT`, `INSERT`, `UPDATE` or `DELETE`. -/
  | hint
  | comment
  | leftParen
  | rightParen
  | comma
  | dot
  | semicolon
  /-- Any other operator or sign. -/
  | symbol
deriving DecidableEq, Repr

/-- A token without its place in the text. -/
structure Lexeme where
  kind : Kind
  text : Text
deriving DecidableEq, Repr

/-- A token: a lexeme and the half-open span of code points it was read from, quotes included. -/
structure Token extends Lexeme where
  start : Nat
  stop : Nat
deriving DecidableEq, Repr

namespace Lexeme

/-- Whether the lexeme is the keyword `word`, which is given in upper case. -/
def isKeyword (word : Text) (l : Lexeme) : Bool :=
  l.kind == .word && Text.upper l.text == word

/-- Whether a `/*+` comment directly after this lexeme is a hint. -/
def takesHint (l : Lexeme) : Bool :=
  l.kind == .word &&
    ["SELECT".toList, "INSERT".toList, "UPDATE".toList, "DELETE".toList].contains
      (Text.upper l.text)

/-- Whether the lexeme is `@` or `$`, after which a word is a variable. -/
def isSigil (l : Lexeme) : Bool :=
  l.kind == .symbol && (l.text == ['@'] || l.text == ['$'])

/-- Words that turn the rest of a statement into one uninterpreted string. -/
def commandWords : List Text :=
  ["EXECUTE".toList, "FETCH".toList, "RENAME".toList, "SHOW".toList, "CALL".toList,
   "EXPLAIN".toList, "OPTIMIZE".toList, "PREPARE".toList, "VACUUM".toList]

/-- Phrases that turn the rest of a statement into one uninterpreted string. -/
def commandPhrases : List Text :=
  ["ADD ARCHIVE".toList, "ADD ARCHIVES".toList, "ADD FILE".toList, "ADD FILES".toList,
   "ADD JAR".toList, "ADD JARS".toList, "MSCK REPAIR".toList]

/-- Whether the lexeme begins a command where a statement may begin. -/
def opensCommand (l : Lexeme) : Bool :=
  (l.kind == .word && commandWords.contains (Text.upper l.text)) ||
    (l.kind == .phrase && commandPhrases.contains l.text)

end Lexeme

/-- Whether a command may begin after `previous`: at the start, after `;` and after `BEGIN`. -/
def startsStatement : Option Lexeme → Bool
  | none => true
  | some l => l.kind == .semicolon || l.isKeyword "BEGIN".toList

end DryRun.Sql
