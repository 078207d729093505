import DryRun.Sql.Scan
import DryRun.Table.Ref

/-!
# Words and names among tokens

`matchWords` reads given words at the head of a token list. Since some phrases are one token, words
are compared one by one and not token by token. `readTableName` reads a dotted name of one to three
parts. Both return the tokens that follow.
-/

namespace DryRun.Sql

namespace Lexeme

/-- Whether the lexeme is a quoted name or a string, which spell no words. -/
def isQuoted (l : Lexeme) : Bool := l.kind == .quotedName || l.kind == .string

/-- The upper-case words that the text of a lexeme spells. -/
def spelled (l : Lexeme) : List Text := Text.words (Text.upper l.text)

/-- An ASCII letter, digit, underscore or dollar sign. -/
def isNameChar (c : Char) : Bool := c.isAlphanum || c == '_' || c == '$'

/-- Whether a text is a plain ASCII name. -/
def isPlainName : Text → Bool
  | [] => false
  | c :: cs => (c.isAlpha || c == '_') && cs.all isNameChar

/-- Whether the lexeme can be a part of a table name. -/
def isName (l : Lexeme) : Bool :=
  l.kind == .quotedName || (l.kind != .string && isPlainName l.text)

end Lexeme

/-- The tokens after `words`, if the list begins with tokens that spell them. A token that spells no
word at all is passed over while words are pending. -/
def matchWords : List Text → List Token → Option (List Token)
  | [], tokens => some tokens
  | _ :: _, [] => none
  | w :: ws, t :: ts =>
    if t.isQuoted then none
    else match t.spelled.isPrefixOf? (w :: ws) with
      | some pending => matchWords pending ts
      | none => none

def beginsWith (word : Text) (tokens : List Token) : Bool := (matchWords [word] tokens).isSome

/-- The tokens after `words` if they stand at the head, else all. -/
def skipWords (words : List Text) (tokens : List Token) : List Token :=
  (matchWords words tokens).getD tokens

/-- The name tokens that follow, each after a dot, and the tokens after them. -/
def dottedParts : List Token → List Token × List Token
  | d :: n :: rest =>
    if d.kind == .dot && n.isName then
      let (parts, rest) := dottedParts rest
      (n :: parts, rest)
    else ([], d :: n :: rest)
  | tokens => ([], tokens)

/-- A table name as it stands among tokens. -/
structure NameReading where
  ref : TableRef
  /-- The offset of its first code point. -/
  start : Nat
  /-- The offset past its last code point. -/
  stop : Nat
  /-- The tokens after it. -/
  rest : List Token

/-- Reads the longest dotted name at the head; none if there is no name or it has over three parts. -/
def readTableName : List Token → Option NameReading
  | [] => none
  | t :: ts =>
    if t.isName then
      let (parts, rest) := dottedParts ts
      (TableRef.ofParts? ((t :: parts).map (·.text))).map fun ref =>
        ⟨ref, t.start, ((t :: parts).getLast?.getD t).stop, rest⟩
    else none

/-- The tokens up to the parenthesis that closes the one before them, that parenthesis, and the tokens
after it; `depth` counts the parentheses opened since. -/
def enclosed (depth : Nat) : List Token → Option (List Token × Token × List Token)
  | [] => none
  | t :: ts =>
    if t.kind == .leftParen then
      (enclosed (depth + 1) ts).map fun r => (t :: r.1, r.2)
    else if t.kind == .rightParen then
      match depth with
      | 0 => some ([], t, ts)
      | depth + 1 => (enclosed depth ts).map fun r => (t :: r.1, r.2)
    else (enclosed depth ts).map fun r => (t :: r.1, r.2)

end DryRun.Sql
