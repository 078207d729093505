import DryRun.Grammar.Statement
import DryRun.Sql.Insert

/-!
# Reading an INSERT

`readInsert` reads a text as one INSERT into a named table. A statement without such a header is given
to the grammar, which says what it is instead.
-/

namespace DryRun

open Sql Grammar

/-- The lexemes of a statement without the separator at its end. -/
def Sql.Statement.lexemes (s : Sql.Statement) : List Lexeme :=
  (s.tokens.filter (·.kind != .semicolon)).map Token.toLexeme

/-- What the grammar makes of a statement. A comment after the final separator counts as a statement of
no known kind. -/
def Sql.Statement.classified (s : Sql.Statement) : Except ReadError Classified :=
  match classify s.lexemes with
  | .error .malformed => .error .grammar
  | .error (.hint cause) => .error (.hint cause)
  | .ok none => if s.commentAfterEnd then .ok { kind := .unknown } else .error .nothing
  | .ok (some c) => if s.commentAfterEnd then .error .commentAfterEnd else .ok c

/-- Why a text is not an INSERT into a named table. -/
inductive InsertError where
  /-- The text is not one well-formed statement. -/
  | unreadable (cause : ReadError)
  /-- The text is a statement of another kind, or an INSERT without a named table. -/
  | unexpected (actual : StatementKind)
deriving DecidableEq, Repr

/-- The wording for a statement that is no INSERT into a named table. -/
def unexpectedMessage (actual : StatementKind) : Text :=
  "Expected insert statement, got ".toList ++ actual.label ++
    match actual with
    | .insert => ": INSERT does not write to a named table".toList
    | _ => []

def InsertError.message : InsertError → Text
  | .unreadable cause => cause.message
  | .unexpected actual => unexpectedMessage actual

/-- Reads a text as one INSERT into a named table. -/
def readInsert (sql : Text) : Except InsertError Insert :=
  match readStatement sql with
  | .error e => .error (.unreadable e)
  | .ok s =>
    match readInsertHeader sql s.tokens with
    | some insert => .ok insert
    | none =>
      match s.classified with
      | .error e => .error (.unreadable e)
      | .ok c => .error (.unexpected c.kind)

end DryRun
