import DryRun.Sql.Words
import DryRun.Sql.Statement

/-!
# The header of an INSERT

`readInsertHeader` reads `INSERT (INTO | OVERWRITE) [TABLE] name [(columns)]` from the tokens of a
statement. What follows the header is not looked at, so the source query may use any dialect. An
`Insert` keeps the text it was read from and the span of the target name; `render` writes the target
over that span and leaves all else as it is.
-/

namespace DryRun.Sql

/-- A statement that inserts into a named table. -/
structure Insert where
  target : TableRef
  /-- The text of the statement. -/
  sql : Text
  /-- The offset of the first code point of the target name as read. -/
  start : Nat
  /-- The offset past the last code point of the target name as read. -/
  stop : Nat
  /-- The names of the column list after the target, none if there is no such list. -/
  columns : List Text
  overwrite : Bool
deriving DecidableEq, Repr

namespace Insert

/-- The same statement with another target. -/
def retarget (insert : Insert) (target : TableRef) : Insert := { insert with target := target }

/-- The text with the target written over the span of the name that was read. -/
def render (insert : Insert) : Text :=
  insert.sql.take insert.start ++ insert.target.render ++ insert.sql.drop insert.stop

end Insert

/-! ## Column lists -/

/-- The names of a list of names separated by commas; none for anything else, and for a list that
names `SELECT` without quotes. A comma after the last name is allowed. -/
def columnNames? : List Token → Option (List Text)
  | [] => none
  | [n] => if isColumn n then some [n.text] else none
  | n :: s :: rest =>
    if isColumn n && s.kind == .comma then
      if rest.isEmpty then some [n.text] else (columnNames? rest).map (n.text :: ·)
    else none
where
  /-- A name other than the bare word `SELECT`. -/
  isColumn (t : Token) : Bool := t.isName && (t.isQuoted || t.spelled != ["SELECT".toList])

/-- The names of the column list that opens with the first of the tokens. -/
def columnsAhead (tokens : List Token) : List Text :=
  match enclosed 0 (tokens.drop 1) with
  | some (inner, _) => (columnNames? inner).getD []
  | none => []

/-! ## The header -/

/-- Words that may follow the target of an INSERT. -/
def bodyWords : List Text :=
  ["SELECT".toList, "WITH".toList, "VALUES".toList, "PARTITION".toList, "TABLE".toList]

/-- Whether tokens can follow the target: a parenthesis, a hint or one of `bodyWords`. -/
def opensBody (tokens : List Token) : Bool :=
  match tokens with
  | [] => false
  | t :: _ => t.kind == .leftParen || t.kind == .hint || bodyWords.any (beginsWith · tokens)

/-- The tokens after `INTO` or `OVERWRITE`, and whether it was `OVERWRITE`. -/
def readVerb (tokens : List Token) : Option (List Token × Bool) :=
  match matchWords ["INTO".toList] tokens with
  | some rest => some (rest, false)
  | none => (matchWords ["OVERWRITE".toList] tokens).map fun rest => (rest, true)

/-- The tokens after `TABLE`, if a name follows it; else `TABLE` is the name. -/
def skipTable (tokens : List Token) : List Token :=
  match matchWords ["TABLE".toList] tokens with
  | some (n :: rest) => if n.isName then n :: rest else tokens
  | _ => tokens

/-- Reads the header of an INSERT from the tokens of `sql`. -/
def readInsertHeader (sql : Text) (tokens : List Token) : Option Insert := do
  let tokens ← matchWords ["INSERT".toList] tokens
  let (tokens, overwrite) ← readVerb (tokens.dropWhile (·.kind == .hint))
  let name ← readTableName (skipTable tokens)
  if opensBody name.rest then
    let columns := if name.rest.head?.any (·.kind == .leftParen) then columnsAhead name.rest else []
    some ⟨name.ref, sql, name.start, name.stop, columns, overwrite⟩
  else none

end DryRun.Sql
