import DryRun.Sql.Words

/-!
# The header of a CREATE TABLE

`readTableHeader` reads `CREATE [OR REPLACE] [TEMPORARY] TABLE [IF NOT EXISTS] name (` from the tokens
of a statement and cuts out the text between that parenthesis and the one that closes it. Column
definitions are not looked at.
-/

namespace DryRun.Sql

/-- A table and the text of its column definitions. -/
structure TableHeader where
  table : TableRef
  columns : Text
deriving DecidableEq, Repr

/-- The code points of `sql` from `start` on and before `stop`. -/
def slice (sql : Text) (start stop : Nat) : Text := (sql.drop start).take (stop - start)

/-- Reads the name of the table and the tokens from the opening parenthesis on. -/
def readTableOpening (tokens : List Token) : Option (TableRef × Token × List Token) := do
  let tokens ← matchWords ["CREATE".toList] tokens
  let tokens := skipWords ["TEMPORARY".toList] (skipWords ["OR".toList, "REPLACE".toList] tokens)
  let tokens ← matchWords ["TABLE".toList] tokens
  let name ← readTableName (skipWords ["IF".toList, "NOT".toList, "EXISTS".toList] tokens)
  match name.rest with
  | t :: rest => if t.kind == .leftParen then some (name.ref, t, rest) else none
  | [] => none

/-- Reads the header of a CREATE TABLE from the tokens of `sql`. -/
def readTableHeader (sql : Text) (tokens : List Token) : Option TableHeader := do
  let (table, opening, rest) ← readTableOpening tokens
  let (_, closing, _) ← enclosed 0 rest
  some ⟨table, Text.strip (slice sql opening.stop closing.start)⟩

end DryRun.Sql
