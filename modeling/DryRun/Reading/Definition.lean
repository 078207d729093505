import DryRun.Reading.Insert
import DryRun.Sql.TableHeader

/-!
# Reading a definition

`readDefinition` reads a text as one statement and says what it defines. A CREATE TABLE with columns is
known by its header, and the text of its columns is kept as written; all other statements are classified
by the grammar.
-/

namespace DryRun

open Sql Grammar

/-- What a statement defines. -/
structure Definition where
  kind : StatementKind
  /-- The kind of object that is created or dropped, in upper case; empty if there is none. -/
  objectKind : Text := []
  table : Option TableRef := none
  /-- The text between the parentheses of the column list. -/
  columns : Text := []
deriving DecidableEq, Repr

/-- Whether a table with a column list is created. -/
def Definition.isCreateTable (d : Definition) : Bool :=
  d.kind == .create && d.objectKind == "TABLE".toList && d.table.isSome && !Text.isBlankText d.columns

/-- Reads a text as one statement that may define something. -/
def readDefinition (sql : Text) : Except ReadError Definition :=
  match readStatement sql with
  | .error e => .error e
  | .ok s =>
    match readTableHeader sql s.tokens with
    | some header => .ok ⟨.create, "TABLE".toList, some header.table, header.columns⟩
    | none =>
      match s.classified with
      | .error e => .error e
      | .ok c => .ok { kind := c.kind, objectKind := c.objectKind, table := c.table }

end DryRun
