import DryRun.Grammar.Alter
import DryRun.Grammar.Maintenance

/-!
# Statements

A statement is known by its first word, or is an expression or query. This module gives the symbols of
the grammar their meaning, and `classify` reads a whole statement: what is left over makes it malformed.
-/

namespace DryRun.Grammar

open DryRun.Sql

/-- The statements by their first word, which was taken. -/
def statements : List (String × Parse (Option Node)) :=
  [("ALTER", alterStatement), ("ANALYZE", analyzeStatement), ("BEGIN", beginStatement),
   ("CACHE", cacheStatement), ("COMMENT", commentStatement), ("COMMIT", finishTransaction),
   ("COPY", copyStatement), ("CREATE", createStatement), ("DELETE", deleteStatement),
   ("DESC", describeStatement), ("DESCRIBE", describeStatement), ("DROP", dropStatement),
   ("GRANT", grantStatement), ("INSERT", insertStatement), ("KILL", killStatement),
   ("LOAD", loadStatement), ("MERGE", mergeStatement), ("PIVOT", tablePivot),
   ("PRAGMA", needed (call .expression)), ("REFRESH", refreshStatement), ("REVOKE", revokeStatement),
   ("ROLLBACK", finishTransaction), ("SET", setStatement), ("TRUNCATE", truncateStatement),
   ("UNCACHE", uncacheStatement), ("UNPIVOT", tablePivot), ("UPDATE", updateStatement),
   ("USE", useStatement)]

/-- An expression or a query, with the clauses after it. -/
def expressionOrQuery : Parse (Option Node) := do
  let this ←
    match ← call .expression with
    | some n => combine n
    | none => query {}
  match this with
  | some n => clausesOf n
  | none => return none

/-- A statement; none if there is nothing to read. -/
def statement : Parse (Option Node) := do
  match ← peek with
  | none => return none
  | some i =>
    if i.kind == .word && statementWords.contains i.caps then
      match statements.find? fun s => s.1.toList == i.caps with
      | some s => advance; s.2
      | none => expressionOrQuery
    else if i.toLexeme.opensCommand then
      advance
      let _ ← stringOrPlaceholder
      return some (.statement .command)
    else expressionOrQuery

/-! ## The meaning of the symbols -/

/-- The rule that a symbol names. -/
def rule : Symbol → Parse (Option Node)
  | .statement => statement
  | .expression => expression
  | .assignment => assignment
  | .disjunction => disjunction
  | .equality => equality
  | .bitwise => bitwise
  | .term => term
  | .factor => factor
  | .unary => unary
  | .typed => typed
  | .type o => typeRule o
  | .column => column
  | .field any => field any
  | .primary => primary
  | .call anonymous => callRule anonymous false false
  | .argument => argument false
  | .query o => query o
  | .subqueryOf inner aliased => subqueryOf inner aliased
  | .clausesOf node => clausesOf node
  | .combine first => combine first
  | .table o => table o
  | .tableName isSchema => tableName true isSchema
  | .definitionOf head => definitionOf false head
  | .describe => describeStatement
  | .columnsOf t => columnsOf t
  | .property => property
  | .rowFormat => rowFormat

/-- The rules with symbols nested at most `fuel` deep. -/
def rulesUpTo : Nat → Rules
  | 0 => fun _ => throw .malformed
  | fuel + 1 => fun s => rule s (rulesUpTo fuel)

/-- Between two items symbols are nested less deep than this. -/
def nestingPerItem : Nat := 40

/-- What a statement is: its kind, and the kind and name of the object it creates or drops. -/
structure Classified where
  kind : StatementKind
  /-- The kind of object in upper case; empty if there is none. -/
  objectKind : Text := []
  table : Option TableRef := none
deriving DecidableEq, Repr

/-- What a node says of the statement it was read from. -/
def Node.classified : Node → Classified
  | .create k t => { kind := .create, objectKind := k, table := t }
  | .drop k t => { kind := .drop, objectKind := k, table := t }
  | n => { kind := n.kind }

/-- Reads all lexemes as one statement; none if there is no statement in them. -/
def classify (ls : List Lexeme) : Except Fault (Option Classified) := do
  let fuel := nestingPerItem * (ls.length + 8)
  let (node, rest) ← rulesUpTo fuel .statement ⟨[], ls.map Item.ofLexeme⟩
  if rest.ahead.isEmpty then return node.map Node.classified else throw .malformed

end DryRun.Grammar
