import DryRun.Text.Basic

/-!
# Kinds of statements

The kinds of statements that are told apart, and their names. A statement of any other kind is
`unknown`, and one whose text is not interpreted is a `command`.
-/

namespace DryRun.Grammar

/-- The kinds of statements that are told apart. -/
inductive StatementKind where
  | select
  | create
  | insert
  | delete
  | drop
  | alter
  | set
  | use
  | command
  | withClause
  | unknown
deriving DecidableEq, Repr

def StatementKind.label : StatementKind → Text
  | .select => "select".toList
  | .create => "create".toList
  | .insert => "insert".toList
  | .delete => "delete".toList
  | .drop => "drop".toList
  | .alter => "alter".toList
  | .set => "set".toList
  | .use => "use".toList
  | .command => "command".toList
  | .withClause => "with".toList
  | .unknown => "unknown".toList

def StatementKind.all : List StatementKind :=
  [.select, .create, .insert, .delete, .drop, .alter, .set, .use, .command, .withClause, .unknown]

def StatementKind.ofLabel? (label : Text) : Option StatementKind :=
  StatementKind.all.find? (·.label == label)

end DryRun.Grammar
