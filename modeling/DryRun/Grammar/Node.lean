import DryRun.Grammar.StatementKind
import DryRun.Table.Ref

/-!
# What the grammar reads

A `Node` keeps of a construct what decides how the text after it is read, and what a definition is
asked for: the kind of a statement, and the kind and name of the object it creates or drops. All that
is not told apart is `other`.
-/

namespace DryRun.Grammar

/-- A part of a query, of which most can stand only once. -/
inductive Mark where
  | source
  | joins
  | laterals
  | aliased
  | pivots
  | condition
  | group
  | having
  | qualify
  | windows
  | order
  | sort
  | cluster
  | distribute
  | limit
  | offset
  | locks
  | sample
  | connect
deriving DecidableEq, Repr

/-- What a stretch of a statement was read as. -/
inductive Node where
  | select (marks : List Mark)
  /-- Two queries with a set operator between them, and whether it is `UNION`. -/
  | combined (union : Bool) (marks : List Mark)
  /-- A query or a table in parentheses. -/
  | subquery (inner : Node) (marks : List Mark)
  /-- Rows written out. -/
  | rows (marks : List Mark)
  /-- A named table. -/
  | table (ref : TableRef) (marks : List Mark)
  /-- A table, or nothing, with a list of columns. -/
  | columns (of : Option Node)
  | name (text : Text) (quoted : Bool)
  /-- A place for a value that is known later. -/
  | placeholder (text : Text)
  /-- A column by its last name, and whether that is all of it and without back-ticks. -/
  | column (text : Text) (plain : Bool)
  | string (text : Text)
  | number (text : Text)
  | null
  | truth
  | star
  /-- A type, and whether it stands with sizes or nested types. -/
  | type (sized : Bool)
  | cast
  /-- A column with a type or constraints. -/
  | definition
  /-- A call, and whether it summarises many rows. -/
  | call (aggregate : Bool)
  | interval
  /-- A remainder of a division. -/
  | remainder
  | parenthesised (inner : Node)
  | tuple
  | lateral
  | create (objectKind : Text) (table : Option TableRef)
  | drop (objectKind : Text) (table : Option TableRef)
  | insert
  | update
  | delete
  | merge
  | statement (kind : StatementKind)
  | other
deriving Repr

namespace Node

/-- Whether the node is a query by itself, without parentheses. -/
def isBareQuery : Node → Bool
  | .select _ | .combined _ _ => true
  | _ => false

def isQuery : Node → Bool
  | .select _ | .combined _ _ | .subquery _ _ => true
  | _ => false

/-- The marks of a node that clauses can follow; none for any other node. -/
def marks? : Node → Option (List Mark)
  | .select ms | .combined _ ms | .subquery _ ms | .rows ms | .table _ ms => some ms
  | _ => none

/-- The node with other marks, if it has marks. -/
def withMarks (ms : List Mark) : Node → Node
  | .select _ => .select ms
  | .combined u _ => .combined u ms
  | .subquery n _ => .subquery n ms
  | .rows _ => .rows ms
  | .table r _ => .table r ms
  | n => n

def addMark (m : Mark) (n : Node) : Node :=
  match n.marks? with
  | some ms => if ms.contains m then n else n.withMarks (m :: ms)
  | none => n

/-- What stands in parentheses without anything after them, at any depth. -/
def unwrapped : Node → Node
  | .subquery n [] => n.unwrapped
  | n => n

/-- Whether common table expressions can stand before the node. -/
def takesCommonTables : Node → Bool
  | .select _ | .combined _ _ | .subquery _ _ | .create _ _ | .insert | .update | .delete | .merge => true
  | _ => false

/-- The last name in a node; empty if there is none. -/
def nameText : Node → Text
  | .name t _ | .placeholder t | .column t _ | .string t | .number t => t
  | _ => []

/-- The table that a node is about: itself, or the one with a list of columns. -/
def tableRef? : Node → Option TableRef
  | .table r _ => some r
  | .columns (some (.table r _)) => some r
  | _ => none

def kind : Node → StatementKind
  | .select _ | .combined true _ => .select
  | .create _ _ => .create
  | .drop _ _ => .drop
  | .insert => .insert
  | .delete => .delete
  | .statement k => k
  | _ => .unknown

end Node

end DryRun.Grammar
