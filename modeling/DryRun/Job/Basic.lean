import DryRun.Text.Basic

/-!
# Jobs

A job is a list of statements as they were split from a script, and three lists of statements with a
declared type: definitions, transforms and the rest.
-/

namespace DryRun

/-- The declared type of a statement. -/
inductive StatementType where
  | create
  | drop
  | alter
  | insert
  | select
  | withClause
  | use
  | set
  | reset
  | showObjects
  | desc
  | describe
  | explain
  | load
  | unload
  | execute
  | add
  | addJar
  | addFile
  | print
  | ctas
  | unknown
deriving DecidableEq, Repr

namespace StatementType

def all : List StatementType :=
  [.create, .drop, .alter, .insert, .select, .withClause, .use, .set, .reset, .showObjects, .desc,
   .describe, .explain, .load, .unload, .execute, .add, .addJar, .addFile, .print, .ctas, .unknown]

def label : StatementType → Text
  | .create => "CREATE".toList
  | .drop => "DROP".toList
  | .alter => "ALTER".toList
  | .insert => "INSERT".toList
  | .select => "SELECT".toList
  | .withClause => "WITH".toList
  | .use => "USE".toList
  | .set => "SET".toList
  | .reset => "RESET".toList
  | .showObjects => "SHOW".toList
  | .desc => "DESC".toList
  | .describe => "DESCRIBE".toList
  | .explain => "EXPLAIN".toList
  | .load => "LOAD".toList
  | .unload => "UNLOAD".toList
  | .execute => "EXECUTE".toList
  | .add => "ADD".toList
  | .addJar => "ADD_JAR".toList
  | .addFile => "ADD_FILE".toList
  | .print => "PRINT".toList
  | .ctas => "CTAS".toList
  | .unknown => "UNKNOWN".toList

/-- The type of a name, which has to match exactly. -/
def ofLabel? (label : Text) : Option StatementType := all.find? (·.label == label)

end StatementType

/-- A statement of a job: its text and declared type. -/
structure JobStatement where
  value : Text
  type : StatementType := .unknown
deriving DecidableEq, Repr

/-- The statements of a job. -/
structure Job where
  /-- The script as it was split. -/
  statements : List Text := []
  /-- Definitions of tables and other objects. -/
  ddl : List JobStatement := []
  /-- Transforms, which write to tables. -/
  trans : List JobStatement := []
  /-- Statements to be executed as they are. -/
  execute : List JobStatement := []
deriving DecidableEq, Repr

end DryRun
