import DryRun.Table.Ref

/-!
# Mock tables

Every sink table has a mock of its own in a fixed catalog and schema. Transforms and definitions use
the same name for it, so that they meet.
-/

namespace DryRun.Mock

def catalog : Text := "default_catalog".toList

def schema : Text := "default_database".toList

/-- What stands before the name of the sink. -/
def mark : Text := "mock_sink_".toList

/-- The connector of a table that takes rows and keeps none. -/
def defaultConnector : Text := "dinky-mock".toList

/-- The mock of the table with the given plain name. -/
def ref (table : Text) : TableRef := ⟨some catalog, some schema, mark ++ table⟩

/-- The dotted name of a mock. -/
def name (table : Text) : Text := (ref table).qualified

/-- The statement that creates a mock with the given columns and connector. -/
def createTable (table columns connector : Text) : Text :=
  "CREATE TABLE ".toList ++ name table ++ " (".toList ++ columns ++
    ") WITH (\x27connector\x27=\x27".toList ++ connector ++ "\x27)".toList

def dropTable (table : Text) : Text := "DROP TABLE IF EXISTS ".toList ++ name table

end DryRun.Mock
