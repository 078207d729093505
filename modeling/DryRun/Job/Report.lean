import DryRun.Text.Basic

/-!
# Reports

What a dry run changed in a job.
-/

namespace DryRun

/-- The outcome of preparing a job for a dry run. -/
structure Report where
  /-- Whether sinks were mocked at all. -/
  enabled : Bool := true
  /-- The tables that transforms no longer write to. -/
  mockedTables : List Text := []
  /-- Those of them that the job does not define. -/
  tablesWithoutDdl : List Text := []
  insertsRedirected : Int := 0
  ddlMocked : Int := 0
  /-- Transforms that could not be read and were removed. -/
  droppedStatements : List Text := []
  /-- Definitions that could not be read and were kept. -/
  unparsedDdl : List Text := []
deriving DecidableEq, Repr

/-- Whether anything was left undone. -/
def Report.hasWarnings (r : Report) : Bool :=
  !(r.tablesWithoutDdl.isEmpty && r.droppedStatements.isEmpty && r.unparsedDdl.isEmpty)

end DryRun
