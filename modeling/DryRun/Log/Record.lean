import DryRun.Text.Basic

/-!
# Log records

What the library reports while it works: a level, the name of the part that reports, a message, and the
statement it is about, if there is one.
-/

namespace DryRun.Log

/-- The severity of a record. -/
inductive Level where
  | debug
  | info
  | warning
  | error
deriving DecidableEq, Repr

def Level.label : Level → Text
  | .debug => "DEBUG".toList
  | .info => "INFO".toList
  | .warning => "WARNING".toList
  | .error => "ERROR".toList

def Level.number : Level → Int
  | .debug => 10
  | .info => 20
  | .warning => 30
  | .error => 40

/-- The parts of the library that report. -/
inductive Source where
  /-- Reading statements. -/
  | reading
  /-- Redirecting transforms. -/
  | transforms
  /-- Preparing jobs. -/
  | jobs
  | settings
deriving DecidableEq, Repr

/-- The name under which a part reports. -/
def Source.label : Source → Text
  | .reading => "mock_engine.sql_toolkit.impl.sqlglot_impl".toList
  | .transforms => "mock_engine.mocking.insert_scanner".toList
  | .jobs => "mock_engine.mocking.explainer".toList
  | .settings => "mock_engine.config".toList

/-- A report of something that happened. -/
structure Record where
  level : Level
  source : Source
  message : Text
  statement : Option Text := none
deriving DecidableEq, Repr

end DryRun.Log
