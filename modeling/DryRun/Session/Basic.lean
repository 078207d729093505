import DryRun.Job.Json
import DryRun.Reading.Definition
import DryRun.Session.Transform
import DryRun.Settings.Basic

/-!
# Preparing a job for a dry run

A session redirects the INSERT transforms of a job to mock tables and replaces the CREATE TABLE of each
such table by one for its mock; all other statements keep their text and place. `Session.prepare` gives
the prepared job with a report and the records of what happened; `Session.mockInPlace` assigns its lists to
the job that the caller holds. If mocking is off, both leave the job as it is.
-/

namespace DryRun

open Sql

/-- A value and the records that were logged on the way to it. -/
structure Logged (α : Type) where
  value : α
  log : List Log.Record

/-- The run was given up because a definition could not be read. -/
structure MockingError where
  /-- The definition. -/
  statement : Text
  cause : ReadError
deriving DecidableEq, Repr

def MockingError.message (e : MockingError) : Text :=
  "DDL statement could not be parsed: ".toList ++ e.statement

/-! ## Definitions -/

/-- What becomes of a definition. -/
inductive DefinitionOutcome where
  /-- Replaced by the definition of the mock of `table`. -/
  | mocked (statement : JobStatement) (table : Text)
  | kept
  | unparsed (cause : ReadError)
deriving DecidableEq, Repr

/-- Treats one definition: the CREATE TABLE of one of the tables is replaced. -/
def mockDefinition (connector : Text) (tables : List Text) (statement : JobStatement) :
    DefinitionOutcome :=
  match readDefinition statement.value with
  | .error cause => .unparsed cause
  | .ok definition =>
    match definition.table with
    | some table =>
      -- catalog and schema are not compared: a table is known by its last name
      if definition.isCreateTable && tables.contains table.name then
        .mocked ⟨Mock.createTable table.name definition.columns connector, .create⟩ table.name
      else .kept
    | none => .kept

/-- A definition and what becomes of it. -/
structure DefinitionResult where
  given : JobStatement
  outcome : DefinitionOutcome
deriving DecidableEq, Repr

namespace DefinitionResult

/-- The statement that goes into the prepared job. -/
def output (r : DefinitionResult) : JobStatement :=
  match r.outcome with
  | .mocked statement _ => statement
  | _ => r.given

/-- The table whose definition was replaced. -/
def table? (r : DefinitionResult) : Option Text :=
  match r.outcome with
  | .mocked _ table => some table
  | _ => none

/-- The text of the definition if it could not be read. -/
def unparsed? (r : DefinitionResult) : Option Text :=
  match r.outcome with
  | .unparsed _ => some r.given.value
  | _ => none

/-- The error that the definition causes if none is tolerated. -/
def error? (r : DefinitionResult) : Option MockingError :=
  match r.outcome with
  | .unparsed cause => some ⟨r.given.value, cause⟩
  | _ => none

/-- The records about a definition that is kept because it could not be read. -/
def log (r : DefinitionResult) : List Log.Record :=
  match r.outcome with
  | .unparsed cause =>
    readingLog cause ++
      [⟨.warning, .jobs, "DDL parse error, statement kept unchanged: ".toList ++ cause.message,
        some r.given.value⟩]
  | _ => []

end DefinitionResult

/-- Treats all definitions in order. -/
def scanDefinitions (connector : Text) (tables : List Text) (statements : List JobStatement) :
    List DefinitionResult :=
  statements.map fun s => ⟨s, mockDefinition connector tables s⟩

/-! ## Sessions -/

/-- How jobs are prepared. -/
structure Session where
  /-- Whether sinks are mocked. -/
  enabled : Bool
  connector : Text
  policy : FailurePolicy
deriving DecidableEq, Repr

namespace Session

def ofSettings (s : Settings) : Session := ⟨s.mockSink, s.mockConnector, s.ddlParseFailure⟩

/-- The same session with mocking on or off. -/
def mockSink (s : Session) (enabled : Bool) : Session := { s with enabled }

/-- The report on a job whose transforms and definitions were treated. -/
def report (scan : TransformScan) (definitions : List DefinitionResult) : Report :=
  let mocked := definitions.filterMap DefinitionResult.table?
  { enabled := true
    mockedTables := scan.tables
    tablesWithoutDdl := scan.tables.filter (!mocked.contains ·)
    insertsRedirected := scan.redirectedCount
    ddlMocked := mocked.length
    droppedStatements := scan.dropped
    unparsedDdl := definitions.filterMap DefinitionResult.unparsed? }

/-- The records about tables without definition, and about the prepared job. -/
def closingLog (job : Job) (r : Report) : List Log.Record :=
  r.tablesWithoutDdl.map (fun table =>
    ⟨.info, .jobs, "Sink table ".toList ++ table ++
      " has no CREATE TABLE in the job; no mock DDL generated".toList, none⟩) ++
  [⟨.debug, .jobs, "Mock sink succeed: ".toList ++ job.compact, none⟩]

/-- Mocks the sinks of a job. -/
def mock (s : Session) (job : Job) : Logged (Except MockingError (Job × Report)) :=
  let (scan, scanLog) := scanTransforms job.trans
  let definitions := scanDefinitions s.connector scan.tables job.ddl
  -- the first definition that cannot be read; those behind it are not reported
  let aborted := if s.policy == .abort then definitions.findSome? DefinitionResult.error? else none
  match aborted with
  | some e => ⟨.error e, scanLog ++ readingLog e.cause⟩
  | none =>
    let mocked := { job with ddl := definitions.map DefinitionResult.output, trans := scan.statements }
    let report := report scan definitions
    ⟨.ok (mocked, report),
      scanLog ++ definitions.flatMap DefinitionResult.log ++ closingLog mocked report⟩

/-- The prepared job and the report on it; the job itself if mocking is off. -/
def prepare (s : Session) (job : Job) : Logged (Except MockingError (Job × Report)) :=
  if s.enabled then s.mock job else ⟨.ok (job, { enabled := false }), []⟩

/-- Assigns what was prepared to the job that is held, one list after the other. A failure ends this, and
leaves the job as it is by then. -/
def assign (outcome : Except MockingError (Job × Report)) : ExceptT MockingError (StateM Job) Unit := do
  let (prepared, _) ← outcome
  modify fun held => { held with ddl := prepared.ddl }
  modify fun held => { held with trans := prepared.trans }

/-- Mocks the sinks of the job that is held, if mocking is on: whether that fails, and the job that is held
afterwards. -/
def mockInPlace (s : Session) (held : Job) : Logged (Except MockingError Unit × Job) :=
  if s.enabled then
    let outcome := s.mock held
    ⟨(assign outcome.value).run.run held, outcome.log⟩
  else ⟨(.ok (), held), []⟩

end Session

end DryRun
