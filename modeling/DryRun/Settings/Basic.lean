import DryRun.Table.Mock
import DryRun.Text.UpperCase
import DryRun.Validation.Basic

/-!
# Settings

The settings of a dry run, their defaults, and the rules that given values have to meet. The name of a
log level is kept in upper case, the name of a connector without the blanks around it.
-/

namespace DryRun

open Validation

/-- What to do with a definition that cannot be read. -/
inductive FailurePolicy where
  /-- Keep it as it is. -/
  | passThrough
  /-- Give up and leave the job as it was. -/
  | abort
deriving DecidableEq, Repr

def FailurePolicy.label : FailurePolicy → Text
  | .passThrough => "pass_through".toList
  | .abort => "abort".toList

/-- The settings of a dry run. -/
structure Settings where
  debug : Bool := false
  /-- Whether sinks are mocked. -/
  mockSink : Bool := false
  /-- The connector of mock tables. -/
  mockConnector : Text := Mock.defaultConnector
  ddlParseFailure : FailurePolicy := .passThrough
  logLevel : Text := "INFO".toList
  structuredLogging : Bool := false
deriving DecidableEq, Repr

namespace Settings

/-- The names of the settings, in order. -/
def fieldNames : List Text :=
  ["debug".toList, "mock_sink".toList, "mock_connector".toList, "ddl_parse_failure".toList,
   "log_level".toList, "structured_logging".toList]

def levelNames : List Text :=
  ["CRITICAL".toList, "FATAL".toList, "ERROR".toList, "WARN".toList, "WARNING".toList,
   "INFO".toList, "DEBUG".toList, "NOTSET".toList]

/-- A log level in any case. -/
def level (value : Json) : Validated Text :=
  match text value with
  | .error issues => .error issues
  | .ok t =>
    if levelNames.contains (Text.upper t) then .ok (Text.upper t)
    else fail value (.rule ("Unknown log level: ".toList ++ t))

/-- A connector that is not blank. -/
def connector (value : Json) : Validated Text :=
  match text value with
  | .error issues => .error issues
  | .ok t =>
    if Text.isBlankText t then fail value (.rule "mock_connector must not be empty".toList)
    else .ok (Text.strip t)

def policy (value : Json) : Validated FailurePolicy :=
  match value with
  | .string t =>
    if t == FailurePolicy.passThrough.label then .ok .passThrough
    else if t == FailurePolicy.abort.label then .ok .abort
    else fail value .notMember
  | _ => fail value .notMember

/-- Issues for the keys that are no setting, in their order. -/
def unknownKeys (fields : List (Text × Json)) : Validated Unit :=
  match fields.filter fun f => !fieldNames.contains f.1 with
  | [] => .ok ()
  | extra => .error (extra.map fun f => ⟨[.key f.1], .unknownKey, f.2⟩)

/-- The settings from given values; what is not given takes its default. -/
def ofFields (fields : List (Text × Json)) : Validated Settings :=
  let base : Settings := {}
  apply (apply (apply (apply (apply (apply
    ((optional fields "debug" base.debug bool).map
      fun debug sink connector policy level structured (_ : Unit) =>
        (⟨debug, sink, connector, policy, level, structured⟩ : Settings))
    (optional fields "mock_sink" base.mockSink bool))
    (optional fields "mock_connector" base.mockConnector connector))
    (optional fields "ddl_parse_failure" base.ddlParseFailure policy))
    (optional fields "log_level" base.logLevel level))
    (optional fields "structured_logging" base.structuredLogging bool))
    (unknownKeys fields)

end Settings

end DryRun
