import DryRun.Job.Basic
import DryRun.Job.Report
import DryRun.Json.Reader
import DryRun.Json.Writer
import DryRun.Validation.Basic

/-!
# Jobs and reports as JSON

Jobs and reports are read leniently (unknown keys are ignored, missing ones take their defaults) and
written with all their fields in a fixed order.
-/

namespace DryRun

open Validation

/-! ## Jobs -/

/-- A declared type by its name. -/
def StatementType.ofJson (input : Json) : Validated StatementType :=
  match input with
  | .string t =>
    match StatementType.ofLabel? t with
    | some type => .ok type
    | none => fail input .notMember
  | _ => fail input .notMember

/-- A statement with its declared type. -/
def JobStatement.ofJson : Json → Validated JobStatement
  | .object fields =>
    apply ((required fields "value" text).map JobStatement.mk)
      (optional fields "type" .unknown StatementType.ofJson)
  | input => fail input .notObject

def Job.ofJson : Json → Validated Job
  | .object fields =>
    let statements := list JobStatement.ofJson
    apply (apply (apply ((optional fields "statements" [] (list text)).map Job.mk)
      (optional fields "ddl" [] statements)) (optional fields "trans" [] statements))
      (optional fields "execute" [] statements)
  | input => fail input .notObject

def Job.ofText (t : Text) : Validated Job :=
  match Json.parse? t with
  | some value => Job.ofJson value
  | none => fail (.string t) .notJson

def JobStatement.toJson (s : JobStatement) : Json :=
  .object [("value".toList, .string s.value), ("type".toList, .string s.type.label)]

def Job.toJson (job : Job) : Json :=
  .object
    [("statements".toList, .texts job.statements),
     ("ddl".toList, .array (job.ddl.map JobStatement.toJson)),
     ("trans".toList, .array (job.trans.map JobStatement.toJson)),
     ("execute".toList, .array (job.execute.map JobStatement.toJson))]

/-- A job on one line. -/
def Job.compact (job : Job) : Text := Json.render .compact job.toJson

/-- A job on indented lines. -/
def Job.pretty (job : Job) : Text := Json.render .pretty job.toJson

/-! ## Reports -/

def Report.ofJson : Json → Validated Report
  | .object fields =>
    let names (key : String) := optional fields key [] (list text)
    apply (apply (apply (apply (apply (apply
      ((optional fields "enabled" true bool).map Report.mk)
      (names "mocked_tables")) (names "tables_without_ddl"))
      (optional fields "inserts_rewritten" 0 int)) (optional fields "ddl_mocked" 0 int))
      (names "dropped_statements")) (names "unparsed_ddl")
  | input => fail input .notObject

def Report.ofText (t : Text) : Validated Report :=
  match Json.parse? t with
  | some value => Report.ofJson value
  | none => fail (.string t) .notJson

def Report.toJson (r : Report) : Json :=
  .object
    [("enabled".toList, .bool r.enabled),
     ("mocked_tables".toList, .texts r.mockedTables),
     ("tables_without_ddl".toList, .texts r.tablesWithoutDdl),
     ("inserts_rewritten".toList, .int r.insertsRedirected),
     ("ddl_mocked".toList, .int r.ddlMocked),
     ("dropped_statements".toList, .texts r.droppedStatements),
     ("unparsed_ddl".toList, .texts r.unparsedDdl)]

end DryRun
