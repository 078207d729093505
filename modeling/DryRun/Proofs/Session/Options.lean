import DryRun.Proofs.Reading.Tail
import DryRun.Proofs.Session.Prepare

/-!
# The options of a sink

What stands behind the columns of a CREATE TABLE says where a table is kept: its connector and options. A
mock has none of it. `SameButTail` relates definitions of mocked tables that differ there; in all that is
done with a definition they have the same effect (`SameButTail.effect`), and so have whole jobs
(`prepare_ignores_tails`).
-/

namespace DryRun

open Text Sql

/-- All that a prepared job, its report and its log hold of a definition. -/
def DefinitionResult.effect (r : DefinitionResult) :
    JobStatement × Option Text × Option Text × Option MockingError × List Log.Record :=
  (r.output, r.table?, r.unparsed?, r.error?, r.log)

namespace Session

variable {s : Session} {job : Job}

/-- Preparing a job depends on the effects of its definitions only. -/
theorem mock_congr {ddl : List JobStatement}
    (h : (s.definitions { job with ddl }).map DefinitionResult.effect =
      (s.definitions job).map DefinitionResult.effect) : s.mock { job with ddl } = s.mock job := by
  have haborted : s.aborted? { job with ddl } = s.aborted? job := by
    have herror := congrArg (List.findSome? (·.2.2.2.1)) h
    rw [List.findSome?_map, List.findSome?_map] at herror
    exact congrArg (fun e => if s.policy == .abort then e else none) herror
  have hmocked : s.mocked { job with ddl } = s.mocked job := by
    have houtput := congrArg (List.map (·.1)) h
    rw [List.map_map, List.map_map] at houtput
    exact congrArg (fun ddl => { s.mocked job with ddl }) houtput
  have hreport : report (transforms { job with ddl }) (s.definitions { job with ddl }) =
      report (transforms job) (s.definitions job) := by
    have htable := congrArg (List.filterMap (·.2.1)) h
    have hunparsed := congrArg (List.filterMap (·.2.2.1)) h
    rw [List.filterMap_map, List.filterMap_map] at htable hunparsed
    exact congrArg₂ (fun mocked unparsed =>
      { report (transforms job) (s.definitions job) with
        tablesWithoutDdl := (transforms job).tables.filter (!mocked.contains ·)
        ddlMocked := mocked.length
        unparsedDdl := unparsed }) htable hunparsed
  have hlog := congrArg (List.flatMap (·.2.2.2.2)) h
  rw [List.flatMap_map, List.flatMap_map] at hlog
  rw [mock_eq, mock_eq, haborted, hmocked, hreport]
  cases s.aborted? job with
  | some e => rfl
  | none => exact congrArg (fun log => Logged.mk _ (_ ++ log ++ _)) hlog

end Session

/-- Definitions that are the same, or that create a table that is mocked and differ in what stands behind
its columns only. -/
inductive SameButTail (connector : Text) (tables : List Text) : JobStatement → JobStatement → Prop
  | same {st : JobStatement} : SameButTail connector tables st st
  | tail {p s s' : Text} {type : StatementType} {mock : JobStatement} {table : Text} :
      columnsEnd? (p ++ s) = some p.length → (∃ st, readStatement (p ++ s') = .ok st) →
      mockDefinition connector tables ⟨p ++ s, type⟩ = .mocked mock table →
      SameButTail connector tables ⟨p ++ s, type⟩ ⟨p ++ s', type⟩

/-- What stands behind the columns of a mocked table has no effect. -/
theorem SameButTail.effect {connector : Text} {tables : List Text} {st st' : JobStatement}
    (h : SameButTail connector tables st st') :
    (⟨st', mockDefinition connector tables st'⟩ : DefinitionResult).effect =
      (⟨st, mockDefinition connector tables st⟩ : DefinitionResult).effect := by
  cases h with
  | same => rfl
  | @tail p s s' type mock table hend hst hmock =>
    obtain ⟨st, hst⟩ := hst
    obtain ⟨ref, columns, hread, hread'⟩ := readDefinition_tail hend hst
    have hsame : mockDefinition connector tables ⟨p ++ s', type⟩ = .mocked mock table := by
      rw [← hmock, mockDefinition, mockDefinition, hread, hread']
    rw [hsame, hmock]
    rfl

theorem scanDefinitions_effect {connector : Text} {tables : List Text} {ddl ddl' : List JobStatement}
    (h : List.Forall₂ (SameButTail connector tables) ddl ddl') :
    (scanDefinitions connector tables ddl').map DefinitionResult.effect =
      (scanDefinitions connector tables ddl).map DefinitionResult.effect := by
  rw [scanDefinitions, scanDefinitions, List.map_map, List.map_map]
  induction h with
  | nil => rfl
  | cons h _ ih =>
    rw [List.map_cons, List.map_cons, ih]
    exact congrArg (· :: _) h.effect

/-- What stands behind the columns of a CREATE TABLE does not matter to what it defines, and jobs that differ
there in mocked tables only are prepared alike. -/
theorem prepare_ignores_tails :
    (∀ (p s s' : Text) (st : Statement), columnsEnd? (p ++ s) = some p.length →
      readStatement (p ++ s') = .ok st →
      ∃ d, readDefinition (p ++ s) = .ok d ∧ readDefinition (p ++ s') = .ok d) ∧
    ∀ (s : Session) (job : Job) (ddl : List JobStatement), s.enabled = true →
      List.Forall₂ (SameButTail s.connector (Session.transforms job).tables) job.ddl ddl →
      s.prepare { job with ddl } = s.prepare job := by
  constructor
  · intro p s s' st hend hst
    obtain ⟨table, columns, hread, hread'⟩ := readDefinition_tail hend hst
    exact ⟨_, hread, hread'⟩
  · intro s job ddl hs hddl
    rw [Session.prepare, Session.prepare, if_pos hs, if_pos hs]
    exact Session.mock_congr (scanDefinitions_effect hddl)

/-- A definition up to the end of its columns. -/
def ordersHead : Text := "CREATE TABLE a.orders (id INT, -- )\n k STRING(3))".toList

/-- A job that writes to a table it defines, with `tail` behind the columns. -/
def ordersJob (tail : Text) : Job where
  statements := []
  ddl := [⟨ordersHead ++ tail, .create⟩]
  trans := [⟨"INSERT INTO orders SELECT 1".toList, .insert⟩]
  execute := []

/-- Options and partitions of a mocked table are left out alike. -/
theorem prepare_ignores_tails_orders :
    (∃ d, d.isCreateTable = true ∧
      readDefinition (ordersHead ++ " WITH (\x27a\x27=\x27b\x27)".toList) = .ok d ∧
      readDefinition (ordersHead ++ "PARTITIONED BY (k) /* ( */;".toList) = .ok d) ∧
    (⟨true, Mock.defaultConnector, .abort⟩ : Session).prepare
        (ordersJob "PARTITIONED BY (k) /* ( */;".toList) =
      (⟨true, Mock.defaultConnector, .abort⟩ : Session).prepare
        (ordersJob " WITH (\x27a\x27=\x27b\x27)".toList) := by
  have hend : columnsEnd? (ordersHead ++ " WITH (\x27a\x27=\x27b\x27)".toList) = some ordersHead.length := by
    decide +kernel
  have hst : readStatement (ordersHead ++ "PARTITIONED BY (k) /* ( */;".toList) = .ok _ := rfl
  constructor
  · obtain ⟨d, hd, hd'⟩ := prepare_ignores_tails.1 _ _ _ _ hend hst
    refine ⟨d, ?_, hd, hd'⟩
    have hread : readDefinition (ordersHead ++ " WITH (\x27a\x27=\x27b\x27)".toList) = .ok _ := rfl
    rw [hread] at hd
    cases hd
    decide
  · exact prepare_ignores_tails.2 _ (ordersJob " WITH (\x27a\x27=\x27b\x27)".toList) _ rfl
      (.cons (.tail hend ⟨_, hst⟩ rfl) .nil)

end DryRun
