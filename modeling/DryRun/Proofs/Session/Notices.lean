import DryRun.Proofs.Job.RoundTrip
import DryRun.Proofs.Session.Correspondence

/-!
# What the log of a prepared job says

Treating one transform records something at `info` or above just if the transform is dropped, and treating one
definition just if it cannot be read; each time it is one record, about that statement. So the records of a
whole run at these levels can be told from its report (`prepare_notices`), in the order in which the transforms,
the definitions and the tables without definition are gone through.
-/

namespace DryRun

open Text Sql

namespace Log

/-- The records at `info` or above. -/
def notable (log : List Record) : List Record := log.filter fun r => Level.info.number ≤ r.level.number

theorem notable_append (a b : List Record) : notable (a ++ b) = notable a ++ notable b :=
  List.filter_append ..

/-- If each step has a notable record just for what it yields, these are the notable records of all steps. -/
theorem notable_flatMap {α : Type} {steps : List α} {log : α → List Record} {yields : α → Option Text}
    {notice : Text → Record} (h : ∀ a ∈ steps, notable (log a) = (yields a).toList.map notice) :
    notable (steps.flatMap log) = (steps.filterMap yields).map notice := by
  induction steps with
  | nil => rfl
  | cons a steps ih =>
    obtain ⟨ha, hsteps⟩ := List.forall_mem_cons.1 h
    rw [List.flatMap_cons, notable_append, ha, ih hsteps, List.filterMap_cons]
    cases yields a <;> rfl

/-- Only the records at `debug` are not notable. -/
theorem filter_level {level : Level} (h : level ≠ .debug) (log : List Record) :
    log.filter (·.level = level) = (notable log).filter (·.level = level) := by
  rw [notable, List.filter_filter]
  refine List.filter_congr fun r _ => ?_
  by_cases hr : r.level = level
  · have hlevel : Level.info.number ≤ level.number := by
      cases level with
      | debug => exact absurd rfl h
      | info | warning | error => decide
    simp [hr, hlevel]
  · simp [hr]

/-- The records of `level` among those that are made of texts, which are all at one level. -/
theorem filter_map_level (notice : Text → Record) {l : Level} (h : ∀ x, (notice x).level = l) (level : Level)
    (xs : List Text) : (xs.map notice).filter (·.level = level) = if l = level then xs.map notice else [] := by
  split
  · refine List.filter_eq_self.2 fun r hr => ?_
    obtain ⟨x, -, rfl⟩ := List.mem_map.1 hr
    simpa [h]
  · refine List.filter_eq_nil_iff.2 fun r hr => ?_
    obtain ⟨x, -, rfl⟩ := List.mem_map.1 hr
    simpa [h]

end Log

open Log

/-! ## Notices -/

/-- The record about a transform that is dropped. -/
def droppedNotice (statement : Text) : Record :=
  ⟨.error, .transforms, "Statement parse error, statement dropped: ".toList ++ statement, some statement⟩

/-- The record about a definition that cannot be read, with the fault in it. -/
def unparsedNotice (statement : Text) : Record :=
  ⟨.warning, .jobs, "DDL parse error, statement kept unchanged: ".toList ++
    match readDefinition statement with
    | .error cause => cause.message
    | .ok _ => [], some statement⟩

/-- The record about a table without definition. -/
def missingNotice (table : Text) : Record :=
  ⟨.info, .jobs, "Sink table ".toList ++ table ++
    " has no CREATE TABLE in the job; no mock DDL generated".toList, none⟩

theorem notable_readingLog (cause : ReadError) : notable (readingLog cause) = [] := by
  cases cause <;> rfl

theorem notable_redirectTransform (st : JobStatement) : notable (redirectTransform st).2 =
    (redirectTransform st).1.dropped?.toList.map droppedNotice := by
  unfold redirectTransform
  split
  · rfl
  · split
    · rfl
    · rfl
    · rw [notable_append, notable_readingLog]
      rfl

theorem notable_scanTransforms (sts : List JobStatement) :
    notable (scanTransforms sts).2 = (scanTransforms sts).1.dropped.map droppedNotice := by
  have hsteps : notable ((sts.map redirectTransform).flatMap (·.2)) =
      ((sts.map redirectTransform).filterMap (·.1.dropped?)).map droppedNotice := by
    refine notable_flatMap fun r hr => ?_
    obtain ⟨st, -, rfl⟩ := List.mem_map.1 hr
    exact notable_redirectTransform st
  rw [scanTransforms, TransformScan.dropped, List.filterMap_map]
  exact hsteps

namespace Session

variable {s : Session} {job : Job}

theorem notable_treated (st : JobStatement) : notable (s.treated job st).log =
    (s.treated job st).unparsed?.toList.map unparsedNotice := by
  rcases s.treated_cases job st with ⟨n, columns, -, -, ho⟩ | ⟨-, ⟨-, ho⟩ | ⟨cause, hr, ho⟩⟩
  · rw [DefinitionResult.log, DefinitionResult.unparsed?, ho]
    rfl
  · rw [DefinitionResult.log, DefinitionResult.unparsed?, ho]
    rfl
  · rw [DefinitionResult.log, DefinitionResult.unparsed?, ho]
    simp only [notable_append, notable_readingLog, Option.toList_some, List.map_cons, unparsedNotice]
    have hread : readDefinition (s.treated job st).given.value = .error cause := hr
    rw [hread]
    rfl

theorem notable_definitions : notable ((s.definitions job).flatMap DefinitionResult.log) =
    ((s.definitions job).filterMap DefinitionResult.unparsed?).map unparsedNotice := by
  refine notable_flatMap fun r hr => ?_
  rw [definitions_eq] at hr
  obtain ⟨st, -, rfl⟩ := List.mem_map.1 hr
  exact notable_treated st

theorem notable_closingLog (prepared : Job) (r : Report) :
    notable (closingLog prepared r) = r.tablesWithoutDdl.map missingNotice := by
  have hinfos : notable (r.tablesWithoutDdl.map missingNotice) = r.tablesWithoutDdl.map missingNotice := by
    refine List.filter_eq_self.2 fun n hn => ?_
    obtain ⟨table, -, rfl⟩ := List.mem_map.1 hn
    rfl
  rw [closingLog, notable_append]
  exact (List.append_nil _).trans hinfos

end Session

/-- The log of a run that gives a job and a report tells of what is in them. -/
structure Account (prepared : Job) (report : Report) (log : List Record) : Prop where
  notices : notable log = report.droppedStatements.map droppedNotice ++
    (report.unparsedDdl.map unparsedNotice ++ report.tablesWithoutDdl.map missingNotice)
  errors : (log.filter (·.level = .error)).map (·.statement) = report.droppedStatements.map some
  warnings : (log.filter (·.level = .warning)).map (·.statement) = report.unparsedDdl.map some
  infos : log.filter (·.level = .info) = report.tablesWithoutDdl.map missingNotice
  last : ∃ payload, log.getLast? = some ⟨.debug, .jobs, "Mock sink succeed: ".toList ++ payload, none⟩ ∧
    Job.ofText payload = .ok prepared

/-- The notices of a log, told apart by their levels. -/
theorem filter_notices {log : List Record} {dropped unparsed tables : List Text}
    (h : notable log = dropped.map droppedNotice ++ (unparsed.map unparsedNotice ++ tables.map missingNotice))
    {level : Level} (hlevel : level ≠ .debug) : log.filter (·.level = level) =
      (if .error = level then dropped.map droppedNotice else []) ++
        ((if .warning = level then unparsed.map unparsedNotice else []) ++
          if .info = level then tables.map missingNotice else []) := by
  rw [filter_level hlevel, h, List.filter_append, List.filter_append,
    filter_map_level droppedNotice (fun _ => rfl), filter_map_level unparsedNotice (fun _ => rfl),
    filter_map_level missingNotice (fun _ => rfl)]

theorem Session.account_mocked {s : Session} {job : Job} (h : s.aborted? job = none) :
    Account (s.mocked job) (s.reportOn job) (s.mock job).log := by
  have hlog : (s.mock job).log = (scanTransforms job.trans).2 ++
      ((s.definitions job).flatMap DefinitionResult.log ++ closingLog (s.mocked job) (s.reportOn job)) := by
    rw [mock_eq, h, ← List.append_assoc]
    rfl
  have hnotices : notable (s.mock job).log = (s.reportOn job).droppedStatements.map droppedNotice ++
      ((s.reportOn job).unparsedDdl.map unparsedNotice ++
        (s.reportOn job).tablesWithoutDdl.map missingNotice) := by
    rw [hlog, notable_append, notable_append, notable_scanTransforms, notable_definitions, notable_closingLog]
    rfl
  refine ⟨hnotices, ?_, ?_, ?_, (s.mocked job).compact, ?_, (s.mocked job).ofText_compact⟩
  · rw [filter_notices hnotices (by decide)]
    simp [droppedNotice, Function.comp_def]
  · rw [filter_notices hnotices (by decide)]
    simp [unparsedNotice, Function.comp_def]
  · rw [filter_notices hnotices (by decide)]
    simp
  · rw [hlog, closingLog, ← List.append_assoc, ← List.append_assoc, List.getLast?_concat]

theorem Session.notable_aborted {s : Session} {job : Job} {e : MockingError} (h : s.aborted? job = some e) :
    notable (s.mock job).log = (transforms job).dropped.map droppedNotice := by
  rw [mock_eq, h, notable_append, notable_scanTransforms, notable_readingLog, List.append_nil]
  rfl

/-- A log whose notices are all about dropped transforms has them at one level. -/
theorem level_of_notices {log : List Record} {dropped : List Text} (h : notable log = dropped.map droppedNotice)
    {level : Level} (hdebug : level ≠ .debug) (herror : level ≠ .error) : ∀ r ∈ log, r.level ≠ level := by
  have hnone : log.filter (·.level = level) = [] := by
    rw [filter_level hdebug, h, filter_map_level droppedNotice (fun _ => rfl), if_neg herror.symm]
  intro r hr
  simpa using List.filter_eq_nil_iff.1 hnone r hr

/-- The log of a run and its report tell the same: what is dropped, what cannot be read and what has no definition
is recorded in this order and as it is reported, and nothing else is. The last record holds the prepared job.
The log of a run that is given up tells of no definition and of no table. -/
theorem prepare_notices {s : Session} (hs : s.enabled = true) (job : Job) :
    (∀ prepared report, (s.prepare job).value = .ok (prepared, report) →
      Account prepared report (s.prepare job).log) ∧
    ∀ e, (s.prepare job).value = .error e →
      notable (s.prepare job).log = (Session.transforms job).dropped.map droppedNotice ∧
      ∀ r ∈ (s.prepare job).log, r.level ≠ .info ∧ r.level ≠ .warning := by
  rw [Session.prepare, if_pos hs, Session.mock_value]
  cases habort : s.aborted? job with
  | none =>
    refine ⟨fun prepared report h => ?_, fun e h => by cases h⟩
    cases h
    exact Session.account_mocked habort
  | some e =>
    refine ⟨fun prepared report h => (by cases h), fun _ _ => ?_⟩
    have hnotices := Session.notable_aborted habort
    exact ⟨hnotices, fun r hr => ⟨level_of_notices hnotices (by decide) (by decide) r hr,
      level_of_notices hnotices (by decide) (by decide) r hr⟩⟩

/-- A job with a transform and two definitions that cannot be read, and a sink without definition. -/
def mixedJob : Job where
  statements := []
  ddl := [⟨"CREATE TABLE 'c".toList, .create⟩, ⟨"CREATE TABLE b(i INT)".toList, .create⟩, ⟨")".toList, .create⟩]
  trans := [⟨"INSERT INTO d SELECT".toList, .insert⟩, ⟨"INSERT INTO d (".toList, .insert⟩,
    ⟨"INSERT INTO b SELECT".toList, .insert⟩]
  execute := []

/-- The job is prepared with all that is wrong with it in the log, and given up if no definition may be. -/
theorem prepare_notices_mixed :
    (∃ prepared report, ((⟨true, "k".toList, .passThrough⟩ : Session).prepare mixedJob).value =
        .ok (prepared, report) ∧
      report.droppedStatements = ["INSERT INTO d (".toList] ∧
      report.unparsedDdl = ["CREATE TABLE 'c".toList, ")".toList] ∧ report.tablesWithoutDdl = ["d".toList] ∧
      Account prepared report ((⟨true, "k".toList, .passThrough⟩ : Session).prepare mixedJob).log) ∧
    ∃ e, ((⟨true, "k".toList, .abort⟩ : Session).prepare mixedJob).value = .error e ∧
      ∀ r ∈ ((⟨true, "k".toList, .abort⟩ : Session).prepare mixedJob).log, r.level ≠ .warning := by
  have hkept : ((⟨true, "k".toList, .passThrough⟩ : Session).prepare mixedJob).value = .ok _ := rfl
  have hgiven : ((⟨true, "k".toList, .abort⟩ : Session).prepare mixedJob).value = .error _ := rfl
  refine ⟨⟨_, _, hkept, rfl, rfl, rfl, (prepare_notices rfl mixedJob).1 _ _ hkept⟩, _, hgiven, fun r hr => ?_⟩
  exact (((prepare_notices rfl mixedJob).2 _ hgiven).2 r hr).2

end DryRun
