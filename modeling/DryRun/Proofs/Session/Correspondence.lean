import DryRun.Proofs.Session.Prepare

/-!
# A prepared job and its report

What a report says of a job, in terms of the job alone. `sinkNames` are the tables its INSERTs write to and
`definedTable?` is the table a definition creates. `mockDefinition_eq` says from these what becomes of a
definition, and each list of the report is read off it; `prepare_corresponds` puts them together.
-/

namespace DryRun

open Text Sql

/-! ## Names in order -/

/-- The order of texts by code points. -/
def Text.Precedes (a b : Text) : Prop := List.Lex (fun c d : Char => c.toNat < d.toNat) a b

theorem Text.Precedes.trans {a b c : Text} (hab : Precedes a b) (hbc : Precedes b c) : Precedes a c := by
  induction hab generalizing c with
  | nil => cases hbc <;> exact .nil
  | rel h =>
    cases hbc with
    | rel h' => exact .rel (Nat.lt_trans h h')
    | cons _ => exact .rel h
  | cons _ ih =>
    cases hbc with
    | rel h => exact .rel h
    | cons h => exact .cons (ih h)

/-- Of two texts that differ, one precedes the other, as `before` says. -/
theorem Text.precedes_of_before {a b : Text} (hne : a ≠ b) :
    if before a b then Precedes a b else Precedes b a := by
  induction a generalizing b with
  | nil =>
    cases b with
    | nil => exact absurd rfl hne
    | cons d b => exact .nil
  | cons c a ih =>
    cases b with
    | nil => exact .nil
    | cons d b =>
      by_cases hcd : c = d
      · subst hcd
        have hstep : before (c :: a) (c :: b) = before a b := by simp [before]
        have ih := ih fun h => hne (by rw [h])
        rw [hstep]
        cases hb : before a b with
        | true =>
          rw [hb] at ih
          exact .cons ih
        | false =>
          rw [hb] at ih
          exact .cons ih
      · have hstep : before (c :: a) (d :: b) = decide (c < d) := by simp [before, hcd]
        rw [hstep]
        by_cases hlt : c < d
        · rw [decide_eq_true hlt]
          exact .rel hlt
        · rw [decide_eq_false hlt]
          have hge : d.toNat ≤ c.toNat := Nat.not_lt.1 hlt
          exact .rel (Nat.lt_of_le_of_ne hge fun h => hcd (Char.toNat_inj.1 h).symm)

theorem mem_insertSorted {a n : Text} {l : List Text} : a ∈ insertSorted n l ↔ a = n ∨ a ∈ l := by
  induction l with
  | nil => simp [insertSorted]
  | cons m l ih =>
    rw [insertSorted]
    split
    · rename_i hn
      rw [eq_of_beq hn, List.mem_cons]
      simp
    · split
      · exact List.mem_cons
      · rw [List.mem_cons, ih, List.mem_cons]
        exact or_left_comm

theorem pairwise_insertSorted {n : Text} {l : List Text} (h : l.Pairwise Precedes) :
    (insertSorted n l).Pairwise Precedes := by
  induction l with
  | nil => simp [insertSorted]
  | cons m l ih =>
    rw [List.pairwise_cons] at h
    rw [insertSorted]
    split
    · exact List.pairwise_cons.2 h
    · rename_i hne
      have hne : n ≠ m := by simpa using hne
      have horder := precedes_of_before hne
      split
      · rename_i hlt
        rw [if_pos hlt] at horder
        refine List.pairwise_cons.2 ⟨fun a ha => ?_, List.pairwise_cons.2 h⟩
        rcases List.mem_cons.1 ha with rfl | ha
        · exact horder
        · exact horder.trans (h.1 a ha)
      · rename_i hlt
        rw [if_neg hlt] at horder
        refine List.pairwise_cons.2 ⟨fun a ha => ?_, ih h.2⟩
        rcases mem_insertSorted.1 ha with rfl | ha
        · exact horder
        · exact h.1 a ha

theorem mem_sortedNames {a : Text} {names : List Text} : a ∈ sortedNames names ↔ a ∈ names := by
  induction names with
  | nil => simp [sortedNames]
  | cons n names ih =>
    have hcons : sortedNames (n :: names) = insertSorted n (sortedNames names) := rfl
    rw [hcons, mem_insertSorted, ih, List.mem_cons]

theorem pairwise_sortedNames (names : List Text) : (sortedNames names).Pairwise Precedes := by
  induction names with
  | nil => exact .nil
  | cons n names ih => exact pairwise_insertSorted ih

/-! ## The tables of a job -/

/-- The plain name of the table that an INSERT transform writes to. -/
def sinkName? (st : JobStatement) : Option Text :=
  if st.type == .insert then (readInsert st.value).toOption.map (·.target.name) else none

/-- The plain names of the tables that the INSERT transforms of a job write to. -/
def Job.sinkNames (job : Job) : List Text := job.trans.filterMap sinkName?

/-- The plain name and the columns of the table that a definition creates with columns. -/
def definedTable? (st : JobStatement) : Option (Text × Text) := do
  let d ← (readDefinition st.value).toOption
  let table ← d.table
  if d.isCreateTable then some (table.name, d.columns) else none

theorem sinkName?_eq_some {st : JobStatement} {n : Text} : sinkName? st = some n ↔
    st.type = .insert ∧ ∃ i, readInsert st.value = .ok i ∧ i.target.name = n := by
  unfold sinkName?
  by_cases ht : st.type = .insert
  · cases readInsert st.value <;> simp [ht, Except.toOption]
  · simp [ht]

theorem definedTable?_eq_some {st : JobStatement} {p : Text × Text} : definedTable? st = some p ↔
    ∃ d, readDefinition st.value = .ok d ∧ d.isCreateTable = true ∧ d.columns = p.2 ∧
      ∃ table, d.table = some table ∧ table.name = p.1 := by
  unfold definedTable?
  cases readDefinition st.value with
  | error cause => simp [Except.toOption]
  | ok d =>
    cases ht : d.table with
    | none => simp [Except.toOption, ht]
    | some table =>
      cases hd : d.isCreateTable with
      | false => simp [Except.toOption, ht, hd]
      | true => simp [Except.toOption, ht, hd, Prod.ext_iff, and_comm]

theorem table?_redirectTransform (st : JobStatement) : (redirectTransform st).1.table? = sinkName? st := by
  rw [redirectTransform, sinkName?]
  by_cases ht : st.type = .insert
  · simp only [ht, bne_self_eq_false, Bool.false_eq_true, if_false, beq_self_eq_true, if_true]
    cases readInsert st.value with
    | ok i => rfl
    | error e => cases e <;> rfl
  · simp [ht, TransformResult.table?]

namespace Session

theorem tables_transforms (job : Job) : (transforms job).tables = sortedNames job.sinkNames := by
  have htable : (transforms job).results.filterMap TransformResult.table? = job.sinkNames := by
    simp only [transforms, scanTransforms, List.filterMap_map, Job.sinkNames]
    congr 1
    funext st
    exact table?_redirectTransform st
  rw [TransformScan.tables, htable]

theorem mem_tables {job : Job} {t : Text} : t ∈ (transforms job).tables ↔ t ∈ job.sinkNames := by
  rw [tables_transforms, mem_sortedNames]

end Session

/-! ## What becomes of a definition -/

/-- The CREATE TABLE of one of the tables is replaced, and other definitions are kept. -/
theorem mockDefinition_eq (connector : Text) (tables : List Text) (st : JobStatement) :
    mockDefinition connector tables st =
      match definedTable? st with
      | some (n, columns) =>
        if n ∈ tables then .mocked ⟨Mock.createTable n columns connector, .create⟩ n else .kept
      | none =>
        match readDefinition st.value with
        | .error cause => .unparsed cause
        | .ok _ => .kept := by
  rw [mockDefinition, definedTable?]
  cases readDefinition st.value with
  | error cause => rfl
  | ok d =>
    cases ht : d.table with
    | none => simp [Except.toOption, ht]
    | some table =>
      cases hd : d.isCreateTable with
      | false => simp [Except.toOption, ht, hd]
      | true => simp [Except.toOption, ht, hd]

theorem read_of_definedTable {st : JobStatement} {p : Text × Text} (h : definedTable? st = some p) :
    ∃ d, readDefinition st.value = .ok d := by
  obtain ⟨d, hd, -⟩ := definedTable?_eq_some.1 h
  exact ⟨d, hd⟩

section Definitions

variable {s : Session} {job : Job}

namespace Session

/-- A definition of the job and what becomes of it. -/
def treated (s : Session) (job : Job) (st : JobStatement) : DefinitionResult :=
  ⟨st, mockDefinition s.connector (transforms job).tables st⟩

theorem definitions_eq : s.definitions job = job.ddl.map (s.treated job) := rfl

theorem treated_cases (s : Session) (job : Job) (st : JobStatement) :
    (∃ n columns, definedTable? st = some (n, columns) ∧ n ∈ job.sinkNames ∧
      (s.treated job st).outcome = .mocked ⟨Mock.createTable n columns s.connector, .create⟩ n) ∨
    ((∀ n columns, definedTable? st = some (n, columns) → n ∉ job.sinkNames) ∧
      ((∃ d, readDefinition st.value = .ok d) ∧ (s.treated job st).outcome = .kept ∨
        ∃ cause, readDefinition st.value = .error cause ∧ (s.treated job st).outcome = .unparsed cause)) := by
  have htreated : (s.treated job st).outcome = mockDefinition s.connector (transforms job).tables st := rfl
  rw [htreated, mockDefinition_eq]
  cases hd : definedTable? st with
  | some p =>
    obtain ⟨n, columns⟩ := p
    have hread := read_of_definedTable hd
    by_cases hn : n ∈ job.sinkNames
    · exact .inl ⟨n, columns, rfl, hn, if_pos (mem_tables.2 hn)⟩
    · refine .inr ⟨fun n' columns' h => ?_, .inl ⟨hread, if_neg fun h => hn (mem_tables.1 h)⟩⟩
      cases h
      exact hn
  | none =>
    refine .inr ⟨fun n columns h => (by cases h), ?_⟩
    cases readDefinition st.value with
    | error cause => exact .inr ⟨cause, rfl, rfl⟩
    | ok d => exact .inl ⟨⟨d, rfl⟩, rfl⟩

theorem output_of_mocked {st : JobStatement} {n columns : Text} (h : definedTable? st = some (n, columns))
    (hn : n ∈ job.sinkNames) :
    (s.treated job st).output = ⟨Mock.createTable n columns s.connector, .create⟩ := by
  rcases s.treated_cases job st with ⟨n', columns', h', -, ho⟩ | ⟨hnot, -⟩
  · rw [h] at h'
    cases h'
    rw [DefinitionResult.output, ho]
  · exact absurd hn (hnot n columns h)

theorem output_of_kept {st : JobStatement}
    (h : ∀ n columns, definedTable? st = some (n, columns) → n ∉ job.sinkNames) :
    (s.treated job st).output = st := by
  rcases s.treated_cases job st with ⟨n, columns, hd, hn, -⟩ | ⟨-, ⟨-, ho⟩ | ⟨cause, -, ho⟩⟩
  · exact absurd hn (h n columns hd)
  · rw [DefinitionResult.output, ho]
    rfl
  · rw [DefinitionResult.output, ho]
    rfl

/-- The table whose definition is replaced is a sink that the definition creates. -/
theorem table?_treated (st : JobStatement) :
    (s.treated job st).table? = ((definedTable? st).map (·.1)).filter (· ∈ job.sinkNames) := by
  rcases s.treated_cases job st with ⟨n, columns, hd, hn, ho⟩ | ⟨hnot, hkept⟩
  · rw [DefinitionResult.table?, ho, hd]
    simp [Option.filter, hn]
  · have htable : (s.treated job st).table? = none := by
      rcases hkept with ⟨-, ho⟩ | ⟨cause, -, ho⟩ <;> rw [DefinitionResult.table?, ho]
    rw [htable]
    cases hd : definedTable? st with
    | none => rfl
    | some p => simp [Option.filter, hnot p.1 p.2 hd]

/-- The text of a definition is reported as unparsed if it cannot be read. -/
theorem unparsed?_treated (st : JobStatement) :
    (s.treated job st).unparsed? = if (readDefinition st.value).isOk then none else some st.value := by
  rcases s.treated_cases job st with ⟨n, columns, hd, -, ho⟩ | ⟨-, ⟨⟨d, hr⟩, ho⟩ | ⟨cause, hr, ho⟩⟩
  · obtain ⟨d, hr⟩ := read_of_definedTable hd
    rw [DefinitionResult.unparsed?, ho, hr]
    rfl
  · rw [DefinitionResult.unparsed?, ho, hr]
    rfl
  · rw [DefinitionResult.unparsed?, ho, hr]
    rfl

/-- A definition causes an error if it cannot be read. -/
theorem error?_treated (st : JobStatement) :
    (s.treated job st).error? = match readDefinition st.value with
      | .error cause => some ⟨st.value, cause⟩
      | .ok _ => none := by
  rcases s.treated_cases job st with ⟨n, columns, hd, -, ho⟩ | ⟨-, ⟨⟨d, hr⟩, ho⟩ | ⟨cause, hr, ho⟩⟩
  · obtain ⟨d, hr⟩ := read_of_definedTable hd
    rw [DefinitionResult.error?, ho, hr]
  · rw [DefinitionResult.error?, ho, hr]
  · rw [DefinitionResult.error?, ho, hr]
    rfl

theorem mem_replaced {t : Text} : t ∈ (s.definitions job).filterMap DefinitionResult.table? ↔
    t ∈ job.sinkNames ∧ ∃ st ∈ job.ddl, ∃ columns, definedTable? st = some (t, columns) := by
  rw [definitions_eq, List.filterMap_map, List.mem_filterMap]
  simp only [Function.comp_apply, table?_treated, Option.filter_eq_some_iff, Option.map_eq_some_iff,
    decide_eq_true_eq]
  constructor
  · rintro ⟨st, hst, ⟨⟨n, columns⟩, hd, rfl⟩, hn⟩
    exact ⟨hn, st, hst, columns, hd⟩
  · rintro ⟨hn, st, hst, columns, hd⟩
    exact ⟨st, hst, ⟨_, hd, rfl⟩, hn⟩

theorem length_replaced : ((s.definitions job).filterMap DefinitionResult.table?).length =
    job.ddl.countP fun st => (definedTable? st).any (·.1 ∈ job.sinkNames) := by
  rw [definitions_eq, List.filterMap_map, List.length_filterMap_eq_countP]
  refine List.countP_congr fun st _ => ?_
  rw [Function.comp_apply, table?_treated]
  cases definedTable? st with
  | none => simp
  | some p => by_cases hn : p.1 ∈ job.sinkNames <;> simp [Option.filter, hn]

theorem unparsed_eq : (s.definitions job).filterMap DefinitionResult.unparsed? =
    (job.ddl.filter fun st => !(readDefinition st.value).isOk).map (·.value) := by
  rw [definitions_eq, List.filterMap_map]
  induction job.ddl with
  | nil => rfl
  | cons st ddl ih =>
    rw [List.filterMap_cons, Function.comp_apply, unparsed?_treated]
    cases hr : (readDefinition st.value).isOk with
    | true =>
      rw [List.filter_cons_of_neg (by simp [hr])]
      exact ih
    | false =>
      rw [List.filter_cons_of_pos (by simp [hr]), List.map_cons]
      exact congrArg (st.value :: ·) ih

/-- If no transform is reported as dropped, each INSERT could be read as some statement and all transforms
are there. -/
theorem no_dropped (h : (transforms job).dropped = []) :
    (transforms job).statements.length = job.trans.length ∧
      ∀ st ∈ job.trans, st.type = .insert → ∀ cause, readInsert st.value ≠ .error (.unreadable cause) := by
  have hnone : ∀ st ∈ job.trans, (redirectTransform st).1.dropped? = none := by
    simp only [transforms, scanTransforms, TransformScan.dropped, List.filterMap_map,
      List.filterMap_eq_nil_iff, Function.comp_apply] at h
    exact h
  constructor
  · simp only [transforms, scanTransforms, TransformScan.statements, List.filterMap_map,
      List.length_filterMap_eq_countP]
    rw [List.countP_eq_length]
    intro st hst
    have hst := hnone st hst
    simp only [Function.comp_apply, TransformResult.output?]
    cases ho : (redirectTransform st).1.outcome with
    | redirected statement table => rfl
    | kept => rfl
    | dropped cause => simp [TransformResult.dropped?, ho] at hst
  · intro st hst ht cause hr
    have hst := hnone st hst
    simp [redirectTransform, ht, hr, TransformResult.dropped?] at hst

end Session

end Definitions

/-- How a prepared job and its report answer to the job. -/
structure Correspondence (s : Session) (job prepared : Job) (report : Report) : Prop where
  length_ddl : prepared.ddl.length = job.ddl.length
  /-- The CREATE TABLE of a sink is replaced by that of its mock. -/
  replaced : ∀ (k : Nat) (st : JobStatement) (n columns : Text), job.ddl[k]? = some st →
    definedTable? st = some (n, columns) → n ∈ job.sinkNames →
    prepared.ddl[k]? = some ⟨Mock.createTable n columns s.connector, .create⟩
  /-- All other definitions stay. -/
  kept : ∀ (k : Nat) (st : JobStatement), job.ddl[k]? = some st →
    (∀ n columns, definedTable? st = some (n, columns) → n ∉ job.sinkNames) → prepared.ddl[k]? = some st
  mockedTables_increasing : report.mockedTables.Pairwise Precedes
  mem_mockedTables : ∀ t, t ∈ report.mockedTables ↔ t ∈ job.sinkNames
  tablesWithoutDdl_increasing : report.tablesWithoutDdl.Pairwise Precedes
  mem_tablesWithoutDdl : ∀ t, t ∈ report.tablesWithoutDdl ↔
    t ∈ job.sinkNames ∧ ∀ st ∈ job.ddl, ∀ columns, definedTable? st ≠ some (t, columns)
  ddlMocked : report.ddlMocked = job.ddl.countP fun st => (definedTable? st).any (·.1 ∈ job.sinkNames)
  unparsedDdl : report.unparsedDdl = (job.ddl.filter fun st => !(readDefinition st.value).isOk).map (·.value)

theorem correspondence_mocked (s : Session) (job : Job) :
    Correspondence s job (s.mocked job) (Session.report (Session.transforms job) (s.definitions job)) where
  length_ddl := by simp [Session.mocked, Session.definitions_eq]
  replaced := by
    intro k st n columns hk hd hn
    simp [Session.mocked, Session.definitions_eq, hk, Session.output_of_mocked hd hn]
  kept := by
    intro k st hk h
    simp [Session.mocked, Session.definitions_eq, hk, Session.output_of_kept h]
  mockedTables_increasing := by
    simp only [Session.report, Session.tables_transforms]
    exact pairwise_sortedNames _
  mem_mockedTables t := Session.mem_tables
  tablesWithoutDdl_increasing := by
    simp only [Session.report, Session.tables_transforms]
    exact (pairwise_sortedNames _).filter _
  mem_tablesWithoutDdl := by
    intro t
    simp only [Session.report, List.mem_filter, Session.mem_tables, Bool.not_eq_true',
      List.contains_eq_mem, decide_eq_false_iff_not, Session.mem_replaced, not_and, not_exists]
    exact and_congr_right fun ht => ⟨fun h => h ht, fun h _ => h⟩
  ddlMocked := by rw [Session.report, Session.length_replaced]
  unparsedDdl := Session.unparsed_eq

/-- A prepared job and its report answer to the job. If the report has no warnings, every sink has the
CREATE TABLE of its mock, no transform is missing and every definition was read. -/
theorem prepare_corresponds {s : Session} {job prepared : Job} {report : Report} (hs : s.enabled = true)
    (h : (s.prepare job).value = .ok (prepared, report)) :
    Correspondence s job prepared report ∧
    (report.hasWarnings = false →
      (∀ t ∈ job.sinkNames, ∃ columns, ⟨Mock.createTable t columns s.connector, .create⟩ ∈ prepared.ddl) ∧
      prepared.trans.length = job.trans.length ∧
      (∀ st ∈ job.trans, st.type = .insert → ∀ cause, readInsert st.value ≠ .error (.unreadable cause)) ∧
      ∀ st ∈ job.ddl, ∃ d, readDefinition st.value = .ok d) := by
  obtain ⟨rfl, rfl⟩ := Session.prepare_eq_ok hs h
  have hc := correspondence_mocked s job
  refine ⟨hc, fun hw => ?_⟩
  simp only [Report.hasWarnings, Bool.not_eq_false', Bool.and_eq_true, List.isEmpty_iff] at hw
  obtain ⟨⟨htables, hdropped⟩, hunparsed⟩ := hw
  refine ⟨fun t ht => ?_, (Session.no_dropped hdropped).1, (Session.no_dropped hdropped).2, fun st hst => ?_⟩
  · have hreplaced : t ∈ (s.definitions job).filterMap DefinitionResult.table? :=
      Decidable.byContradiction fun hnot => by
        have hwithout := (hc.mem_tablesWithoutDdl t).2 ⟨ht, fun st hst columns hd =>
          hnot (Session.mem_replaced.2 ⟨ht, st, hst, columns, hd⟩)⟩
        rw [htables] at hwithout
        cases hwithout
    obtain ⟨-, st, hst, columns, hd⟩ := Session.mem_replaced.1 hreplaced
    obtain ⟨k, hk⟩ := List.getElem?_of_mem hst
    exact ⟨columns, List.mem_of_getElem? (hc.replaced k st t columns hk hd ht)⟩
  · rw [hc.unparsedDdl, List.map_eq_nil_iff, List.filter_eq_nil_iff] at hunparsed
    have hread := hunparsed st hst
    cases hr : readDefinition st.value with
    | error e => exact absurd rfl (hr ▸ hread)
    | ok d => exact ⟨d, rfl⟩

/-- A job that defines one of its sinks twice, and a table that is no sink. -/
def twiceJob : Job where
  statements := []
  ddl := [⟨"CREATE TABLE b(i INT)".toList, .create⟩, ⟨"CREATE TABLE c(i INT)".toList, .unknown⟩,
    ⟨"CREATE TABLE x.b(k INT) AS".toList, .ctas⟩]
  trans := [⟨"INSERT INTO y.b SELECT".toList, .insert⟩, ⟨"INSERT INTO c".toList, .select⟩,
    ⟨"INSERT INTO b(i) WITH".toList, .insert⟩]
  execute := []

/-- Both definitions of the sink are replaced, under the name that both transforms have for it. -/
theorem prepare_corresponds_twice : ∃ prepared report,
    ((⟨true, "k".toList, .abort⟩ : Session).prepare twiceJob).value = .ok (prepared, report) ∧
    report.hasWarnings = false ∧ report.mockedTables = ["b".toList] ∧ report.ddlMocked = 2 ∧
    Correspondence ⟨true, "k".toList, .abort⟩ twiceJob prepared report ∧
    (∃ columns, ⟨Mock.createTable "b".toList columns "k".toList, .create⟩ ∈ prepared.ddl) ∧
    prepared.trans.length = 3 ∧ ∀ st ∈ twiceJob.ddl, ∃ d, readDefinition st.value = .ok d := by
  have hprepare : ((⟨true, "k".toList, .abort⟩ : Session).prepare twiceJob).value = .ok _ := rfl
  obtain ⟨hc, hw⟩ := prepare_corresponds rfl hprepare
  obtain ⟨hmock, htrans, -, hddl⟩ := hw rfl
  exact ⟨_, _, hprepare, rfl, rfl, rfl, hc, hmock _ (by decide), htrans, hddl⟩

end DryRun
