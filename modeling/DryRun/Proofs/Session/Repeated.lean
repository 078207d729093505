import DryRun.Proofs.Mock.Definition
import DryRun.Proofs.Mock.Redirect
import DryRun.Proofs.Session.Correspondence
import Mathlib.Data.List.Basic

/-!
# Preparing a prepared job

A prepared job can be prepared again: its INSERTs write to mocks, and the mocks of these get one more mark in
front of their names. `Job.Steady` is what one preparation needs of a job and leaves behind
(`Job.Steady.mocked`): the INSERTs can be redirected, the columns of sinks can be pasted, and no other table
has the name of a mock. Of such a job the next report is the last one with all names marked once more
(`Session.reportOn_mocked`), and `prepareAgain_consistent` counts the marks over any number of rounds.
-/

namespace DryRun

open Text Sql

/-! ## Redirecting again -/

section Separate

variable {sql : Text} {i : Insert}

theorem Mock.isPlain_mark {n : Text} (hn : n.all isPlainChar = true) :
    (mark ++ n).all isPlainChar = true := by
  have hmark : mark.all isPlainChar = true := by decide
  rw [List.all_append, hmark, hn]
  rfl

theorem Mock.not_takesHint {l : Lexeme} {n : Text} (hl : l.text = mark ++ n) : l.takesHint = false := by
  by_cases hk : l.kind = .word
  · have hword : l = ⟨.word, mark ++ n⟩ := by rw [← hk, ← hl]
    rw [hword, takesHint_mark]
  · simp [Lexeme.takesHint, hk]

/-- A redirected INSERT can be redirected again. -/
theorem Sql.Insert.Separate.again (hi : readInsert sql = .ok i) (h : i.Separate) :
    i.redirected.Separate := by
  obtain ⟨-, pieces, M, N, e, rest, htokens⟩ := insertTokens_of_read hi
  obtain ⟨-, -, -, hlen, -⟩ := htokens.before
  have hvalue : i.redirected.sql = i.sql.take i.start ++ (Mock.name i.target.name ++ i.sql.drop i.stop) :=
    mockInsert_of_isPlain h.plain
  have htake : i.redirected.sql.take i.redirected.start = i.sql.take i.start := by
    rw [hvalue]
    exact List.take_left' hlen.symm
  have hdrop : i.redirected.sql.drop i.redirected.stop = i.sql.drop i.stop := by
    rw [hvalue, ← List.append_assoc]
    refine List.drop_left' ?_
    rw [List.length_append, ← hlen]
    rfl
  refine ⟨Mock.isPlain_mark h.plain, ?_, ?_, ?_⟩
  · rw [htake]
    exact h.before
  · rw [hdrop]
    exact h.after
  · -- the last token of the name spells a mock, which takes no hint
    obtain ⟨-, pieces', M', N', e', rest', htokens'⟩ := insertTokens_of_read (readInsert_mockInsert hi h)
    obtain ⟨-, R, -, -, hR, -, hs⟩ := htokens'.behind
    have htext : e'.text = Mock.mark ++ i.target.name := htokens'.name.symm
    have hhint : (some e'.toLexeme).any Lexeme.takesHint = false := Mock.not_takesHint htext
    rw [htokens'.next?_eq, ← hR, List.head?_filter]
    cases hfirst : R.find? Token.isSignificant with
    | none => rfl
    | some t => simpa using scan_not_hint hs hhint hfirst

end Separate

/-! ## Names with a common beginning -/

section Names

variable (w : Text)

theorem Text.before_append (a b : Text) : before (w ++ a) (w ++ b) = before a b := by
  induction w with
  | nil => rfl
  | cons c w ih =>
    rw [List.cons_append, List.cons_append, before, ih]
    simp

theorem insertSorted_append (n : Text) (names : List Text) :
    insertSorted (w ++ n) (names.map (w ++ ·)) = (insertSorted n names).map (w ++ ·) := by
  induction names with
  | nil => rfl
  | cons m names ih =>
    rw [List.map_cons, insertSorted, insertSorted, before_append]
    by_cases hm : n = m
    · simp [hm]
    · have hne : (w ++ n == w ++ m) = false := by simpa using hm
      rw [hne, ih]
      cases before n m <;> simp [hm]

/-- A common beginning does not change the order of names. -/
theorem sortedNames_append (names : List Text) :
    sortedNames (names.map (w ++ ·)) = (sortedNames names).map (w ++ ·) := by
  induction names with
  | nil => rfl
  | cons n names ih =>
    have hcons : ∀ (n : Text) (names : List Text),
        sortedNames (n :: names) = insertSorted n (sortedNames names) := fun _ _ => rfl
    rw [List.map_cons, hcons, hcons, ih, insertSorted_append]

theorem contains_map_append (names : List Text) (n : Text) :
    (names.map (w ++ ·)).contains (w ++ n) = names.contains n := by
  induction names with
  | nil => rfl
  | cons m names ih => simp

end Names

/-! ## Jobs that can be prepared again -/

/-- Every INSERT of the job can be redirected, the columns of every definition of a sink can be pasted, and no
definition of another table has a name that begins like that of a mock. -/
structure Job.Steady (job : Job) : Prop where
  inserts : ∀ st ∈ job.trans, st.type = .insert → ∀ i, readInsert st.value = .ok i → i.Separate
  columns : ∀ st ∈ job.ddl, ∀ n columns, definedTable? st = some (n, columns) → n ∈ job.sinkNames →
    Mock.endsInLineComment columns = false
  others : ∀ st ∈ job.ddl, ∀ n columns, definedTable? st = some (n, columns) → n ∉ job.sinkNames →
    ¬Mock.mark <+: n

namespace Job.Steady

variable {job : Job} (h : job.Steady)

include h

theorem isPlain_sinkName {n : Text} (hn : n ∈ job.sinkNames) : n.all isPlainChar = true := by
  obtain ⟨st, hst, hname⟩ := List.mem_filterMap.1 hn
  obtain ⟨ht, i, hi, rfl⟩ := sinkName?_eq_some.1 hname
  exact (h.inserts st hst ht i hi).plain

/-- What goes into the prepared job in place of a transform writes to the mock of its table, and can be
prepared again. -/
theorem output_again {st out : JobStatement} (hst : st ∈ job.trans)
    (hout : (redirectTransform st).1.output? = some out) :
    sinkName? out = (sinkName? st).map (Mock.mark ++ ·) ∧ (redirectTransform out).1.dropped? = none ∧
      (out.type = .insert → ∀ i, readInsert out.value = .ok i → i.Separate) := by
  rcases redirectTransform_cases st with ⟨i, ht, hi, he⟩ | ⟨hkept, he⟩ | ⟨cause, -, -, he⟩ <;>
    rw [he] at hout
  · cases hout
    have hsep := h.inserts st hst ht i hi
    have hagain := readInsert_mockInsert hi hsep
    have hname : sinkName? (mockInsert i) = some (Mock.mark ++ i.target.name) :=
      sinkName?_eq_some.2 ⟨rfl, i.redirected, hagain, rfl⟩
    refine ⟨?_, ?_, ?_⟩
    · rw [hname, sinkName?_eq_some.2 ⟨ht, i, hi, rfl⟩]
      rfl
    · rw [redirectTransform_insert rfl hagain]
      rfl
    · intro _ j hj
      cases hagain.symm.trans hj
      exact hsep.again hi
  · cases hout
    have hnone : sinkName? st = none := by
      cases hs : sinkName? st with
      | none => rfl
      | some n =>
        obtain ⟨ht, i, hi, -⟩ := sinkName?_eq_some.1 hs
        obtain ⟨actual, hu⟩ := hkept ht
        cases hu.symm.trans hi
    refine ⟨?_, ?_, ?_⟩
    · rw [hnone]
      rfl
    · rw [he]
      rfl
    · intro ht j hj
      obtain ⟨actual, hu⟩ := hkept ht
      cases hu.symm.trans hj
  · cases hout

/-- The CREATE TABLE of a sink is followed by that of its mock, and other definitions by themselves. -/
theorem definedTable?_again {s : Session} (hc : s.connector.all Mock.isConnectorChar = true)
    {st : JobStatement} (hst : st ∈ job.ddl) :
    definedTable? (s.treated job st).output =
      (definedTable? st).map fun p => if p.1 ∈ job.sinkNames then (Mock.mark ++ p.1, p.2) else p := by
  cases hd : definedTable? st with
  | none =>
    rw [Session.output_of_kept (by rw [hd]; intro n columns hn; cases hn), hd]
    rfl
  | some p =>
    obtain ⟨n, columns⟩ := p
    by_cases hn : n ∈ job.sinkNames
    · obtain ⟨d, hread, hcreate, rfl, -⟩ := definedTable?_eq_some.1 hd
      obtain ⟨L, hL⟩ := columns_of_readDefinition hread hcreate
      have hline := h.columns st hst n d.columns hd hn
      rw [Mock.endsInLineComment_eq hL] at hline
      have hread' := Mock.readDefinition_createTable (h.isPlain_sinkName hn) hL hc hline
      have hcreate' : Definition.isCreateTable ⟨.create, "TABLE".toList, some (Mock.ref n), d.columns⟩ = true := by
        simp only [Definition.isCreateTable, Bool.and_eq_true] at hcreate ⊢
        exact ⟨⟨⟨rfl, rfl⟩, rfl⟩, hcreate.2⟩
      rw [Session.output_of_mocked hd hn, Option.map_some, if_pos hn]
      exact definedTable?_eq_some.2 ⟨_, hread', hcreate', rfl, _, rfl, rfl⟩
    · rw [Session.output_of_kept, hd]
      · simp [hn]
      · intro n' columns' hd'
        cases hd.symm.trans hd'
        exact hn

variable {s : Session}

/-- The sinks of the prepared job are the mocks of the sinks of the job, in the same order. -/
theorem sinkNames_mocked : (s.mocked job).sinkNames = job.sinkNames.map (Mock.mark ++ ·) := by
  have hstatements : (s.mocked job).trans = job.trans.filterMap fun st => (redirectTransform st).1.output? := by
    simp only [Session.mocked, Session.transforms, scanTransforms, TransformScan.statements,
      List.filterMap_map]
    rfl
  rw [Job.sinkNames, hstatements, List.filterMap_filterMap, Job.sinkNames, List.map_filterMap]
  refine List.filterMap_congr ?_
  intro st hst
  cases hout : (redirectTransform st).1.output? with
  | some out => exact (h.output_again hst hout).1
  | none =>
    -- only a dropped transform has no output, and it writes to no table
    rcases redirectTransform_cases st with ⟨i, -, -, he⟩ | ⟨-, he⟩ | ⟨cause, ht, hr, he⟩ <;>
      rw [he] at hout
    · cases hout
    · cases hout
    · simp [sinkName?, ht, hr, Except.toOption]

theorem mem_sinkNames_mocked {n : Text} :
    Mock.mark ++ n ∈ (s.mocked job).sinkNames ↔ n ∈ job.sinkNames := by
  rw [h.sinkNames_mocked]
  simp

theorem not_mem_sinkNames_mocked {n : Text} (hn : ¬Mock.mark <+: n) : n ∉ (s.mocked job).sinkNames := by
  rw [h.sinkNames_mocked]
  intro hmem
  obtain ⟨m, -, rfl⟩ := List.mem_map.1 hmem
  exact hn (List.prefix_append ..)

/-- A prepared job can be prepared again. -/
theorem mocked (hc : s.connector.all Mock.isConnectorChar = true) : (s.mocked job).Steady := by
  have hddl : ∀ out ∈ (s.mocked job).ddl, ∃ st ∈ job.ddl, (s.treated job st).output = out := by
    intro out hout
    simpa [Session.mocked, Session.definitions_eq] using hout
  refine ⟨?_, ?_, ?_⟩
  · intro out hout
    obtain ⟨st, hst, ho⟩ := Session.mem_statements.1 hout
    exact (h.output_again hst ho).2.2
  · intro out hout n columns hd hn
    obtain ⟨st, hst, rfl⟩ := hddl out hout
    rw [h.definedTable?_again hc hst] at hd
    obtain ⟨p, hp, hif⟩ := Option.map_eq_some_iff.1 hd
    split at hif
    · rename_i hsink
      cases hif
      exact h.columns st hst p.1 p.2 hp hsink
    · rename_i hsink
      subst hif
      exact absurd hn (h.not_mem_sinkNames_mocked (h.others st hst n columns hp hsink))
  · intro out hout n columns hd hn
    obtain ⟨st, hst, rfl⟩ := hddl out hout
    rw [h.definedTable?_again hc hst] at hd
    obtain ⟨p, hp, hif⟩ := Option.map_eq_some_iff.1 hd
    split at hif
    · rename_i hsink
      cases hif
      exact absurd (h.mem_sinkNames_mocked.2 hsink) hn
    · rename_i hsink
      subst hif
      exact h.others st hst n columns hp hsink

end Job.Steady

/-! ## The next report -/

section Report

variable {s : Session} {job : Job} (h : job.Steady) (hc : s.connector.all Mock.isConnectorChar = true)

theorem Session.insertsRedirected_eq : (s.reportOn job).insertsRedirected = job.sinkNames.length := by
  have hcount : (transforms job).redirectedCount = job.sinkNames.length := by
    simp only [transforms, scanTransforms, TransformScan.redirectedCount, Job.sinkNames,
      List.length_filterMap_eq_countP, List.countP_map]
    refine List.countP_congr ?_
    intro st _
    simp only [Function.comp_apply, TransformResult.isRedirected, table?_redirectTransform]
  exact congrArg Int.ofNat hcount

include h

theorem Job.Steady.dropped_mocked : (s.reportOn (s.mocked job)).droppedStatements = [] := by
  simp only [Session.reportOn, Session.report, Session.transforms, scanTransforms, TransformScan.dropped,
    List.filterMap_map, List.filterMap_eq_nil_iff, Function.comp_apply]
  intro out hout
  obtain ⟨st, hst, ho⟩ := Session.mem_statements.1 hout
  exact (h.output_again hst ho).2.1

include hc

/-- The tables whose definitions are replaced are the mocks of those before. -/
theorem Job.Steady.replaced_mocked :
    (s.definitions (s.mocked job)).filterMap DefinitionResult.table? =
      ((s.definitions job).filterMap DefinitionResult.table?).map (Mock.mark ++ ·) := by
  have hddl : (s.mocked job).ddl = job.ddl.map fun st => (s.treated job st).output := by
    simp [Session.mocked, Session.definitions_eq]
  rw [Session.definitions_eq, Session.definitions_eq, hddl, List.map_map, List.filterMap_map,
    List.filterMap_map, List.map_filterMap]
  refine List.filterMap_congr ?_
  intro st hst
  simp only [Function.comp_apply, Session.table?_treated, h.definedTable?_again hc hst]
  cases hd : definedTable? st with
  | none => rfl
  | some p =>
    by_cases hn : p.1 ∈ job.sinkNames
    · simp [Option.filter, hn, h.mem_sinkNames_mocked.2 hn]
    · have hother := h.not_mem_sinkNames_mocked (s := s) (h.others st hst p.1 p.2 hd hn)
      simp [Option.filter, hn, hother]

/-- The next report is the same with all names marked once more and nothing dropped. -/
theorem Job.Steady.reportOn_mocked :
    (s.reportOn (s.mocked job)).mockedTables = (s.reportOn job).mockedTables.map (Mock.mark ++ ·) ∧
    (s.reportOn (s.mocked job)).tablesWithoutDdl =
      (s.reportOn job).tablesWithoutDdl.map (Mock.mark ++ ·) ∧
    (s.reportOn (s.mocked job)).insertsRedirected = (s.reportOn job).insertsRedirected ∧
    (s.reportOn (s.mocked job)).ddlMocked = (s.reportOn job).ddlMocked := by
  have htables : (Session.transforms (s.mocked job)).tables =
      (Session.transforms job).tables.map (Mock.mark ++ ·) := by
    rw [Session.tables_transforms, Session.tables_transforms, h.sinkNames_mocked, sortedNames_append]
  have hreplaced := h.replaced_mocked hc
  refine ⟨htables, ?_, ?_, ?_⟩
  · simp only [Session.reportOn, Session.report, htables, hreplaced, List.filter_map]
    refine congrArg (List.map _) (List.filter_congr ?_)
    intro n _
    rw [Function.comp_apply, contains_map_append]
  · rw [Session.insertsRedirected_eq, Session.insertsRedirected_eq, h.sinkNames_mocked, List.length_map]
  · simp only [Session.reportOn, Session.report, hreplaced, List.length_map]

end Report

/-! ## Rounds -/

/-- A name with the mark of mocks `k` times in front of it. -/
def Mock.marked : Nat → Text → Text
  | 0, n => n
  | k + 1, n => mark ++ marked k n

namespace Session

/-- What the last of `k + 1` preparations gives, each of the job that the one before gave. -/
def prepareAgain (s : Session) (job : Job) : Nat → Except MockingError (Job × Report)
  | 0 => (s.prepare job).value
  | k + 1 => (s.prepareAgain job k).bind fun last => (s.prepare last.1).value

end Session

/-- What the report of a later round says, compared with the first. -/
structure Report.Marked (k : Nat) (first later : Report) : Prop where
  mockedTables : later.mockedTables = first.mockedTables.map (Mock.marked k)
  tablesWithoutDdl : later.tablesWithoutDdl = first.tablesWithoutDdl.map (Mock.marked k)
  insertsRedirected : later.insertsRedirected = first.insertsRedirected
  ddlMocked : later.ddlMocked = first.ddlMocked
  droppedStatements : 0 < k → later.droppedStatements = []

theorem Report.Marked.zero (r : Report) : r.Marked 0 r := by
  have hid : Mock.marked 0 = id := rfl
  refine ⟨?_, ?_, rfl, rfl, ?_⟩
  · rw [hid, List.map_id]
  · rw [hid, List.map_id]
  · intro hk
    omega

section Rounds

variable {s : Session} {job : Job} (hc : s.connector.all Mock.isConnectorChar = true)

include hc

theorem Report.Marked.next {k : Nat} {first : Report} (h : job.Steady) (hm : first.Marked k (s.reportOn job)) :
    first.Marked (k + 1) (s.reportOn (s.mocked job)) := by
  obtain ⟨htables, hwithout, hinserts, hddl⟩ := h.reportOn_mocked hc
  refine ⟨?_, ?_, hinserts.trans hm.insertsRedirected, hddl.trans hm.ddlMocked, fun _ => h.dropped_mocked⟩
  · rw [htables, hm.mockedTables, List.map_map]
    rfl
  · rw [hwithout, hm.tablesWithoutDdl, List.map_map]
    rfl

/-- The invariant of the rounds: the job of each round can be prepared again. -/
theorem Session.prepareAgain_steady (hs : s.enabled = true) (hp : s.policy = .passThrough) (h : job.Steady)
    (k : Nat) : ∃ last : Job, last.Steady ∧
      s.prepareAgain job k = .ok (s.mocked last, s.reportOn last) ∧
      (s.reportOn job).Marked k (s.reportOn last) := by
  induction k with
  | zero => exact ⟨job, h, Session.prepare_passThrough hs hp job, .zero _⟩
  | succ k ih =>
    obtain ⟨last, hlast, hagain, hmarked⟩ := ih
    refine ⟨s.mocked last, hlast.mocked hc, ?_, hmarked.next hc hlast⟩
    rw [Session.prepareAgain, hagain]
    exact Session.prepare_passThrough hs hp _

end Rounds

/-- Preparing a job again and again marks the names of its sinks once more each time and changes nothing else
that is reported: the same INSERTs are redirected, the same definitions replaced, and from the second round
on no statement is dropped. -/
theorem Session.prepareAgain_consistent {s : Session} {job : Job} (hs : s.enabled = true)
    (hp : s.policy = .passThrough) (hc : s.connector.all Mock.isConnectorChar = true)
    (hinserts : ∀ st ∈ job.trans, st.type = .insert → ∀ i, readInsert st.value = .ok i → i.Separate)
    (hcolumns : ∀ st ∈ job.ddl, ∀ n columns, definedTable? st = some (n, columns) → n ∈ job.sinkNames →
      Mock.endsInLineComment columns = false)
    (hnames : ∀ st ∈ job.ddl, ∀ n columns, definedTable? st = some (n, columns) → ¬Mock.mark <+: n) :
    ∃ first, (s.prepare job).value = .ok first ∧
      ∀ k, ∃ last, s.prepareAgain job k = .ok last ∧ first.2.Marked k last.2 := by
  have hsteady : job.Steady := ⟨hinserts, hcolumns, fun st hst n columns hd _ => hnames st hst n columns hd⟩
  refine ⟨_, Session.prepare_passThrough hs hp job, ?_⟩
  intro k
  obtain ⟨last, -, hagain, hmarked⟩ := Session.prepareAgain_steady hc hs hp hsteady k
  exact ⟨_, hagain, hmarked⟩

/-- A job with a sink that has the name of the mock of another one, and a transform that ends inside a
string. -/
def mockOfMockJob : Job where
  ddl := [⟨"CREATE TABLE b(i INT)".toList, .create⟩, ⟨"CREATE TABLE c(i INT)".toList, .create⟩]
  trans := [⟨"INSERT INTO x.b(i) SELECT".toList, .insert⟩, ⟨"INSERT INTO mock_sink_b SELECT".toList, .insert⟩,
    ⟨"INSERT INTO 'c".toList, .insert⟩]

/-- The two sinks are kept apart in all rounds, and the broken transform is dropped in the first. -/
theorem Session.prepareAgain_consistent_mock : ∃ first last,
    ((⟨true, "k".toList, .passThrough⟩ : Session).prepare mockOfMockJob).value = .ok first ∧
    first.2.droppedStatements = ["INSERT INTO 'c".toList] ∧
    (⟨true, "k".toList, .passThrough⟩ : Session).prepareAgain mockOfMockJob 2 = .ok last ∧
    last.2.mockedTables = ["mock_sink_mock_sink_b".toList, "mock_sink_mock_sink_mock_sink_b".toList] ∧
    last.2.tablesWithoutDdl = ["mock_sink_mock_sink_mock_sink_b".toList] ∧
    last.2.insertsRedirected = 2 ∧ last.2.ddlMocked = 1 ∧ last.2.droppedStatements = [] := by
  have hfirst : (⟨true, "k".toList, .passThrough⟩ : Session).reportOn mockOfMockJob =
      { mockedTables := ["b".toList, "mock_sink_b".toList]
        tablesWithoutDdl := ["mock_sink_b".toList]
        insertsRedirected := 2
        ddlMocked := 1
        droppedStatements := ["INSERT INTO 'c".toList] } := rfl
  have hb : readInsert "INSERT INTO x.b(i) SELECT".toList = .ok _ := rfl
  have hmock : readInsert "INSERT INTO mock_sink_b SELECT".toList = .ok _ := rfl
  have hbroken : readInsert "INSERT INTO 'c".toList = .error _ := rfl
  obtain ⟨first, hprepare, hrounds⟩ := @Session.prepareAgain_consistent
    ⟨true, "k".toList, .passThrough⟩ mockOfMockJob rfl rfl (by decide)
    (by
      intro st hst _ i hi
      simp only [mockOfMockJob, List.mem_cons, List.not_mem_nil, or_false] at hst
      rcases hst with rfl | rfl | rfl
      · cases hb.symm.trans hi
        exact ⟨by decide, by decide, by decide, by decide⟩
      · cases hmock.symm.trans hi
        exact ⟨by decide, by decide, by decide, by decide⟩
      · cases hbroken.symm.trans hi)
    (by
      intro st hst n columns hd _
      simp only [mockOfMockJob, List.mem_cons, List.not_mem_nil, or_false] at hst
      rcases hst with rfl | rfl <;> cases hd <;> decide +kernel)
    (by
      intro st hst n columns hd
      simp only [mockOfMockJob, List.mem_cons, List.not_mem_nil, or_false] at hst
      rcases hst with rfl | rfl <;> cases hd <;> decide +kernel)
  obtain ⟨last, hlast, hmarked⟩ := hrounds 2
  rw [Session.prepare_passThrough rfl rfl] at hprepare
  cases hprepare
  rw [hfirst] at hmarked
  exact ⟨_, last, Session.prepare_passThrough rfl rfl _, by rw [hfirst], hlast, hmarked.mockedTables,
    hmarked.tablesWithoutDdl, hmarked.insertsRedirected, hmarked.ddlMocked,
    hmarked.droppedStatements (by decide)⟩

end DryRun
