import DryRun.Proofs.Session.Correspondence

/-!
# Each statement on its own

A transform is treated without regard to the others, so that scanning a list is the same as scanning its parts
(`scanTransforms_append`), and each transform ends in one of three ways (`Treated`). A definition looks at the
transforms through the set of their sinks only. Jobs whose lists are permutations of each other are therefore
prepared to permutations of each other, with the same names and counts in their reports
(`Session.prepare_orderless`).
-/

namespace DryRun

open Text Sql

/-! ## Names in order -/

theorem Text.Precedes.irrefl (a : Text) : ¬Precedes a a := by
  induction a with
  | nil => intro h; cases h
  | cons c a ih =>
    intro h
    cases h with
    | rel h => exact Nat.lt_irrefl _ h
    | cons h => exact ih h

/-- Lists in increasing order that hold the same names are the same. -/
theorem eq_of_increasing {a b : List Text} (ha : a.Pairwise Precedes) (hb : b.Pairwise Precedes)
    (h : ∀ n, n ∈ a ↔ n ∈ b) : a = b := by
  have hnodup : ∀ {l : List Text}, l.Pairwise Precedes → l.Nodup := by
    intro l hl
    refine hl.imp ?_
    rintro x y hxy rfl
    exact Precedes.irrefl x hxy
  have hperm : a.Perm b := (List.perm_ext_iff_of_nodup (hnodup ha) (hnodup hb)).2 h
  refine hperm.eq_of_pairwise ?_ ha hb
  intro x y _ _ hxy hyx
  exact absurd (hxy.trans hyx) (Precedes.irrefl x)

theorem sortedNames_congr {a b : List Text} (h : ∀ n, n ∈ a ↔ n ∈ b) : sortedNames a = sortedNames b := by
  refine eq_of_increasing (pairwise_sortedNames a) (pairwise_sortedNames b) ?_
  intro n
  rw [mem_sortedNames, mem_sortedNames]
  exact h n

/-! ## One list of transforms -/

/-- What becomes of a transform, by its declared type and by what its text is read as. -/
inductive Treated (st : JobStatement) : TransformOutcome → Prop
  | redirected {i : Insert} : st.type = .insert → readInsert st.value = .ok i →
      Treated st (.redirected (mockInsert i) i.target.name)
  | otherType : st.type ≠ .insert → Treated st .kept
  | otherKind {actual : Grammar.StatementKind} : st.type = .insert →
      readInsert st.value = .error (.unexpected actual) → Treated st .kept
  | dropped {cause : ReadError} : st.type = .insert → readInsert st.value = .error (.unreadable cause) →
      Treated st (.dropped cause)

theorem treated_redirectTransform (st : JobStatement) : Treated st (redirectTransform st).1.outcome := by
  rcases redirectTransform_cases st with ⟨i, ht, hi, he⟩ | ⟨hkept, he⟩ | ⟨cause, ht, hr, he⟩ <;> rw [he]
  · exact .redirected ht hi
  · by_cases ht : st.type = .insert
    · obtain ⟨actual, hr⟩ := hkept ht
      exact .otherKind ht hr
    · exact .otherType ht
  · exact .dropped ht hr

/-- A transform ends in one way only. -/
theorem Treated.unique {st : JobStatement} {a b : TransformOutcome} (ha : Treated st a) (hb : Treated st b) :
    a = b := by
  cases ha <;> cases hb <;> simp_all

section Scan

variable (xs ys : List JobStatement)

theorem results_scanTransforms : (scanTransforms xs).1.results = xs.map fun st => (redirectTransform st).1 := by
  simp only [scanTransforms, List.map_map]
  rfl

/-- The scan of two lists, one after the other. -/
structure TransformScan.Joined (a b ab : TransformScan) : Prop where
  results : ab.results = a.results ++ b.results
  statements : ab.statements = a.statements ++ b.statements
  dropped : ab.dropped = a.dropped ++ b.dropped
  tables : ∀ n, n ∈ ab.tables ↔ n ∈ a.tables ∨ n ∈ b.tables
  increasing : ab.tables.Pairwise Precedes
  redirectedCount : ab.redirectedCount = a.redirectedCount + b.redirectedCount

theorem scanTransforms_append :
    (scanTransforms xs).1.Joined (scanTransforms ys).1 (scanTransforms (xs ++ ys)).1 := by
  have hresults : (scanTransforms (xs ++ ys)).1.results =
      (scanTransforms xs).1.results ++ (scanTransforms ys).1.results := by
    rw [results_scanTransforms, results_scanTransforms, results_scanTransforms, List.map_append]
  refine ⟨hresults, ?_, ?_, ?_, pairwise_sortedNames _, ?_⟩
  · rw [TransformScan.statements, hresults, List.filterMap_append]
    rfl
  · rw [TransformScan.dropped, hresults, List.filterMap_append]
    rfl
  · intro n
    simp only [TransformScan.tables, mem_sortedNames, hresults, List.filterMap_append, List.mem_append]
  · rw [TransformScan.redirectedCount, hresults, List.countP_append]
    rfl

/-- Every transform of a list is redirected, kept or dropped, and all but the dropped go on. -/
structure TransformScan.Partition (scan : TransformScan) : Prop where
  each : ∀ (k : Nat) (st : JobStatement), xs[k]? = some st →
    ∃ outcome, scan.results[k]? = some ⟨st, outcome⟩ ∧ Treated st outcome ∧
      ∀ other, Treated st other → other = outcome
  counts : scan.redirectedCount + scan.results.countP (·.outcome = .kept) + scan.dropped.length = xs.length
  lengths : scan.statements.length + scan.dropped.length = xs.length

theorem given_redirectTransform (st : JobStatement) : (redirectTransform st).1.given = st := by
  rcases redirectTransform_cases st with ⟨i, -, -, he⟩ | ⟨-, he⟩ | ⟨cause, -, -, he⟩ <;> rw [he]

theorem count_outcomes (results : List TransformResult) :
    results.countP TransformResult.isRedirected + results.countP (·.outcome = .kept) +
      (results.filterMap TransformResult.dropped?).length = results.length := by
  induction results with
  | nil => rfl
  | cons r results ih =>
    obtain ⟨given, outcome⟩ := r
    rw [List.countP_cons, List.countP_cons, List.filterMap_cons, List.length_cons]
    cases outcome <;>
      simp only [TransformResult.isRedirected, TransformResult.table?, TransformResult.dropped?,
        Option.isSome_some, Option.isSome_none, decide_true, decide_false, reduceCtorEq, if_true,
        Bool.false_eq_true, if_false, List.length_cons] <;>
      omega

theorem length_outputs (results : List TransformResult) :
    (results.filterMap TransformResult.output?).length +
      (results.filterMap TransformResult.dropped?).length = results.length := by
  induction results with
  | nil => rfl
  | cons r results ih =>
    obtain ⟨given, outcome⟩ := r
    rw [List.filterMap_cons, List.filterMap_cons, List.length_cons]
    cases outcome <;>
      simp only [TransformResult.output?, TransformResult.dropped?, List.length_cons] <;>
      omega

theorem scanTransforms_partition : (scanTransforms xs).1.Partition xs := by
  have hlength : (scanTransforms xs).1.results.length = xs.length := by
    rw [results_scanTransforms, List.length_map]
  refine ⟨?_, ?_, ?_⟩
  · intro k st hk
    have htreated := treated_redirectTransform st
    refine ⟨(redirectTransform st).1.outcome, ?_, htreated, fun other ho => ho.unique htreated⟩
    rw [results_scanTransforms, List.getElem?_map, hk, Option.map_some]
    exact congrArg (fun given => some (⟨given, _⟩ : TransformResult)) (given_redirectTransform st)
  · rw [← hlength]
    exact count_outcomes _
  · rw [← hlength]
    exact length_outputs _

end Scan

/-! ## Two orders of a job -/

/-- Prepared jobs and their reports, up to the order in which statements stand. -/
structure SameButOrder (a b : Job × Report) : Prop where
  trans : a.1.trans.Perm b.1.trans
  ddl : a.1.ddl.Perm b.1.ddl
  droppedStatements : a.2.droppedStatements.Perm b.2.droppedStatements
  unparsedDdl : a.2.unparsedDdl.Perm b.2.unparsedDdl
  mockedTables : a.2.mockedTables = b.2.mockedTables
  tablesWithoutDdl : a.2.tablesWithoutDdl = b.2.tablesWithoutDdl
  insertsRedirected : a.2.insertsRedirected = b.2.insertsRedirected
  ddlMocked : a.2.ddlMocked = b.2.ddlMocked

section Orders

variable {a b : Job}

theorem results_perm (h : a.trans.Perm b.trans) :
    (Session.transforms a).results.Perm (Session.transforms b).results := by
  rw [Session.transforms, Session.transforms, results_scanTransforms, results_scanTransforms]
  exact h.map _

theorem tables_perm (h : a.trans.Perm b.trans) :
    (Session.transforms a).tables = (Session.transforms b).tables := by
  refine sortedNames_congr ?_
  intro n
  exact ((results_perm h).filterMap _).mem_iff

/-- Definitions are treated alike, since the sinks are the same. -/
theorem definitions_perm (s : Session) (ht : a.trans.Perm b.trans) (hd : a.ddl.Perm b.ddl) :
    (s.definitions a).Perm (s.definitions b) := by
  rw [Session.definitions, Session.definitions, tables_perm ht]
  exact hd.map _

theorem sameButOrder_mocked (s : Session) (ht : a.trans.Perm b.trans) (hd : a.ddl.Perm b.ddl) :
    SameButOrder (s.mocked a, s.reportOn a) (s.mocked b, s.reportOn b) := by
  have hresults := results_perm ht
  have htables := tables_perm ht
  have hdefinitions := definitions_perm s ht hd
  have hreplaced := hdefinitions.filterMap DefinitionResult.table?
  refine ⟨hresults.filterMap _, hdefinitions.map _, hresults.filterMap _, hdefinitions.filterMap _,
    htables, ?_, ?_, ?_⟩
  · simp only [Session.reportOn, Session.report, htables]
    refine List.filter_congr ?_
    intro n _
    rw [hreplaced.contains_eq]
  · exact congrArg Int.ofNat (hresults.countP_eq _)
  · exact congrArg Int.ofNat hreplaced.length_eq

end Orders

/-- Scanning transforms is scanning each on its own, and the order in which the statements of a job stand is
without effect on all but the order in which they stand in the prepared job and its report. -/
theorem Session.prepare_orderless {s : Session} (hs : s.enabled = true) (hp : s.policy = .passThrough) :
    (∀ xs ys, (scanTransforms xs).1.Joined (scanTransforms ys).1 (scanTransforms (xs ++ ys)).1) ∧
    (∀ xs, (scanTransforms xs).1.Partition xs) ∧
    ∀ a b : Job, a.trans.Perm b.trans → a.ddl.Perm b.ddl →
      ∃ preparedA preparedB, (s.prepare a).value = .ok preparedA ∧ (s.prepare b).value = .ok preparedB ∧
        SameButOrder preparedA preparedB := by
  refine ⟨scanTransforms_append, scanTransforms_partition, ?_⟩
  intro a b ht hd
  exact ⟨_, _, prepare_passThrough hs hp a, prepare_passThrough hs hp b, sameButOrder_mocked s ht hd⟩

/-- A job with all its statements in the opposite order. -/
def Job.reversed (job : Job) : Job := { job with ddl := job.ddl.reverse, trans := job.trans.reverse }

/-- The second definition of a sink is replaced first, and the report is the same. -/
theorem Session.prepare_orderless_reversed : ∃ preparedA preparedB,
    ((⟨true, "k".toList, .passThrough⟩ : Session).prepare twiceJob).value = .ok preparedA ∧
    ((⟨true, "k".toList, .passThrough⟩ : Session).prepare twiceJob.reversed).value = .ok preparedB ∧
    SameButOrder preparedA preparedB ∧ preparedB.2.ddlMocked = 2 ∧
    (scanTransforms twiceJob.trans).1.statements.length + (scanTransforms twiceJob.trans).1.dropped.length = 3 := by
  obtain ⟨-, hpartition, horder⟩ :=
    Session.prepare_orderless (s := ⟨true, "k".toList, .passThrough⟩) rfl rfl
  obtain ⟨preparedA, preparedB, hA, hB, hsame⟩ := horder twiceJob twiceJob.reversed
    (List.reverse_perm _).symm (List.reverse_perm _).symm
  have hcount : ((⟨true, "k".toList, .passThrough⟩ : Session).reportOn twiceJob).ddlMocked = 2 := rfl
  rw [prepare_passThrough rfl rfl] at hA
  cases hA
  exact ⟨_, preparedB, prepare_passThrough rfl rfl _, hB, hsame, hsame.ddlMocked.symm.trans hcount,
    (hpartition _).lengths⟩

end DryRun
