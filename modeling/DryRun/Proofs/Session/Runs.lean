import DryRun.Proofs.Session.Correspondence

/-!
# Runs of calls

A client holds a session and a job, and calls `Session.mockSink`, `Session.prepare` and `Session.mockInPlace`
in any order. `prepare_cases` says once what the two ways to prepare a job can do: nothing, if mocking is
off; fail with the first definition that cannot be read, if the session is to abort on one; or give the same
job. What a call and a whole run leave as it was follows from it.
-/

namespace DryRun

open Sql

/-! ## The definition that is rejected -/

/-- The first definition that cannot be read, as an error. -/
inductive FirstRejected : List JobStatement → MockingError → Prop where
  | here {st : JobStatement} {ddl : List JobStatement} {cause : ReadError}
      (h : readDefinition st.value = .error cause) : FirstRejected (st :: ddl) ⟨st.value, cause⟩
  | later {st : JobStatement} {ddl : List JobStatement} {d : Definition} {e : MockingError}
      (h : readDefinition st.value = .ok d) (rest : FirstRejected ddl e) : FirstRejected (st :: ddl) e

/-- Some definition is rejected just if one cannot be read. -/
theorem exists_firstRejected {ddl : List JobStatement} : (∃ e, FirstRejected ddl e) ↔
    ∃ st ∈ ddl, ∃ cause, readDefinition st.value = .error cause := by
  constructor
  · rintro ⟨e, h⟩
    induction h with
    | here h => exact ⟨_, List.mem_cons_self, _, h⟩
    | later _ _ ih =>
      obtain ⟨st, hst, hread⟩ := ih
      exact ⟨st, List.mem_cons_of_mem _ hst, hread⟩
  · rintro ⟨st, hst, cause, hread⟩
    induction ddl with
    | nil => cases hst
    | cons first ddl ih =>
      cases hfirst : readDefinition first.value with
      | error cause => exact ⟨_, .here hfirst⟩
      | ok d =>
        have hst : st ∈ ddl := (List.mem_cons.1 hst).resolve_left fun h => by
          rw [h, hfirst] at hread
          cases hread
        obtain ⟨e, he⟩ := ih hst
        exact ⟨e, .later hfirst he⟩

namespace Session

theorem findSome?_error? (s : Session) (job : Job) (ddl : List JobStatement) (e : MockingError) :
    ddl.findSome? (fun st => (s.treated job st).error?) = some e ↔ FirstRejected ddl e := by
  induction ddl with
  | nil => exact ⟨fun h => (by cases h), fun h => (by cases h)⟩
  | cons st ddl ih =>
    rw [List.findSome?_cons, error?_treated]
    cases hread : readDefinition st.value with
    | error cause =>
      constructor
      · rintro ⟨⟩
        exact .here hread
      · rintro (⟨h⟩ | ⟨h, -⟩)
        · rw [hread] at h
          cases h
          rfl
        · rw [hread] at h
          cases h
    | ok d =>
      refine ih.trans ⟨.later hread, ?_⟩
      rintro (⟨h⟩ | ⟨-, rest⟩)
      · rw [hread] at h
        cases h
      · exact rest

theorem aborted?_eq_some {s : Session} {job : Job} {e : MockingError} :
    s.aborted? job = some e ↔ s.policy = .abort ∧ FirstRejected job.ddl e := by
  rw [aborted?, definitions_eq, List.findSome?_map]
  by_cases hp : s.policy = .abort
  · rw [if_pos (by simp [hp])]
    exact (findSome?_error? s job job.ddl e).trans (by simp [hp])
  · simp [hp]

/-! ## Two ways to prepare a job -/

/-- What preparing a job can come to. -/
theorem prepare_cases (s : Session) (job : Job) :
    (s.enabled = false ∧ (s.prepare job).value = .ok (job, { enabled := false }) ∧
      (s.mockInPlace job).value = (.ok (), job)) ∨
    (s.enabled = true ∧ ∃ e, s.policy = .abort ∧ FirstRejected job.ddl e ∧
      (s.prepare job).value = .error e ∧ (s.mockInPlace job).value = (.error e, job)) ∨
    (s.enabled = true ∧ (∀ e, ¬(s.policy = .abort ∧ FirstRejected job.ddl e)) ∧
      ∃ prepared report, (s.prepare job).value = .ok (prepared, report) ∧
        (s.mockInPlace job).value = (.ok (), prepared) ∧
        prepared.statements = job.statements ∧ prepared.execute = job.execute) := by
  rw [prepare, mockInPlace]
  cases s.enabled with
  | false => exact .inl ⟨rfl, rfl, rfl⟩
  | true =>
    refine .inr ?_
    simp only [if_true, mock_value]
    cases ha : s.aborted? job with
    | some e =>
      obtain ⟨hp, hfirst⟩ := aborted?_eq_some.1 ha
      exact .inl ⟨trivial, e, hp, hfirst, rfl, rfl⟩
    | none =>
      refine .inr ⟨trivial, fun e he => ?_, s.mocked job, _, rfl, rfl, rfl, rfl⟩
      rw [aborted?_eq_some.2 he] at ha
      cases ha

end Session

/-! ## Calls -/

/-- The session and the job that a client works with. -/
structure Client where
  session : Session
  job : Job

/-- What a client can ask for. -/
inductive Call where
  | mockSink (enabled : Bool)
  | prepare
  | mockInPlace

/-- What a call gives back. -/
inductive Reply where
  | done
  | prepared (job : Job) (report : Report)
  | failed (e : MockingError)

/-- One call: the reply, and what the client holds afterwards. -/
def Call.step : Call → Client → Reply × Client
  | .mockSink enabled, c => (.done, { c with session := c.session.mockSink enabled })
  | .prepare, c =>
    match (c.session.prepare c.job).value with
    | .ok (job, report) => (.prepared job report, c)
    | .error e => (.failed e, c)
  | .mockInPlace, c =>
    match (c.session.mockInPlace c.job).value with
    | (.ok (), job) => (.done, { c with job })
    | (.error e, job) => (.failed e, { c with job })

/-- Calls one after the other, whatever they reply. -/
def Client.run (c : Client) : List Call → List Reply × Client
  | [] => ([], c)
  | call :: calls =>
    let (reply, next) := call.step c
    let (replies, last) := next.run calls
    (reply :: replies, last)

/-- The lists that no call touches. -/
def Job.SameRest (a b : Job) : Prop := a.statements = b.statements ∧ a.execute = b.execute

theorem Call.step_sameRest (call : Call) (c : Client) : (call.step c).2.job.SameRest c.job := by
  cases call with
  | mockSink enabled => exact ⟨rfl, rfl⟩
  | prepare =>
    rw [step]
    split <;> exact ⟨rfl, rfl⟩
  | mockInPlace =>
    rw [step]
    rcases c.session.prepare_cases c.job with
      ⟨-, -, hm⟩ | ⟨-, e, -, -, -, hm⟩ | ⟨-, -, prepared, report, -, hm, hrest⟩
    · rw [hm]
      exact ⟨rfl, rfl⟩
    · rw [hm]
      exact ⟨rfl, rfl⟩
    · rw [hm]
      exact hrest

theorem Client.run_sameRest (c : Client) (calls : List Call) : (c.run calls).2.job.SameRest c.job := by
  induction calls generalizing c with
  | nil => exact ⟨rfl, rfl⟩
  | cons call calls ih =>
    have hstep := call.step_sameRest c
    have hrun := ih (call.step c).2
    exact ⟨hrun.1.trans hstep.1, hrun.2.trans hstep.2⟩

/-- With mocking off a call changes nothing and gives the job back. With mocking on, both ways to prepare a
job fail for the same definition or give the same job; a failure leaves the job as it is. Preparing never
changes the job, and no run changes the lists that are not prepared. -/
theorem Client.run_atomic (c : Client) :
    (c.session.enabled = false →
      Call.mockInPlace.step c = (.done, c) ∧
      ∃ report, Call.prepare.step c = (.prepared c.job report, c) ∧ report.enabled = false) ∧
    (c.session.enabled = true →
      ((c.session.policy = .abort ∧ ∃ st ∈ c.job.ddl, ∃ cause, readDefinition st.value = .error cause) →
        ∃ e, FirstRejected c.job.ddl e ∧
          e.message = "DDL statement could not be parsed: ".toList ++ e.statement ∧
          Call.prepare.step c = (.failed e, c) ∧ Call.mockInPlace.step c = (.failed e, c)) ∧
      (¬(c.session.policy = .abort ∧ ∃ st ∈ c.job.ddl, ∃ cause, readDefinition st.value = .error cause) →
        ∃ job report, Call.prepare.step c = (.prepared job report, c) ∧
          Call.mockInPlace.step c = (.done, { c with job }))) ∧
    (Call.prepare.step c).2 = c ∧
    ∀ calls, (c.run calls).2.job.statements = c.job.statements ∧
      (c.run calls).2.job.execute = c.job.execute := by
  refine ⟨fun hoff => ?_, fun hon => ?_, ?_, c.run_sameRest⟩
  · rcases c.session.prepare_cases c.job with ⟨-, hp, hm⟩ | ⟨hs, -⟩ | ⟨hs, -⟩
    · simp only [Call.step, hp, hm]
      exact ⟨trivial, _, rfl, rfl⟩
    · rw [hoff] at hs
      cases hs
    · rw [hoff] at hs
      cases hs
  · rw [← exists_firstRejected]
    rcases c.session.prepare_cases c.job with
      ⟨hs, -⟩ | ⟨-, e, habort, hfirst, hp, hm⟩ | ⟨-, hnot, prepared, report, hp, hm, -⟩
    · rw [hon] at hs
      cases hs
    · refine ⟨fun _ => ⟨e, hfirst, rfl, ?_, ?_⟩, fun h => absurd ⟨habort, e, hfirst⟩ h⟩
      · simp only [Call.step, hp]
      · simp only [Call.step, hm]
    · refine ⟨fun ⟨habort, e, hfirst⟩ => absurd ⟨habort, hfirst⟩ (hnot e), fun _ => ⟨prepared, report, ?_, ?_⟩⟩
      · simp only [Call.step, hp]
      · simp only [Call.step, hm]
  · rw [Call.step]
    split <;> rfl

/-- A client whose job has two definitions that end inside a string. -/
def brokenClient : Client where
  session := ⟨true, "k".toList, .abort⟩
  job :=
    { statements := ["SET x".toList]
      ddl := [⟨"CREATE TABLE b(i INT)".toList, .create⟩, ⟨"CREATE TABLE 'c".toList, .create⟩,
        ⟨"'".toList, .create⟩]
      trans := [⟨"INSERT INTO b SELECT".toList, .insert⟩]
      execute := [] }

/-- Both ways to prepare the job fail for the first of the two, and the job stays. -/
theorem Client.run_atomic_broken :
    (∃ e, e.statement = "CREATE TABLE 'c".toList ∧
      Call.prepare.step brokenClient = (.failed e, brokenClient) ∧
      Call.mockInPlace.step brokenClient = (.failed e, brokenClient)) ∧
    (brokenClient.run [.mockInPlace, .mockSink false, .prepare, .mockInPlace]).2.job.statements =
      ["SET x".toList] := by
  obtain ⟨-, hon, -, hrun⟩ := brokenClient.run_atomic
  have hread : readDefinition "CREATE TABLE b(i INT)".toList = .ok _ := rfl
  have hrejected : readDefinition "CREATE TABLE 'c".toList = .error _ := rfl
  obtain ⟨e, hfirst, -, hp, hm⟩ := (hon rfl).1
    ⟨rfl, ⟨"CREATE TABLE 'c".toList, .create⟩, by decide, _, hrejected⟩
  refine ⟨⟨e, ?_, hp, hm⟩, (hrun _).1⟩
  rcases hfirst with ⟨h⟩ | ⟨-, hfirst⟩
  · cases hread.symm.trans h
  · rcases hfirst with ⟨h⟩ | ⟨h, -⟩
    · rfl
    · cases hrejected.symm.trans h

end DryRun
