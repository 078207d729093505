import DryRun.Session.Basic

/-!
# What a prepared job holds

The value of `Session.mock` without its log: the transforms and definitions of the job, each treated on
its own, and a report on them.
-/

namespace DryRun

open Sql

namespace Session

variable (s : Session) (job : Job)

/-- What becomes of the transforms of a job. -/
def transforms : TransformScan := (scanTransforms job.trans).1

/-- What becomes of the definitions of a job. -/
def definitions : List DefinitionResult := scanDefinitions s.connector (transforms job).tables job.ddl

/-- The error for which a job is given up, if any. -/
def aborted? : Option MockingError :=
  if s.policy == .abort then (s.definitions job).findSome? DefinitionResult.error? else none

/-- The job with all its transforms and definitions treated. -/
def mocked : Job :=
  { job with ddl := (s.definitions job).map DefinitionResult.output, trans := (transforms job).statements }

theorem mock_eq :
    s.mock job = match s.aborted? job with
      | some e => ⟨.error e, (scanTransforms job.trans).2 ++ readingLog e.cause⟩
      | none => ⟨.ok (s.mocked job, report (transforms job) (s.definitions job)),
          (scanTransforms job.trans).2 ++ (s.definitions job).flatMap DefinitionResult.log ++
            closingLog (s.mocked job) (report (transforms job) (s.definitions job))⟩ :=
  rfl

theorem mock_value :
    (s.mock job).value = match s.aborted? job with
      | some e => .error e
      | none => .ok (s.mocked job, report (transforms job) (s.definitions job)) := by
  rw [mock_eq]
  cases s.aborted? job <;> rfl

variable {s job}

theorem prepare_eq_ok {prepared : Job} {r : Report} (hs : s.enabled = true)
    (h : (s.prepare job).value = .ok (prepared, r)) :
    prepared = s.mocked job ∧ r = report (transforms job) (s.definitions job) := by
  rw [prepare, if_pos hs, mock_value] at h
  split at h
  · cases h
  · cases h
    exact ⟨rfl, rfl⟩

/-- The report on a job that is not given up. -/
def reportOn (s : Session) (job : Job) : Report := report (transforms job) (s.definitions job)

theorem prepare_passThrough (hs : s.enabled = true) (hp : s.policy = .passThrough) (job : Job) :
    (s.prepare job).value = .ok (s.mocked job, s.reportOn job) := by
  have habort : s.aborted? job = none := by simp [aborted?, hp]
  rw [prepare, if_pos hs, mock_value, habort]
  rfl

theorem mem_statements {st : JobStatement} : st ∈ (transforms job).statements ↔
    ∃ given ∈ job.trans, (redirectTransform given).1.output? = some st := by
  simp [transforms, scanTransforms, TransformScan.statements]

end Session

/-! ## One transform -/

theorem redirectTransform_insert {given : JobStatement} {i : Insert} (ht : given.type = .insert)
    (hi : readInsert given.value = .ok i) :
    (redirectTransform given).1 = ⟨given, .redirected (mockInsert i) i.target.name⟩ := by
  rw [redirectTransform, ht, if_neg (by decide), hi]

/-- The three things that can become of a transform, and when. -/
theorem redirectTransform_cases (given : JobStatement) :
    (∃ i, given.type = .insert ∧ readInsert given.value = .ok i ∧
      (redirectTransform given).1 = ⟨given, .redirected (mockInsert i) i.target.name⟩) ∨
    ((given.type = .insert → ∃ actual, readInsert given.value = .error (.unexpected actual)) ∧
      (redirectTransform given).1 = ⟨given, .kept⟩) ∨
    ∃ cause, given.type = .insert ∧ readInsert given.value = .error (.unreadable cause) ∧
      (redirectTransform given).1 = ⟨given, .dropped cause⟩ := by
  unfold redirectTransform
  by_cases ht : given.type = .insert
  · rw [ht, if_neg (by decide)]
    cases hr : readInsert given.value with
    | ok i => exact .inl ⟨i, rfl, rfl, rfl⟩
    | error e =>
      cases e with
      | unexpected actual => exact .inr (.inl ⟨fun _ => ⟨actual, rfl⟩, rfl⟩)
      | unreadable cause => exact .inr (.inr ⟨cause, rfl, rfl, rfl⟩)
  · rw [if_pos (by simpa using ht)]
    exact .inr (.inl ⟨fun h => absurd h ht, rfl⟩)

/-- An INSERT of the prepared job that can be read is one that was redirected. -/
theorem redirected_of_output {given st : JobStatement} {j : Insert}
    (h : (redirectTransform given).1.output? = some st) (ht : st.type = .insert)
    (hj : readInsert st.value = .ok j) :
    ∃ i, given.type = .insert ∧ readInsert given.value = .ok i ∧ st = mockInsert i := by
  rcases redirectTransform_cases given with ⟨i, htype, hi, he⟩ | ⟨hkept, he⟩ | ⟨cause, -, -, he⟩ <;>
    rw [he] at h
  · cases h
    exact ⟨i, htype, hi, rfl⟩
  · cases h
    obtain ⟨actual, hu⟩ := hkept ht
    cases hu.symm.trans hj
  · cases h

end DryRun
