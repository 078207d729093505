import DryRun.Job.Json
import DryRun.Proofs.Json.RoundTrip

/-!
# Jobs from their texts

A job validates to itself from each of the texts that it is written in. The validator undoes `Job.toJson`
(`Job.ofJson_toJson`), the reader undoes the writer in every style, and a job nests three containers, so its
depth never matters. The counts of a report are the only numbers in a document; they have to fit in what the
reader takes for a number.
-/

namespace DryRun

open Validation

/-! ## Validation -/

namespace Validation

variable {α : Type} {shape : Json → Validated α}

theorem items_map (toJson : α → Json) (h : ∀ a, shape (toJson a) = .ok a) (position : Nat) (as : List α) :
    items shape position (as.map toJson) = .ok as := by
  induction as generalizing position with
  | nil => rfl
  | cons a as ih =>
    rw [List.map_cons, items, h a, ih]
    rfl

theorem list_map (toJson : α → Json) (h : ∀ a, shape (toJson a) = .ok a) (as : List α) :
    list shape (.array (as.map toJson)) = .ok as :=
  items_map toJson h 0 as

theorem optional_eq_ok {fields : List (Text × Json)} {key : String} {default a : α} {value : Json}
    (hfield : Json.field? fields key.toList = some value) (h : shape value = .ok a) :
    optional fields key default shape = .ok a := by
  rw [optional, hfield]
  dsimp only
  rw [h, under]

theorem required_eq_ok {fields : List (Text × Json)} {key : String} {a : α} {value : Json}
    (hfield : Json.field? fields key.toList = some value) (h : shape value = .ok a) :
    required fields key shape = .ok a := by
  rw [required, hfield]
  dsimp only
  rw [h, under]

end Validation

theorem StatementType.ofLabel?_label (type : StatementType) : ofLabel? type.label = some type := by
  cases type <;> decide

theorem StatementType.ofJson_label (type : StatementType) : ofJson (.string type.label) = .ok type := by
  rw [ofJson, ofLabel?_label]

theorem JobStatement.ofJson_toJson (st : JobStatement) : ofJson st.toJson = .ok st := by
  rw [toJson, ofJson, required_eq_ok (a := st.value) rfl rfl,
    optional_eq_ok rfl (StatementType.ofJson_label st.type)]
  rfl

/-- A job validates to itself. -/
theorem Job.ofJson_toJson (job : Job) : ofJson job.toJson = .ok job := by
  have hstatements := list_map JobStatement.toJson JobStatement.ofJson_toJson
  have htexts : list text (.texts job.statements) = .ok job.statements :=
    list_map Json.string (fun _ => rfl) job.statements
  rw [toJson, ofJson, optional_eq_ok rfl htexts, optional_eq_ok rfl (hstatements job.ddl),
    optional_eq_ok rfl (hstatements job.trans), optional_eq_ok rfl (hstatements job.execute)]
  rfl

/-! ## What the reader takes -/

section Readable

open Json (Readable)

variable {depth : Nat}

theorem readable_map {α : Type} (toJson : α → Json) (h : ∀ a, (toJson a).Readable depth) (as : List α) :
    (Json.array (as.map toJson)).Readable (depth + 1) := by
  refine .array fun v hv => ?_
  obtain ⟨a, -, rfl⟩ := List.mem_map.1 hv
  exact h a

theorem readable_texts (ts : List Text) : (Json.texts ts).Readable (depth + 1) :=
  readable_map Json.string .string ts

theorem JobStatement.readable (st : JobStatement) : st.toJson.Readable (depth + 1) := by
  refine .object ?_
  simp only [List.forall_mem_cons]
  exact ⟨.string _, .string _, fun f hf => by cases hf⟩

theorem Job.readable (job : Job) : job.toJson.Readable (depth + 3) := by
  have hstatements (sts : List JobStatement) : (Json.array (sts.map JobStatement.toJson)).Readable (depth + 2) :=
    readable_map JobStatement.toJson (fun st => st.readable) sts
  refine .object ?_
  simp only [List.forall_mem_cons]
  exact ⟨readable_texts _, hstatements job.ddl, hstatements job.trans, hstatements job.execute,
    fun f hf => by cases hf⟩

/-- A number with no more digits than the reader takes. -/
def IsCount (n : Nat) : Prop := (Text.ofNat n).length ≤ Json.digitLimit

theorem IsCount.of_le {m n : Nat} (hmn : m ≤ n) (hn : IsCount n) : IsCount m := by
  have hdigits (k : Nat) := Nat.length_toDigits_le_iff (b := 10) (n := k) (k := Json.digitLimit) (by decide) (by decide)
  exact (hdigits m).2 (Nat.lt_of_le_of_lt hmn ((hdigits n).1 hn))

/-- The reader takes the counts of a report. -/
def Report.Countable (r : Report) : Prop := IsCount r.insertsRedirected.natAbs ∧ IsCount r.ddlMocked.natAbs

theorem Report.Countable.readable {r : Report} (h : r.Countable) : r.toJson.Readable (depth + 2) := by
  refine .object ?_
  simp only [List.forall_mem_cons]
  exact ⟨.bool _, readable_texts _, readable_texts _, .int h.1, .int h.2, readable_texts _, readable_texts _,
    fun f hf => by cases hf⟩

end Readable

/-! ## Texts -/

/-- Neither the depth at which a text is laid out nor the blanks behind it matter. -/
theorem Job.ofText_write (job : Job) {style : Json.Style} (hstyle : style.Separates) (depth : Nat) {blanks : Text}
    (hblanks : ∀ c ∈ blanks, Json.isSpace c = true) :
    ofText (Json.write style depth job.toJson ++ blanks) = .ok job := by
  have hreadable : job.toJson.Readable Json.depthLimit := job.readable
  rw [ofText, Json.parse?_write hstyle hreadable depth hblanks]
  exact job.ofJson_toJson

theorem Job.ofText_compact (job : Job) : ofText job.compact = .ok job := by
  have h : ofText (job.compact ++ []) = .ok job := job.ofText_write Json.separates_compact 0 (by decide)
  rwa [List.append_nil] at h

/-- The text of a job as it is printed or written to a file. -/
def Job.printed (job : Job) : Text := job.pretty ++ ['\n']

theorem Job.ofText_printed (job : Job) : ofText job.printed = .ok job :=
  job.ofText_write Json.separates_pretty 0 (by decide)

theorem Job.not_mem_printed (job : Job) : '\r' ∉ job.printed := by
  have hreadable : job.toJson.Readable 3 := job.readable
  have hpretty : '\r' ∉ job.pretty := Json.not_mem_write (by decide) (by decide) hreadable 0
  simp [printed, hpretty]

end DryRun
