import DryRun.Log.Format
import DryRun.Proofs.Json.RoundTrip

/-!
# Structured log lines

An entry whose message can be made is written as one JSON object on one line just if its time falls in the years
1 to 9999 (`isOk_iso`); the object is read back with the fields of the entry. The calendar counts years from
March in cycles of 400, so that the first and the last of these years are cut out of a cycle, and only the first
and the last year of a cycle have to be looked at (`year_ofDays`).
-/

namespace DryRun.Log

/-! ## The calendar -/

section Cycle

variable {day year : Nat} (hday : day < 146097)
  (hyear : (day - day / 1460 + day / 36524 - day / 146096) / 365 = year)

include hday hyear

theorem yearOfEra_le : year ≤ 399 := by omega

theorem yearOfEra_eq_first : year = 0 ↔ day < 365 := by omega

theorem yearOfEra_eq_last : year = 399 ↔ 145731 ≤ day := by omega

end Cycle

/-- January and February stand at the end of a year that is counted from March. -/
theorem month_le_two (day : Nat) (h : day ≤ 365) :
    (if (5 * day + 2) / 153 < 10 then (5 * day + 2) / 153 + 3 else (5 * day + 2) / 153 - 9) ≤ 2 ↔ 306 ≤ day := by
  split <;> omega

/-- The days that fall in the years 1 to 9999. -/
theorem year_ofDays (days : Int) :
    (1 ≤ (Date.ofDays days).year ↔ -719162 ≤ days) ∧ ((Date.ofDays days).year ≤ 9999 ↔ days ≤ 2932896) := by
  have hera : (days + 719468).fdiv 146097 = (days + 719468) / 146097 := Int.fdiv_eq_ediv_of_nonneg _ (by decide)
  simp only [Date.ofDays, hera]
  generalize hq : (days + 719468) / 146097 = era
  generalize hd : (days + 719468 - era * 146097).toNat = day
  have hday : day < 146097 := by omega
  have hdays : days + 719468 = era * 146097 + day := by omega
  generalize hyear : (day - day / 1460 + day / 36524 - day / 146096) / 365 = year
  have hle := yearOfEra_le hday hyear
  have hfirst := yearOfEra_eq_first hday hyear
  have hlast := yearOfEra_eq_last hday hyear
  have hmonth := month_le_two (day - (365 * year + year / 4 - year / 100))
  generalize (if (5 * (day - (365 * year + year / 4 - year / 100)) + 2) / 153 < 10 then _ else _) = month at *
  have hnext : (if month ≤ 2 then 1 else 0 : Int) = 1 ∧ month ≤ 2 ∨
      (if month ≤ 2 then 1 else 0 : Int) = 0 ∧ ¬month ≤ 2 := by
    split <;> simp_all
  generalize (if month ≤ 2 then 1 else 0 : Int) = next at *
  clear hyear hq hd hera
  -- The month matters in the first year of the first cycle and in the last year of the last one.
  by_cases hzero : year = 0
  · subst hzero
    constructor <;> omega
  · by_cases hmost : year = 399
    · subst hmost
      constructor <;> omega
    · clear hmonth
      constructor <;> omega

namespace Moment

/-- The moment falls in the years 1 to 9999, when it is rounded to microseconds. -/
def InCalendar (t : Moment) : Prop := -62135596800 ≤ t.rounded.1 ∧ t.rounded.1 < 253402300800

instance (t : Moment) : Decidable t.InCalendar := inferInstanceAs (Decidable (_ ∧ _))

theorem year_ofSeconds (seconds : Int) :
    (1 ≤ (Date.ofSeconds seconds).year ∧ (Date.ofSeconds seconds).year ≤ 9999) ↔
      -62135596800 ≤ seconds ∧ seconds < 253402300800 := by
  have hdays : seconds.fdiv 86400 = seconds / 86400 := Int.fdiv_eq_ediv_of_nonneg _ (by decide)
  rw [Date.ofSeconds, hdays, (year_ofDays _).1, (year_ofDays _).2]
  omega

/-- A year that does not fit in 32 bits does not become one of the first 9999. -/
theorem bmod_year {year : Int} (hleast : -2147481748 ≤ year) (hmost : year < 2147485548) :
    (1 ≤ year.bmod 4294967296 ∧ year.bmod 4294967296 ≤ 9999) ↔ 1 ≤ year ∧ year ≤ 9999 := by
  rw [Int.bmod_def]
  split <;> omega

theorem yearOf_iff (seconds : Int) :
    (∃ year, yearOf seconds = .ok year ∧ 1 ≤ year ∧ year ≤ 9999) ↔
      -62135596800 ≤ seconds ∧ seconds < 253402300800 := by
  have hrange := year_ofSeconds seconds
  unfold yearOf
  dsimp only
  generalize (Date.ofSeconds seconds).year = year at *
  split
  · rename_i hout
    simp only [Bool.or_eq_true, decide_eq_true_eq] at hout
    exact iff_of_false (fun ⟨_, hy, _⟩ => by cases hy) (by omega)
  · split
    · rename_i hout
      simp only [Bool.or_eq_true, decide_eq_true_eq] at hout
      exact iff_of_false (fun ⟨_, hy, _⟩ => by cases hy) (by omega)
    · rename_i hin
      simp only [Bool.or_eq_true, decide_eq_true_eq] at hin
      rw [← hrange, ← bmod_year (by omega) (by omega)]
      exact ⟨fun ⟨_, hy, h⟩ => by cases hy; exact h, fun h => ⟨_, rfl, h⟩⟩

/-- The years that a time stamp can have. -/
theorem isOk_iso (t : Moment) : (∃ time, t.iso = .ok time) ↔ t.InCalendar := by
  rw [InCalendar, ← yearOf_iff, iso]
  dsimp only
  cases yearOf t.rounded.1 with
  | error e => exact iff_of_false (fun ⟨_, h⟩ => by cases h) fun ⟨_, h, _⟩ => by cases h
  | ok year =>
    dsimp only
    split
    · rename_i hout
      simp only [Bool.or_eq_true, decide_eq_true_eq] at hout
      refine iff_of_false (fun ⟨_, h⟩ => by cases h) fun ⟨y, h, hfirst, hlast⟩ => ?_
      cases h
      omega
    · rename_i hin
      simp only [Bool.or_eq_true, decide_eq_true_eq] at hin
      exact iff_of_true ⟨_, rfl⟩ ⟨year, rfl, by omega, by omega⟩

end Moment

/-! ## Lines -/

namespace Entry

/-- The fields of an entry about an optional statement. -/
theorem fields_eq {e : Entry} {s : Option Text} (hs : e.statement = .textOrNull s) (time message : Text) :
    e.fields time message =
      [("timestamp".toList, .string time), ("level".toList, .string (levelName e.level)),
       ("logger".toList, .string e.logger), ("message".toList, .string message)] ++
      (s.map fun t => ("statement".toList, .string t)).toList ++
      (e.failure.map fun f => ("exc_info".toList, .string f)).toList := by
  rw [fields, hs]
  cases s <;> cases e.failure <;> rfl

theorem readable_fields {e : Entry} {s : Option Text} (hs : e.statement = .textOrNull s) (time message : Text) :
    (Json.object (e.fields time message)).Readable Json.depthLimit := by
  refine .object fun f hf => ?_
  have hstring : ∃ t, f.2 = .string t := by
    rw [fields_eq hs] at hf
    simp only [List.mem_append, List.mem_cons, List.not_mem_nil, or_false, Option.mem_toList,
      Option.map_eq_some_iff] at hf
    rcases hf with ((rfl | rfl | rfl | rfl) | ⟨_, -, rfl⟩) | ⟨_, -, rfl⟩ <;> exact ⟨_, rfl⟩
  obtain ⟨t, ht⟩ := hstring
  rw [ht]
  exact .string t

/-- What a structured line is, if the message can be made. -/
theorem structured_eq_ok {e : Entry} {message line : Text}
    (hmessage : formatMessage e.message e.arguments = .ok message) :
    e.structured = .ok line ↔
      ∃ time, e.created.iso = .ok time ∧ line = Json.render .spaced (.object (e.fields time message)) := by
  have hbody : e.body = .ok message := by rw [body, hmessage]; rfl
  rw [structured, hbody]
  cases e.created.iso with
  | error cause => exact iff_of_false (fun h => by cases h) fun ⟨_, h, _⟩ => by cases h
  | ok time =>
    constructor
    · intro h
      cases h
      exact ⟨time, rfl, rfl⟩
    · rintro ⟨_, h, rfl⟩
      cases h
      rfl

/-- An entry whose message can be made is written just if its time is one of the calendar. The line has no line
end and is read as one object with the fields of the entry, in their order: a statement if there is one, and
what is told about a failure if there was one. -/
theorem structured_reads_back {e : Entry} {s : Option Text} {message : Text} (hs : e.statement = .textOrNull s)
    (hmessage : formatMessage e.message e.arguments = .ok message) :
    ((∃ line, e.structured = .ok line) ↔ e.created.InCalendar) ∧
    ∀ line, e.structured = .ok line → '\n' ∉ line ∧ '\r' ∉ line ∧
      ∃ time, e.created.iso = .ok time ∧ Json.parse? line = some (.object
        ([("timestamp".toList, .string time), ("level".toList, .string (levelName e.level)),
          ("logger".toList, .string e.logger), ("message".toList, .string message)] ++
         (s.map fun t => ("statement".toList, .string t)).toList ++
         (e.failure.map fun f => ("exc_info".toList, .string f)).toList)) := by
  constructor
  · rw [← Moment.isOk_iso]
    constructor
    · rintro ⟨line, h⟩
      obtain ⟨time, htime, -⟩ := (structured_eq_ok hmessage).1 h
      exact ⟨time, htime⟩
    · rintro ⟨time, htime⟩
      exact ⟨_, (structured_eq_ok hmessage).2 ⟨time, htime, rfl⟩⟩
  · intro line h
    obtain ⟨time, htime, rfl⟩ := (structured_eq_ok hmessage).1 h
    have hreadable := readable_fields hs time message
    have hchars : ∀ c ∈ Json.render .spaced (.object (e.fields time message)), Json.isLineChar false c = true :=
      Json.isLineChar_write (by decide) (by decide) hreadable 0
    refine ⟨fun hmem => ?_, fun hmem => ?_, time, htime, ?_⟩
    · cases hchars _ hmem
    · cases hchars _ hmem
    · rw [← fields_eq hs]
      have hparse := Json.parse?_render Json.separates_spaced hreadable (List.forall_mem_nil _)
      rwa [List.append_nil] at hparse

/-- A message with line ends and quotes, about a statement of two lines, with a failure during another one. -/
theorem structured_reads_back_chained :
    let failure := "Trace, last call last:\n  \x22read\x22, line 2\nno key \x27k\x27\n\n".toList ++
      "During handling of this failure, another one occurred:\n\nbad value\n".toList
    let e : Entry := ⟨"a.b".toList, 35, "no %s: \x22%s\x22".toList, [.int 7, .string "é\r\n".toList],
      ⟨false, 1715776496, 1, 2⟩, .string "INSERT\nINTO t".toList, some failure⟩
    let message := "no 7: \x22é\r\n\x22".toList
    formatMessage e.message e.arguments = .ok message ∧ e.created.InCalendar ∧
    ∃ line, e.structured = .ok line ∧ '\n' ∉ line ∧ '\r' ∉ line ∧
      ∃ time, e.created.iso = .ok time ∧ Json.parse? line = some (.object
        [("timestamp".toList, .string time), ("level".toList, .string "Level 35".toList),
         ("logger".toList, .string "a.b".toList), ("message".toList, .string message),
         ("statement".toList, .string "INSERT\nINTO t".toList), ("exc_info".toList, .string failure)]) := by
  intro failure e message
  have hmessage : formatMessage e.message e.arguments = .ok message := eq_ok_of_toOption (by decide +kernel)
  have hcalendar : e.created.InCalendar := by decide +kernel
  have hs : e.statement = .textOrNull (some "INSERT\nINTO t".toList) := rfl
  obtain ⟨hiff, hline⟩ := structured_reads_back hs hmessage
  obtain ⟨line, h⟩ := hiff.2 hcalendar
  exact ⟨hmessage, hcalendar, line, h, hline line h⟩

end Entry

end DryRun.Log
