import DryRun.Command.Run
import DryRun.Proofs.Console.Markup
import DryRun.Proofs.Json.RoundTrip
import DryRun.Proofs.Text.Utf8

/-!
# Files that hold no job

A command line that asks for a job to be prepared reads the file of the job before anything else. If the file
holds no job, nothing is printed and no file is written (`run_invalidJob`). The exit code is that of an invalid
job only if the octets are text and the message about the issues can be shown: the message repeats parts of the
file, and a tag among them that cannot be closed or looked up ends the command early.
-/

namespace DryRun.Command

open Validation

/-- The command line asks for a job to be prepared, and the settings for its logger are valid. -/
structure Invocation.Prepares (i : Invocation) (file : Option Text) (g : Globals) (r : PrepareRequest) :
    Prop where
  words : ∃ rest, readGlobals i.environment i.words = .ok (g, .prepare, rest) ∧
    PrepareRequest.ofWords i.files rest = .ok r
  dotenv : dotenv i.files = .ok file
  settings : ∃ settings, Settings.load ⟨g.overrides, i.environment, file⟩ = .ok settings

/-- An outcome that is no more than a beginning. -/
def Outcome.IsStart (o : Outcome) (files : Files) : Prop := o.stdout = [] ∧ o.files = files

/-- Nothing is printed or written before the file of the job is read. -/
theorem run_prepares {i : Invocation} {file : Option Text} {g : Globals} {r : PrepareRequest}
    (h : i.Prepares file g r) : ∃ o : Outcome, o.IsStart i.files ∧ run i = runPrepare i file g r o := by
  obtain ⟨rest, hglobals, hrequest⟩ := h.words
  obtain ⟨settings, hsettings⟩ := h.settings
  refine ⟨({ files := i.files : Outcome }.logged settings.loadLog).configured settings, ⟨rfl, rfl⟩, ?_⟩
  simp only [run, hglobals, h.dotenv, hsettings, runCommand, hrequest]

/-! ## The message -/

/-- The message about the issues of a job. -/
def jobMessage (issues : List Issue) : Text :=
  "Failed to read job: ".toList ++ describe "JobParam".toList issues

theorem getLast?_append_some {t u : Text} {c : Char} (h : u.getLast? = some c) :
    (t ++ u).getLast? = some c := by
  rw [List.getLast?_append, h, Option.some_or]

theorem getLast?_join {separator : Text} {c : Char} {ts : List Text} (hne : ts ≠ [])
    (h : ∀ t ∈ ts, t.getLast? = some c) : (Text.join separator ts).getLast? = some c := by
  induction ts with
  | nil => exact absurd rfl hne
  | cons t ts ih =>
    obtain ⟨ht, hts⟩ := List.forall_mem_cons.1 h
    cases ts with
    | nil => exact ht
    | cons u us => exact getLast?_append_some (ih (by simp) hts)

theorem getLast?_describe (issue : Issue) : issue.describe.getLast? = some ']' := by
  rw [Issue.describe]
  exact getLast?_append_some (by decide)

/-- No message ends in a backslash. -/
theorem getLast?_jobMessage (issues : List Issue) : (jobMessage issues).getLast? ≠ some '\\' := by
  have hlast : (jobMessage issues).getLast? = some '\n' ∨ (jobMessage issues).getLast? = some ']' := by
    unfold jobMessage describe
    cases issues with
    | nil =>
      rw [List.map_nil, Text.join, List.append_nil]
      exact .inl (getLast?_append_some (getLast?_append_some rfl))
    | cons issue issues =>
      refine .inr (getLast?_append_some (getLast?_append_some (getLast?_join (by simp) ?_)))
      intro t ht
      obtain ⟨issue, -, rfl⟩ := List.mem_map.1 ht
      exact getLast?_describe issue
  rcases hlast with h | h <;> rw [h] <;> decide

/-- A text in red. -/
def inRed (t : Text) : Text := "[red]".toList ++ t ++ "[/red]".toList

theorem redLines_eq (screen : Console.Screen) (t : Text) :
    redLines screen t = (screen.drawn (inRed t)).map (Console.wrap .natural .fold screen.width) := rfl

/-- The tags of a text match when it is shown in red. -/
def MatchedInRed (screen : Console.Screen) (t : Text) : Prop :=
  Markup.Matched screen.evaluates [] (Markup.pieces (inRed t))

/-! ## Invalid jobs -/

/-- The octets of a file that is no text, or whose text validates to no job. -/
def HoldsNoJob (octets : List UInt8) : Prop :=
  ∀ t job, Text.ofFile? octets = some t → Job.ofText t ≠ .ok job

/-- What a file that holds no job can come to. -/
inductive InvalidJob (screen : Console.Screen) (octets : List UInt8) : Ending → Prop where
  | notText (h : Text.ofFile? octets = none) : InvalidJob screen octets (.crashed .notUtf8)
  | shown {t p : Text} {issues : List Issue} (ht : Text.ofFile? octets = some t)
      (h : Job.ofText t = .error issues) (hdrawn : screen.drawn (inRed (jobMessage issues)) = .ok p) :
      InvalidJob screen octets (.invalidJob issues)
  | unshown {t : Text} {issues : List Issue} {e : Markup.Error} (ht : Text.ofFile? octets = some t)
      (h : Job.ofText t = .error issues) (hdrawn : screen.drawn (inRed (jobMessage issues)) = .error e) :
      InvalidJob screen octets (.crashed (.markup e))

section

variable {screen : Console.Screen} {octets : List UInt8} {ending : Ending}

theorem InvalidJob.exitCode (h : InvalidJob screen octets ending) :
    ending.exitCode = 2 ∨ ending.exitCode = 1 := by
  cases h with
  | notText => exact .inr rfl
  | shown => exact .inl rfl
  | unshown => exact .inr rfl

theorem InvalidJob.exitCode_eq_two_iff (h : InvalidJob screen octets ending) : ending.exitCode = 2 ↔
    ∃ t issues p, Text.ofFile? octets = some t ∧ Job.ofText t = .error issues ∧
      screen.drawn (inRed (jobMessage issues)) = .ok p := by
  cases h with
  | notText h =>
    refine ⟨fun hcode => (by cases hcode), ?_⟩
    rintro ⟨t, issues, p, ht, -⟩
    rw [h] at ht
    cases ht
  | shown ht h hdrawn => exact ⟨fun _ => ⟨_, _, _, ht, h, hdrawn⟩, fun _ => rfl⟩
  | unshown ht h hdrawn =>
    refine ⟨fun hcode => (by cases hcode), ?_⟩
    rintro ⟨t, issues, p, ht', h', hdrawn'⟩
    rw [ht] at ht'
    cases ht'
    rw [h] at h'
    cases h'
    rw [hdrawn] at hdrawn'
    cases hdrawn'

/-- A message in whose tags every style can be looked up is shown just if they match. -/
theorem InvalidJob.exitCode_of_looksUp (h : InvalidJob screen octets ending) {t : Text} {issues : List Issue}
    (ht : Text.ofFile? octets = some t) (hissues : Job.ofText t = .error issues)
    (hups : Markup.LooksUp (inRed (jobMessage issues))) :
    ending.exitCode = 2 ↔ MatchedInRed screen (jobMessage issues) := by
  rw [h.exitCode_eq_two_iff]
  constructor
  · rintro ⟨t', issues', p, ht', hissues', hdrawn⟩
    rw [ht] at ht'
    cases ht'
    rw [hissues] at hissues'
    cases hissues'
    exact (Markup.showsVisibly_of_drawn hdrawn).1
  · intro hmatched
    obtain ⟨p, hdrawn⟩ := Markup.Shows.drawn ⟨hmatched, hups⟩
    exact ⟨t, issues, p, ht, hissues, hdrawn⟩

end

theorem runPrepare_invalid (i : Invocation) (file : Option Text) (g : Globals) {r : PrepareRequest}
    (o : Outcome) (hinvalid : HoldsNoJob r.job) :
    (runPrepare i file g r o).stdout = o.stdout ∧ (runPrepare i file g r o).files = o.files ∧
      InvalidJob i.screen r.job (runPrepare i file g r o).ending := by
  rw [runPrepare]
  cases ht : Text.ofFile? r.job with
  | none => exact ⟨rfl, rfl, .notText ht⟩
  | some t =>
    dsimp only
    cases hjob : Job.ofText t with
    | ok job => exact absurd hjob (hinvalid t job ht)
    | error issues =>
      have hmessage : "Failed to read job: ".toList ++ describe "JobParam".toList issues = jobMessage issues := rfl
      dsimp only
      rw [hmessage, redLines_eq]
      cases hdrawn : i.screen.drawn (inRed (jobMessage issues)) with
      | ok p => exact ⟨rfl, rfl, .shown ht hjob hdrawn⟩
      | error e => exact ⟨rfl, rfl, .unshown ht hjob hdrawn⟩

theorem run_invalid {i : Invocation} {file : Option Text} {g : Globals} {r : PrepareRequest}
    (h : i.Prepares file g r) (hinvalid : HoldsNoJob r.job) :
    (run i).stdout = [] ∧ (run i).files = i.files ∧ InvalidJob i.screen r.job (run i).ending := by
  obtain ⟨o, ⟨hout, hfiles⟩, hrun⟩ := run_prepares h
  obtain ⟨hstdout, hsame, hending⟩ := runPrepare_invalid i file g o hinvalid
  rw [hrun]
  exact ⟨hstdout.trans hout, hsame.trans hfiles, hending⟩

/-- A file that holds no job leaves nothing printed and no file changed, and the exit code is 2 or 1. It is 2 only if
the octets are text, the tags of the message match and what is visible of it is drawn in styles that can be looked up.
If all its tags can be looked up, the exit code is 2 just if they match, which they do if no bracket in the message is
followed by a slash. -/
theorem run_invalidJob {i : Invocation} {file : Option Text} {g : Globals} {r : PrepareRequest}
    (h : i.Prepares file g r) (hinvalid : HoldsNoJob r.job) :
    (run i).stdout = [] ∧ (run i).files = i.files ∧
    ((run i).ending.exitCode = 2 ∨ (run i).ending.exitCode = 1) ∧
    ((run i).ending.exitCode = 2 → ∃ t issues, Text.ofFile? r.job = some t ∧ Job.ofText t = .error issues ∧
      Markup.ShowsVisibly i.screen.evaluates (inRed (jobMessage issues))) ∧
    ∀ t issues, Text.ofFile? r.job = some t → Job.ofText t = .error issues →
      Markup.LooksUp (inRed (jobMessage issues)) →
      ((run i).ending.exitCode = 2 ↔ MatchedInRed i.screen (jobMessage issues)) ∧
      (¬['[', '/'] <:+: jobMessage issues → (run i).ending.exitCode = 2) := by
  obtain ⟨hstdout, hfiles, hending⟩ := run_invalid h hinvalid
  refine ⟨hstdout, hfiles, hending.exitCode, fun htwo => ?_, fun t issues ht hissues hups => ?_⟩
  · obtain ⟨t, issues, p, ht, hissues, hdrawn⟩ := hending.exitCode_eq_two_iff.1 htwo
    exact ⟨t, issues, ht, hissues, Markup.showsVisibly_of_drawn hdrawn⟩
  · have hiff := hending.exitCode_of_looksUp ht hissues hups
    exact ⟨hiff, fun hslash => hiff.2 (Markup.matched_red (getLast?_jobMessage issues) hslash hups)⟩

/-! ## A text where a list is expected -/

/-- A command line for a job in a file with the given octets. -/
def prepareOctets (octets : List UInt8) : Invocation where
  words := ["rewrite".toList, "job.json".toList, "--out".toList, "new.json".toList]
  files := { entries := [⟨["job.json".toList], octets⟩] }

theorem exists_ok {ε α : Type} {x : Except ε α} (h : x.isOk = true) : ∃ a, x = .ok a := by
  cases x with
  | ok a => exact ⟨a, rfl⟩
  | error e => cases h

theorem prepares_octets (octets : List UInt8) :
    (prepareOctets octets).Prepares none ⟨false, none, false⟩
      ⟨octets, some ⟨[], ["new.json".toList]⟩, none, false⟩ where
  words := ⟨_, rfl, rfl⟩
  dotenv := rfl
  settings := by
    have hsettings : (Settings.load ⟨Globals.overrides ⟨false, none, false⟩, [], none⟩).isOk = true := by
      decide +kernel
    exact exists_ok hsettings

/-- A job with a text for the list of transforms. -/
def textForList (value : Text) : Json := .object [("trans".toList, .string value)]

/-- The octets of such a job. -/
def textOctets (value : String) : List UInt8 := Text.toUtf8 (Json.render .spaced (textForList value.toList))

/-- The issue of such a job. -/
def textIssue (value : Text) : Issue := ⟨[.key "trans".toList], .notList, .string value⟩

theorem readable_textForList (value : Text) {depth : Nat} : (textForList value).Readable (depth + 1) := by
  refine .object ?_
  rw [List.forall_mem_cons]
  exact ⟨.string value, fun f hf => by cases hf⟩

theorem ofFile?_textOctets (value : String) :
    Text.ofFile? (textOctets value) = some (Json.render .spaced (textForList value.toList)) := by
  have hreadable : (textForList value.toList).Readable 1 := readable_textForList _
  exact Text.ofFile?_toUtf8 (Json.not_mem_write (by decide) (by decide) hreadable 0)

theorem ofText_textForList (value : Text) :
    Job.ofText (Json.render .spaced (textForList value)) = .error [textIssue value] := by
  have hreadable : (textForList value).Readable Json.depthLimit := readable_textForList value
  have hparse : Json.parse? (Json.render .spaced (textForList value) ++ []) = some (textForList value) :=
    Json.parse?_render Json.separates_spaced hreadable (by decide)
  rw [List.append_nil] at hparse
  rw [Job.ofText, hparse]
  rfl

theorem holdsNoJob_textOctets (value : String) : HoldsNoJob (textOctets value) := by
  intro t job ht
  rw [ofFile?_textOctets] at ht
  cases ht
  rw [ofText_textForList]
  rintro ⟨⟩

/-- The message about a short text is shown. -/
theorem run_invalidJob_text : (run (prepareOctets (textOctets "x"))).ending.exitCode = 2 ∧
    (run (prepareOctets (textOctets "x"))).stdout = [] := by
  have hups : Markup.LooksUp (inRed (jobMessage [textIssue "x".toList])) := by decide +kernel
  have hslash : ¬['[', '/'] <:+: jobMessage [textIssue "x".toList] := by decide +kernel
  obtain ⟨hstdout, -, -, -, hcode⟩ := run_invalidJob (prepares_octets (textOctets "x")) (holdsNoJob_textOctets "x")
  exact ⟨(hcode _ _ (ofFile?_textOctets "x") (ofText_textForList "x".toList) hups).2 hslash, hstdout⟩

theorem run_textOctets_unshown {value : String}
    (h : ∀ p, Console.Screen.drawn {} (inRed (jobMessage [textIssue value.toList])) ≠ .ok p) :
    (run (prepareOctets (textOctets value))).ending.exitCode = 1 := by
  obtain ⟨-, -, hending⟩ := run_invalid (prepares_octets (textOctets value)) (holdsNoJob_textOctets value)
  refine hending.exitCode.resolve_left fun htwo => ?_
  obtain ⟨t, issues, p, ht, hissues, hdrawn⟩ := hending.exitCode_eq_two_iff.1 htwo
  rw [ofFile?_textOctets] at ht
  cases ht
  rw [ofText_textForList] at hissues
  cases hissues
  exact h p hdrawn

/-- Texts whose tags keep the message from being shown: a closing tag too many, a share of a colour that is no number,
in the name of a tag or set off from it, and a handler whose parameters are no values. -/
def unshownTexts : List String := ["[/][/]", "[rgb(,,)]", "[red=rgb(,,)]x[/]", "[@a=(]x[/]"]

/-- Octets that are no text, and texts with such tags, end the command with another exit code. -/
theorem run_invalidJob_unhandled : (run (prepareOctets [0xff])).ending.exitCode = 1 ∧
    ∀ value ∈ unshownTexts, (run (prepareOctets (textOctets value))).ending.exitCode = 1 := by
  constructor
  · have ht : Text.ofFile? [0xff] = none := by decide +kernel
    have hinvalid : HoldsNoJob [0xff] := by
      intro t job h
      rw [ht] at h
      cases h
    obtain ⟨-, -, hending⟩ := run_invalid (prepares_octets [0xff]) hinvalid
    refine hending.exitCode.resolve_left fun htwo => ?_
    obtain ⟨t, issues, p, h, -⟩ := hending.exitCode_eq_two_iff.1 htwo
    rw [ht] at h
    cases h
  · intro value hvalue
    have hnone : ∀ value ∈ unshownTexts,
        (Console.Screen.drawn {} (inRed (jobMessage [textIssue value.toList]))).toOption = none := by
      decide +kernel
    refine run_textOctets_unshown fun p hp => ?_
    have hsome := hnone value hvalue
    rw [hp] at hsome
    cases hsome

end DryRun.Command
