import DryRun.Proofs.Command.JobFile
import DryRun.Proofs.Settings.Sources

/-!
# Settings that a command loads again

The options for all commands override two settings, and what is wrong with the overridden values stays hidden
while the options are read. A command that needs settings loads them again without the options and has no
message for settings that are not valid. `run_reloads` says when it dies of that: exactly if the environment or
the file names no log level, or no truth value for structured logs, where an option does.
-/

namespace DryRun.Command

open Validation

/-- The options for all commands are understood, and the settings are valid under them. -/
structure Invocation.Starts (i : Invocation) (g : Globals) (command : CommandName) (rest : List Text)
    (file : Option Text) : Prop where
  words : readGlobals i.environment i.words = .ok (g, command, rest)
  dotenv : dotenv i.files = .ok file
  settings : (Settings.load ⟨g.overrides, i.environment, file⟩).isOk = true

/-- The command loads settings: it prepares a job that is valid, or prints a definition for which no connector
is given. -/
inductive Reloads (i : Invocation) : CommandName → List Text → Prop where
  | prepare {rest : List Text} {r : PrepareRequest} {t : Text} {job : Job}
      (request : PrepareRequest.ofWords i.files rest = .ok r) (text : Text.ofFile? r.job = some t)
      (job : Job.ofText t = .ok job) : Reloads i .prepare rest
  | ddl {rest : List Text} {r : DdlRequest} (request : DdlRequest.ofWords rest = .ok r)
      (connector : r.connector = none) : Reloads i .ddl rest

/-- The command does not die of settings. -/
def Outcome.Settled (o : Outcome) : Prop := ∀ issues, o.ending ≠ .crashed (.invalidSettings issues)

/-! ## Once settings are there -/

theorem Outcome.Settled.of_done {o : Outcome} (h : o.ending = .done) : o.Settled := by
  intro issues
  rw [h]
  rintro ⟨⟩

theorem settled_showing {o : Outcome} {lines : Except Markup.Error (List Text)} {next : Outcome → Outcome}
    (h : ∀ shown, (next { o with stderr := shown }).Settled) : (o.showing lines next).Settled := by
  cases lines with
  | ok lines => exact h _
  | error e => rintro issues ⟨⟩

theorem settled_deliver {i : Invocation} {g : Globals} {r : PrepareRequest} {job : Job} {report : Report}
    {o : Outcome} (ho : o.ending = .done) : (deliver i g r job report o).Settled := by
  have hshown (o : Outcome) (ho : o.ending = .done) :
      ((o.printed (prepareText g r job report)).showing (Console.reportLines i.screen report) fun o =>
        if r.showStatements then
          o.showing (Console.statementLines i.screen "DDL".toList job.ddl) fun o =>
            o.showing (Console.statementLines i.screen "Transforms".toList job.trans) id
        else o).Settled := by
    refine settled_showing fun shown => ?_
    split
    · exact settled_showing fun shown => settled_showing fun shown => .of_done ho
    · exact .of_done ho
  rw [deliver, writeJob]
  split
  · exact hshown o ho
  · split
    · rintro issues ⟨⟩
    · exact settled_showing fun shown => hshown _ ho

theorem settled_prepareWith {i : Invocation} {g : Globals} {r : PrepareRequest} {job : Job}
    {settings : Settings} {o : Outcome} (ho : o.ending = .done) : (prepareWith i g r job settings o).Settled := by
  unfold prepareWith
  dsimp only
  split
  · exact settled_deliver ho
  · exact settled_showing fun shown issues => (by rintro ⟨⟩)

/-- A command dies of settings just if they are not valid when it loads them. -/
theorem withSettings_rejects {i : Invocation} {file : Option Text} {o : Outcome}
    {next : Settings → Outcome → Outcome} (ho : o.ending = .done)
    (hnext : ∀ settings o, o.ending = .done → (next settings o).Settled) {issues : List Issue} :
    (withSettings i file o next).ending = .crashed (.invalidSettings issues) ↔
      Settings.load ⟨[], i.environment, file⟩ = .error issues := by
  rw [withSettings]
  cases Settings.load ⟨[], i.environment, file⟩ with
  | error found =>
    constructor
    · rintro ⟨⟩
      rfl
    · rintro ⟨⟩
      rfl
  | ok settings =>
    exact ⟨fun h => absurd h (hnext settings (o.logged settings.loadLog) ho issues), fun h => (by cases h)⟩

theorem runPrepare_rejects {i : Invocation} {file : Option Text} {g : Globals} {r : PrepareRequest}
    {o : Outcome} (ho : o.ending = .done) {issues : List Issue} :
    (runPrepare i file g r o).ending = .crashed (.invalidSettings issues) ↔
      (∃ t job, Text.ofFile? r.job = some t ∧ Job.ofText t = .ok job) ∧
        Settings.load ⟨[], i.environment, file⟩ = .error issues := by
  rw [runPrepare]
  cases ht : Text.ofFile? r.job with
  | none => exact ⟨fun h => (by cases h), by rintro ⟨⟨t, job, hnone, -⟩, -⟩; cases hnone⟩
  | some t =>
    dsimp only
    cases hjob : Job.ofText t with
    | error found =>
      constructor
      · intro h
        exact absurd h (settled_showing (fun shown issues => (by rintro ⟨⟩)) issues)
      · rintro ⟨⟨t', job, ⟨⟩, hok⟩, -⟩
        rw [hjob] at hok
        cases hok
    | ok job =>
      refine (withSettings_rejects ho fun settings o => settled_prepareWith).trans ?_
      exact ⟨fun h => ⟨⟨t, job, rfl, hjob⟩, h⟩, fun h => h.2⟩

theorem runDdl_rejects {i : Invocation} {file : Option Text} {r : DdlRequest} {o : Outcome}
    (ho : o.ending = .done) {issues : List Issue} :
    (runDdl i file r o).ending = .crashed (.invalidSettings issues) ↔
      r.connector = none ∧ Settings.load ⟨[], i.environment, file⟩ = .error issues := by
  have hdropped :
      (if r.drop then o.printed (Mock.dropTable r.table ++ ";\n".toList) else o).ending = .done := by
    split <;> exact ho
  rw [runDdl]
  cases r.connector with
  | some connector =>
    exact ⟨fun h => absurd h (Outcome.Settled.of_done (o := printCreate r connector _) hdropped issues),
      fun h => (by cases h.1)⟩
  | none =>
    have hprinted (settings : Settings) (o : Outcome) (ho : o.ending = .done) :
        (printCreate r settings.mockConnector o).Settled := .of_done ho
    refine (withSettings_rejects hdropped hprinted).trans ?_
    exact ⟨fun h => ⟨rfl, h⟩, fun h => h.2⟩

/-! ## The whole command -/

theorem runCommand_rejects {i : Invocation} {file : Option Text} {g : Globals} {command : CommandName}
    {rest : List Text} {o : Outcome} (ho : o.ending = .done) {issues : List Issue} :
    (runCommand i file g command rest o).ending = .crashed (.invalidSettings issues) ↔
      Reloads i command rest ∧ Settings.load ⟨[], i.environment, file⟩ = .error issues := by
  cases command with
  | prepare =>
    rw [runCommand]
    cases hr : PrepareRequest.ofWords i.files rest with
    | error e =>
      refine ⟨fun h => (by cases h), ?_⟩
      rintro ⟨⟨request, -, -⟩, -⟩
      rw [hr] at request
      cases request
    | ok r =>
      refine (runPrepare_rejects ho).trans (and_congr ?_ Iff.rfl)
      constructor
      · rintro ⟨t, job, ht, hjob⟩
        exact .prepare hr ht hjob
      · rintro ⟨request, ht, hjob⟩
        rw [hr] at request
        cases request
        exact ⟨_, _, ht, hjob⟩
  | ddl =>
    rw [runCommand]
    cases hr : DdlRequest.ofWords rest with
    | error e =>
      refine ⟨fun h => (by cases h), ?_⟩
      rintro ⟨(_ | ⟨request, -⟩), -⟩
      rw [hr] at request
      cases request
    | ok r =>
      refine (runDdl_rejects ho).trans (and_congr ?_ Iff.rfl)
      constructor
      · exact .ddl hr
      · rintro (_ | ⟨request, hnone⟩)
        rw [hr] at request
        cases request
        exact hnone
  | name =>
    have hsettled : (runCommand i file g .name rest o).Settled := by
      rw [runCommand]
      split
      · rintro issues ⟨⟩
      · exact .of_done ho
    refine ⟨fun h => absurd h (hsettled issues), ?_⟩
    rintro ⟨⟨⟩, -⟩

/-- A command that starts dies of settings just if it loads them again and they are not valid then. -/
theorem run_rejects {i : Invocation} {g : Globals} {command : CommandName} {rest : List Text}
    {file : Option Text} (h : i.Starts g command rest file) {issues : List Issue} :
    (run i).ending = .crashed (.invalidSettings issues) ↔
      Reloads i command rest ∧ Settings.load ⟨[], i.environment, file⟩ = .error issues := by
  obtain ⟨settings, hsettings⟩ := exists_ok h.settings
  have hrun : run i = runCommand i file g command rest
      (({ files := i.files : Outcome }.logged settings.loadLog).configured settings) := by
    simp only [run, h.words, h.dotenv, hsettings]
  rw [hrun]
  exact runCommand_rejects rfl

/-- The options for all commands override the settings for the log. -/
theorem overridesLog_overrides (g : Globals) : Settings.OverridesLog g.overrides := by
  intro o ho
  obtain ⟨json, logLevel, structuredLogs⟩ := g
  cases logLevel with
  | none =>
    have hnamed : Settings.namedOverrides (Globals.overrides ⟨json, none, structuredLogs⟩) =
        [("structured_logging".toList, .bool structuredLogs)] := rfl
    rw [hnamed] at ho
    exact .inr (congrArg Prod.fst (List.mem_singleton.1 ho))
  | some level =>
    have hnamed : Settings.namedOverrides (Globals.overrides ⟨json, some level, structuredLogs⟩) =
        [("structured_logging".toList, .bool structuredLogs), ("log_level".toList, .string level)] := rfl
    rw [hnamed] at ho
    rcases List.mem_cons.1 ho with rfl | ho
    · exact .inr rfl
    · exact .inl (congrArg Prod.fst (List.mem_singleton.1 ho))

/-- A command that starts dies of settings exactly if it loads them again and the environment, or else the file,
gives a text that names no log level or one that stands for no truth value, for a setting that the options
override. All issues are at these two settings. -/
theorem run_reloads {i : Invocation} {g : Globals} {command : CommandName} {rest : List Text}
    {file : Option Text} (h : i.Starts g command rest file) :
    ((∃ issues, (run i).ending = .crashed (.invalidSettings issues)) ↔ Reloads i command rest ∧
      ((∃ t, Settings.givenText? i.environment file "log_level".toList = some t ∧ ¬Settings.NamesLevel t) ∨
        ∃ t, Settings.givenText? i.environment file "structured_logging".toList = some t ∧
          ¬Settings.NamesTruth t)) ∧
    ∀ issues, (run i).ending = .crashed (.invalidSettings issues) → ∀ issue ∈ issues,
      issue.place.head? = some (.key "log_level".toList) ∨
        issue.place.head? = some (.key "structured_logging".toList) := by
  have hlog := overridesLog_overrides g
  refine ⟨?_, fun issues hending issue hissue => ?_⟩
  · rw [← Settings.load_eq_error_iff hlog h.settings]
    simp only [run_rejects h, exists_and_left]
  · obtain ⟨-, hload⟩ := (run_rejects h).1 hending
    have hissues := (Settings.load_hidden hlog h.settings).2
    rw [hload] at hissues
    rw [show issues = _ from hissues] at hissue
    exact (List.mem_append.1 hissue).imp place_optional place_optional

/-! ## Hidden values -/

/-- A text of a file of settings that is no truth value. -/
def vagueFile : Text := "MOCKSINK_STRUCTURED_LOGGING=maybe".toList

/-- A command line for a definition in a directory with such a file. -/
def ddlUnderFile : Invocation where
  words := ["ddl".toList, "t".toList, "id INT".toList]
  files := { entries := [⟨[".env".toList], Text.toUtf8 vagueFile⟩] }

theorem starts_ddlUnderFile :
    ddlUnderFile.Starts ⟨false, none, false⟩ .ddl ["t".toList, "id INT".toList] (some vagueFile) where
  words := rfl
  dotenv := by
    have hread : ddlUnderFile.files.read? (ddlUnderFile.files.base ++ [".env".toList]) =
        some (Text.toUtf8 vagueFile) := rfl
    simp only [dotenv, hread, Text.ofUtf8?_toUtf8]
  settings := by decide +kernel

/-- A file hides what is wrong with its choice of structured logs even if no option is given. -/
theorem run_reloads_file : ∃ issues, (run ddlUnderFile).ending = .crashed (.invalidSettings issues) := by
  refine (run_reloads starts_ddlUnderFile).1.2 ⟨.ddl rfl rfl, .inr ⟨"maybe".toList, ?_, ?_⟩⟩
  · decide +kernel
  · decide +kernel

/-- A command line that names a log level where the environment names none. -/
def ddlUnderLevel : Invocation where
  words := ["--log-level".toList, "INFO".toList, "ddl".toList, "t".toList, "id INT".toList]
  environment := [("MOCKSINK_LOG_LEVEL".toList, "bogus".toList)]

theorem run_dies_of_hidden_level :
    ddlUnderLevel.Starts ⟨false, some "INFO".toList, false⟩ .ddl ["t".toList, "id INT".toList] none ∧
      ∃ issues, (run ddlUnderLevel).ending = .crashed (.invalidSettings issues) := by
  have hstarts : ddlUnderLevel.Starts ⟨false, some "INFO".toList, false⟩ .ddl
      ["t".toList, "id INT".toList] none :=
    ⟨rfl, rfl, by decide +kernel⟩
  obtain ⟨issues, hload⟩ := (exists_error_iff (a := Settings.load ⟨[], ddlUnderLevel.environment, none⟩)).2
    (by decide +kernel)
  exact ⟨hstarts, issues, (run_rejects hstarts).2 ⟨.ddl rfl rfl, hload⟩⟩

end DryRun.Command
