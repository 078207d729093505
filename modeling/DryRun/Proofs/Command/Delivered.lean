import DryRun.Proofs.Command.JobFile
import DryRun.Proofs.Job.RoundTrip
import DryRun.Proofs.Session.Prepare
import DryRun.Proofs.Text.Utf8

/-!
# Prepared jobs as they are delivered

A prepared job is printed, written to a file, or printed in a document with its report. From each of them the job
validates to itself (`run_reads_back`). A job that is not mocked is delivered as it was, so that a second run on
what the first one printed prints the same text.
-/

namespace DryRun.Command

open Validation

/-! ## What a command leaves behind -/

section Outcome

variable {o : Outcome} {lines : Except Markup.Error (List Text)} {next : Outcome → Outcome}

theorem stdout_showing (h : ∀ shown, (next { o with stderr := shown }).stdout = o.stdout) :
    (o.showing lines next).stdout = o.stdout := by
  cases lines with
  | ok lines => exact h _
  | error e => rfl

theorem files_showing (h : ∀ shown, (next { o with stderr := shown }).files = o.files) :
    (o.showing lines next).files = o.files := by
  cases lines with
  | ok lines => exact h _
  | error e => rfl

end Outcome

/-- The file that was put at a path is found there. -/
theorem Files.read?_put (fs : Files) (path : List Text) (octets : List UInt8) :
    (fs.put path octets).read? path = some octets := by
  unfold put
  cases hfind : fs.entries.find? (·.path == path) with
  | some f =>
    have hpath : (f.path == path) = true := List.find?_some (p := fun f : File => f.path == path) hfind
    have hsame : ((fun f : File => f.path == path) ∘ fun f => if f.path == path then { f with octets } else f) =
        fun f => f.path == path := by
      funext f
      rw [Function.comp_apply]
      split <;> rfl
    rw [if_pos (by simp [isFile, read?, hfind]), read?, List.find?_map, hsame, hfind]
    simp only [Option.map_some, hpath, if_true]
  | none =>
    rw [if_neg (by simp [isFile, read?, hfind]), read?, List.find?_append, hfind]
    simp

/-! ## Delivery -/

section Deliver

variable {i : Invocation} {g : Globals} {r : PrepareRequest} {job : Job} {report : Report} {o : Outcome}

theorem stdout_deliver (hout : r.out = none) :
    (deliver i g r job report o).stdout = o.stdout ++ prepareText g r job report := by
  simp only [deliver, writeJob, hout]
  refine stdout_showing fun shown => ?_
  split
  · exact stdout_showing fun shown => stdout_showing fun shown => rfl
  · rfl

theorem files_deliver {path : Path} {place : List Text} (hout : r.out = some path)
    (hplace : o.files.place path = .ok place) :
    (deliver i g r job report o).files = o.files.put place (Text.toUtf8 job.printed) := by
  have hwrite : o.files.write path (Text.toUtf8 (job.pretty ++ ['\n'])) =
      .ok (o.files.put place (Text.toUtf8 job.printed)) := by
    rw [Files.write, hplace]
    rfl
  simp only [deliver, writeJob, hout, hwrite]
  refine files_showing fun shown => files_showing fun shown => ?_
  split
  · exact files_showing fun shown => files_showing fun shown => rfl
  · rfl

end Deliver

/-- The session under which a job is prepared. -/
def PrepareRequest.session (r : PrepareRequest) (settings : Settings) : Session :=
  match r.mock with
  | some on => (Session.ofSettings settings).mockSink on
  | none => Session.ofSettings settings

/-- The command line prepares the job `given` of a file and delivers `job` and `report`. -/
structure Invocation.Delivers (i : Invocation) (g : Globals) (r : PrepareRequest) (given job : Job)
    (report : Report) : Prop where
  file : ∃ t, Text.ofFile? r.job = some t ∧ Job.ofText t = .ok given
  session : ∃ file settings, i.Prepares file g r ∧ Settings.load ⟨[], i.environment, file⟩ = .ok settings ∧
    ((r.session settings).prepare given).value = .ok (job, report)

theorem prepareWith_ok {r : PrepareRequest} {settings : Settings} {given job : Job} {report : Report}
    (h : ((r.session settings).prepare given).value = .ok (job, report)) (i : Invocation) (g : Globals)
    (o : Outcome) : prepareWith i g r given settings o =
      deliver i g r job report (o.logged ((r.session settings).prepare given).log) := by
  unfold prepareWith
  cases hm : r.mock with
  | none =>
    simp only [PrepareRequest.session, hm] at h ⊢
    rw [h]
  | some on =>
    simp only [PrepareRequest.session, hm] at h ⊢
    rw [h]

theorem run_delivers {i : Invocation} {g : Globals} {r : PrepareRequest} {given job : Job} {report : Report}
    (h : i.Delivers g r given job report) :
    ∃ o : Outcome, o.IsStart i.files ∧ run i = deliver i g r job report o := by
  obtain ⟨t, ht, hgiven⟩ := h.file
  obtain ⟨file, settings, hprepares, hsettings, hjob⟩ := h.session
  obtain ⟨o, ho, hrun⟩ := run_prepares hprepares
  refine ⟨(o.logged settings.loadLog).logged ((r.session settings).prepare given).log, ho, ?_⟩
  rw [hrun, runPrepare, ht]
  dsimp only
  rw [hgiven]
  dsimp only
  rw [withSettings, hsettings]
  dsimp only
  rw [prepareWith_ok hjob]

theorem stdout_delivers {i : Invocation} {g : Globals} {r : PrepareRequest} {given job : Job} {report : Report}
    (h : i.Delivers g r given job report) (hout : r.out = none) :
    (run i).stdout = prepareText g r job report := by
  obtain ⟨o, ⟨hstart, -⟩, hrun⟩ := run_delivers h
  rw [hrun, stdout_deliver hout, hstart, List.nil_append]

theorem prepareText_printed {g : Globals} {r : PrepareRequest} (hout : r.out = none) (hjson : g.json = false)
    (job : Job) (report : Report) : prepareText g r job report = job.printed := by
  simp [prepareText, hjson, hout, Job.printed]

/-! ## Documents -/

/-- The text begins as a document whose first member is the job: the text of the member validates to it. -/
def HoldsJob (job : Job) (t : Text) : Prop :=
  ∃ member rest, t = "\x7b\n  \x22job\x22: ".toList ++ (member ++ (",\n  \x22report\x22: ".toList ++ rest)) ∧
    Job.ofText member = .ok job

theorem holdsJob_document (job : Job) (report : Report) :
    HoldsJob job (Json.render .prettyAscii (document job report) ++ ['\n']) := by
  refine ⟨Json.write .prettyAscii 1 job.toJson, Json.write .prettyAscii 1 report.toJson ++ "\n\x7d\n".toList, ?_, ?_⟩
  · simp [Json.render, document, Json.write, Json.writeFields, Json.beforeItem, Json.beforeClose, Json.lineBreak,
      Json.Style.prettyAscii, Json.quoted, Json.escapeChar]
  · have hmember := job.ofText_write Json.separates_prettyAscii 1 (List.forall_mem_nil _)
    rwa [List.append_nil] at hmember

/-- However many statements the job has, its member in the printed document validates to it. -/
theorem holdsJob_stdout {i : Invocation} {g : Globals} {r : PrepareRequest} {given job : Job} {report : Report}
    (h : i.Delivers g r given job report) (hout : r.out = none) (hjson : g.json = true) :
    HoldsJob job (run i).stdout := by
  rw [stdout_delivers h hout, prepareText, if_pos hjson]
  exact holdsJob_document job report

/-- The text is a document with the job as a member. -/
def IsDocumentOf (job : Job) (t : Text) : Prop :=
  ∃ doc member, Json.parse? t = some doc ∧ doc.get? "job" = some member ∧ Job.ofJson member = .ok job

theorem isDocumentOf_document (job : Job) {report : Report} (h : report.Countable) :
    IsDocumentOf job (Json.render .prettyAscii (document job report) ++ ['\n']) := by
  have hreadable : (document job report).Readable Json.depthLimit := by
    refine .object ?_
    simp only [List.forall_mem_cons]
    exact ⟨job.readable, h.readable, fun f hf => by cases hf⟩
  exact ⟨document job report, job.toJson, Json.parse?_render Json.separates_prettyAscii hreadable (by decide),
    rfl, job.ofJson_toJson⟩

/-- The counts of a report are at most the numbers of statements. -/
theorem countable_of_prepare {s : Session} {given job : Job} {report : Report}
    (h : (s.prepare given).value = .ok (job, report)) (htrans : IsCount given.trans.length)
    (hddl : IsCount given.ddl.length) : report.Countable := by
  cases hs : s.enabled with
  | false =>
    rw [Session.prepare, hs] at h
    cases h
    exact ⟨.of_le (Nat.zero_le _) htrans, .of_le (Nat.zero_le _) hddl⟩
  | true =>
    obtain ⟨-, rfl⟩ := Session.prepare_eq_ok hs h
    have hcount : (Session.transforms given).redirectedCount ≤ given.trans.length := by
      refine Nat.le_trans List.countP_le_length ?_
      simp [Session.transforms, scanTransforms]
    have hlength : ((s.definitions given).filterMap DefinitionResult.table?).length ≤ given.ddl.length := by
      refine Nat.le_trans (List.length_filterMap_le _ _) ?_
      simp [Session.definitions, scanDefinitions]
    exact ⟨.of_le hcount htrans, .of_le hlength hddl⟩

/-! ## Every channel -/

/-- The command line prints the job of a file with the given octets, and sinks are not mocked. -/
structure Invocation.Unmocked (i : Invocation) (octets : List UInt8) : Prop where
  request : ∃ file g r settings, i.Prepares file g r ∧
    Settings.load ⟨[], i.environment, file⟩ = .ok settings ∧
    r.job = octets ∧ r.mock = some false ∧ r.out = none ∧ g.json = false

theorem stdout_unmocked {i : Invocation} {octets : List UInt8} (h : i.Unmocked octets) {t : Text} {job : Job}
    (ht : Text.ofFile? octets = some t) (hjob : Job.ofText t = .ok job) : (run i).stdout = job.printed := by
  obtain ⟨file, g, r, settings, hprepares, hsettings, rfl, hmock, hout, hjson⟩ := h.request
  have hdelivers : i.Delivers g r job job { enabled := false } := by
    refine ⟨⟨t, ht, hjob⟩, file, settings, hprepares, hsettings, ?_⟩
    simp only [PrepareRequest.session, hmock]
    rfl
  rw [stdout_delivers hdelivers hout, prepareText_printed hout hjson]

/-- A job validates to itself from its text on one line, from the text that is printed or written to a file, and
from its member in a document with a report; the document as a whole can be read if the counts of the report
can. These are what commands print and write, whatever was prepared; without mocking the job is the one that was
given, and preparing the printed text once more prints it again. -/
theorem run_reads_back (job : Job) :
    Job.ofText job.compact = .ok job ∧
    (Job.ofText job.printed = .ok job ∧ Text.ofFile? (Text.toUtf8 job.printed) = some job.printed) ∧
    (∀ report : Report, HoldsJob job (Json.render .prettyAscii (document job report) ++ ['\n']) ∧
      (report.Countable → IsDocumentOf job (Json.render .prettyAscii (document job report) ++ ['\n']))) ∧
    (∀ (i : Invocation) (g : Globals) (r : PrepareRequest) (given : Job) (report : Report),
      i.Delivers g r given job report →
      (r.out = none → g.json = false → (run i).stdout = job.printed) ∧
      (∀ path place, r.out = some path → i.files.place path = .ok place →
        (run i).files.read? place = some (Text.toUtf8 job.printed)) ∧
      (r.out = none → g.json = true → HoldsJob job (run i).stdout ∧
        (IsCount given.trans.length → IsCount given.ddl.length → IsDocumentOf job (run i).stdout))) ∧
    ∀ (i : Invocation) (octets : List UInt8) (t : Text), i.Unmocked octets →
      Text.ofFile? octets = some t → Job.ofText t = .ok job →
      Job.ofText (run i).stdout = .ok job ∧
      ∀ again : Invocation, again.Unmocked (Text.toUtf8 (run i).stdout) →
        (run again).stdout = (run i).stdout := by
  have hprinted := job.ofText_printed
  have hfile := Text.ofFile?_toUtf8 job.not_mem_printed
  refine ⟨job.ofText_compact, ⟨hprinted, hfile⟩,
    fun report => ⟨holdsJob_document job report, isDocumentOf_document job⟩, ?_, ?_⟩
  · intro i g r given report h
    refine ⟨fun hout hjson => ?_, fun path place hout hplace => ?_,
      fun hout hjson => ⟨holdsJob_stdout h hout hjson, fun htrans hddl => ?_⟩⟩
    · rw [stdout_delivers h hout, prepareText_printed hout hjson]
    · obtain ⟨o, ⟨-, hfiles⟩, hrun⟩ := run_delivers h
      rw [← hfiles] at hplace
      rw [hrun, files_deliver hout hplace, Files.read?_put]
    · obtain ⟨-, settings, -, -, hprepare⟩ := h.session
      rw [stdout_delivers h hout, prepareText, if_pos hjson]
      exact isDocumentOf_document job (countable_of_prepare hprepare htrans hddl)
  · intro i octets t hi ht hjob
    have hstdout := stdout_unmocked hi ht hjob
    rw [hstdout]
    exact ⟨hprinted, fun again hagain => stdout_unmocked hagain hfile hprinted⟩

/-- A command line that prints the job of a file with the given octets. -/
def printOctets (octets : List UInt8) : Invocation where
  words := ["rewrite".toList, "--no-mock".toList, "job.json".toList]
  files := { entries := [⟨["job.json".toList], octets⟩] }

theorem unmocked_printOctets (octets : List UInt8) : (printOctets octets).Unmocked octets := by
  have hlogger : (Settings.load ⟨Globals.overrides ⟨false, none, false⟩, [], none⟩).isOk = true := by
    decide +kernel
  have hsettings : (Settings.load ⟨[], [], none⟩).isOk = true := by
    decide +kernel
  obtain ⟨settings, hload⟩ := exists_ok hsettings
  have hprepares : (printOctets octets).Prepares none ⟨false, none, false⟩ ⟨octets, none, some false, false⟩ :=
    ⟨⟨_, rfl, rfl⟩, rfl, exists_ok hlogger⟩
  exact ⟨none, _, _, settings, hprepares, hload, rfl, rfl, rfl, rfl⟩

/-- A job with quotes, line ends, control characters and characters beyond 16 bits. -/
def escapedJob : Job where
  statements := ["SET \"x\" = \x27\\\x27;\r\n\x01\t".toList]
  trans := [⟨"INSERT INTO `größe` SELECT \x27😀\x27".toList, .insert⟩]

/-- Two runs print the job alike, the first from its text on one line. -/
theorem run_reads_back_escaped :
    Job.ofText (run (printOctets (Text.toUtf8 escapedJob.compact))).stdout = .ok escapedJob ∧
    (run (printOctets (Text.toUtf8 (run (printOctets (Text.toUtf8 escapedJob.compact))).stdout))).stdout =
      (run (printOctets (Text.toUtf8 escapedJob.compact))).stdout := by
  have hreadable : escapedJob.toJson.Readable 3 := escapedJob.readable
  have hcompact : '\r' ∉ escapedJob.compact := Json.not_mem_write (by decide) (by decide) hreadable 0
  obtain ⟨hjob, -, -, -, hrun⟩ := run_reads_back escapedJob
  obtain ⟨hread, hagain⟩ :=
    hrun _ _ _ (unmocked_printOctets _) (Text.ofFile?_toUtf8 hcompact) hjob
  exact ⟨hread, hagain _ (unmocked_printOctets _)⟩

end DryRun.Command
