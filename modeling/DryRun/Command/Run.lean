import DryRun.Command.Request
import DryRun.Console.Report
import DryRun.Log.Root
import DryRun.Session.Basic
import DryRun.Settings.Load
import DryRun.Validation.Describe

/-!
# Running a command

`run` gives everything that a command does: what it prints, the files that it leaves, the records that it
logs and how it ends. Settings are loaded twice: with the options for all commands, for the logger, and
without them, for the command itself.
-/

namespace DryRun.Command

open Validation

/-- What a command is started with. -/
structure Invocation where
  words : List Text
  environment : List (Text × Text) := []
  files : Files := {}
  screen : Console.Screen := {}

/-- A failure that no message of the program tells about. -/
inductive Crash where
  /-- Settings that were valid with the options for all commands are not without them. -/
  | invalidSettings (issues : List Issue)
  /-- A file that has to be text is not. -/
  | notUtf8
  | unwritable (error : WriteError)
  | markup (error : Markup.Error)

/-- How a command ends. -/
inductive Ending where
  | done
  | usage (error : UsageError)
  | invalidSettings (issues : List Issue)
  | invalidJob (issues : List Issue)
  | aborted (error : MockingError)
  | crashed (crash : Crash)

def Ending.exitCode : Ending → Nat
  | .done => 0
  | .usage _ | .invalidSettings _ | .invalidJob _ => 2
  | .aborted _ | .crashed _ => 1

/-- Everything that a command does. -/
structure Outcome where
  ending : Ending := .done
  stdout : Text := []
  /-- The lines for the person at the console. -/
  stderr : List Text := []
  /-- All records, whether they are written or not. -/
  log : List Log.Record := []
  /-- The logger, which settings configure once they are known. -/
  root : Log.Root := {}
  /-- The records that the logger writes. -/
  written : List Log.Record := []
  /-- The files afterwards. -/
  files : Files

namespace Outcome

def ended (o : Outcome) (ending : Ending) : Outcome := { o with ending }

def printed (o : Outcome) (t : Text) : Outcome := { o with stdout := o.stdout ++ t }

def logged (o : Outcome) (records : List Log.Record) : Outcome :=
  { o with
    log := o.log ++ records
    written := o.written ++ records.filter fun r => o.root.writes r.level.number }

/-- The outcome after settings configure the logger. -/
def configured (o : Outcome) (settings : Settings) : Outcome :=
  { o with root := o.root.configure settings }

/-- Shows lines on the console and goes on; lines that cannot be made are a crash. -/
def showing (o : Outcome) (lines : Except Markup.Error (List Text)) (next : Outcome → Outcome) :
    Outcome :=
  match lines with
  | .ok lines => next { o with stderr := o.stderr ++ lines }
  | .error e => o.ended (.crashed (.markup e))

end Outcome

/-! ## Settings -/

/-- The text of the file of settings, if there is one. -/
def dotenv (files : Files) : Except Crash (Option Text) :=
  match files.read? (files.base ++ [".env".toList]) with
  | none => .ok none
  | some octets =>
    match Text.ofUtf8? octets with
    | some t => .ok (some t)
    | none => .error .notUtf8

/-- What the options for all commands override. -/
def Globals.overrides (g : Globals) : List (Text × Json) :=
  ("structured_logging".toList, .bool g.structuredLogs) ::
    match g.logLevel with
    | some level => [("log_level".toList, .string level)]
    | none => []

/-- Goes on with the settings that a command finds, which have to be valid. -/
def withSettings (i : Invocation) (file : Option Text) (o : Outcome)
    (next : Settings → Outcome → Outcome) : Outcome :=
  -- without the overrides of the command line, which hold for logging only
  match Settings.load ⟨[], i.environment, file⟩ with
  | .error issues => o.ended (.crashed (.invalidSettings issues))
  | .ok settings => next settings (o.logged settings.loadLog)

/-! ## Commands -/

def redLines (s : Console.Screen) (t : Text) : Except Markup.Error (List Text) :=
  Console.printed s ("[red]".toList ++ t ++ "[/red]".toList)

/-- The job and the report as one document. -/
def document (job : Job) (report : Report) : Json :=
  .object [("job".toList, job.toJson), ("report".toList, report.toJson)]

/-- What a prepared job prints. -/
def prepareText (g : Globals) (r : PrepareRequest) (job : Job) (report : Report) : Text :=
  -- the document is printed even if the job goes to a file
  if g.json then Json.render .prettyAscii (document job report) ++ ['\n']
  else match r.out with
    | none => job.pretty ++ ['\n']
    | some _ => []

/-- Writes the prepared job to its file, if one is asked for, and goes on. -/
def writeJob (i : Invocation) (r : PrepareRequest) (job : Job) (o : Outcome) (next : Outcome → Outcome) :
    Outcome :=
  match r.out with
  | none => next o
  | some path =>
    match o.files.write path (Text.toUtf8 (job.pretty ++ ['\n'])) with
    | .error e => o.ended (.crashed (.unwritable e))
    | .ok files =>
      { o with files }.showing
        (Console.printed i.screen
          ("[green]Rewritten job written to ".toList ++ path.render ++ "[/green]".toList)) next

/-- Prints and shows a prepared job. -/
def deliver (i : Invocation) (g : Globals) (r : PrepareRequest) (job : Job) (report : Report)
    (o : Outcome) : Outcome :=
  writeJob i r job o fun o =>
    (o.printed (prepareText g r job report)).showing (Console.reportLines i.screen report) fun o =>
      if r.showStatements then
        o.showing (Console.statementLines i.screen "DDL".toList job.ddl) fun o =>
          o.showing (Console.statementLines i.screen "Transforms".toList job.trans) id
      else o

/-- Prepares a job under given settings. -/
def prepareWith (i : Invocation) (g : Globals) (r : PrepareRequest) (job : Job) (settings : Settings)
    (o : Outcome) : Outcome :=
  let session := Session.ofSettings settings
  let session := match r.mock with
    | some on => session.mockSink on
    | none => session
  let prepared := session.prepare job
  let o := o.logged prepared.log
  match prepared.value with
  | .ok (job, report) => deliver i g r job report o
  | .error e =>
    o.showing (redLines i.screen ("Mocking aborted: ".toList ++ e.message)) (·.ended (.aborted e))

/-- Prepares the job of a file. -/
def runPrepare (i : Invocation) (file : Option Text) (g : Globals) (r : PrepareRequest) (o : Outcome) :
    Outcome :=
  match Text.ofFile? r.job with
  | none => o.ended (.crashed .notUtf8)
  | some t =>
    match Job.ofText t with
    | .error issues =>
      o.showing
        (redLines i.screen ("Failed to read job: ".toList ++ describe "JobParam".toList issues))
        (·.ended (.invalidJob issues))
    | .ok job => withSettings i file o (prepareWith i g r job)

/-- Prints the definition of a mock with a connector. -/
def printCreate (r : DdlRequest) (connector : Text) (o : Outcome) : Outcome :=
  o.printed (Mock.createTable r.table r.columns connector ++ ";\n".toList)

/-- Prints the definition of a mock. -/
def runDdl (i : Invocation) (file : Option Text) (r : DdlRequest) (o : Outcome) : Outcome :=
  -- printed before the settings are loaded, which may still fail
  let o := if r.drop then o.printed (Mock.dropTable r.table ++ ";\n".toList) else o
  match r.connector with
  | some connector => printCreate r connector o
  | none => withSettings i file o fun settings o => printCreate r settings.mockConnector o

def runCommand (i : Invocation) (file : Option Text) (g : Globals) (command : CommandName)
    (words : List Text) (o : Outcome) : Outcome :=
  match command with
  | .prepare =>
    match PrepareRequest.ofWords i.files words with
    | .error e => o.ended (.usage e)
    | .ok r => runPrepare i file g r o
  | .ddl =>
    match DdlRequest.ofWords words with
    | .error e => o.ended (.usage e)
    | .ok r => runDdl i file r o
  | .name =>
    match readNameWords words with
    | .error e => o.ended (.usage e)
    | .ok table => o.printed (Mock.name table ++ ['\n'])

/-- Runs a command line. -/
def run (i : Invocation) : Outcome :=
  let o : Outcome := { files := i.files }
  match readGlobals i.environment i.words with
  | .error e => o.ended (.usage e)
  | .ok (g, command, words) =>
    match dotenv i.files with
    | .error crash => o.ended (.crashed crash)
    | .ok file =>
      match Settings.load ⟨g.overrides, i.environment, file⟩ with
      | .error issues =>
        o.showing
          (redLines i.screen ("Invalid settings: ".toList ++ describe "Settings".toList issues))
          (·.ended (.invalidSettings issues))
      | .ok settings =>
        runCommand i file g command words ((o.logged settings.loadLog).configured settings)

end DryRun.Command
