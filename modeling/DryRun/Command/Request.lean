import DryRun.Command.Files
import DryRun.Command.Options
import DryRun.Text.LowerCase
import DryRun.Validation.Basic

/-!
# What a command line asks for

A command line has options for all commands, the name of a command, and the options and arguments of
that command. Two of the options for all commands may also be given by variables of the environment.
-/

namespace DryRun.Command

/-! ## Options for all commands -/

/-- An option that stands before the name of the command. -/
inductive GlobalOption where
  | json (on : Bool)
  | logLevel
  | structuredLogs
deriving DecidableEq, Repr

/-- The names of the options for all commands. -/
def globalOptions : List (OptionName GlobalOption) :=
  [⟨"--json".toList, .json true, false⟩, ⟨"--no-json".toList, .json false, false⟩,
   ⟨"--log-level".toList, .logLevel, true⟩, ⟨"--structured-logs".toList, .structuredLogs, false⟩]

/-- What the options for all commands ask for. -/
structure Globals where
  /-- Whether job and report are printed as one document. -/
  json : Bool
  logLevel : Option Text
  structuredLogs : Bool
deriving DecidableEq, Repr

/-- The value of a variable, unless it is empty. -/
def lookUp? (environment : List (Text × Text)) (name : String) : Option Text :=
  ((environment.reverse.find? (·.1 == name.toList)).map (·.2)).filter (!·.isEmpty)

/-- A truth value from the environment, in any case and with blanks around it; blanks alone are false. -/
def flagWord? (t : Text) : Option Bool :=
  let word := Text.lower (Text.strip t)
  if word.isEmpty || Validation.falseWords.contains word then some false
  else if Validation.trueWords.contains word then some true
  else none

/-- Whether structured logs are asked for, on the command line or by the environment. -/
def wantsStructured (environment : List (Text × Text)) (p : Parsed GlobalOption) :
    Except UsageError Bool :=
  if p.options.any (·.1 == .structuredLogs) then .ok true
  else match lookUp? environment "MOCKSINK_STRUCTURED_LOGGING" with
    | none => .ok false
    | some value =>
      match flagWord? value with
      | some on => .ok on
      | none => .error (.notBool value)

def GlobalOption.level? : GlobalOption × Text → Option Text
  | (.logLevel, value) => some value
  | _ => none

/-- The choice of an option for documents. -/
def GlobalOption.json? : GlobalOption × Text → Option Bool
  | (.json on, _) => some on
  | _ => none

/-- What the options for all commands ask for. -/
def Globals.ofParsed (environment : List (Text × Text)) (p : Parsed GlobalOption) :
    Except UsageError Globals :=
  (wantsStructured environment p).map fun structured =>
    { json := (p.last? GlobalOption.json?).getD false
      logLevel := (p.last? GlobalOption.level?).or (lookUp? environment "MOCKSINK_LOG_LEVEL")
      structuredLogs := structured }

/-! ## Commands -/

/-- The commands. -/
inductive CommandName where
  /-- Prepare a job. -/
  | prepare
  /-- Print the definition of a mock. -/
  | ddl
  /-- Print the name of a mock. -/
  | name
deriving DecidableEq, Repr

def CommandName.ofText? (t : Text) : Option CommandName :=
  if t == "rewrite".toList then some .prepare
  else if t == "ddl".toList then some .ddl
  else if t == "name".toList then some .name
  else none

/-- The options for all commands, the command, and the words after it. -/
def readGlobals (environment : List (Text × Text)) (words : List Text) :
    Except UsageError (Globals × CommandName × List Text) :=
  match readWords globalOptions false words with
  | .error e => .error e
  | .ok p =>
    match Globals.ofParsed environment p, p.arguments with
    | .error e, _ => .error e
    | .ok _, [] => .error .missingCommand
    | .ok globals, command :: rest =>
      match CommandName.ofText? command with
      | some found => .ok (globals, found, rest)
      | none => .error (.unknownCommand command)

/-- The arguments of a command by the names that it has for them. -/
def arguments : List String → List Text → Except UsageError (List Text)
  | [], [] => .ok []
  | [], word :: _ => .error (.extraArgument word)
  | name :: _, [] => .error (.missingArgument name.toList)
  | _ :: names, word :: words => (arguments names words).map (word :: ·)

/-! ## Preparing a job -/

/-- An option of the command that prepares a job. -/
inductive PrepareOption where
  | out
  | mock (on : Bool)
  | showStatements
deriving DecidableEq, Repr

def prepareOptions : List (OptionName PrepareOption) :=
  [⟨"--out".toList, .out, true⟩, ⟨"-o".toList, .out, true⟩, ⟨"--mock".toList, .mock true, false⟩,
   ⟨"--no-mock".toList, .mock false, false⟩, ⟨"--show-statements".toList, .showStatements, false⟩]

def PrepareOption.out? : PrepareOption × Text → Option Text
  | (.out, value) => some value
  | _ => none

def PrepareOption.mock? : PrepareOption × Text → Option Bool
  | (.mock on, _) => some on
  | _ => none

/-- What is asked of the command that prepares a job. -/
structure PrepareRequest where
  /-- The octets of the file of the job. -/
  job : List UInt8
  /-- Where the prepared job is written to. -/
  out : Option Path
  /-- Whether sinks are mocked, if that is not left to the settings. -/
  mock : Option Bool
  showStatements : Bool
deriving DecidableEq, Repr

/-- The octets of the file at a path, which has to be there. -/
def jobOctets (files : Files) (path : Text) : Except UsageError (List UInt8) :=
  let names := (Path.ofText path).resolve files.base
  match files.read? names with
  | some octets => .ok octets
  | none => .error (if files.isDirectory names then .isDirectory path else .notFile path)

/-- The file that the last option names for the prepared job, if there is one. -/
def outPath (p : Parsed PrepareOption) : Except UsageError (Option Path) :=
  match p.last? PrepareOption.out? with
  | none => .ok none
  | some path =>
    if path.contains '\x00' then .error (.impossiblePath path) else .ok (some (Path.ofText path))

/-- Reads the words after the command. -/
def PrepareRequest.ofWords (files : Files) (words : List Text) : Except UsageError PrepareRequest :=
  match readWords prepareOptions true words with
  | .error e => .error e
  | .ok p =>
    match arguments ["JOB_PATH"] p.arguments, outPath p with
    | .error e, _ => .error e
    | .ok _, .error e => .error e
    | .ok given, .ok out =>
      (jobOctets files (given.headD [])).map fun job =>
        { job
          out
          mock := p.last? PrepareOption.mock?
          showStatements := p.options.any (·.1 == .showStatements) }

/-- The paths of files that a command line may read or write. -/
def mentionedPaths (environment : List (Text × Text)) (words : List Text) : List Path :=
  match readGlobals environment words with
  | .ok (_, .prepare, rest) =>
    match readWords prepareOptions true rest with
    | .ok p => p.arguments.map Path.ofText ++ (p.options.filterMap PrepareOption.out?).map Path.ofText
    | .error _ => []
  | _ => []

/-! ## Definitions and names of mocks -/

/-- An option of the command that prints the definition of a mock. -/
inductive DdlOption where
  | connector
  | drop
deriving DecidableEq, Repr

def ddlOptions : List (OptionName DdlOption) :=
  [⟨"--connector".toList, .connector, true⟩, ⟨"--drop".toList, .drop, false⟩]

def DdlOption.connector? : DdlOption × Text → Option Text
  | (.connector, value) => some value
  | _ => none

/-- What is asked of the command that prints the definition of a mock. -/
structure DdlRequest where
  table : Text
  columns : Text
  /-- The connector, if one is given and it is not empty. -/
  connector : Option Text
  /-- Whether a statement that drops the mock comes first. -/
  drop : Bool
deriving DecidableEq, Repr

/-- Reads the words after the command. -/
def DdlRequest.ofWords (words : List Text) : Except UsageError DdlRequest :=
  match readWords ddlOptions true words with
  | .error e => .error e
  | .ok p =>
    (arguments ["TABLE", "COLUMNS"] p.arguments).map fun given =>
      { table := given.headD []
        columns := (given.drop 1).headD []
        connector := (p.last? DdlOption.connector?).filter (!·.isEmpty)
        drop := p.options.any (·.1 == .drop) }

/-- The names of the options of the command that prints a name: there are none. -/
def nameOptions : List (OptionName Empty) := []

/-- Reads the words after the command that prints the name of a mock. -/
def readNameWords (words : List Text) : Except UsageError Text :=
  match readWords nameOptions true words with
  | .error e => .error e
  | .ok p => (arguments ["TABLE"] p.arguments).map fun given => given.headD []

end DryRun.Command
