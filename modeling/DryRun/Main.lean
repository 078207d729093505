import DryRun.Command.Run
import DryRun.Text.UpperCase
import Std.Time.DateTime.Timestamp

/-!
# The command line

Reads what a command needs from the outside, runs it, and carries out what it asks for: files are written,
the result goes to the standard output, and records and lines for the person to the standard error.
-/

namespace DryRun.CommandLine

open Command

/-- The name of a place for the file system. -/
def placeName (path : List Text) : String := String.ofList ('/' :: Text.join ['/'] path)

/-- The names of the variables that are settings, in upper and in lower case. -/
def variableNames : List Text :=
  let names := Settings.fieldNames.map (Settings.variableMark ++ ·)
  names.map Text.upper ++ names

/-- The variables of the environment that are settings. -/
def readEnvironment : IO (List (Text × Text)) :=
  variableNames.filterMapM fun name => do
    let value ← IO.getEnv (String.ofList name)
    return value.map fun v => (name, v.toList)

/-- The width of the console: the variable for it, or eighty. -/
def readWidth : IO Nat := do
  let columns ← IO.getEnv "COLUMNS"
  return (columns.bind fun c => Text.toNat? c.toList).getD 80

/-- The directories and files among some places. -/
def readFiles (base : List Text) (places : List (List Text)) : IO Files := do
  let root ← IO.currentDir
  let mut directories : List (List Text) := []
  let mut entries : List File := []
  for place in places.eraseDups do
    let here := root / placeName place
    if ← here.isDir then directories := directories ++ [place]
    else if ← here.pathExists then
      let octets ← IO.FS.readBinFile here
      entries := entries ++ [⟨place, octets.toList⟩]
  return { base, directories, entries }

def readMoment : IO Log.Moment := do
  let now ← Std.Time.Timestamp.now
  let nanoseconds := now.toNanosecondsSinceUnixEpoch.val.toNat
  return ⟨false, nanoseconds / 1000000000, nanoseconds % 1000000000, 1000000000⟩

def entry (created : Log.Moment) (r : Log.Record) : Log.Entry :=
  { logger := r.source.label
    level := r.level.number
    message := r.message
    arguments := []
    created
    statement := .textOrNull r.statement
    failure := none }

/-- What is said about an ending that no line on the console tells about. -/
def endingText : Ending → Text
  | .usage e => e.message
  | .crashed (.invalidSettings issues) => Validation.describe "Settings".toList issues
  | .crashed .notUtf8 => "A file is not UTF-8 text.".toList
  | .crashed (.unwritable .notFound) => "No such file or directory.".toList
  | .crashed (.unwritable .isDirectory) => "Is a directory.".toList
  | .crashed (.unwritable .notDirectory) => "Not a directory.".toList
  | .crashed (.markup e) => e.message
  | _ => []

/-- Carries out an outcome. -/
def perform (before : Files) (o : Outcome) : IO Unit := do
  for f in o.files.entries do
    if before.read? f.path != some f.octets then
      IO.FS.writeBinFile (placeName f.path) ⟨f.octets.toArray⟩
  let created ← readMoment
  for r in o.written do
    IO.eprint (String.ofList (o.root.emit (entry created r)))
  for line in o.stderr do
    IO.eprintln (String.ofList line)
  let said := endingText o.ending
  if !said.isEmpty then IO.eprintln (String.ofList said)
  IO.print (String.ofList o.stdout)

/-- Runs a command line and gives its exit code. -/
def start (words : List Text) : IO UInt32 := do
  let environment ← readEnvironment
  let base := (Path.ofText (toString (← IO.currentDir)).toList).names
  let places := (mentionedPaths environment words).flatMap (·.stages base)
  let files ← readFiles base (places ++ [base ++ [".env".toList]])
  let outcome := run ⟨words, environment, files, { width := ← readWidth }⟩
  perform files outcome
  return UInt32.ofNat outcome.ending.exitCode

end DryRun.CommandLine

/-- The program. -/
def main (words : List String) : IO UInt32 := DryRun.CommandLine.start (words.map String.toList)
