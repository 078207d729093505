import DryRun.Json.Writer
import DryRun.Log.Message
import DryRun.Log.Timestamp

/-!
# Log lines

A log entry is written as a line of text, or as one JSON object on a single line. Both carry the time,
the level, the name of the logger and the message; the JSON object also carries the statement the entry
is about, if it is not null. A failure is told after the entry.
-/

namespace DryRun.Log

/-! ## Levels -/

def levelNumber (name : Text) : Int :=
  if name == "CRITICAL".toList || name == "FATAL".toList then 50
  else if name == "ERROR".toList then 40
  else if name == "WARNING".toList || name == "WARN".toList then 30
  else if name == "INFO".toList then 20
  else if name == "DEBUG".toList then 10
  else 0

def levelName (level : Int) : Text :=
  if level == 50 then "CRITICAL".toList
  else if level == 40 then "ERROR".toList
  else if level == 30 then "WARNING".toList
  else if level == 20 then "INFO".toList
  else if level == 10 then "DEBUG".toList
  else if level == 0 then "NOTSET".toList
  else "Level ".toList ++ Text.ofInt level

/-! ## Entries -/

/-- An entry of the log. -/
structure Entry where
  logger : Text
  level : Int
  message : Text
  arguments : List Json
  created : Moment
  statement : Json
  /-- The text that tells about a failure: where it happened, what it was and what led to it. -/
  failure : Option Text

/-- Why an entry cannot be written. -/
inductive EntryError where
  | body (cause : MessageError)
  | time (cause : TimeError)
deriving DecidableEq, Repr

def EntryError.message : EntryError → Text
  | .body cause => cause.message
  | .time cause => cause.message

/-- The text of the message with its arguments. -/
def Entry.body (e : Entry) : Except EntryError Text :=
  (formatMessage e.message e.arguments).mapError .body

/-- The text with spaces after it up to a width. -/
def padRight (width : Nat) (t : Text) : Text := t ++ List.replicate (width - t.length) ' '

/-- The text without one line feed at its end. -/
def dropFinalBreak (t : Text) : Text :=
  match t.getLast? with
  | some '\n' => t.dropLast
  | _ => t

/-- An entry as text: time, level, logger and message, and the failure on lines of its own. The message
is made before the time. -/
def Entry.plain (e : Entry) : Except EntryError Text :=
  match e.body with
  | .error error => .error error
  | .ok message =>
    match e.created.plain with
    | .error cause => .error (.time cause)
    | .ok time =>
      let line := time ++ [' '] ++ padRight 8 (levelName e.level) ++ [' '] ++ e.logger ++
        ": ".toList ++ message
      .ok (match e.failure with
        | none => line
        | some failure =>
          line ++ (if line.getLast? == some '\n' then [] else ['\n']) ++ dropFinalBreak failure)

def Entry.fields (e : Entry) (time message : Text) : List (Text × Json) :=
  [("timestamp".toList, .string time), ("level".toList, .string (levelName e.level)),
   ("logger".toList, .string e.logger), ("message".toList, .string message)] ++
  (match e.statement with
    | .null => []
    | statement => [("statement".toList, statement)]) ++
  (match e.failure with
    | none => []
    | some failure => [("exc_info".toList, .string failure)])

/-- An entry as one JSON object. The time is made before the message. -/
def Entry.structured (e : Entry) : Except EntryError Text :=
  match e.created.iso with
  | .error cause => .error (.time cause)
  | .ok time => e.body.map fun message => Json.render .spaced (.object (e.fields time message))

end DryRun.Log
