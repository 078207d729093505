import DryRun.Log.Record
import DryRun.Settings.Basic
import DryRun.Settings.Dotenv
import DryRun.Text.LowerCase

/-!
# Loading settings

Settings come from overrides, the environment, a file and the defaults, in this order of precedence.
Names match in any case; in the environment and in the file they carry a common beginning. A key of the
file that is no setting is an issue, a variable of the environment is not.
-/

namespace DryRun

open Validation

/-- Where settings come from. -/
structure Sources where
  overrides : List (Text × Json) := []
  environment : List (Text × Text) := []
  /-- The text of the file of settings, if there is one. -/
  dotenv : Option Text := none

namespace Settings

/-- What a variable that is a setting begins with, in lower case. -/
def variableMark : Text := "mocksink_".toList

/-- Sets a key, which keeps its place if it is there. -/
def setKey {α : Type} (key : Text) (value : α) : List (Text × α) → List (Text × α)
  | [] => [(key, value)]
  | (k, v) :: rest => if k == key then (key, value) :: rest else (k, v) :: setKey key value rest

/-- The entries with their last values, each key at its first place. -/
def lastValues {α : Type} (entries : List (Text × α)) : List (Text × α) :=
  entries.foldl (fun done e => setKey e.1 e.2 done) []

/-- The entries with keys in lower case. Of keys that become equal the one that stands last counts. -/
def lowerKeys {α : Type} (entries : List (Text × α)) : List (Text × α) :=
  lastValues ((lastValues entries).map fun e => (Text.lower e.1, e.2))

/-- The settings among variables with keys in lower case. -/
def fromVariables (entries : List (Text × Text)) : List (Text × Json) :=
  fieldNames.filterMap fun name =>
    (entries.find? (·.1 == variableMark ++ name)).map fun v => (name, .string v.2)

/-- The variables of a file that are no settings and not empty. The bare name of a setting is passed
over. -/
def unknownVariables (entries : List (Text × Text)) : List (Text × Json) :=
  (entries.filter fun v =>
    !v.2.isEmpty && !fieldNames.contains v.1 &&
      !(fieldNames.map (variableMark ++ ·)).contains v.1).map fun v => (v.1, .string v.2)

/-- The name of an override: a setting in any case, or the name as it was given. -/
def overrideName (name : Text) : Text :=
  if fieldNames.contains (Text.lower name) then Text.lower name else name

/-- The overrides by name. Of several names of one setting the first counts. -/
def namedOverrides (overrides : List (Text × Json)) : List (Text × Json) :=
  overrides.foldl (fun done o =>
    let name := overrideName o.1
    if done.any (·.1 == name) then done else done ++ [(name, o.2)]) []

/-- The values of all sources by precedence, keys of the file first. -/
def merge (sources : Sources) : List (Text × Json) :=
  let bindings := Dotenv.parse sources.environment (sources.dotenv.getD [])
  let file := lowerKeys (bindings.map fun b => (b.key, b.value))
  let present := file.filterMap fun b => b.2.map fun v => (b.1, v)
  let fromFile := fromVariables present ++ unknownVariables present
  let fromEnvironment := fromVariables (lowerKeys sources.environment)
  (fromEnvironment ++ namedOverrides sources.overrides).foldl (fun done e => setKey e.1 e.2 done) fromFile

/-- The settings of the given sources. -/
def load (sources : Sources) : Validated Settings := ofFields (merge sources)

/-- The record of loaded settings, which is made only for debugging. -/
def loadLog (s : Settings) : List Log.Record :=
  if s.debug then
    [⟨.info, .settings,
      "Loaded settings: mock_sink=".toList ++ Text.ofBool s.mockSink ++ " connector=".toList ++
        s.mockConnector ++ " ddl_parse_failure=".toList ++ s.ddlParseFailure.label, none⟩]
  else []

end Settings

end DryRun
