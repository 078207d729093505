import DryRun.Grammar.Change

/-!
# Sessions, transactions and rights

Statements that do not touch rows: transactions, settings, the current schema, comments and rights.
-/

namespace DryRun.Grammar

/-! ## Transactions -/

/-- The beginning of a transaction after its first word. -/
def beginStatement : Parse (Option Node) := do
  let _ ← spelledOneOf (wordsOf "DEFERRED IMMEDIATE EXCLUSIVE")
  let _ ← spelledOneOf (wordsOf "TRANSACTION WORK")
  let _ ← commaList (do
    let _ ← many (take? fun i => i.isPlain || isNot i)
    return (none : Option Node))
  return some .other

/-- The end of a transaction after its first word. -/
def finishTransaction : Parse (Option Node) := do
  let _ ← spelledOneOf (wordsOf "TRANSACTION WORK")
  if ← spelled "TO" then
    let _ ← spelled "SAVEPOINT"
    let _ ← name
  if ← word "AND" then
    let _ ← spelled "NO"
    let _ ← spelled "CHAIN"
  return some .other

/-! ## Settings -/

/-- A setting with its value, which is a statement or a name; none if there is no sign between them. -/
def settingValue : Parse (Option Node) := do
  let before ← get
  let key ← firstOf [call .primary, call .column]
  let assigned ← accept fun i => i.isSign "=" || i.isSign ":=" || i.spells "TO"
  if key.isSome && assigned then
    let _ ← must (firstOf [call .statement, name])
    return some .other
  else set before; return none

def characteristics : Parse (Option Node) := do
  let _ ← commaList (wordChoice true
    [("ISOLATION", ["LEVEL REPEATABLE READ", "LEVEL READ COMMITTED", "LEVEL READ UNCOMITTED",
        "LEVEL SERIALIZABLE"]),
     ("READ", ["WRITE", "ONLY"])])
  return some .other

/-- One setting, with its scope. -/
def setting : Parse (Option Node) := do
  match ← take? fun i => (wordsOf "GLOBAL LOCAL SESSION TRANSACTION VAR VARIABLE").contains i.caps with
  | none => settingValue
  | some scope =>
    if scope.caps == "TRANSACTION".toList then
      let _ ← spelled "TRANSACTION"
      characteristics
    else if ← pure ((wordsOf "GLOBAL SESSION").contains scope.caps) <&&> spelled "TRANSACTION" then
      let _ ← spelled "TRANSACTION"
      characteristics
    else settingValue

/-- Settings after the first word. -/
def setStatement : Parse (Option Node) := do
  let before ← get
  let _ ← commaList setting
  if ← atEnd then return some (.statement .set)
  else set before; command

/-- The choice of the current schema after its first word. -/
def useStatement : Parse (Option Node) := do
  let _ ← wordChoice false
    [("ROLE", []), ("WAREHOUSE", []), ("DATABASE", []), ("SCHEMA", []), ("CATALOG", [])]
  let _ ← must (call (.table {}))
  return some (.statement .use)

/-! ## Comments and rights -/

/-- A comment on an object after its first word. -/
def commentStatement : Parse (Option Node) := do
  let _ ← ifExists
  let _ ← word "ON"
  let _ ← spelled "MATERIALIZED"
  match ← objectKind with
  | none => command
  | some kind =>
    let this ←
      if (wordsOf "FUNCTION PROCEDURE").contains kind then functionHead
      else if kind == "TABLE".toList then call (.table { beforeIs := true })
      else if kind == "COLUMN".toList then call .column
      else name
    need this.isSome
    let _ ← word "IS"
    let _ ← must stringOrPlaceholder
    return some .other

/-- The end of a connection after its first word. -/
def killStatement : Parse (Option Node) := do
  let _ ← spelledOneOf (wordsOf "CONNECTION QUERY")
  let _ ← must (call .primary)
  return some .other

/-- One right, with the columns it is for. -/
def privilege : Parse (Option Node) := do
  let _ ← many (take? fun i => !(i.isWord "ON" || i.isSign "," || i.isSign "("))
  if ← sees (·.isSign "(") then
    let _ ← parenList (call .column)
  return some .other

/-- A user or role. -/
def principal : Parse (Option Node) := do
  let _ ← spelledOneOf (wordsOf "ROLE GROUP")
  name

/-- Rights on an object, given or taken after its first word; `marker` stands before the users. -/
def rights (marker : String) (ending : Parse Unit) : Parse (Option Node) := do
  let _ ← commaList privilege
  let _ ← word "ON"
  let _ ← objectKind
  if ← pure (← attempt (tableName false false)).isSome <&&> spelled marker then
    let principals ← commaList principal
    ending
    if ← atEnd then
      need !principals.isEmpty
      return some .other
    else command
  else command

/-- The giving of rights after its first word. -/
def grantStatement : Parse (Option Node) := rights "TO" do
  let _ ← spelledAll "WITH GRANT OPTION"

/-- The taking of rights after its first word. -/
def revokeStatement : Parse (Option Node) := do
  let _ ← spelledAll "GRANT OPTION FOR"
  rights "FROM" do
    let _ ← spelledOneOf (wordsOf "CASCADE RESTRICT")

end DryRun.Grammar
