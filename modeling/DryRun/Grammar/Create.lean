import DryRun.Grammar.Property
import DryRun.Grammar.Query

/-!
# Creation and removal of objects

Statements that create or drop an object. A statement about an object of an unknown kind, and a
creation that goes on in an unknown way, is a command.
-/

namespace DryRun.Grammar

/-- The kinds of objects, by the words that name them. -/
def objectWords : List Text :=
  wordsOf "COLUMN CONSTRAINT DATABASE FUNCTION INDEX NAMESPACE PROCEDURE SCHEMA SEQUENCE TABLE VIEW"

def objectKind : Parse (Option Text) := do
  return (← take? fun i => i.isOneOf objectWords || i.isPhrase "FOREIGN KEY").map Item.caps

/-- A statement whose text is not interpreted; the rest of it is taken. -/
def command : Parse (Option Node) := do
  takeRest
  return some (.statement .command)

/-! ## Functions -/

/-- The name of a function with its parameters. A function with parameters is not a table. -/
def functionHead : Parse (Option Node) := do
  let this ← tableName true false
  if ← sign "(" then
    let _ ← commaList parameterDefinition
    mustSign ")"
    return some .other
  else return this

/-- Skips to the end mark of a text in dollar signs. -/
def skipTo (mark : String) : Parse Unit := do
  repeatWhile do
    if ← seesAll mark then return false
    if ← atEnd then fault
    advance
    return true
  let _ ← spelledAll mark

/-- A text in dollar signs, with or without a label between them. -/
def dollarText : Parse (Option Node) :=
  onlyIf (sign "$") do
    match ← peek with
    | none => fault
    | some label =>
      advance
      if label.isSign "$" then skipTo "$ $"
      else
        mustSign "$"
        skipTo ("$ " ++ String.ofList label.caps ++ " $")
      return some .other

/-- What a function does: a text, a command or a statement. -/
def functionBody : Parse Unit := do
  let _ ← propertiesAhead
  let text ← onlyIf (word "AS") dollarText
  let _ ← propertiesAhead
  if text.isNone then
    if ← accept fun i => i.isOneOf (wordsOf "CALL EXPLAIN OPTIMIZE PREPARE VACUUM")
        || (i.kind == .phrase && DryRun.Sql.Lexeme.commandPhrases.contains i.caps) then takeRest
    else
      let _ ← word "BEGIN"
      let returns ← spelled "RETURN"
      let body ←
        if ← sees (·.kind == .string) then do
          let text ← stringOrPlaceholder
          let _ ← propertiesAhead
          pure text
        else call .statement
      let _ ← spelled "END"
      need (!returns || body.isSome)

/-! ## Indexes -/

/-- An index of a table that is created together with it. -/
def tableIndex : Parse (Option Node) := do
  let _ ← word "UNIQUE"
  let _ ← spelled "PRIMARY"
  let _ ← spelled "AMP"
  if ← word "INDEX" then
    let _ ← name
    indexParameters
    return some .other
  else return none

/-- An index with its table; none if nothing names it. -/
def index : Parse (Option Node) := do
  let anonymous ← word "ON"
  let label ← if anonymous then pure none else name
  if anonymous || label.isSome then
    let _ ← word "ON"
    let _ ← word "TABLE"
    let _ ← tableName true false
    indexParameters
    return some .other
  else tableIndex

/-! ## Tables and the like -/

/-- A query, in parentheses or without, and what may follow it. -/
def definingQuery : Parse (Option Node) := do
  match ← query { nested := true, aliased := false } with
  | none => return none
  | some q => clausesOf (← must (combine q))

/-- What follows the kind of a table, view, schema or sequence: its name, columns, properties and the
query that fills it. -/
def tableBody (kind : Text) : Parse (Option Node) := do
  let named ← tableName true (kind == "SCHEMA".toList)
  let _ ← sign ","
  let _ ← modifiedPropertiesAhead
  let this ← columnsOf named
  let _ ← propertiesAhead
  let isQuery ← word "AS"
  if !(← sees fun i => i.isWord "SELECT" || i.isWord "WITH" || i.isSign "(") then
    let _ ← propertiesAhead
  if kind == "SEQUENCE".toList then
    let _ ← call (.type {})
    let _ ← propertiesAhead
  else if (← definingQuery).isNone && isQuery then
    let _ ← attempt (tableName false false)
  if kind == "TABLE".toList then
    let _ ← propertiesAhead
    let _ ← many (do
      let found ← tableIndex
      let _ ← propertiesAhead
      if found.isSome then
        let _ ← sign ","
      return found)
  else if kind == "VIEW".toList then
    let _ ← spelledAll "WITH NO SCHEMA BINDING"
  let _ ← spelled "SHALLOW"
  if (← spelledOneOf (wordsOf "CLONE COPY")).isSome then
    let _ ← must (call (.table { columns := true }))
  return this

/-! ## Creation -/

/-- The kind of the object that is created, after the words before it; none if it is not known. -/
def createdKind : Parse (Option Text) := do
  if !(← acceptPair (·.isWord "OR") fun i => i.isWord "REPLACE" || i.isWord "ALTER") then
    let _ ← acceptPair (·.isWord "OR") (·.isWord "REFRESH")
  let _ ← word "UNIQUE"
  if !(← spelledAll "CLUSTERED COLUMNSTORE" <||> spelledAll "NONCLUSTERED COLUMNSTORE") then
    let _ ← spelled "COLUMNSTORE"
  if ← seesPair (·.isWord "TABLE") (·.isWord "FUNCTION") then advance
  match ← objectKind with
  | some kind => return some kind
  | none => if (← propertiesAhead).isEmpty then return none else objectKind

/-- The creation of an object, after its first word. -/
def createStatement : Parse (Option Node) := do
  match ← createdKind with
  | none => command
  | some kind =>
    let _ ← spelled "CONCURRENTLY"
    let _ ← unlessExists
    let this ←
      if kind == "FUNCTION".toList || kind == "PROCEDURE".toList then do
        let head ← functionHead
        functionBody
        pure head
      else if kind == "INDEX".toList then index
      else if (wordsOf "DATABASE NAMESPACE SCHEMA SEQUENCE TABLE VIEW").contains kind then tableBody kind
      else pure none
    if ← pure !(← atEnd) <&&> notM (sees fun i => i.isSign ")" || i.isSign ",") then command
    else
      need this.isSome
      return some (.create kind (this.bind Node.tableRef?))

/-! ## Removal -/

/-- The removal of an object, after its first word. -/
def dropStatement : Parse (Option Node) := do
  let _ ← accept fun i => i.isWord "TEMP" || i.isWord "TEMPORARY"
  let _ ← spelled "MATERIALIZED"
  match ← objectKind with
  | none => command
  | some kind =>
    let _ ← spelled "CONCURRENTLY"
    let _ ← ifExists
    let this ←
      if kind == "COLUMN".toList then call .column
      else tableName true (kind == "SCHEMA".toList)
    if ← word "ON" then
      let _ ← onProperty
    if ← sees (·.isSign "(") then
      let _ ← parenList (call (.type {}))
    if !(← spelled "CASCADE") then
      let _ ← spelled "RESTRICT"
    let _ ← spelled "CONSTRAINTS"
    let _ ← spelled "PURGE"
    return some (.drop kind (this.bind Node.tableRef?))

end DryRun.Grammar
