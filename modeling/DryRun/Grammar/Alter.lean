import DryRun.Grammar.Control

/-!
# Alteration of tables and views

What an alteration does to a table: its columns, constraints, partitions, name and properties. An
alteration that goes on in an unknown way is a command.
-/

namespace DryRun.Grammar

/-! ## Additions -/

/-- Whether a constraint begins here. -/
def seesConstraint : Parse Bool :=
  sees fun i => i.isOneOf (wordsOf "CONSTRAINT INDEX UNIQUE") || i.isPhrase "FOREIGN KEY"
    || i.isPhrase "PRIMARY KEY"

/-- The place of a column among the others. -/
def columnPlace : Parse Unit := do
  if (← spelledOneOf (wordsOf "FIRST AFTER")).isSome then
    let _ ← call .column

/-- A column with its definition; what is no definition is not taken. -/
def newColumn : Parse (Option Node) := do
  let before ← get
  let _ ← word "COLUMN"
  let _ ← unlessExists
  match ← columnDefinition with
  | some .definition => return some .definition
  | _ => set before; return none

/-- A constraint, column or partition that is added. -/
def addition : Parse (Option Node) := do
  let _ ← spelled "ADD"
  if ← seesConstraint then
    let _ ← mustSome (commaList tableConstraint)
    return some .other
  if (← previous).any (·.spells "ADD") then
    if (← newColumn).isSome then
      columnPlace
      return some .definition
  let _ ← unlessExists
  if ← seesPair (·.isWord "PARTITION") (·.isSign "(") then
    let _ ← must (call (.field true))
    if ← sees (·.spells "LOCATION") then
      let _ ← property
    return some .other
  return none

def addAction : Parse Bool := do
  if ← notM seesConstraint <&&> spelled "COLUMNS" then
    match ← columnsOf none with
    | some _ => return true
    | none => return !(← commaList newColumn).isEmpty
  else return !(← commaList addition).isEmpty

/-! ## Other actions -/

/-- What follows `DROP`: partitions or a list of columns. -/
def dropAction : Parse Bool := do
  let before ← get
  let _ ← ifExists
  if ← sees (·.isWord "PARTITION") then
    let _ ← mustSome (commaList partition)
    return true
  set before
  stepBack
  return !(← commaList (onlyIf (spelledAll "DROP COLUMNS") do
    let _ ← columnsOf none
    return some Node.other)).isEmpty

/-- What follows `ALTER`: a column and how it changes. -/
def alterAction : Parse Bool := do
  let _ ← word "COLUMN"
  let _ ← must (call (.field true))
  if ← acceptPair (·.isWord "DROP") (·.isWord "DEFAULT") then return true
  if ← acceptPair (·.isWord "SET") (·.isWord "DEFAULT") then
    let _ ← call .disjunction
    return true
  if ← word "COMMENT" then
    let _ ← stringOrPlaceholder
    return true
  if ← spelledAll "DROP NOT NULL" <||> spelledAll "SET NOT NULL" <||> spelledAll "SET VISIBLE"
      <||> spelledAll "SET INVISIBLE" then return true
  let _ ← spelledAll "SET DATA"
  let _ ← spelled "TYPE"
  let _ ← call (.type {})
  if ← word "COLLATE" then
    let _ ← call .term
  if ← word "USING" then
    let _ ← call .disjunction
  return true

/-- What follows `CHANGE`: a column with its new name and type. -/
def changeAction : Parse Bool := do
  let _ ← word "COLUMN"
  let _ ← must (call (.field true))
  if ← spelled "TYPE" then
    let _ ← call (.type { ofColumn := true })
    return true
  let _ ← must (call (.field true))
  let _ ← must (call (.type { ofColumn := true }))
  if ← word "COMMENT" then
    let _ ← stringOrPlaceholder
  return true

/-- What follows `RENAME`: a column and its new name, or the new name of the table. -/
def renameAction : Parse Bool := do
  if ← word "COLUMN" then
    let _ ← ifExists
    let old ← call .column
    let linked ← spelled "TO"
    let new ← call .column
    return old.isSome && linked && new.isSome
  else
    let _ ← spelled "TO"
    let _ ← must (call (.table { columns := true }))
    return true

/-- What follows `SET`: properties of some sort. -/
def setAction : Parse Bool := do
  if ← sees (·.isSign "(") <||> spelledAll "TABLE PROPERTIES" then
    let _ ← parenList (call .assignment)
  else if (← spelledOneOf (wordsOf "LOGGED UNLOGGED")).isSome then pure ()
  else if ← spelled "WITHOUT" <&&> (do return (← spelledOneOf (wordsOf "CLUSTER OIDS")).isSome) then pure ()
  else if ← spelled "LOCATION" <||> spelledAll "ACCESS METHOD" <||> spelled "TABLESPACE"
      <||> spelledAll "FILE FORMAT" <||> spelled "FILEFORMAT" then
    let _ ← call (.field false)
  else if ← spelled "TAG" <||> spelled "TAGS" then
    let _ ← commaList (call .assignment)
  else
    if ← spelled "SERDE" then
      let _ ← call (.field false)
    let _ ← optionalParens propertiesAhead
  return true

/-- The actions by the word taken last; each says whether it did something. -/
def actions : List (String × Parse Bool) :=
  [("ADD", addAction),
   ("ALTER", alterAction),
   ("AS", do return (← call (.query {})).isSome),
   ("CHANGE", changeAction),
   ("CLUSTER BY", do let _ ← mustSome (parenList ordered); return true),
   ("DELETE", do let _ ← whereClause; return true),
   ("DROP", dropAction),
   ("RENAME", renameAction),
   ("SET", setAction),
   ("SWAP", do
     need (← word "WITH")
     let _ ← must (call (.table { columns := true }))
     return true)]

/-! ## Alterations -/

/-- The settings of a session that are set or unset. -/
def sessionAction : Parse Bool := do
  if ← word "SET" then return !(← commaList settingValue).isEmpty
  let _ ← spelled "UNSET"
  return !(← commaList name).isEmpty

/-- The action on a table or view, after its kind. -/
def tableAction : Parse Bool := do
  let _ ← ifExists
  let _ ← spelled "ONLY"
  let _ ← must (call (.table { columns := true, partition := true }))
  let _ ← spelledAll "WITH CHECK"
  if ← word "ON" then
    let _ ← onProperty
  if (← get).ahead.length ≥ 2 then advance
  let last ← previous
  match actions.find? fun a => last.any fun i => i.caps == a.1.toList with
  | none => return false
  | some a =>
    let acted ← a.2
    let _ ← spelledAll "NOT VALID"
    let _ ← commaList property
    let _ ← spelled "CASCADE"
    return acted

/-- The alteration of an object, after its first word. -/
def alterStatement : Parse (Option Node) := do
  let acted ←
    if ← accept (·.isOneOf (wordsOf "INDEX TABLE VIEW")) then tableAction
    else if ← word "SESSION" then sessionAction
    else pure false
  if ← pure acted <&&> atEnd then return some (.statement .alter) else command

end DryRun.Grammar
