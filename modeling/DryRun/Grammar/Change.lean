import DryRun.Grammar.Create

/-!
# Changes of rows

Statements that insert, update, delete and merge rows.
-/

namespace DryRun.Grammar

/-- The values that a change gives back. -/
def returning : Parse (Option Node) :=
  onlyIf (word "RETURNING") do
    let _ ← mustSome (commaList (call .expression))
    if ← word "INTO" then
      let _ ← tablePart false
    return some .other

/-! ## Insertion -/

/-- One table of an insertion into several, with the condition for its rows. -/
def conditionalInsert : Parse (Option Node) := do
  if ← word "WHEN" then
    let _ ← call .disjunction
    let _ ← word "THEN"
  let _ ← word "ELSE"
  onlyIf (word "INTO") do
    let _ ← must (call (.table { columns := true }))
    let _ ← rows
    return some .other

/-- An insertion into several tables. -/
def multipleInsert : Parse (Option Node) := do
  let _ ← mustSome (many conditionalInsert)
  let _ ← must (call (.table {}))
  return some .other

/-- What is inserted and how, after the target. -/
def insertBody : Parse (Option Node) := do
  let returned ← returning
  if ← spelled "STORED" then
    let _ ← stored
  let _ ← spelledAll "BY NAME"
  let _ ← ifExists
  if ← acceptPair (·.isWord "REPLACE") (·.isWord "WHERE") then
    let _ ← call .disjunction
  if ← accept isPartitionBy then
    let _ ← partitioned
  if ← spelled "SETTINGS" then
    let _ ← mustSome (commaList (call .assignment))
  let _ ← spelledAll "DEFAULT VALUES"
  if ← word "SET" then
    let _ ← commaList (call .equality)
  else
    let _ ← firstOf [rows, definingQuery]
  let _ ← onConflict
  if returned.isNone then
    let _ ← returning
  if ← word "TABLE" then
    let _ ← must (call (.table {}))
  return some .insert

def insertStatement : Parse (Option Node) := do
  hint
  let _ ← word "OVERWRITE"
  let _ ← spelled "LOCAL"
  if ← spelled "DIRECTORY" then
    let _ ← must wordOrString
    let _ ← rowFormat
    insertBody
  else if ← accept fun i => i.isWord "FIRST" || i.isWord "ALL" then multipleInsert
  else
    if ← word "OR" then
      let _ ← spelledOneOf (wordsOf "ABORT FAIL IGNORE REPLACE ROLLBACK")
    let _ ← word "INTO"
    let _ ← word "TABLE"
    if ← word "FUNCTION" then
      let _ ← call (.call false)
    else
      match ← must (call (.table { columns := true, partition := true })) with
      | .table _ _ =>
        if ← sees (·.isWord "AS") then
          let _ ← tableAlias
      | _ => pure ()
    insertBody

/-! ## Deletion and update -/

def deleteStatement : Parse (Option Node) := do
  hint
  if !(← sees (·.isWord "FROM")) then
    let _ ← commaList (call (.table {}))
  let returned ← returning
  if ← word "FROM" then
    let _ ← must (call (.table { joins := true }))
  if ← word "USING" then
    let _ ← commaList (call (.table { joins := true }))
  if ← word "ON" then
    let _ ← onProperty
  let _ ← whereClause
  if returned.isNone then
    let _ ← returning
  let _ ← orderClause
  let _ ← limitClause
  return some .delete

def updatePart : Parse Bool := do
  if ← word "SET" then
    let _ ← commaList (call .equality)
    return true
  else if (← returning).isSome then return true
  else
    match ← fromClause { joins := true } with
    | some (.subquery _ _) =>
      let _ ← joins {}
      return true
    | some _ => return true
    | none =>
      if (← firstOf [whereClause, orderClause]).isSome then return true
      else return (← limitClause).isSome

def updateStatement : Parse (Option Node) := do
  hint
  let _ ← must (call (.table { joins := true, beforeSet := true }))
  repeatWhile updatePart
  return some .update

/-! ## Merge -/

def starOrPlaceholder : Parse (Option Node) := do
  if ← sign "*" then starOptions else placeholder

/-- What is done with the rows of one case of a merge. -/
def mergeAction : Parse Unit := do
  if ← word "INSERT" then
    if (← starOrPlaceholder).isNone then
      if !(← spelled "ROW") then
        let _ ← row
      if ← spelled "VALUES" then
        let _ ← row
      let _ ← whereClause
  else if ← word "UPDATE" then
    if (← starOrPlaceholder).isNone then
      if ← word "SET" then
        let _ ← commaList (call .equality)
      let _ ← whereClause
  else if !(← word "DELETE") then
    let _ ← must (wordChoice true
      [("ABORT", []), ("FAIL", []), ("IGNORE", []), ("REPLACE", []), ("ROLLBACK", []), ("UPDATE", []),
       ("DO", ["NOTHING", "UPDATE"])])

def mergeCase : Parse (Option Node) :=
  onlyIf (word "WHEN") do
    let _ ← accept isNot
    let _ ← spelled "MATCHED"
    if !(← spelledAll "BY TARGET") then
      let _ ← spelledAll "BY SOURCE"
    if ← word "AND" then
      let _ ← call .disjunction
    let _ ← word "THEN"
    mergeAction
    return some .other

def mergeStatement : Parse (Option Node) := do
  let _ ← word "INTO"
  let _ ← must (call (.table {}))
  if ← sees (·.isWord "AS") then
    let _ ← tableAlias
  let _ ← word "USING"
  let _ ← must (call (.table {}))
  if ← word "ON" then
    let _ ← call .disjunction
  if ← word "USING" then usingColumns
  let _ ← mustSome (many mergeCase)
  let _ ← returning
  return some .merge

end DryRun.Grammar
