import DryRun.Grammar.Change

/-!
# Care of tables

Statements that empty, cache, refresh, analyze, describe and load tables.
-/

namespace DryRun.Grammar

/-- The words that begin a statement which is not a query or an expression. -/
def statementWords : List Text :=
  wordsOf "ALTER ANALYZE BEGIN CACHE COMMENT COMMIT COPY CREATE DELETE DESC DESCRIBE DROP GRANT INSERT KILL"
  ++ wordsOf "LOAD MERGE PIVOT PRAGMA REFRESH REVOKE ROLLBACK SET TRUNCATE UNCACHE UNPIVOT UPDATE USE"

/-! ## Emptying -/

/-- The emptying of tables after its first word, or a call of the function of that name. -/
def truncateStatement : Parse (Option Node) := do
  if ← sees (·.isSign "(") then
    stepBack
    call (.call false)
  else
    let isSchema ← word "DATABASE"
    let _ ← word "TABLE"
    let _ ← ifExists
    let _ ← commaList (call (.table { columns := true, isSchema }))
    if ← word "ON" then
      let _ ← onProperty
    if !(← spelledAll "RESTART IDENTITY") then
      let _ ← spelledAll "CONTINUE IDENTITY"
    let _ ← spelledOneOf (wordsOf "CASCADE RESTRICT")
    let _ ← partition
    if ← atEnd then return some .other else command

/-! ## Caches -/

/-- The caching of a table after its first word. -/
def cacheStatement : Parse (Option Node) := do
  let _ ← spelled "LAZY"
  let _ ← word "TABLE"
  let _ ← must (call (.table { columns := true }))
  if ← spelled "OPTIONS" then
    mustSign "("
    let _ ← stringOrPlaceholder
    let _ ← sign "="
    let _ ← stringOrPlaceholder
    mustSign ")"
  let _ ← word "AS"
  let _ ← query { nested := true }
  return some .other

/-- The end of the caching of a table after its first word. -/
def uncacheStatement : Parse (Option Node) := do
  mustTake (·.isWord "TABLE")
  let _ ← ifExists
  let _ ← must (call (.table { columns := true }))
  return some .other

/-- The refreshing of a table, view or path after its first word. -/
def refreshStatement : Parse (Option Node) := do
  let named ← word "TABLE" <||> spelledAll "MATERIALIZED VIEW"
  match ← firstOf [stringOrPlaceholder, call (.table {})] with
  | some (.string _) => return some .other
  | some _ => if named then return some .other else command
  | none => fault

/-! ## Analysis -/

/-- A column as it is named in a table. -/
def columnReference : Parse (Option Node) := call (.field false)

/-- The columns of a histogram and what is kept of them. -/
def histogram : Parse Unit := do
  if ← spelledAll "HISTOGRAM ON" then
    let _ ← commaList columnReference
    if ← word "WITH" then
      let _ ← commaList (onlyIf (spelledOneOf (wordsOf "SYNC ASYNC") <&> Option.isSome) do
        return if ← spelled "MODE" then some Node.other else none)
      let _ ← numberOrPlaceholder
      let _ ← spelled "BUCKETS"
    if (← spelledOneOf (wordsOf "MANUAL AUTO")).isSome then
      let _ ← word "UPDATE"
    else if ← spelledAll "USING DATA" then
      let _ ← stringOrPlaceholder

/-- The statistics that are computed. -/
def statistics : Parse Unit := do
  let _ ← spelled "DELTA"
  need (← spelled "STATISTICS")
  if !(← spelled "NOSCAN") then
    if ← word "FOR" then
      let _ ← spelledAll "ALL COLUMNS"
      if ← spelled "COLUMNS" then
        let _ ← commaList columnReference
    else if ← spelled "SAMPLE" then
      let _ ← must numberOrPlaceholder
      let _ ← word "PERCENT"

/-- What an analysis computes, by its first word; whether there is anything. -/
def analysis : Parse Bool := do
  match ← spelledOneOf (wordsOf "ALL COMPUTE DELETE DROP ESTIMATE LIST PREDICATE UPDATE VALIDATE") with
  | none => return false
  | some first =>
    if (wordsOf "COMPUTE ESTIMATE").contains first then statistics
    else if (wordsOf "ALL PREDICATE").contains first then
      let _ ← spelled "COLUMNS"
    else if (wordsOf "DROP UPDATE").contains first then histogram
    else if (wordsOf "DELETE").contains first then
      let _ ← spelled "SYSTEM"
      let _ ← spelled "STATISTICS"
    else if (wordsOf "LIST").contains first then
      if ← spelledAll "CHAINED ROWS" then intoClause
    else if ← spelledAll "REF UPDATE" then
      let _ ← spelledAll "SET DANGLING TO NULL"
    else if ← spelled "STRUCTURE" then
      if !(← spelledAll "CASCADE FAST") then
        if ← spelledAll "CASCADE COMPLETE ONLINE" <||> spelledAll "CASCADE COMPLETE OFFLINE" then
          intoClause
    return true

def analysisStyles : Parse Unit :=
  repeatWhile do
    match ← spelledOneOf
        (wordsOf "BUFFER_USAGE_LIMIT FULL LOCAL NO_WRITE_TO_BINLOG SAMPLE SKIP_LOCKED VERBOSE") with
    | none => return false
    | some style =>
      if style == "BUFFER_USAGE_LIMIT".toList then
        let _ ← numberOrPlaceholder
      return true

/-- The analysis of tables after its first word. -/
def analyzeStatement : Parse (Option Node) := do
  if ← atEnd then return some .other
  analysisStyles
  if ← accept fun i => i.isWord "TABLE" || i.isWord "INDEX" then
    let _ ← must (tableName false false)
  else if ← spelled "TABLES" then
    if ← accept fun i => i.isWord "FROM" || i.isWord "IN" then
      let _ ← must (call (.table { columns := true, isSchema := true }))
  else if ← spelled "DATABASE" then
    let _ ← must (call (.table { columns := true, isSchema := true }))
  else if ← spelled "CLUSTER" then
    let _ ← must (call (.table {}))
  else if !(← analysis) then
    let _ ← must (tableName false false)
  if ← pure (← attempt partition).isNone <&&> spelled "PARTITION" then command
  else
    if !(← spelledAll "WITH SYNC MODE") then
      let _ ← spelledAll "WITH ASYNC MODE"
    let _ ← analysis
    let _ ← propertiesAhead
    return some .other

/-! ## Descriptions -/

/-- The description of an object after its first word. -/
def describeStatement : Parse (Option Node) := do
  let kind ← objectKind
  let style ← spelledOneOf (wordsOf "ANALYZE EXTENDED FORMATTED HISTORY")
  if ← sees (·.isSign ".") then
    need (kind.isSome || style.isSome)
    stepBack
  if ← sees (·.isWord "FORMAT") then
    let _ ← property
  if ← sees (·.isOneOf statementWords) then
    let _ ← must (call .statement)
  else
    let _ ← must (call (.table { columns := true }))
  let _ ← propertiesAhead
  let _ ← partition
  let _ ← spelledAll "AS JSON"
  return some .other

/-! ## Loading -/

/-- The loading of a file after its first word. -/
def loadStatement : Parse (Option Node) := do
  if ← spelled "DATA" then
    let _ ← spelled "LOCAL"
    let _ ← spelled "INPATH"
    let _ ← must stringOrPlaceholder
    let _ ← word "OVERWRITE"
    let _ ← acceptPair (·.isWord "INTO") (·.isWord "TABLE")
    let _ ← must (call (.table { columns := true }))
    let _ ← partition
    if ← spelled "INPUTFORMAT" then
      let _ ← stringOrPlaceholder
    if ← spelled "SERDE" then
      let _ ← stringOrPlaceholder
    return some .other
  else command

def copyOption : Parse Bool := do
  if ← atEnd <||> sees (·.isSign ")") then return false
  let option ← variableWord true
  let _ ← sign "="
  let _ ← word "AS"
  let value ←
    if ← sees (·.isSign "(") then do
      let _ ← parens propertiesAhead
      pure (some Node.other)
    else call (.field false)
  need option.isSome
  return option.isSome || value.isSome

/-- The copying between tables and files after its first word. -/
def copyStatement : Parse (Option Node) := do
  let _ ← word "INTO"
  if ← sees (·.isSign "(") then
    let _ ← must (query { nested := true, aliased := false })
  else
    let _ ← must (call (.table { columns := true }))
  if !(← word "FROM") then
    let _ ← spelled "TO"
  let _ ← commaList (call (.field false))
  if ← sees (·.isSign "=") then stepBack
  let _ ← spelled "WITH"
  optionalParens (repeatWhile copyOption)
  if ← atEnd then return some .other else command

end DryRun.Grammar
