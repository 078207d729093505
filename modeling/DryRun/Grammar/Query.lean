import DryRun.Grammar.Table
import DryRun.Sql.Scan

/-!
# Queries

Selections and the clauses after them, common table expressions, set operators, and queries in
parentheses. A clause that stands twice is malformed.
-/

namespace DryRun.Grammar

open DryRun.Sql

/-! ## Hints -/

/-- Whether all statements of a text, cut at its separators, have a token; the end of the text may be a
separator. `empty` tells whether the statement at hand has none yet. -/
def allStatementsFull (empty : Bool) : List Token → Bool
  | [] => !empty
  | [t] => !(empty && t.kind == .semicolon)
  | t :: ts => if t.kind == .semicolon then !empty && allStatementsFull true ts else allStatementsFull false ts

/-- The hint after the first word of a statement. Its content must be tokens. -/
def hint : Parse Unit := do
  match ← take? (·.kind == .hint) with
  | none => return ()
  | some i =>
    let content := (i.text.drop 3).take (i.text.length - 5)
    match scan content with
    | .error cause => throw (.hint cause)
    | .ok pieces => need (allStatementsFull true (pieces.filter Token.isSignificant))

/-! ## Clauses -/

/-- The rows that are locked. -/
def lockClause : Parse (Option Node) := do
  if ← spelledAll "FOR UPDATE" <||> spelledAll "FOR SHARE" <||> spelledAll "LOCK IN SHARE MODE"
      <||> spelledAll "FOR KEY SHARE" <||> spelledAll "FOR NO KEY UPDATE" then
    if ← spelled "OF" then
      let _ ← commaList (call (.table { columns := true }))
    if !(← spelled "NOWAIT") then
      if ← spelled "WAIT" then
        let _ ← call .primary
      else
        let _ ← spelledAll "SKIP LOCKED"
    return some .other
  else return none

def namedWindow : Parse (Option Node) := do
  let this ← withFilter (← name)
  let _ ← word "AS"
  if ← sign "(" then windowBody
  else
    let _ ← properName
  need this.isSome
  return some .other

/-- The items in which the word `PRIOR` is a phrase, or a word again. -/
def markPrior (isPhrase : Bool) (s : Stream) : Stream :=
  { s with ahead := s.ahead.map fun i =>
      if i.caps == "PRIOR".toList && i.kind == (if isPhrase then .word else .phrase) then
        { i with kind := if isPhrase then .phrase else .word }
      else i }

/-- A walk along a hierarchy, in whose condition `PRIOR` refers to the row before. -/
def connectClause : Parse (Option Node) :=
  onlyIf (phrase "CONNECT BY") do
    let _ ← spelled "NOCYCLE"
    modify (markPrior true)
    let _ ← must (call .disjunction)
    modify (markPrior false)
    return some .other

/-- The next clause of a query with the marks it sets, of which the first must not be set before; none
if no clause begins here. -/
def clause : Parse (Option (List Mark)) := do
  match ← peek with
  | none => return none
  | some i =>
    if i.isWord "WHERE" then return (← whereClause).map fun _ => [.condition]
    else if i.isPhrase "GROUP BY" then return (← groupClause).map fun _ => [.group]
    else if i.isWord "HAVING" then
      advance
      let _ ← must (call .disjunction)
      return some [.having]
    else if i.isWord "QUALIFY" then
      advance
      let _ ← must (call .disjunction)
      return some [.qualify]
    else if i.isWord "WINDOW" then
      advance
      let _ ← mustSome (commaList namedWindow)
      return some [.windows]
    else if i.isPhrase "ORDER BY" then return (← orderClause).map fun _ => [.order]
    else if i.isPhrase "SORT BY" then return (← sortClause "SORT BY").map fun _ => [.sort]
    else if i.isPhrase "CLUSTER BY" then return (← sortClause "CLUSTER BY").map fun _ => [.cluster]
    else if i.isPhrase "DISTRIBUTE BY" then
      return (← sortClause "DISTRIBUTE BY").map fun _ => [.distribute]
    else if i.isWord "LIMIT" || i.isWord "FETCH" then
      return (← limitClause).map fun skips => if skips then [.limit, .offset] else [.limit]
    else if i.isWord "OFFSET" then return (← offsetClause).map fun _ => [.offset]
    else if i.isWord "FOR" || i.isWord "LOCK" then
      return if (← many lockClause).isEmpty then none else some [.locks]
    else if i.isWord "TABLESAMPLE" || i.isWord "USING" then
      return if ← querySample then some [.sample] else none
    else if i.isPhrase "CONNECT BY" then return (← connectClause).map fun _ => [.connect]
    else return none

/-- The node with the joins, laterals and clauses after it, if it can have any. -/
def clausesOf (node : Node) : Parse (Option Node) := do
  match node.marks? with
  | none => return some node
  | some _ =>
    let node := if ← joins {} then node.addMark .joins else node
    let node := if (← many lateral).isEmpty then node else node.addMark .laterals
    let node ← grow (fun node => do
      match ← clause with
      | none => return none
      | some [] => return some node
      | some (mark :: more) =>
        need !(node.marks?.any (·.contains mark))
        return some ((mark :: more).foldl (fun n m => n.addMark m) node)) node
    return some node

/-! ## Set operators -/

/-- A query combined with the next one by a set operator, if there is one. The order and limits of the
second query are those of both. -/
def combineOnce : Parse (Option Node) := do
  let before ← get
  let _ ← joinParts
  match ← take? (·.isOneOf (wordsOf "UNION EXCEPT MINUS INTERSECT")) with
  | none => set before; return none
  | some i =>
    if !(← word "DISTINCT") then
      let _ ← word "ALL"
    let byName ← spelledAll "BY NAME" <||> spelledAll "STRICT CORRESPONDING"
    let byName := (← spelled "CORRESPONDING") || byName
    if byName then
      if (← spelledOneOf (wordsOf "ON BY")).isSome then
        let _ ← parenList (call .column)
    let second ← must (call (.query { nested := true, combined := false }))
    let kept := (second.marks?.getD []).filter ([Mark.order, Mark.limit, Mark.offset].contains ·)
    return some (.combined (i.isWord "UNION") kept)

/-- The node combined with all queries after it. -/
def combine (first : Node) : Parse (Option Node) := do return some (← grow (fun _ => combineOnce) first)

/-! ## Common table expressions -/

/-- One common table expression: a name with optional columns, and a statement in parentheses. -/
def commonTable : Parse (Option Node) := do
  need (← aliasParts Item.isName).1
  if ← spelledAll "USING KEY" then
    let _ ← nameList
  let _ ← word "AS"
  if !(← spelledAll "NOT MATERIALIZED") then
    let _ ← spelled "MATERIALIZED"
  let _ ← must (parens (call .statement))
  return some .other

/-- The order in which recursive rows are found. -/
def searchClause : Parse Unit := do
  let _ ← spelled "SEARCH"
  if (← spelledOneOf (wordsOf "BREADTH DEPTH CYCLE")).isSome then
    let _ ← spelledAll "FIRST BY"
    let _ ← must name
    need (← spelled "SET")
    let _ ← must name
    if ← spelled "USING" then
      let _ ← name

/-- The common table expressions before a statement, after `WITH`. -/
def commonTables : Parse Unit := do
  let _ ← word "RECURSIVE"
  let _ ← commonTable
  repeatWhile do
    if ← sign "," <||> word "WITH" then
      let _ ← word "WITH"
      let _ ← commonTable
      return true
    else return false
  searchClause

/-- A statement after common table expressions, without parentheses around all of it. -/
def withCommonTables : Parse (Option Node) := do
  commonTables
  let this := (← must (call .statement)).unwrapped
  need this.takesCommonTables
  return some this

/-! ## Selections -/

/-- The tables that a selection reads. -/
def fromClause (o : TableOptions) : Parse (Option Node) :=
  onlyIf (word "FROM") (needed (call (.table o)))

/-- The table that a selection writes to. -/
def intoClause : Parse Unit := do
  if ← word "INTO" then
    let _ ← accept fun i => i.isWord "TEMP" || i.isWord "TEMPORARY"
    let _ ← spelled "UNLOGGED"
    let _ ← word "TABLE"
    let _ ← must (call (.table { columns := true }))

/-- A selection after its first word. Its tables may have come before. -/
def selection (sourced : Bool) : Parse (Option Node) := do
  hint
  if (← get).ahead.length ≥ 2 && !(← seesNext (·.isSign ".")) then
    let all ← word "ALL"
    if ← word "DISTINCT" then
      need !all
      if ← word "AS" then
        let _ ← spelledOneOf (wordsOf "STRUCT VALUE")
      if ← word "ON" then
        let _ ← row
    else if ← word "AS" then
      let _ ← spelledOneOf (wordsOf "STRUCT VALUE")
  else if ← word "AS" then
    let _ ← spelledOneOf (wordsOf "STRUCT VALUE")
  let _ ← commaList (call .expression)
  intoClause
  if !sourced then
    let _ ← fromClause {}
  clausesOf (.select [.source])

/-- A pivot of a whole table, after its first word. -/
def tablePivot : Parse (Option Node) := do
  let _ ← must (call (.table {}))
  if ← word "ON" then
    let _ ← commaList (do
      let this ← call .bitwise
      if ← word "IN" then
        need this.isSome
        membership
        return some Node.other
      else if ← sees (·.isWord "AS") then withAlias false this
      else return this)
  if ← word "INTO" then
    if ← spelled "NAME" then
      let _ ← call .column
    if ← spelled "VALUE" then
      let _ ← commaList (call .column)
  if ← word "USING" then
    let _ ← commaList (do withAlias false (← call .column))
  let _ ← groupClause
  return some .other

/-- What stands in the parentheses of a query or table, up to the closing one. -/
def wrapped (isTable : Bool) : Parse (Option Node) := do
  if ← accept fun i => i.isWord "PIVOT" || i.isWord "UNPIVOT" then tablePivot
  else if ← sees (·.isWord "FROM") then
    let _ ← fromClause { joins := true }
    match ← call (.query {}) with
    | some q => return some q
    | none =>
      let combined ← must (combine (.select [.source]))
      clausesOf combined
  else
    let this ←
      if isTable then call (.table {})
      else call (.query { nested := true, combined := false })
    match this with
    | none => return none
    | some n =>
      let n :=
        match n with
        | .rows ms => if isTable && ms.contains .aliased then Node.table {} [.aliased] else n
        | _ => n
      clausesOf (← must (combine n))

def query (o : QueryOptions) : Parse (Option Node) := do
  if ← word "WITH" then withCommonTables
  else
    let source ← fromClause { joins := true }
    if ← word "SELECT" then finish (← selection source.isSome)
    else if ← pure (o.table || o.nested) <&&> sign "(" then
      let inner ← wrapped o.table
      mustSign ")"
      match inner with
      | some n => subqueryOf n o.aliased
      | none => return none
    else if ← sees (·.isWord "VALUES") then finish (← rows)
    else if source.isSome then finish (← clausesOf (.select [.source]))
    else if ← word "DESCRIBE" then finish (← call .describe)
    else return none
where
  /-- The query with set operators after it, if they may follow. -/
  finish (this : Option Node) : Parse (Option Node) :=
    match this with
    | some n => if o.combined then combine n else return some n
    | none => return none

end DryRun.Grammar
