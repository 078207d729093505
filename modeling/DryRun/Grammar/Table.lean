import DryRun.Grammar.Column

/-!
# Tables

What stands for a table in a query: a dotted name, a query or rows, a function, and what may follow
each of them: a version, a sample, an alias with names for the columns, pivots and joins.
-/

namespace DryRun.Grammar

/-! ## Names -/

/-- One part of a dotted name: a name, a string or a placeholder, or a call unless only names are
asked for. -/
def tablePart (namesOnly : Bool) : Parse (Option Node) :=
  firstOf [if namesOnly then return none else callRule false false true, properName, stringName,
    placeholder]

/-- The parts of a dotted name as far as they are read. -/
structure NameParts where
  catalog : Option Node := none
  schema : Option Node := none
  name : Option Node := none

/-- The parts after one more dot. With a catalog, further parts are nested in the name, which keeps the
last of them, and none may be missing; before that a part may be. -/
def NameParts.step (namesOnly : Bool) (parts : NameParts) : Parse (Option NameParts) :=
  onlyIf (sign ".") do
    let part ← tablePart namesOnly
    if parts.catalog.isSome then
      need (parts.name.isSome && part.isSome)
      return some { parts with name := part }
    else return some ⟨parts.schema, parts.name, part⟩

/-- The text of a part, if it is there and not empty. -/
def partText? (part : Option Node) : Option Text :=
  match part.map Node.nameText with
  | some (c :: t) => some (c :: t)
  | _ => none

/-! ## Aliases -/

/-- The alias of a table: a name after `AS` or a word of the given sort, and names for its columns. Tells
whether there is a name, and whether there is any of them. -/
def aliasParts (p : Item → Bool) : Parse (Bool × Bool) := do
  if ← opensOffset then return (false, false)
  let any ← word "AS"
  let label ← firstOf [nameOf fun i => p i || (any && (i.isAny || i.isName)), stringName]
  let before ← get
  let columns ←
    if ← sign "(" then do
      match ← commaList parameterDefinition with
      | [] => set before; pure []
      | found => mustSign ")"; pure found
    else pure []
  return (label.isSome, label.isSome || !columns.isEmpty)

/-- The alias of a table by a word of the given sort. -/
def tableAliasOf (p : Item → Bool) : Parse Bool := do return (← aliasParts p).2

def tableAlias : Parse Bool := tableAliasOf Item.isTableAlias

/-! ## Samples -/

/-- A sample of the rows, after its first words. -/
def sampleBody : Parse Unit := do
  let _ ← firstOf [nameOf fun i => i.isPlain || i.isWord "ROW"]
  let opened ← sign "("
  if ← sees (·.kind == .number) then
    let _ ← call .factor
  else
    let _ ← firstOf [call .primary, placeholder]
  if ← spelled "BUCKET" then
    let _ ← numberOrPlaceholder
    let _ ← spelledAll "OUT OF"
    let _ ← numberOrPlaceholder
    let _ ← word "ON"
    let _ ← call (.field false)
  else
    let _ ← accept fun i => i.isWord "PERCENT" || i.isSign "%" || i.isWord "ROWS"
  if opened then mustSign ")"
  if ← sign "(" then
    let _ ← variableWord false
    if ← sign "," then
      let _ ← numberOrPlaceholder
    mustSign ")"
  else if (← spelledOneOf (wordsOf "SEED REPEATABLE")).isSome then
    let _ ← parens numberOrPlaceholder

def tableSample : Parse Bool := do
  if ← word "TABLESAMPLE" then
    sampleBody
    return true
  else return false

def querySample : Parse Bool := do
  if ← word "TABLESAMPLE" <||> spelledAll "USING SAMPLE" then
    sampleBody
    return true
  else return false

/-! ## Groups -/

/-- The expressions of a grouping, and sets or totals after them; `none` if these are missing. -/
def groupStep : Parse (Option Unit) := do
  let _ ← commaList (do
    if ← sees (·.isOneOf (wordsOf "CUBE ROLLUP")) then return none else call .disjunction)
  let before ← get
  let isTotal ← word "WITH"
  if ← word "ROLLUP" <||> word "CUBE" then
    if !isTotal then
      let _ ← parenList (call .bitwise)
  else if ← phrase "GROUPING SETS" then
    let _ ← mustSome (parenList groupingSet)
  else
    let _ ← spelled "TOTALS"
  if (← get).ahead.length + 1 < before.ahead.length then return some ()
  else set before; return none
where
  /-- One set of a grouping. -/
  groupingSet : Parse (Option Node) := do
    if ← word "CUBE" <||> word "ROLLUP" then
      let _ ← parenList (call .bitwise)
      return some .other
    else call .bitwise

def groupClause : Parse (Option Node) :=
  onlyIf (phrase "GROUP BY") do
    if !(← word "ALL") then
      let _ ← word "DISTINCT"
    let _ ← many groupStep
    return some .other

/-! ## Pivots -/

/-- A value of a pivot with an optional name. -/
def pivotValue : Parse (Option Node) := do
  let this ← queryOrExpression false
  let _ ← word "AS"
  match ← call .bitwise with
  | some _ => need this.isSome; return some .other
  | none => return this

/-- The column of a pivot and its values. -/
def pivotField : Parse (Option Node) := do
  let _ ← must (call .column)
  mustTake (·.isWord "IN")
  if ← sign "(" then
    if ← word "ANY" then
      let _ ← orderClause
    else
      let _ ← commaList pivotValue
    mustSign ")"
  else
    let _ ← name
  return some .other

/-- A pivot of rows to columns or back. -/
def pivot : Parse (Option Node) := do
  let before ← get
  match ← take? fun i => i.isWord "PIVOT" || i.isWord "UNPIVOT" with
  | none => return none
  | some i =>
    let back := i.isWord "UNPIVOT"
    if back then
      if !(← spelledAll "INCLUDE NULLS") then
        let _ ← spelledAll "EXCLUDE NULLS"
    if !(← sign "(") then
      set before
      return none
    if back then
      let _ ← mustSome (commaList (call .column))
    else
      let _ ← mustSome (commaList (do
        let this ← must (callRule false false false)
        withAlias false (some this)))
    mustTake (·.isWord "FOR")
    let _ ← many (attempt pivotField)
    if ← spelledAll "DEFAULT ON NULL" then
      let _ ← parens (call .bitwise)
    let _ ← groupClause
    mustSign ")"
    if !(← sees fun i => i.isWord "PIVOT" || i.isWord "UNPIVOT") then
      let _ ← tableAlias
    return some .other

def pivots : Parse Bool := do return !(← many pivot).isEmpty

/-! ## Named tables -/

/-- A state of a table at another time: a kind and a value after an arrow, in parentheses. Anything else
is not taken. -/
def pastState : Parse Bool := do
  let before ← get
  if (← spelledOneOf (wordsOf "AT BEFORE END")).isSome then
    let kind ← if ← sign "(" then spelledOneOf (wordsOf "OFFSET STATEMENT STREAM TIMESTAMP VERSION")
      else pure none
    let value ← onlyIf (sign "=>") (call .bitwise)
    if kind.isSome && value.isSome then
      mustSign ")"
      return true
    set before
  return false

/-- The changes of a table between two states. -/
def tableChanges : Parse Unit := do
  if ← spelledAll "CHANGES ( INFORMATION =>" then
    let _ ← must (variableWord true)
    mustSign ")"
    let _ ← pastState
    let _ ← pastState

/-- The dotted name of a table, or of a schema if asked, whose last part is the schema. Its pivots belong
to it, so that they come before an alias. -/
def tableName (namesOnly isSchema : Bool) : Parse (Option Node) := do
  let first ← tablePart namesOnly
  let parts ← grow (NameParts.step namesOnly) { name := first }
  need parts.name.isSome
  tableChanges
  let _ ← pastState
  let pivoted ← pivots
  let ref : TableRef :=
    if isSchema then ⟨partText? parts.schema, partText? parts.name, []⟩
    else ⟨partText? parts.catalog, partText? parts.schema, (parts.name.map Node.nameText).getD []⟩
  return some (.table ref (if pivoted then [.pivots] else []))

/-! ## Rows -/

/-- One row: expressions in parentheses, or one expression. -/
def row : Parse (Option Node) := do
  if ← sign "(" then
    let _ ← commaList (do
      if ← word "DEFAULT" then return some Node.other else call .expression)
    mustSign ")"
    return some .tuple
  else return (← call .expression).map fun _ => .tuple

/-- Rows written out, in parentheses or without, with an alias. -/
def rows : Parse (Option Node) := do
  let wrapped ← acceptPair (·.isSign "(") (·.isWord "VALUES")
  if ← pure wrapped <||> spelled "VALUES" <||> spelledAll "FORMAT VALUES" then
    let _ ← mustSome (commaList row)
    let first ← tableAlias
    if wrapped then mustSign ")"
    let second ← if first then pure false else tableAlias
    return some (.rows (if first || second then [.aliased] else []))
  else return none

/-! ## Subqueries -/

/-- The query that a node is in parentheses, with what may follow it. -/
def subqueryOf (inner : Node) (aliased : Bool) : Parse (Option Node) := do
  let pivoted ← pivots
  let named ← if aliased then tableAlias else pure false
  let sampled ← tableSample
  let marks :=
    (if pivoted then [Mark.pivots] else []) ++ (if named then [Mark.aliased] else []) ++
      (if sampled then [Mark.sample] else [])
  return some (.subquery inner marks)

/-! ## Laterals -/

def isAliased (n : Node) : Bool := n.marks?.any (·.contains .aliased)

/-- A table that depends on those before it: a query or function after `LATERAL` or an applying join,
or a view of a function. -/
def lateral : Parse (Option Node) := do
  let applied ← acceptPair (fun i => i.isWord "CROSS" || i.isWord "OUTER") (·.isWord "APPLY")
  if ← pure applied <||> word "LATERAL" then
    let query ← call (.query { table := true })
    let view ← pure !applied <&&> word "VIEW"
    if !applied then
      let _ ← word "OUTER"
    let this ←
      match query with
      | some q => pure (some q)
      | none => do
        let head ← firstOf [unnest tableAlias, callRule false false false, properName]
        grow (fun this => do
          if ← sign "." then
            let part ← firstOf [callRule false false false, properName]
            return some (part.or this)
          else return none) head
    if view then
      let _ ← properName
      if ← word "AS" then
        let _ ← commaList name
    else if !this.any isAliased then
      let _ ← acceptPair (·.isWord "WITH") (·.isWord "ORDINALITY")
      let _ ← tableAlias
    need this.isSome
    return some .lateral
  else return none

/-! ## Joins -/

/-- The words before a join or a set operator, and the last of them if it says how to join. -/
structure JoinWords where
  method : Bool
  kind : Option Item

/-- The words before a join or a set operator. -/
def joinParts : Parse JoinWords := do
  let method ← accept (·.isOneOf (wordsOf "ASOF NATURAL"))
  let _ ← accept (·.isOneOf (wordsOf "LEFT RIGHT FULL"))
  let kind ← take? (·.isOneOf (wordsOf "ANTI CROSS INNER OUTER SEMI STRAIGHT_JOIN"))
  return ⟨method, kind⟩

/-- The columns of a join after `USING`, in parentheses or without. -/
def usingColumns : Parse Unit := do
  let _ ← optionalParens (commaList (call .column))

/-- The condition of a join; none if there is none. -/
def joinCondition : Parse Bool := do
  if ← word "ON" then
    let _ ← call .disjunction
    return true
  else if ← word "USING" then
    usingColumns
    return true
  else return false

/-- A join with one more table. After a comma the table is only tried. A join without a condition may
have further joins nested in it, whose conditions come first. The fuel bounds the nesting. -/
def joinUpTo (o : TableOptions) : Nat → Parse (Option Node)
  | 0 => return none
  | fuel + 1 => do
    if ← sign "," then return (← attempt (call (.table {}))).map fun _ => .other
    let before ← get
    let parts ← joinParts
    let _ ← spelled "DIRECTED"
    let joined ← word "JOIN" <||> pure (parts.kind.any (·.isWord "STRAIGHT_JOIN"))
    if !joined then set before
    let applied ← pure !joined <&&>
      seesPair (fun i => i.isWord "CROSS" || i.isWord "OUTER") (·.isWord "APPLY")
    if !joined && !applied then return none
    let unnested ← seesPair (·.isWord "UNNEST") (·.isSign "(")
    let _ ← must (call (.table o))
    if !(← joinCondition) then
      if !(joined && parts.method) && !applied && !unnested && !parts.kind.any (·.isWord "CROSS") then
        let start ← get
        let nested ← many (joinUpTo {} fuel)
        if !(← pure !nested.isEmpty <&&> joinCondition) then set start
    let _ ← pivots
    return some .other

/-- A join with one more table. -/
def join (o : TableOptions) : Parse (Option Node) := do joinUpTo o ((← get).ahead.length + 1)

def joins (o : TableOptions) : Parse Bool := do return !(← many (join o)).isEmpty

/-! ## Tables -/

/-- The version of a table: between two times or versions, in a range, all of them, or as of one. -/
def version : Parse Unit := do
  if ← spelledAll "TIMESTAMP AS OF" <||> spelledAll "VERSION AS OF" <||> spelledAll "FOR TIMESTAMP"
      <||> spelledAll "FOR VERSION" then
    if ← accept fun i => i.isWord "FROM" || i.isWord "BETWEEN" then
      let _ ← call .bitwise
      let _ ← spelledOneOf (wordsOf "TO AND")
      let _ ← call .bitwise
    else if ← spelledAll "CONTAINED IN" then
      let _ ← parenList (call .bitwise)
    else if !(← word "ALL") then
      let _ ← spelledAll "AS OF"
      let _ ← call .typed

def partition : Parse (Option Node) :=
  onlyIf (word "PARTITION") do
    let _ ← mustSome (parenList (call .disjunction))
    return some .other

/-- Hints how to read a table: in parentheses, or indexes to use. -/
def tableHints : Parse Unit := do
  if ← acceptPair (·.isWord "WITH") (·.isSign "(") then
    let _ ← mustSome (commaList (firstOf [callRule false false false, variableWord true]))
    mustSign ")"
  else
    let _ ← many (onlyIf (word "USE") do
      let _ ← word "INDEX"
      if ← word "FOR" then
        let _ ← anyItem
      let _ ← nameList
      return some Node.other)

/-- A table that is not a query: rows from functions, or a name, and what may follow it. -/
def namedTable (o : TableOptions) : Parse (Option Node) := do
  let fromRows ←
    if ← spelledAll "ROWS FROM" then do
      let _ ← mustSome (parenList (call (.table {})))
      pure true
    else pure false
  let this ←
    if fromRows then pure (some (Node.table {} []))
    else do
      let named ← tableName o.columns o.isSchema
      if ← sees fun i => i.isSign "[" || i.isSign "\x7b" then withBrackets named else pure named
  let _ ← spelled "*"
  if o.partition then
    let _ ← partition
  if o.columns then return ← columnsOf this
  version
  let sampled ← tableSample
  let aliased ← tableAliasOf fun i =>
    i.isTableAlias && !(o.beforeSet && i.isWord "SET") && !(o.beforeIs && i.isWord "IS")
  if ← spelled "AT" then
    let _ ← must name
    return some .other
  tableHints
  let pivoted ←
    if this.any fun n => n.marks?.any (·.contains .pivots) then pure true else pivots
  let joined ← if o.joins then joins {} else pure false
  if ← acceptPair (·.isWord "WITH") (·.isWord "ORDINALITY") then
    let _ ← tableAlias
  let marks :=
    (if sampled then [Mark.sample] else []) ++ (if aliased then [Mark.aliased] else []) ++
      (if pivoted then [Mark.pivots] else []) ++ (if joined then [Mark.joins] else [])
  return this.map (·.withMarks marks)

/-- A table that follows the word `STREAM`. -/
def stream : Parse (Option Node) := do
  let before ← get
  if ← spelled "STREAM" then
    match ← attempt (call (.table {})) with
    | some _ => return some .other
    | none => set before; return none
  else return none

def table (o : TableOptions) : Parse (Option Node) :=
  firstOf [stream, lateral, unnest tableAlias, rows, do
    match ← call (.query { table := true }) with
    | some q =>
      let q := if ← pivots then q.addMark .pivots else q
      if o.joins then
        if ← joins {} then return some (q.addMark .joins)
      return some q
    | none => return none, namedTable o]

end DryRun.Grammar
