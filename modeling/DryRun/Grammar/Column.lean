import DryRun.Grammar.Operator

/-!
# Columns of a definition

A list of columns in parentheses: each is a name with a type and constraints, or a constraint of the
table. The parts that constraints share with other definitions are here as well: conditions, references
to other tables, the options of keys, the parameters of an index, and what to do on a conflict.
-/

namespace DryRun.Grammar

/-! ## Shared parts -/

/-- A condition, which must follow its word. -/
def whereClause : Parse (Option Node) :=
  onlyIf (word "WHERE") do
    let _ ← must (call .disjunction)
    return some .other

/-- Names between commas in parentheses, which must be there. -/
def nameList : Parse (List Node) := parenList name

/-- The expressions that rows are partitioned by. -/
def partitionBy : Parse (List Node) := do
  if ← accept isPartitionBy then commaList (call .disjunction) else return []

/-- Properties between commas in parentheses, which must be there. -/
def propertyList : Parse (List Node) := parenList (call .property)

/-- `IF NOT EXISTS`, each word taken only after the one before. -/
def unlessExists : Parse Bool := spelled "IF" <&&> accept isNot <&&> word "EXISTS"

/-- `IF EXISTS`, the second word taken only after the first. -/
def ifExists : Parse Bool := spelled "IF" <&&> word "EXISTS"

/-! ## Keys and references -/

def keyOption : Parse (Option Node) := do
  if ← word "ON" then
    let _ ← anyItem
    need (← spelledAll "NO ACTION" <||> spelled "CASCADE" <||> spelled "RESTRICT"
      <||> acceptPair (·.isWord "SET") (fun i => i.isWord "NULL" || i.isWord "DEFAULT"))
    return some .other
  else
    wordChoice false
      [("NOT", ["ENFORCED"]), ("MATCH", ["FULL", "PARTIAL", "SIMPLE"]),
       ("INITIALLY", ["DEFERRED", "IMMEDIATE"]), ("USING", ["BTREE", "HASH"]), ("DEFERRABLE", []),
       ("NORELY", []), ("RELY", [])]

def keyOptions : Parse Unit := do
  let _ ← many keyOption

/-- A reference to another table after its word. -/
def reference : Parse (Option Node) := do
  let _ ← must (call (.table { columns := true }))
  keyOptions
  return some .other

/-- A key of another table. -/
def foreignKey : Parse (Option Node) := do
  if !(← sees (·.isWord "REFERENCES")) then
    let _ ← nameList
  if ← word "REFERENCES" then
    let _ ← reference
  let _ ← many (onlyIf (word "ON") do
    mustTake fun i => i.isWord "DELETE" || i.isWord "UPDATE"
    if !(← spelledAll "NO ACTION") then
      if ← word "SET" then
        let _ ← accept fun i => i.isWord "NULL" || i.isWord "DEFAULT"
      else advance
    return some Node.other)
  keyOptions
  return some .other

/-- The column of an index with its order and operator. -/
def indexedColumn : Parse (Option Node) := do
  match ← orderedBy (call .assignment) with
  | none => return none
  | some n =>
    if ← word "WITH" then
      let _ ← variableWord true
    return some n

def indexParameters : Parse Unit := do
  if ← word "USING" then
    let _ ← variableWord true
  if ← sees (·.isSign "(") then
    let _ ← parenList indexedColumn
  if ← spelled "INCLUDE" then
    let _ ← nameList
  let _ ← partitionBy
  if ← word "WITH" then
    let _ ← propertyList
  if ← spelledAll "USING INDEX TABLESPACE" then
    let _ ← variableWord true
  let _ ← whereClause
  if ← word "ON" then
    let _ ← call (.field false)

/-- A primary key of one column, or of the columns in parentheses. -/
def primaryKey : Parse (Option Node) := do
  let _ ← accept fun i => i.isWord "ASC" || i.isWord "DESC"
  if ← sees (·.isSign "(") then
    let _ ← mustSome (parenList (call (.field false)))
    indexParameters
  keyOptions
  return some .other

/-! ## Conflicts -/

/-- What to do with a row that is there already. -/
def onConflict : Parse (Option Node) := do
  let conflict ← spelledAll "ON CONFLICT"
  if ← pure conflict <||> spelledAll "ON DUPLICATE KEY" then
    if conflict then
      if ← spelledAll "ON CONSTRAINT" then
        let _ ← name
      else if ← sign "(" then
        let _ ← commaList indexedColumn
        mustSign ")"
    let _ ← whereClause
    let _ ← wordChoice true
      [("ABORT", []), ("FAIL", []), ("IGNORE", []), ("REPLACE", []), ("ROLLBACK", []), ("UPDATE", []),
       ("DO", ["NOTHING", "UPDATE"])]
    if (← previous).any (·.isWord "UPDATE") then
      let _ ← word "SET"
      let _ ← commaList (call .equality)
    let _ ← whereClause
    return some .other
  else return none

/-! ## Constraints -/

/-- A value that grows by itself. -/
def autoIncrement : Parse (Option Node) := do
  if ← sees (·.isSign "(") then
    let _ ← parenList (call .bitwise)
  else if ← spelled "START" then
    let _ ← call .bitwise
    let _ ← spelled "INCREMENT"
    let _ ← call .bitwise
    if !(← spelled "ORDER") then
      let _ ← spelled "NOORDER"
  return some .other

/-- A value that is computed or counted. -/
def generated : Parse (Option Node) := do
  if ← spelledAll "BY DEFAULT" then
    let _ ← acceptPair (·.isWord "ON") (·.isWord "NULL")
  else
    let _ ← spelled "ALWAYS"
  let _ ← word "AS"
  if ← spelled "ROW" then
    if !(← spelled "START") then
      let _ ← word "END"
    let _ ← spelled "HIDDEN"
    return some .other
  let counted ← spelled "IDENTITY"
  if ← sign "(" then
    let started ← spelledAll "START WITH"
    if started then
      let _ ← call .bitwise
    if ← spelledAll "INCREMENT BY" then
      let _ ← call .bitwise
    if ← spelled "MINVALUE" then
      let _ ← call .bitwise
    if ← spelled "MAXVALUE" then
      let _ ← call .bitwise
    if !(← spelled "CYCLE") then
      let _ ← spelledAll "NO CYCLE"
    if !counted then
      let _ ← range
    else if ← pure !started <&&> sees (·.kind == .number) then
      let _ ← commaList (call .bitwise)
    mustSign ")"
  return some .other

/-- The table whose columns are taken over. -/
def likeTable : Parse (Option Node) := do
  let _ ← must (call (.table { columns := true }))
  let options ← many (do
    match ← spelledOneOf (wordsOf "INCLUDING EXCLUDING") with
    | some _ => return some (← name).isSome
    | none => return none)
  return if options.all id then some .other else none

/-- A unique key of one column, or of the columns in parentheses. -/
def uniqueKey : Parse (Option Node) := do
  let _ ← spelledOneOf (wordsOf "KEY INDEX")
  let _ ← spelledAll "NULLS NOT DISTINCT"
  let _ ← call (.columnsOf (← properName))
  if ← word "USING" then
    let _ ← anyItem
  keyOptions
  let _ ← onConflict
  return some .other

/-- A partition into buckets or by shortened values; none if no parenthesis follows. -/
def bucketing : Parse (Option Node) := do
  if ← sees (·.isSign "(") then
    let args ← parenList (firstOf [call .primary, call .column])
    need (2 ≤ args.length)
    return some .other
  else stepBack; return none

/-- The node itself, which must be there. -/
def needed (p : Parse (Option Node)) : Parse (Option Node) := do return some (← must p)

/-- The constraints by their first word, which was taken. -/
def constraints : List (String × Parse (Option Node)) :=
  [("AUTOINCREMENT", autoIncrement), ("AUTO_INCREMENT", autoIncrement), ("IDENTITY", autoIncrement),
   ("CASESPECIFIC", return some .other),
   ("UPPERCASE", return some .other),
   ("CHECK", do
     let _ ← must (parens (call .assignment))
     let _ ← spelled "ENFORCED"
     return some .other),
   ("COLLATE", needed (firstOf [identifier, call .column])),
   ("COMMENT", needed stringOrPlaceholder),
   ("COMPRESS", do
     if ← sees (·.isSign "(") then
       let _ ← parenList (call .bitwise)
     else
       let _ ← call .bitwise
     return some .other),
   ("CLUSTERED", do let _ ← mustSome (parenList ordered); return some .other),
   ("NONCLUSTERED", do let _ ← mustSome (parenList ordered); return some .other),
   ("DEFAULT", needed (call .bitwise)),
   ("ENCODE", needed (variableWord false)),
   ("EPHEMERAL", do let _ ← call .bitwise; return some .other),
   ("EXCLUDE", do indexParameters; return some .other),
   ("FOREIGN KEY", foreignKey),
   ("FORMAT", needed wordOrString),
   ("GENERATED", generated),
   ("INLINE", do
     let _ ← spelled "LENGTH"
     needed (call (.field false))),
   ("LIKE", likeTable),
   ("NOT", do
     if ← spelled "NULL" <||> spelled "CASESPECIFIC" <||> spelledAll "FOR REPLICATION" then
       return some .other
     else stepBack; return none),
   ("NULL", return some .null),
   ("ON", do
     if ← word "UPDATE" then
       match ← call (.call false) with
       | some n => return some n
       | none => fault
     else needed name),
   ("PATH", needed stringOrPlaceholder),
   ("PERIOD", do stepBack; return none),
   ("PRIMARY KEY", primaryKey),
   ("REFERENCES", reference),
   ("TITLE", needed wordOrString),
   ("TTL", do let _ ← must (call .bitwise); return some .other),
   ("UNIQUE", uniqueKey),
   ("WITH", do let _ ← propertyList; return some .other),
   ("BUCKET", bucketing),
   ("TRUNCATE", bucketing)]

def tableConstraintWords : List Text :=
  "FOREIGN KEY".toList :: "PRIMARY KEY".toList :: wordsOf "CHECK EXCLUDE LIKE PERIOD UNIQUE BUCKET TRUNCATE"

/-- The constraint whose first word is at the front, if it is one of `ws` or any if there are none. -/
def constraintOf (ws : List Text) : Parse (Option (Option Node)) := do
  match ← peek with
  | none => return none
  | some i =>
    if i.kind == .string || !(ws.isEmpty || ws.contains i.caps) then return none
    match constraints.find? fun c => c.1.toList == i.caps with
    | some c => advance; return some (← c.2)
    | none => return none

def unnamedConstraint (ws : List Text) : Parse (Option Node) := do
  if ← sees (·.kind == .quotedName) then return none
  let before ← get
  match ← constraintOf ws with
  | some (some n) => return some n
  | _ => set before; return none

def tableConstraint : Parse (Option Node) := do
  if ← word "CONSTRAINT" then
    let _ ← must name
    let _ ← mustSome (many (firstOf [unnamedConstraint [], call (.call false)]))
    return some .other
  else unnamedConstraint tableConstraintWords

/-- A constraint of a column, or its name alone. -/
def columnConstraint : Parse (Option Node) := do
  let label ← onlyIf (word "CONSTRAINT") name
  match ← constraintOf [] with
  | some (some _) => return some .other
  | some none => fault
  | none => return label

/-! ## Columns -/

/-- The computation of a column: after `AS` without a type, after `ALIAS` or `MATERIALIZED`, or in
parentheses after a type and `AS`. -/
def computation (typed : Bool) : Parse Bool := do
  if ← (pure !typed <&&> word "AS") <||> (return (← spelledOneOf (wordsOf "ALIAS MATERIALIZED")).isSome) then
    let _ ← must (call .disjunction)
    let _ ← spelled "PERSISTED"
    if !(← spelled "AUTO") then
      let _ ← call (.type {})
    let _ ← acceptPair isNot (·.isWord "NULL")
    return true
  else if ← pure typed <&&> seesPair (·.isWord "AS") (·.isSign "(") then
    advance
    let _ ← must (call .disjunction)
    return true
  else return false

/-- The column that a node names, with its type and constraints; the node itself if there are none. A
parameter of a function has no computation, and may have `AS` before its type. -/
def definitionOf (isParameter : Bool) (head : Option Node) : Parse (Option Node) := do
  if isParameter then
    let _ ← word "AS"
  let type ← call (.type { ofColumn := true })
  if ← spelledAll "FOR ORDINALITY" then
    need head.isSome
    return some .definition
  let computed ← computation type.isSome
  let found ← many columnConstraint
  if type.isNone && !computed && found.isEmpty then return head
  need head.isSome
  return some .definition

/-- A parameter of a function, or a column of an alias. -/
def parameterDefinition : Parse (Option Node) := do definitionOf true (← name)

/-- A column of a list of columns. -/
def columnDefinition : Parse (Option Node) := do definitionOf false (← call (.field true))

/-- The list of columns after a table or nothing, unless a query stands there. -/
def columnsOf (table : Option Node) : Parse (Option Node) := do
  let before ← get
  if ← sign "(" then
    if ← sees fun i => i.isSign "(" || i.isWord "WITH" || i.isWord "SELECT" then
      set before
      return table
    let _ ← commaList (firstOf [tableConstraint, columnDefinition])
    mustSign ")"
    return some (.columns table)
  else return table

end DryRun.Grammar
