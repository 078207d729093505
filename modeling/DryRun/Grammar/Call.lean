import DryRun.Grammar.Signature
import DryRun.Grammar.Types
import DryRun.Grammar.Window

/-!
# Calls

How calls of functions are read. Some functions have arguments of their own form, such as
`CAST(a AS INT)`; the arguments of all others are expressions, lambdas or queries between commas.
-/

namespace DryRun.Grammar

/-! ## Limits -/

/-- The unit and ties of a limit. -/
def limitOptions : Parse Unit := do
  let _ ← accept fun i => i.isWord "PERCENT" || i.isSign "%"
  let _ ← accept fun i => i.isWord "ROW" || i.isWord "ROWS"
  let _ ← spelled "ONLY"
  let _ ← spelledAll "WITH TIES"

/-- The number of rows of a limit. A remainder is read as a number and a percent sign. -/
def limitCount : Parse (Option Node) := do
  let before ← get
  match ← attempt (call .term) with
  | some .remainder => set before; call .factor
  | some n => return some n
  | none => call .factor

/-- The limit of the number of rows, and whether it also gives the number of rows to skip. -/
def limitClause : Parse (Option Bool) := do
  if ← word "LIMIT" then
    let count ← limitCount
    limitOptions
    if ← sign "," then
      let _ ← must (call .term)
      let _ ← limitBy
      return some count.isSome
    else
      need count.isSome
      let _ ← limitBy
      return some false
  else if ← word "FETCH" then
    let _ ← accept fun i => i.isWord "FIRST" || i.isWord "NEXT"
    let _ ← firstOf [call .primary, call (.call false), nameOf Item.isCountName]
    limitOptions
    return some false
  else return none

/-! ## Arguments -/

/-- A query, or an expression that set operators may follow; it may have an alias after `AS` if asked. -/
def queryOrExpression (aliased : Bool) : Parse (Option Node) :=
  firstOf [call (.query {}), do
    let this ← call .assignment
    match ← if aliased then withAlias true this else pure this with
    | some n => call (.combine n)
    | none => return none]

/-- The parameters of a lambda: a name, or names in parentheses. -/
def parameters : Parse (List Node) := do
  let before ← get
  if ← sign "(" then
    let names ← commaList name
    if !(← sign ")") then set before
    return names
  else return (← name).toList

/-- A lambda, or a named argument. -/
def lambda : Parse (Option Node) := do
  let before ← get
  let names ← parameters
  if ← accept fun i => i.isSign "->" || i.isSign "=>" then
    need !names.isEmpty
    let _ ← must (call .disjunction)
    return some .other
  else set before; return none

/-- An argument of a call, with what may follow it: the treatment of nulls, an extreme of another
column, an order and a limit. -/
def argument (aliased : Bool) : Parse (Option Node) :=
  firstOf [lambda, do
    let this ←
      if ← word "DISTINCT" then
        let _ ← commaList (call .disjunction)
        pure (some Node.other)
      else
        let _ ← word "ALL"
        queryOrExpression aliased
    let this ← withNulls this
    let this ← if ← word "HAVING" then do
        let _ ← spelledOneOf (wordsOf "MAX MIN")
        let _ ← must (call .column)
        need this.isSome
        pure (some Node.other)
      else pure this
    let this := (← orderClause).or this
    if (← limitClause).isSome then return some .other else return this]

def arguments : Parse (List Node) := commaList (argument false)

/-! ## Functions with arguments of their own form -/

/-- A conversion `a AS type`, with a value for failures and a format. -/
def castCall : Parse Node := do
  let _ ← must (call .assignment)
  if !(← word "AS") then
    mustSign ","
    let _ ← must stringOrPlaceholder
    return .other
  let type ← call (.type {})
  if ← word "DEFAULT" then
    let _ ← call .bitwise
    let _ ← spelledAll "ON CONVERSION ERROR"
  if ← accept fun i => i.isWord "FORMAT" || i.isSign "," then
    let format ← optionalParens stringOrPlaceholder
    if ← spelledAll "AT TIME ZONE" then
      need format.isSome
      let _ ← must (call .unary)
  else need type.isSome
  let _ ← wordChoice false [("RENAME", ["FIELDS"]), ("ADD", ["FIELDS"])]
  return .other

/-- A conversion `a, type` or `a USING charset`. -/
def convertCall : Parse Node := do
  let _ ← must (call .bitwise)
  if ← word "USING" then
    let _ ← must (firstOf [nameOf fun i => i.isPlain || i.isWord "BINARY"])
  else
    mustSign ","
    let _ ← must (call (.type {}))
  return .other

/-- The characters with the given codes. -/
def charCall : Parse Node := do
  let _ ← mustSome (commaList (call .assignment))
  if ← word "USING" then
    let _ ← variableWord false
  return .other

/-- A decoding by a character set, or a choice between values. -/
def decodeCall : Parse Node := do
  need (2 ≤ (← commaList (call .disjunction)).length)
  return .other

/-- A part of a point in time. -/
def extractCall : Parse Node := do
  let _ ← must (firstOf [call (.call false), wordOrString])
  mustTake fun i => i.isWord "FROM" || i.isSign ","
  let _ ← must (call .bitwise)
  return .other

/-- A rounding to a unit. -/
def roundingCall : Parse Node := do
  let _ ← arguments
  if ← spelled "TO" then
    let _ ← variableWord false
  return .call false

def keyValue : Parse (Option Node) := do
  let _ ← spelled "KEY"
  let key ← call .column
  let _ ← accept fun i => i.isSign ":" || i.isSign "," || i.isWord "IS"
  let _ ← spelled "VALUE"
  let value ← call .bitwise
  if key.isNone && value.isNone then return none
  need (key.isSome && value.isSome)
  let _ ← spelledAll "FORMAT JSON"
  return some .other

/-- An object of keys and values. -/
def objectCall : Parse Node := do
  if ← sees (·.isSign "*") then
    let _ ← call .primary
  else if (← placeholder).isNone then
    let _ ← commaList keyValue
  if !(← spelledAll "NULL ON NULL") then
    let _ ← spelledAll "ABSENT ON NULL"
  if !(← spelledAll "WITH UNIQUE") then
    let _ ← spelledAll "WITHOUT UNIQUE"
  let _ ← spelled "KEYS"
  if ← spelled "RETURNING" then
    if (← call .typed).isSome then
      let _ ← spelledAll "FORMAT JSON"
  if ← spelled "ENCODING" then
    let _ ← variableWord false
  return .other

/-- A search in texts. -/
def matchCall : Parse Node := do
  let _ ← mustSome (commaList (call .column))
  let _ ← spelledAll ") AGAINST ("
  let _ ← must stringOrPlaceholder
  if ← spelledAll "IN NATURAL LANGUAGE MODE" then
    let _ ← spelledAll "WITH QUERY EXPANSION"
  else if !(← spelledAll "IN BOOLEAN MODE") then
    let _ ← spelledAll "WITH QUERY EXPANSION"
  return .other

/-- A normal form of a text. -/
def normalizeCall : Parse Node := do
  let _ ← must (call .bitwise)
  if ← sign "," then
    let _ ← variableWord false
  return .other

/-- The replacement of a part of a text. -/
def overlayCall : Parse Node := do
  let _ ← must (call .bitwise)
  let _ ← must (part "PLACING")
  let _ ← must (part "FROM")
  let _ ← part "FOR"
  return .other
where
  /-- An argument after a comma or a word. -/
  part (w : String) : Parse (Option Node) := do
    if ← sign "," <||> spelled w then call .bitwise else return none

/-- The place of a text in another. -/
def positionCall : Parse Node := do
  let places ← commaList (call .bitwise)
  if ← word "IN" then
    need !places.isEmpty
    let _ ← must (call .bitwise)
  else need (2 ≤ places.length)
  return .other

/-- The concatenation of the texts of many rows. -/
def joinCall : Parse Node := do
  let args ←
    if ← word "DISTINCT" then do
      let first ← must (call .disjunction)
      if ← sign "," then pure (first :: (← commaList (call .disjunction))) else pure [first]
    else commaList (call .disjunction)
  if ← spelledAll "ON OVERFLOW" then
    if !(← spelled "ERROR") then
      let _ ← spelled "TRUNCATE"
      let _ ← stringOrPlaceholder
      if !(← spelledAll "WITH COUNT") then
        let _ ← spelledAll "WITHOUT COUNT"
  let before ← get
  if !(← sign ")") && !args.isEmpty then
    let _ ← orderClause
    let _ ← limitClause
  else if ← spelledAll "WITHIN GROUP" then
    mustSign "("
    let order ← orderClause
    need (order.isSome || !args.isEmpty)
  else
    set before
    need (1 ≤ args.length && args.length ≤ 3)
  return .other

/-- A part of a text by its place and length. -/
def substringCall : Parse Node := do
  let args ← commaList (call .bitwise)
  let (start, length) ← grow (fun (_, length) => do
    if ← word "FROM" then return some ((← call .bitwise).isSome, length)
    else if ← word "FOR" then
      let given := (← call .bitwise).isSome
      return some (true, given)
    else return none) (false, false)
  let count := args.length + start.toNat + length.toNat
  need (1 ≤ count && count ≤ 3)
  return .other

/-- A text without characters at its ends. -/
def trimCall : Parse Node := do
  let _ ← spelledOneOf (wordsOf "LEADING TRAILING BOTH")
  let first ← call .bitwise
  if ← accept fun i => i.isWord "FROM" || i.isSign "," then
    let _ ← must (call .bitwise)
  else need first.isSome
  if ← word "COLLATE" then
    let _ ← call .bitwise
  return .other

/-- The value of one column where another is extreme. -/
def extremeCall : Parse Node := do
  let first ←
    if ← word "DISTINCT" then do
      let n ← must (argument false)
      let _ ← sign ","
      pure [n]
    else pure []
  let rest ← arguments
  need (2 ≤ first.length + rest.length)
  return .call true

def quantileCall : Parse Node := do
  if !(← word "DISTINCT") then
    let _ ← word "ALL"
  let _ ← argument false
  if ← sign "," then
    let _ ← arguments
  return .call true

/-- The tables that a join hint names. -/
def joinHintCall : Parse Node := do
  let _ ← commaList (call (.table {}))
  return .other

/-- The functions with arguments of their own form. -/
def specialCalls : List (List Text × Parse Node) :=
  [(wordsOf "CAST TRY_CAST SAFE_CAST", castCall),
   (wordsOf "CONVERT TRY_CONVERT", convertCall),
   (wordsOf "CEIL FLOOR", roundingCall),
   (wordsOf "CHAR CHR", charCall),
   (wordsOf "DECODE", decodeCall),
   (wordsOf "EXTRACT", extractCall),
   (wordsOf "JSON_OBJECT JSON_OBJECTAGG", objectCall),
   (wordsOf "MATCH", matchCall),
   (wordsOf "NORMALIZE", normalizeCall),
   (wordsOf "OVERLAY", overlayCall),
   (wordsOf "POSITION", positionCall),
   (wordsOf "STRING_AGG", joinCall),
   (wordsOf "SUBSTRING", substringCall),
   (wordsOf "TRIM", trimCall),
   (wordsOf "ARG_MAX ARGMAX MAX_BY ARG_MIN ARGMIN MIN_BY", extremeCall),
   (wordsOf "PERCENTILE PERCENTILE_APPROX APPROX_PERCENTILE", quantileCall),
   (wordsOf "BROADCAST BROADCASTJOIN MAPJOIN MERGE SHUFFLEMERGE MERGEJOIN SHUFFLE_HASH SHUFFLE_REPLICATE_NL",
     joinHintCall)]

/-! ## Words that need no parentheses -/

/-- A choice between cases, of which `CASE` was taken. Before a dot it is a name. -/
def caseChoice : Parse (Option Node) := do
  if ← sees (·.isSign ".") then stepBack; return none
  let _ ← call .disjunction
  let cases ← many (onlyIf (word "WHEN") do
    let _ ← must (call .disjunction)
    let _ ← word "THEN"
    let _ ← must (call .disjunction)
    return some Node.other)
  if ← word "ELSE" then
    let _ ← call .disjunction
  mustTake (·.isWord "END")
  need !cases.isEmpty
  return some .other

/-- A choice between two values, of which `IF` was taken. At the start of a statement and without
parentheses it is a command. -/
def ifChoice (first : Bool) : Parse (Option Node) := do
  if ← sign "(" then
    let args ← commaList (do withAlias true (← call .assignment))
    need (2 ≤ args.length && args.length ≤ 3)
    mustSign ")"
    return some .other
  else if first then
    takeRest
    return some (.statement .command)
  else
    let before ← get
    match ← call .disjunction with
    | none => set before; stepBack; return none
    | some _ =>
      let _ ← word "THEN"
      let _ ← must (call .disjunction)
      if ← word "ELSE" then
        let _ ← call .disjunction
      let _ ← word "END"
      return some .other

/-- The next value of a sequence, of which `NEXT` was taken. -/
def nextValue : Parse (Option Node) := do
  if !(← spelledAll "VALUE FOR") then stepBack; return none
  let _ ← must (call .column)
  if ← word "OVER" then
    let _ ← parens orderClause
  return some .other

/-- A transformation of rows by a function or a script, of which `TRANSFORM` was taken. -/
def transform : Parse (Option Node) := do
  if !(← sees (·.isSign "(")) then stepBack; return none
  let args ← parenList (argument false)
  let _ ← call .rowFormat
  if ← spelled "RECORDWRITER" then
    let _ ← stringOrPlaceholder
  if ← word "USING" then
    need !args.isEmpty
    let _ ← must stringOrPlaceholder
    let _ ← word "AS"
    let _ ← call (.columnsOf none)
    let _ ← call .rowFormat
    if ← spelled "RECORDREADER" then
      let _ ← stringOrPlaceholder
  return some .other

/-- Words that begin a value of their own form without parentheses around it. -/
def openCall (previous : Option Item) (i : Item) : Option (Parse (Option Node)) :=
  if i.kind == .quotedName || i.kind == .string then none
  else if i.caps == "ANY".toList then some do
    let _ ← must (call .bitwise)
    return some .other
  else if i.caps == "CASE".toList then some caseChoice
  else if i.caps == "IF".toList then some (ifChoice previous.isNone)
  else if i.caps == "NEXT".toList then some nextValue
  else if i.caps == "TRANSFORM".toList then some transform
  else if i.isPhrase "PRIOR" then some do
    let _ ← must (call .bitwise)
    return some .other
  else if i.caps == "CONNECT_BY_ROOT".toList then some do
    let _ ← must (call .column)
    return some .other
  else none

/-- Keywords that are values without parentheses. -/
def valueWords : List Text :=
  wordsOf "CURRENT_CATALOG CURRENT_DATE CURRENT_TIME CURRENT_TIMESTAMP CURRENT_USER LOCALTIME"
  ++ wordsOf "LOCALTIMESTAMP SESSION_USER"

/-! ## Calls -/

/-- The arguments of a call of the function that an item names, up to the closing parenthesis. -/
def callArguments (anonymous : Bool) (f : Item) : Parse Node := do
  match if anonymous then none else specialCalls.find? (·.1.contains f.caps) with
  | some (_, special) => special
  | none =>
    match if anonymous then none else arity? f.caps with
    | none => let _ ← commaList (argument true); return .call false
    | some arity =>
      let args ← commaList (argument (f.caps == "STRUCT".toList))
      let skipsNulls :=
        match nullSkipping.contains f.caps, args with
        | true, _ :: .truth :: _ => true
        | _, _ => false
      need (skipsNulls || arity.allows args.length)
      return .call (!skipsNulls && aggregates.contains f.caps)

/-- A test of the rows of a query, or of one value after `LIKE`, whose name and opening parenthesis were
taken. -/
def predicate (previous : Option Item) (f : Item) : Parse (Option Node) := do
  if !f.isOneOf (wordsOf "ALL ANY EXISTS SOME") then return none
  if ← sees fun i => i.isWord "SELECT" || i.isWord "WITH" then
    let query ← call (.query {})
    mustSign ")"
    return query.map fun _ => .other
  else if previous.any fun i => i.isWord "LIKE" || i.isWord "ILIKE" || i.isSignOf (wordsOf "~~ ~~*") then
    stepBack
    return (← call .bitwise).map fun _ => .other
  else return none

/-- A call whose name is at the front. Any item can name it if asked; words that need no parentheses
count unless parentheses are required. -/
def namedCall (anonymous any parensRequired : Bool) : Parse (Option Node) := do
  let previous ← previous
  match ← peek with
  | none => return none
  | some f =>
    let afterDot := previous.any (·.isSign ".")
    match if parensRequired || afterDot then none else openCall previous f with
    | some p => advance; withWindow (← p)
    | none =>
      if !(← seesNext (·.isSign "(")) then
        if !parensRequired && !afterDot && f.isOneOf valueWords then
          advance
          return some (.call false)
        else return none
      else if !(if any then f.isAny else f.isCallable) then return none
      else
        advance
        advance
        match ← predicate previous f with
        | some n => return some n
        | none =>
          let node ← callArguments anonymous f
          mustSign ")"
          withWindow (some node)

/-- A call, which may stand in braces after `fn`. -/
def callRule (anonymous any parensRequired : Bool) : Parse (Option Node) := do
  if ← acceptPair (·.isSign "\x7b") (·.caps == "FN".toList) then
    let node ← namedCall anonymous any parensRequired
    let _ ← sign "\x7d"
    return node
  else namedCall anonymous any parensRequired

end DryRun.Grammar
