import DryRun.Grammar.Names

/-!
# Windows and orders

What may follow a call: a group order, a filter, the treatment of nulls, and a window with its
partitions, order and frame. The order of rows is read here as well.
-/

namespace DryRun.Grammar

/-! ## Choices of words -/

/-- A choice between words, each with the words that may follow it. A word outside of the table, or one
without its continuation, is malformed if required, and is not taken otherwise. -/
def wordChoice (required : Bool) (table : List (String × List String)) : Parse (Option Node) := do
  match ← peek with
  | none => return none
  | some i =>
    let before ← get
    advance
    match table.find? fun entry => entry.1.toList == i.caps with
    | some (_, []) => return some .other
    | some (_, continuations) =>
      match ← firstOf (continuations.map fun c => do return if ← spelledAll c then some Node.other else none) with
      | some n => return some n
      | none => if required then fault else set before; return none
    | none => if required then fault else set before; return none

/-! ## Orders -/

/-- One item of an order: what the reader finds, a direction, the place of nulls and the filling of
gaps. -/
def orderedBy (p : Parse (Option Node)) : Parse (Option Node) := do
  match ← p with
  | none => return none
  | some _ =>
    let _ ← word "ASC"
    let _ ← word "DESC"
    let _ ← spelledAll "NULLS FIRST"
    let _ ← spelledAll "NULLS LAST"
    if ← spelledAll "WITH FILL" then
      if ← word "FROM" then let _ ← call .bitwise
      if ← spelled "TO" then let _ ← call .bitwise
      if ← spelled "STEP" then let _ ← call .bitwise
      if ← spelled "INTERPOLATE" then
        if ← sign "(" then
          let _ ← commaList (call .expression)
          mustSign ")"
    return some .other

/-- One item of an order. -/
def ordered : Parse (Option Node) := orderedBy (call .disjunction)

/-- An order, which names at least one item. -/
def orderClause : Parse (Option Node) :=
  onlyIf (phrase "ORDER BY") do
    let _ ← mustSome (commaList ordered)
    return some .other

/-- An order of the rows of a part. -/
def sortClause (p : String) : Parse (Option Node) :=
  onlyIf (phrase p) do
    let _ ← mustSome (commaList ordered)
    return some .other

/-! ## Nulls -/

/-- The treatment of nulls after a node, which must be there. -/
def withNulls (this : Option Node) : Parse (Option Node) := do
  if ← spelledAll "IGNORE NULLS" <||> spelledAll "RESPECT NULLS" then
    need this.isSome
    return some .other
  else return this

/-! ## Windows -/

def frameEnd : Parse Unit := do
  let _ ← word "BETWEEN"
  if !(← spelled "UNBOUNDED" <||> spelledAll "CURRENT ROW") then
    let _ ← call .bitwise
  let _ ← spelledOneOf (wordsOf "FOLLOWING PRECEDING")

/-- What a frame leaves out. -/
def frameExclusion : Parse (Option Node) :=
  wordChoice true [("NO", ["OTHERS"]), ("CURRENT", ["ROW"]), ("GROUP", []), ("TIES", [])]

/-- A phrase that partitions rows. -/
def isPartitionBy (i : Item) : Bool :=
  i.isPhrase "PARTITION BY" || i.isPhrase "PARTITIONED BY" || i.isWord "PARTITIONED_BY"

/-- The window in parentheses, of which the opening one was taken. -/
def windowBody : Parse Unit := do
  let _ ← nameOf fun i => i.isName && !i.isOneOf (wordsOf "RANGE ROWS")
  let _ ← word "FIRST"
  let _ ← spelled "LAST"
  if ← accept fun i => isPartitionBy i || i.isPhrase "DISTRIBUTE BY" then
    let _ ← commaList (call .assignment)
  if ← phrase "SORT BY" then
    let _ ← mustSome (commaList ordered)
  else
    let _ ← orderClause
  if ← accept (fun i => i.isWord "ROWS" || i.isWord "RANGE") <||> spelled "GROUPS" then
    let _ ← word "BETWEEN"
    frameEnd
    if ← word "AND" then frameEnd
    if ← spelled "EXCLUDE" then
      let _ ← frameExclusion
  mustSign ")"

/-- What may follow a call before its window: a group order, a filter and the treatment of nulls. -/
def withFilter (this : Option Node) : Parse (Option Node) := do
  let mut node := this
  if ← spelledAll "WITHIN GROUP" then
    let _ ← parens orderClause
    need node.isSome
    node := some .other
  if ← acceptPair (·.isWord "FILTER") (·.isSign "(") then
    let _ ← word "WHERE"
    let _ ← must (call .disjunction)
    need node.isSome
    node := some .other
    mustSign ")"
  withNulls node

/-- The node with the windows after it, at most as many as the fuel. A window is a name, or stands in
parentheses, and then more may follow. -/
def windowsUpTo : Nat → Option Node → Parse (Option Node)
  | 0, node => return node
  | fuel + 1, node => do
    if !(← word "OVER") then return node
    need node.isSome
    if ← sign "(" then
      windowBody
      windowsUpTo fuel (some .other)
    else
      let _ ← properName
      return some .other

/-- The node with its windows and what stands before these, if there is any. -/
def withWindow (this : Option Node) : Parse (Option Node) := do
  let filtered ← withFilter this
  windowsUpTo ((← get).ahead.length + 1) filtered

end DryRun.Grammar
