import DryRun.Grammar.Operand

/-!
# Operators

The operators of expressions by their precedence, from the closest to the loosest: signs, products,
sums, bits, ranges and patterns, comparisons, equality, `AND`, `OR` and assignments. An operator
without an operand on either side is malformed.
-/

namespace DryRun.Grammar

/-- Operands of one reader with operators of one sort between them. -/
def chain (operator : Parse Bool) (operand : Parse (Option Node)) : Parse (Option Node) := do
  let first ← operand
  grow (fun this => do
    if ← operator then
      need this.isSome
      let _ ← must operand
      return some (some .other)
    else return none) first

/-! ## Signs, products and sums -/

def isNot (i : Item) : Bool := i.isWord "NOT" || i.isSign "!"

/-- An operand with signs and negations before it. -/
def unary : Parse (Option Node) := do
  if ← sign "+" then call .unary
  else if ← accept fun i => i.isSign "-" || i.isSign "~" then
    let _ ← must (call .unary)
    return some .other
  else if ← accept isNot then
    let _ ← must (call .equality)
    return some .other
  else typed

def withTimeZones (this : Option Node) : Parse (Option Node) :=
  grow (fun node => do
    if ← spelledAll "AT TIME ZONE" then
      need node.isSome
      let _ ← must (call .unary)
      return some (some .other)
    else return none) this

/-- A product. `DIV` without an operand after it is not an operator. -/
def factor : Parse (Option Node) := do
  let first ← withTimeZones (← unary)
  let (product, _) ← grow (fun (this, done) => do
    if done then return none
    match ← take? fun i => i.isWord "DIV" || i.isSignOf (wordsOf "<-> / *") with
    | none => return none
    | some i =>
      match ← unary with
      | some _ => need this.isSome; return some (some .other, false)
      | none => if i.isWord "DIV" then stepBack; return some (this, true) else fault) (first, false)
  return product

/-- A sum. -/
def term : Parse (Option Node) := do
  let first ← factor
  grow (fun this => do
    match ← take? fun i => i.isWord "COLLATE" || i.isSignOf (wordsOf "- + %") with
    | none => return none
    | some i =>
      need this.isSome
      let _ ← must factor
      return some (some (if i.isSign "%" then .remainder else .other))) first

/-! ## Bits -/

/-- Takes the same sign twice. -/
def twice (s : String) : Parse Bool := acceptPair (·.isSign s) (·.isSign s)

/-- Sums with operators on bits and texts between them. -/
def bitwise : Parse (Option Node) := do
  let first ← term
  grow (fun this => do
    if ← accept (·.isSignOf (wordsOf "& ^ | ||")) <||> twice "<" <||> twice ">" then
      need this.isSome
      let _ ← must term
      return some (some .other)
    else if ← sign "??" then
      need this.isSome
      let _ ← term
      return some (some .other)
    else return none) first

/-! ## Ranges and patterns -/

/-- The rows of an array as a table, of which neither word nor parenthesis was taken; `aliased` reads
the alias after it. -/
def unnest (aliased : Parse Bool) : Parse (Option Node) := do
  if ← seesPair (·.isWord "UNNEST") (·.isSign "(") then
    advance
    let _ ← mustSome (parenList (call .equality))
    let numbered ← acceptPair (·.isWord "WITH") (·.isWord "ORDINALITY")
    let named ← aliased
    if ← pure !numbered <&&> acceptPair (·.isWord "WITH") (·.isWord "OFFSET") then
      let _ ← word "AS"
      let _ ← nameOf fun i => i.isName
    return some (.table {} (if named then [.aliased] else []))
  else return none

/-- What stands after `IN`: the rows of an array, a list or query in brackets, or a column. -/
def membership : Parse Unit := do
  if (← unnest (pure false)).isNone then
    match ← take? fun i => i.isSign "(" || i.isSign "[" with
    | some i =>
      match ← commaList (queryOrExpression false) with
      | [only] => if only.isQuery then let _ ← call (.clausesOf only)
      | _ => pure ()
      mustSign (if i.isSign "(" then ")" else "]")
    | none => let _ ← call .column

/-- What stands after `BETWEEN`. -/
def between : Parse Unit := do
  if !(← spelled "SYMMETRIC") then
    let _ ← spelled "ASYMMETRIC"
  let _ ← must bitwise
  let _ ← word "AND"
  let _ ← must bitwise

def nullOrPlaceholder : Parse (Option Node) := do
  if ← accept fun i => i.isWord "NULL" || i.isWord "UNKNOWN" then return some .null
  else placeholder

/-- What stands after `IS`; none, and `IS` is put back, if nothing does. -/
def identity (this : Option Node) : Parse (Option Node) := do
  let before ← get
  let _ ← accept isNot
  if ← spelledAll "DISTINCT FROM" then
    need this.isSome
    let _ ← must bitwise
    return some .other
  let found ←
    if ← word "JSON" then do
      let _ ← spelledOneOf (wordsOf "VALUE SCALAR ARRAY OBJECT")
      if !(← spelled "WITH") then
        let _ ← spelled "WITHOUT"
      let _ ← word "UNIQUE"
      let _ ← spelled "KEYS"
      pure true
    else pure (← firstOf [nullOrPlaceholder, bitwise]).isSome
  if found then
    need this.isSome
    withColumnSteps .other
  else
    set before
    stepBack
    return none

/-- A comprehension after `FOR`; none, and `FOR` is put back, if it is not one. -/
def comprehension (this : Option Node) : Parse (Option Node) := do
  let before ← get
  let item ← call .column
  if ← sign "," then
    let _ ← call .column
  if ← word "IN" then
    need (this.isSome && item.isSome)
    let _ ← must (call .column)
    if ← spelled "IF" then
      let _ ← call .disjunction
    return some .other
  else
    set before
    stepBack
    return none

/-- Whether the item stands between a text and a pattern, or two ranges. -/
def isPatternOperator (i : Item) : Bool :=
  i.isOneOf (wordsOf "GLOB ILIKE LIKE OVERLAPS RLIKE REGEXP") || i.isPhrase "SIMILAR TO" ||
    i.isSignOf (wordsOf "~~~ ~~ ~~* ~* -|- &< &>")

/-- The test of a range or pattern after a node, if there is one: none if no test begins here. A word
that begins a test but does not go on as one gives `some none`. -/
def rangeTest (this : Option Node) : Parse (Option (Option Node)) := do
  if ← accept isPatternOperator then
    need this.isSome
    let _ ← must bitwise
    if ← word "ESCAPE" then
      let _ ← must (firstOf [stringOrPlaceholder, nullOrPlaceholder])
    return some (some .other)
  else if ← word "BETWEEN" then
    need this.isSome
    between
    return some (some .other)
  else if ← word "IN" then
    need this.isSome
    membership
    return some (some .other)
  else if ← word "IS" then return some (← identity this)
  else if ← word "FOR" then return some (← comprehension this)
  else return none

/-- Bits with a test of a range, pattern or null after them. -/
def range : Parse (Option Node) := do
  let this ← bitwise
  let negated ← accept isNot
  let tested ← rangeTest this
  match tested with
  | some none => return this
  | _ =>
    let mut node := this
    match tested with
    | some found => node := found
    | none =>
      if ← word "ISNULL" <||> (pure negated <&&> word "NULL") then
        need this.isSome
        node := some .other
    if ← word "NOTNULL" then
      need node.isSome
      node := some .other
    if negated then node := node.map fun _ => .other
    if ← word "IS" then node := ← identity node
    return node

/-! ## Comparisons and connectives -/

/-- Ranges with comparisons between them. -/
def comparison : Parse (Option Node) := chain (accept (·.isSignOf (wordsOf "> >= < <="))) range

/-- Comparisons with equality between them. -/
def equality : Parse (Option Node) := chain (accept (·.isSignOf (wordsOf "= == <> != <=>"))) comparison

/-- Equalities with `AND` between them. -/
def conjunction : Parse (Option Node) := chain (word "AND") equality

/-- Conjunctions with `OR` between them. -/
def disjunction : Parse (Option Node) := chain (word "OR") conjunction

/-- A disjunction, or assignments to it; any item can be assigned to. -/
def assignment : Parse (Option Node) := do
  let first ←
    match ← disjunction with
    | some n => pure (some n)
    | none =>
      if ← seesNext (·.isSign ":=") then
        advance
        pure (some Node.other)
      else pure none
  grow (fun this => do
    if ← sign ":=" then
      need this.isSome
      let _ ← must (call .assignment)
      return some (some .other)
    else return none) first

/-- An expression with an optional alias. -/
def expression : Parse (Option Node) := do withAlias false (← assignment)

end DryRun.Grammar
