import DryRun.Grammar.Call

/-!
# Operands

What operators stand between: literals, names, calls, anything in brackets, lengths of time, and what
can follow each of them.
-/

namespace DryRun.Grammar

/-! ## Primaries -/

/-- The columns after `EXCEPT`, `REPLACE` and `RENAME` behind a star. -/
def starOption (ws : String) : Parse Unit := do
  if (← spelledOneOf (wordsOf ws)).isSome then
    if ← sees (·.isSign "(") then
      let _ ← parenList (call .expression)
    else
      let _ ← withAlias true (← call .disjunction)

/-- What may follow a star, which was taken. -/
def starOptions : Parse (Option Node) := do
  if ← seesAll "COLUMNS (" then callRule false false false
  else
    starOption "EXCEPT EXCLUDE"
    starOption "REPLACE"
    starOption "RENAME"
    return some .star

/-- A query in parentheses as an operand, or expressions in parentheses. -/
def paren : Parse (Option Node) :=
  onlyIf (sign "(") do
    let nodes ←
      match ← call (.query {}) with
      | some q => pure [q]
      | none => commaList (call .expression)
    let afterComma := (← previous).any (·.isSign ",")
    let node ←
      match nodes with
      | [] => if ← sees (·.isSign ")") then pure Node.tuple else fault
      | this :: rest =>
        if this.isBareQuery then must (call (.subqueryOf this false))
        else
          match this with
          | .subquery _ _ | .rows _ =>
            let combined ← must (call (.combine this))
            let modified ← must (call (.clausesOf combined))
            must (call (.subqueryOf modified false))
          | _ => pure (if !rest.isEmpty || afterComma then .tuple else .parenthesised this)
    mustSign ")"
    match node with
    | .parenthesised (.call true) => withWindow (some node)
    | _ => return some node

/-- A literal, a star, or anything in parentheses. -/
def primary : Parse (Option Node) := do
  match ← peek with
  | none => return none
  | some i =>
    if i.kind == .string then
      let strings ← many (take? (·.kind == .string))
      return some (if strings.length > 1 then .other else .string i.text)
    else if i.kind == .number then advance; return some (.number i.text)
    else if i.kind == .rawString || i.kind == .nationalString || i.kind == .hexString then
      advance
      return some .other
    else if i.isWord "NULL" then advance; return some .null
    else if i.isWord "TRUE" then advance; return some .truth
    else if i.isWord "FALSE" then advance; return some .other
    else if i.isSign "*" then advance; starOptions
    else if i.isSign "." && (← seesNext (·.kind == .number)) then
      advance
      advance
      return some (.number ("0.".toList ++ i.text))
    else paren

/-- A literal, a call or a name. Any item can be a name if asked. -/
def field (any : Bool) : Parse (Option Node) :=
  firstOf [primary, callRule false any false, nameIf any]

/-- A field of a record: a call, which need not be that of a known function, a literal or any name. -/
def memberField : Parse (Option Node) := firstOf [callRule true true false, primary, name]

/-- A literal or a name of a column. -/
def columnHead : Parse (Option Node) := do
  match ← field false with
  | some (.name t quoted) => return some (.column t !quoted)
  | other => return other

/-! ## Brackets -/

/-- One item in brackets: an expression with an explicit alias, or a slice. -/
def bracketItem : Parse (Option Node) := do
  let this ← withAlias true (← call .disjunction)
  if ← sign ":" then
    if ← seesPair (·.isSign "-") (·.isSign ":") then advance
    else
      let _ ← call .assignment
    if ← sign ":" then
      let _ ← call .unary
    return some .other
  else return this

/-- A date or time in braces, of which the opening one was taken. -/
def bracedTime : Parse (Option Node) :=
  onlyIf (accept fun i => i.isPlain && (wordsOf "D T TS").contains i.caps) do
    let _ ← stringOrPlaceholder
    mustSign "\x7d"
    return some .other

/-- The node with the brackets after it, at most as many as the fuel. Without a node before them they
are an array; after `ARRAY` and `LIST` they may be empty. -/
def bracketsUpTo : Nat → Option Node → Parse (Option Node)
  | 0, this => return this
  | fuel + 1, this => do
    if ← sign "\x7b" then
      match ← bracedTime with
      | some n => return some n
      | none =>
        let _ ← commaList bracketItem
        mustSign "\x7d"
        bracketsUpTo fuel (some .other)
    else if ← sign "[" then
      let items ← commaList bracketItem
      mustSign "]"
      match this with
      | none => bracketsUpTo fuel (some .other)
      | some n =>
        if (wordsOf "ARRAY LIST").contains (Text.upper n.nameText) then return some .other
        need !items.isEmpty
        bracketsUpTo fuel (some .other)
    else return this

def withBrackets (this : Option Node) : Parse (Option Node) := do
  bracketsUpTo ((← get).ahead.length + 1) this

/-! ## Columns -/

/-- Operators between a column and a key in it. -/
def keyOperators : List Text := wordsOf "-> ->> #> #>> ?"

/-- Reads the brackets after a node, and goes on with what they give. -/
def pastBrackets (node : Option Node) (goOn : Node → Parse (Option Node)) : Parse (Option Node) := do
  match ← withBrackets node with
  | some n => goOn n
  | none => return none

/-- The node with one more field, type or key after it, if there is one. The fuel bounds the columns
that are keys themselves. -/
def columnSteps : Nat → Node → Parse (Option Node)
  | 0, this => return some this
  | fuel + 1, this => do
    match ← take? fun i => i.isSign "." || i.isSign "::" || i.isSignOf keyOperators with
    | none => return some this
    | some i =>
      if i.isSign "::" then
        let _ ← must (call (.type {}))
        pastBrackets (some .cast) (columnSteps fuel)
      else if i.isSign "." then
        let part ← must memberField
        let node :=
          match this, part with
          | .column _ _, .name t _ => .column t false
          | _, .star => .star
          | _, _ => .other
        pastBrackets (some node) (columnSteps fuel)
      else
        let key ←
          if ← atEnd then fault
          else must (firstOf [columnHead, call .bitwise])
        match key with
        | .column _ _ =>
          if ← sees (·.isSign ".") then
            let _ ← withBrackets (some key)
            let _ ← columnSteps fuel key
        | _ => pure ()
        pastBrackets (some .other) (columnSteps fuel)

/-- The node with the brackets, fields, types and keys after it. -/
def withColumnSteps (this : Node) : Parse (Option Node) :=
  pastBrackets (some this) fun n => do columnSteps ((← get).ahead.length + 1) n

/-- A column or another operand with all that follows it. -/
def column : Parse (Option Node) := do
  match ← columnHead with
  | some n => withColumnSteps n
  | none => withBrackets none

/-! ## Lengths of time -/

def timeUnits : List Text :=
  wordsOf "YEAR Y YY YYY YYYY YR YEARS YRS MONTH MM MON MONS MONTHS DAY D DD DAYS DAYOFMONTH"
  ++ wordsOf "DAYOFWEEK WEEKDAY DOW DW DAYOFWEEKISO WEEKDAY_ISO DOW_ISO DW_ISO DAYOFWEEK_ISO"
  ++ wordsOf "DAYOFYEAR DOY DY WEEK W WK WEEKOFYEAR WOY WY WEEKISO WEEK_ISO WEEKOFYEARISO WEEKOFYEAR_ISO"
  ++ wordsOf "QUARTER Q QTR QTRS QUARTERS HOUR H HH HR HOURS HRS MINUTE M MI MIN MINUTES MINS"
  ++ wordsOf "SECOND S SEC SECONDS SECS MILLISECOND MS MSEC MSECS MSECOND MSECONDS MILLISEC MILLISECS"
  ++ wordsOf "MILLISECON MILLISECONDS MICROSECOND US USEC USECS MICROSEC MICROSECS USECOND USECONDS"
  ++ wordsOf "MICROSECONDS NANOSECOND NS NSEC NANOSEC NSECOND NSECONDS NANOSECS EPOCH_SECOND EPOCH_SECONDS"
  ++ wordsOf "EPOCH EPOCH_MILLISECOND EPOCH_MILLISECONDS EPOCH_MICROSECOND EPOCH_MICROSECONDS"
  ++ wordsOf "EPOCH_NANOSECOND EPOCH_NANOSECONDS TZH TIMEZONE_HOUR TZM TIMEZONE_MINUTE DEC DECS DECADES"
  ++ wordsOf "DECADE MIL MILS MILLENIA MILLENIUM C CENT CENTS CENTURIES CENTURY"

/-- How far a quantity with its unit has been read in a text. -/
inductive UnitState where
  | outside
  | digits
  | point
  | fraction
  | gap
  | letters
deriving DecidableEq, Repr

/-- The number of quantities in a text that letters follow, up to blanks between them. -/
def unitCount (state : UnitState) : Text → Nat
  | [] => 0
  | c :: cs =>
    if Text.isDigit c then
      unitCount (if state == .point || state == .fraction then .fraction else .digits) cs
    else if isLetter c then
      if state == .digits || state == .fraction || state == .gap then unitCount .letters cs + 1
      else unitCount (if state == .letters then .letters else .outside) cs
    else if Text.isBlank c && (state == .digits || state == .fraction || state == .gap) then
      unitCount .gap cs
    else unitCount (if c == '.' && state == .digits then .point else .outside) cs
where
  /-- A letter of the Latin alphabet. -/
  isLetter (c : Char) : Bool := ('a' ≤ c && c ≤ 'z') || ('A' ≤ c && c ≤ 'Z')

/-- A length of time after its first word: a quantity and its unit or range of units. More of them may
follow, with or without a plus sign. The fuel bounds their number. -/
def intervalUpTo (marked : Bool) : Nat → Parse (Option Node)
  | 0 => return none
  | fuel + 1 => do
    let before ← get
    if ← pure marked <&&> notM (word "INTERVAL") then return none
    let quantity ← if ← sees (·.kind == .string) then primary else call .term
    match quantity with
    | none => set before; return none
    | some n =>
      let isName :=
        match n with
        | .column _ plain => plain
        | _ => false
      if isName && (← peek).any fun i => !timeUnits.contains i.caps then set before; return none
      let unit ← firstOf [callRule false false false, do
        if ← sees fun i => i.isWord "AS" || i.isSign "::" then return none
        else variableWord true]
      let inText :=
        match n with
        | .string t => unitCount .outside t
        | _ => 0
      if inText > 0 && unit.isSome then stepBack
      if ← spelled "TO" then
        need (inText == 1 || (inText == 0 && unit.isSome))
        let _ ← must (firstOf [callRule false false false, variableWord true])
      let after ← get
      let _ ← sign "+"
      if ← sees fun i => i.kind == .string || i.kind == .number then
        let _ ← must (intervalUpTo false fuel)
        return some .other
      else
        set after
        return some .interval

/-- A length of time. -/
def interval : Parse (Option Node) := do intervalUpTo true ((← get).ahead.length + 1)

/-! ## Typed literals -/

/-- A type as an operand: a literal of the type, or the type alone if it has sizes. -/
def typedLiteral : Parse (Option Node) := do
  let before ← get
  match ← typeRule { mayBeCall := true, identifiers := false } with
  | some (.type sized) =>
    let after ← get
    match ← primary with
    | some n =>
      match n with
      | .string _ | .number _ => let _ ← withColumnSteps n; return some .cast
      | _ => backTo before after sized
    | none => backTo before after sized
  | some n => withColumnSteps n
  | none => return none
where
  /-- The type itself if it is more than one item long and has sizes. -/
  backTo (before after : Stream) (sized : Bool) : Parse (Option Node) := do
    if sized && after.ahead.length + 1 < before.ahead.length then
      set after
      withColumnSteps (.type true)
    else set before; return none

/-- A length of time, a typed literal, or a column. -/
def typed : Parse (Option Node) := do
  match ← interval with
  | some n => withColumnSteps n
  | none =>
    match ← typedLiteral with
    | some n => return some n
    | none =>
      match ← column with
      | some n => withColumnSteps n
      | none => return none

end DryRun.Grammar
