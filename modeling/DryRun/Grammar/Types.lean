import DryRun.Grammar.Names
import DryRun.Sql.Scan

/-!
# Types

How types are read: a keyword, then sizes or nested types, a time zone or unit, and array marks. A
type in parentheses that looks like a call is left to the rules of calls.
-/

namespace DryRun.Grammar

open DryRun.Sql

/-- Keywords of types that have a form without sign. -/
def signedWords : List Text :=
  wordsOf "TINYINT BYTE INT1 SMALLINT SHORT INT2 INT16 MEDIUMINT INT INTEGER INT4 INT32 BIGINT LONG INT8"
  ++ wordsOf "INT64 DECIMAL DEC NUMERIC FIXED DOUBLE FLOAT8" ++ ["DOUBLE PRECISION".toList]

/-- The type that a name spells, if its first token does. -/
def typeSpelled? (t : Text) : Option Item :=
  match scan t with
  | .ok pieces =>
    match pieces.find? Token.isSignificant with
    | some token =>
      let item := Item.ofLexeme token.toLexeme
      if item.isType then some item else none
    | none => none
  | .error _ => none

/-- The keyword of a type. A name that spells a type counts if asked; a placeholder is taken but is no
type. -/
def typeHead (identifiers : Bool) : Parse (Option Item) := do
  match ← take? Item.isType with
  | some i => return some i
  | none =>
    if !identifiers then return none
    let before ← get
    match ← nameOf Item.isPlain with
    | some (.name text _) =>
      match typeSpelled? text with
      | some i => return some i
      | none => set before; return none
    | _ => return none

/-- A size of a type: a literal or name, and any word after it. -/
def typeSize : Parse (Option Node) := do
  match ← call .typed with
  | none => return none
  | some _ => let _ ← variableWord true; return some .other

/-- A type that stands alone, or else a name: how a field of a structured type begins. -/
def fieldHead : Parse (Option Node) := do
  if ← seesPair Item.isType Item.isType then name
  else
    let before ← get
    match ← call (.type { mayBeCall := true, identifiers := false }) with
    | some .cast => return some .cast
    | some (.type sized) =>
      let after ← get
      match ← call .primary with
      | some (.string _) | some (.number _) => return some .cast
      | _ =>
        if sized && after.ahead.length + 1 < before.ahead.length then
          set after
          return some (.type sized)
        else set before; name
    | _ => name

/-- A field of a structured type: a type, or a name and a type with an optional colon. -/
def structField : Parse (Option Node) := do
  let before ← get
  let head ← fieldHead
  let _ ← sign ":"
  match head with
  | some (.type _) => call (.definitionOf head)
  | _ =>
    if ← sees Item.isType then call (.definitionOf head)
    else set before; call (.type {})

/-- What stands in parentheses after the keyword of a type. -/
def typeArguments (o : TypeOptions) (head : Item) : Parse (List Node) := do
  if head.isOneOf structTypeWords then commaList structField
  else if head.isOneOf nestedTypeWords then commaList (call (.type o))
  else if head.isWord "ENUM" then commaList (call .equality)
  else commaList typeSize

def arrayMarks (o : TypeOptions) (this : Node) : Parse Node := do
  let before ← get
  let spelledArray ← word "ARRAY"
  let (node, _) ← grow (fun (_, isFirst) => do
    if ← atEnd then return none
    let afterArray := (← get).previous.any (·.isWord "ARRAY")
    let bracket ← sign "["
    if !bracket && !(isFirst && spelledArray) then return none
    if ← pure afterArray <&&> sign "]" then return none
    let values ← commaList (call .disjunction)
    if !values.isEmpty && !o.ofColumn then set before; return none
    let _ ← sign "]"
    return some (.type true, false)) (this, true)
  return node

def typeRule (o : TypeOptions) : Parse (Option Node) := do
  let before ← get
  let giveUp : Parse (Option Node) := do set before; return none
  match ← typeHead o.identifiers with
  | none => return none
  | some head =>
    if ← pure (head.isWord "MAP") <&&> sign "[" then
      let _ ← call (.type o)
      if !(← sign "=>") then return ← giveUp
      let _ ← call (.type o)
      if !(← sign "]") then return ← giveUp
      return some (.type true)
    let nested := head.isOneOf nestedTypeWords
    let structured := head.isOneOf structTypeWords
    let mut sized := false
    let mut mayBeCall := false
    if ← sign "(" then
      let arguments ← typeArguments o head
      if head.isWord "NULLABLE" && arguments.length == 1 then
        mustSign ")"
        return arguments.head?
      if !(← sign ")") then return ← giveUp
      sized := !arguments.isEmpty
      mayBeCall := true
    let mut valued := false
    if ← pure nested <&&> sign "<" then
      let inner ← if structured then commaList structField else commaList (call (.type o))
      mustSign ">"
      sized := !inner.isEmpty
      let opening ← get
      if ← accept fun i => i.isSign "[" || i.isSign "(" then
        let values ← commaList (call .disjunction)
        if values.isEmpty && structured then set opening
        else
          let _ ← accept fun i => i.isSign "]" || i.isSign ")"
          valued := true
    let mut complete := false
    if head.isOneOf timeWords then
      if ← spelledAll "WITH TIME ZONE" then mayBeCall := false; complete := true
      else if ← spelledAll "WITH LOCAL TIME ZONE" then mayBeCall := false; complete := true
      else if ← spelledAll "WITHOUT TIME ZONE" then mayBeCall := false
    else if head.isWord "INTERVAL" then
      complete := true
      if (← variableWord false).isSome then
        if ← spelled "TO" then
          let _ ← variableWord false
    if mayBeCall && o.mayBeCall then
      if !(← wouldRead stringOrPlaceholder) then return ← giveUp
    if !complete then
      if ← spelled "UNSIGNED" then need (signedWords.contains head.caps)
      if head.isWord "NULLABLE" && !sized then return ← giveUp
    let lists ← many (take? (·.isWord "LIST"))
    let node := if valued then .cast else .type (sized || !lists.isEmpty)
    return some (← arrayMarks o node)

end DryRun.Grammar
