import DryRun.Grammar.Reader

/-!
# Names and aliases

How names, placeholders, plain words and aliases are read. Where any item is taken as a name, a
keyword or a string is one too.
-/

namespace DryRun.Grammar

/-! ## Placeholders -/

/-- Takes any item that is not reserved. -/
def anyItem : Parse (Option Item) := take? Item.isAny

/-- A name in back-ticks. -/
def quotedName : Parse (Option Node) := do
  return (← take? (·.kind == .quotedName)).map fun i => .name i.text true

/-- A string in the place of a name. -/
def stringName : Parse (Option Node) := do
  return (← take? (·.kind == .string)).map fun i => .name i.text true

mutual

/-- A placeholder: `?`, a number or plain word after a colon, a name in braces, or a variable after
`@` or `$`. The fuel bounds the placeholders in one another. -/
def placeholderUpTo : Nat → Parse (Option Node)
  | 0 => return none
  | fuel + 1 => do
    if ← sign "?" then return some (.placeholder [])
    else if ← sees fun i => i.isSign "@" || i.isSign "$" then
      advance
      let _ ← sign "\x7b"
      let inner ← must (variableUpTo fuel)
      if ← sign ":" then
        let _ ← variableUpTo fuel
      let _ ← sign "\x7d"
      return some (.placeholder inner.nameText)
    else if ← sees (·.isSign ":") then
      let before ← get
      advance
      match ← take? fun i => i.kind == .number || i.isPlain with
      | some i => return some (.placeholder i.text)
      | none => set before; return none
    else if ← sign "\x7b" then
      let inner ← firstOf [quotedName, placeholderUpTo fuel, anyName]
      let _ ← sign "\x7d"
      return some (.placeholder ((inner.map Node.nameText).getD []))
    else return none

/-- The name of a variable: a name, a literal or any item. -/
def variableUpTo : Nat → Parse (Option Node)
  | 0 => return none
  | fuel + 1 =>
    firstOf [quotedName, placeholderUpTo fuel, call .primary,
      do return (← anyItem).map fun i => .name i.text false, placeholderUpTo fuel]

def anyName : Parse (Option Node) := do
  return (← take? fun i => i.isAny || i.isName).map fun i => .name i.text (i.kind == .string)

end

def placeholder : Parse (Option Node) := do placeholderUpTo ((← get).ahead.length + 1)

/-! ## Names -/

/-- A name in back-ticks or a placeholder. -/
def identifier : Parse (Option Node) := firstOf [quotedName, placeholder]

/-- A name: in back-ticks, a placeholder, or a word of the given sort. -/
def nameOf (p : Item → Bool) : Parse (Option Node) :=
  firstOf [identifier, do return (← take? p).map fun i => .name i.text (i.kind == .string)]

/-- A name that any item can be. -/
def name : Parse (Option Node) := nameOf fun i => i.isAny || i.isName

/-- A name that is no keyword which begins something else. -/
def properName : Parse (Option Node) := nameOf Item.isName

/-- A name, which any item can be if asked. -/
def nameIf (any : Bool) : Parse (Option Node) := if any then name else properName

/-- A plain word, or any item if asked; else a placeholder. -/
def variableWord (any : Bool) : Parse (Option Node) :=
  firstOf [do return (← take? fun i => (any && i.isAny) || i.isPlain).map fun i => .name i.text false,
    placeholder]

/-- A literal or any word. -/
def primaryOrWord : Parse (Option Node) := firstOf [call .primary, variableWord true]

def stringOrPlaceholder : Parse (Option Node) :=
  firstOf [do return (← take? isText).map fun i => .string i.text, placeholder]
where
  /-- A string of any sort but hexadecimal. -/
  isText (i : Item) : Bool := i.kind == .string || i.kind == .rawString || i.kind == .nationalString

def wordOrString : Parse (Option Node) := firstOf [stringOrPlaceholder, variableWord true]

def numberOrPlaceholder : Parse (Option Node) :=
  firstOf [do return (← take? isNumber).map fun i => .number i.text, placeholder]
where
  /-- A number, decimal or hexadecimal. -/
  isNumber (i : Item) : Bool := i.kind == .number || i.kind == .hexString

/-! ## Aliases -/

/-- The expressions of `BY` after a limit. -/
def limitBy : Parse (List Node) := do
  if ← spelled "BY" then commaList (call .bitwise) else return []

/-- The number of rows to skip. -/
def offsetClause : Parse (Option Node) :=
  onlyIf (word "OFFSET") do
    let _ ← must (call .term)
    let _ ← accept fun i => i.isWord "ROW" || i.isWord "ROWS"
    let _ ← limitBy
    return some .other

/-- Whether a clause begins here with a word that can also be an alias. -/
def opensOffset : Parse Bool := do
  if ← sees (·.isWord "OFFSET") then wouldRead offsetClause else return false

/-- The node with the alias after it, if there is one; an explicit alias comes after `AS`. `AS` alone
is taken. -/
def withAlias (explicit : Bool) (this : Option Node) : Parse (Option Node) := do
  if ← opensOffset then return this
  let any ← word "AS"
  if explicit && !any then return this
  if ← sign "(" then
    let _ ← mustSome (commaList (nameIf any))
    mustSign ")"
    need this.isSome
    return some .other
  match ← nameIf any with
  | some _ => need this.isSome; return some .other
  | none => return this

end DryRun.Grammar
