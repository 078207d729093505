import DryRun.Grammar.Item
import DryRun.Grammar.Node
import DryRun.Sql.Lexeme

/-!
# Readers

A reader consumes items from the front of a statement. It gives a result, or `none` if what it looks
for is not there, or a fault if the statement is malformed. A fault ends the reading, unless a rule
is only attempted.

Rules are mutually recursive across modules. A rule that needs one of a later module names it by a
`Symbol`, and the reader carries the meaning of all symbols; the fuel that bounds their nesting is
spent where the symbols get their meaning.
-/

namespace DryRun.Grammar

open DryRun.Sql

/-- Why a statement cannot be read. -/
inductive Fault where
  /-- The grammar has no such statement. -/
  | malformed
  /-- The text of a hint cannot be cut into tokens. -/
  | hint (cause : LexError)
deriving DecidableEq, Repr

/-- Where a table can be read in different ways. -/
structure TableOptions where
  /-- A list of columns may follow, and no alias. -/
  columns : Bool := false
  /-- Joins may follow. -/
  joins : Bool := false
  /-- The alias must not be `SET`. -/
  beforeSet : Bool := false
  /-- The alias must not be `IS`. -/
  beforeIs : Bool := false
  /-- The name is that of a schema. -/
  isSchema : Bool := false
  /-- A partition may follow. -/
  partition : Bool := false
deriving DecidableEq, Repr

/-- Where a query can be read in different ways. -/
structure QueryOptions where
  /-- Parentheses may stand around it. -/
  nested : Bool := false
  /-- It stands for a table. -/
  table : Bool := false
  /-- An alias may follow its parentheses. -/
  aliased : Bool := true
  /-- Set operators may follow. -/
  combined : Bool := true
deriving DecidableEq, Repr

/-- Where a type can be read in different ways. -/
structure TypeOptions where
  /-- Sizes in parentheses may turn out to be the arguments of a call. -/
  mayBeCall : Bool := false
  /-- It is the type of a column. -/
  ofColumn : Bool := false
  /-- A name that spells a type counts. -/
  identifiers : Bool := true
deriving DecidableEq, Repr

/-- The rules that earlier modules need of later ones. -/
inductive Symbol where
  | statement
  /-- An expression with an optional alias. -/
  | expression
  | assignment
  | disjunction
  | equality
  | bitwise
  | term
  | factor
  | unary
  /-- A type, a literal of a type, or a column. -/
  | typed
  | type (options : TypeOptions)
  | column
  /-- A literal, a call or a name; any item counts as a name if asked. -/
  | field (any : Bool)
  | primary
  /-- A call, in which the name need not be that of a known function. -/
  | call (anonymous : Bool)
  /-- An argument of a call. -/
  | argument
  | query (options : QueryOptions)
  /-- The query that a node is in parentheses, of which the closing one was not taken; an alias may
  follow if asked. -/
  | subqueryOf (inner : Node) (aliased : Bool)
  /-- The clauses after a query or table. -/
  | clausesOf (node : Node)
  /-- The set operators after a query, and the queries that they combine it with. -/
  | combine (first : Node)
  | table (options : TableOptions)
  /-- The dotted name of a table, or of a schema if asked. -/
  | tableName (isSchema : Bool)
  /-- The type and constraints of the column that a node names. -/
  | definitionOf (head : Option Node)
  /-- The description of an object. -/
  | describe
  /-- A list of columns after a table or nothing. -/
  | columnsOf (table : Option Node)
  | property
  /-- The format of the rows of a file. -/
  | rowFormat
deriving Repr

/-- The items after the place that a reader has come to, and those before it, the last one first. -/
structure Stream where
  taken : List Item
  ahead : List Item
deriving Repr

def Stream.previous (s : Stream) : Option Item := s.taken.head?

/-- The meaning of the symbols. -/
abbrev Rules := Symbol → StateT Stream (Except Fault) (Option Node)

/-- A reader of items. -/
abbrev Parse := ReaderT Rules (StateT Stream (Except Fault))

/-- The rule that a symbol names. -/
def call (s : Symbol) : Parse (Option Node) := fun rules => rules s

def fault {α : Type} : Parse α := throw .malformed

/-- The statement is malformed unless the condition holds. -/
def need (condition : Bool) : Parse Unit := unless condition do fault

/-- What the reader finds; the statement is malformed if that is nothing. -/
def must {α : Type} (p : Parse (Option α)) : Parse α := do
  match ← p with
  | some a => return a
  | none => fault

/-- Some of what the reader finds; the statement is malformed if that is nothing. -/
def mustSome {α : Type} (p : Parse (List α)) : Parse (List α) := do
  match ← p with
  | [] => fault
  | as => return as

/-! ## Items -/

def peek : Parse (Option Item) := do return (← get).ahead.head?

def atEnd : Parse Bool := do return (← get).ahead.isEmpty

/-- Whether the next item is of a sort. -/
def sees (p : Item → Bool) : Parse Bool := do return (← get).ahead.head?.any p

/-- Whether the item after the next is of a sort. -/
def seesNext (p : Item → Bool) : Parse Bool := do return ((← get).ahead.drop 1).head?.any p

/-- Whether the next two items are of two sorts. -/
def seesPair (p q : Item → Bool) : Parse Bool := do
  match (← get).ahead with
  | i :: j :: _ => return p i && q j
  | _ => return false

def advance : Parse Unit :=
  modify fun s =>
    match s.ahead with
    | i :: rest => ⟨i :: s.taken, rest⟩
    | [] => s

/-- Puts back the item taken last. -/
def stepBack : Parse Unit :=
  modify fun s =>
    match s.taken with
    | i :: rest => ⟨rest, i :: s.ahead⟩
    | [] => s

def previous : Parse (Option Item) := do return (← get).previous

/-- Takes the next item if it is of a sort. -/
def take? (p : Item → Bool) : Parse (Option Item) := do
  match ← peek with
  | some i => if p i then advance; return some i else return none
  | none => return none

/-- Takes the next item if it is of a sort, and says whether it was. -/
def accept (p : Item → Bool) : Parse Bool := do return (← take? p).isSome

/-- Takes the next two items if they are of two sorts. -/
def acceptPair (p q : Item → Bool) : Parse Bool := do
  if ← seesPair p q then
    advance
    advance
    return true
  else return false

def word (w : String) : Parse Bool := accept (·.isWord w)

def phrase (w : String) : Parse Bool := accept (·.isPhrase w)

def sign (s : String) : Parse Bool := accept (·.isSign s)

def spelled (w : String) : Parse Bool := accept (·.spells w)

/-- Takes an item that spells one of `ws`, and gives it. -/
def spelledOneOf (ws : List Text) : Parse (Option Text) := do
  return (← take? (·.spellsOneOf ws)).map Item.caps

/-- The stream after items that spell `ws`. -/
def afterWords (taken : List Item) : List Text → List Item → Option Stream
  | [], ahead => some ⟨taken, ahead⟩
  | _ :: _, [] => none
  | w :: ws, i :: ahead =>
    if i.kind != .string && i.caps == w then afterWords (i :: taken) ws ahead else none

/-- Takes items that spell the words of `ws` one after the other, all or none. -/
def spelledAll (ws : String) : Parse Bool := do
  let s ← get
  match afterWords s.taken (wordsOf ws) s.ahead with
  | some rest => set rest; return true
  | none => return false

/-- Whether the next items spell the words of `ws` one after the other. -/
def seesAll (ws : String) : Parse Bool := do
  let s ← get
  return (afterWords s.taken (wordsOf ws) s.ahead).isSome

/-- Takes an item of a sort; the statement is malformed if there is none. -/
def mustTake (p : Item → Bool) : Parse Unit := do need (← accept p)

/-- Takes the sign `s`; the statement is malformed if it is not there. -/
def mustSign (s : String) : Parse Unit := do need (← sign s)

/-! ## Combinations -/

/-- Tries a reader: if it finds nothing or faults, nothing is taken. -/
def attempt {α : Type} (p : Parse (Option α)) : Parse (Option α) := fun rules s =>
  match p rules s with
  | .ok (some a, rest) => .ok (some a, rest)
  | .ok (none, _) => .ok (none, s)
  | .error .malformed => .ok (none, s)
  | .error e => .error e

/-- The result of a reader, of which nothing is taken. -/
def lookahead {α : Type} (p : Parse α) : Parse α := do
  let s ← get
  let a ← p
  set s
  return a

/-- Whether a reader finds something if it is tried; nothing is taken. -/
def wouldRead {α : Type} (p : Parse (Option α)) : Parse Bool := do
  return (← lookahead (attempt p)).isSome

/-- The first of the readers that finds something; the others are not run. -/
def firstOf {α : Type} : List (Parse (Option α)) → Parse (Option α)
  | [] => return none
  | p :: ps => do
    match ← p with
    | some a => return some a
    | none => firstOf ps

/-- Runs a step as long as it says so, at most `fuel` times. -/
def repeatUpTo (step : Parse Bool) : Nat → Parse Unit
  | 0 => return ()
  | fuel + 1 => do if ← step then repeatUpTo step fuel

/-- Runs a step as long as it says so; a step that goes on takes an item. -/
def repeatWhile (step : Parse Bool) : Parse Unit := do
  repeatUpTo step ((← get).ahead.length + 1)

/-- Changes a result as long as a step finds a change, at most `fuel` times. -/
def growUpTo {α : Type} (step : α → Parse (Option α)) : Nat → α → Parse α
  | 0, a => return a
  | fuel + 1, a => do
    match ← step a with
    | some b => growUpTo step fuel b
    | none => return a

/-- Changes a result as long as a step finds a change; a step that finds one takes an item. -/
def grow {α : Type} (step : α → Parse (Option α)) (a : α) : Parse α := do
  growUpTo step ((← get).ahead.length + 1) a

/-- The results of a reader as long as it finds one. -/
def many {α : Type} (p : Parse (Option α)) : Parse (List α) := do
  let found ← grow (fun as => do return (← p).map (· :: as)) []
  return found.reverse

/-- The results of a reader between commas, where any may be missing. -/
def commaList {α : Type} (p : Parse (Option α)) : Parse (List α) := do
  let first ← p
  let found ← grow (fun as => do
    if ← sign "," then return some ((← p).toList ++ as) else return none) first.toList
  return found.reverse

/-- What a reader finds in parentheses, which must be there. -/
def parens {α : Type} (p : Parse α) : Parse α := do
  mustSign "("
  let a ← p
  mustSign ")"
  return a

/-- What a reader finds, in parentheses or without. -/
def optionalParens {α : Type} (p : Parse α) : Parse α := do
  if ← sign "(" then
    let a ← p
    mustSign ")"
    return a
  else p

/-- The results of a reader between commas, in parentheses. -/
def parenList {α : Type} (p : Parse (Option α)) : Parse (List α) := parens (commaList p)

/-- Runs a reader if a condition holds. -/
def onlyIf {α : Type} (condition : Parse Bool) (p : Parse (Option α)) : Parse (Option α) := do
  if ← condition then p else return none

/-- Takes all items to the end of the statement. -/
def takeRest : Parse Unit :=
  modify fun s => ⟨s.ahead.reverse ++ s.taken, []⟩

end DryRun.Grammar
