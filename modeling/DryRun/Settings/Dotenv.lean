import DryRun.Text.Utf8

/-!
# Files of settings

A file of settings holds lines `KEY=value`. A key may follow `export`, blanks may surround the equals
sign, a value may stand in single or double quotes and then span lines, and `#` begins a comment. A line
that is none of these is passed over. A reference of the form `${NAME}` in a value stands for an
earlier value of the file or, failing that, of the environment; `${NAME:-text}` gives a default.
-/

namespace DryRun.Dotenv

/-- A key and its value; a key without equals sign has none. -/
structure Binding where
  key : Text
  value : Option Text
deriving DecidableEq, Repr

/-- A blank that is not a line end. -/
def isLineBlank (c : Char) : Bool := Text.isBlank c && c != '\n' && c != '\r'

def skipLineBlanks (t : Text) : Text := t.dropWhile isLineBlank

/-- The rest of the line, and what follows its end. -/
def splitLine (t : Text) : Text × Text :=
  (t.takeWhile (· != '\n'), (t.dropWhile (· != '\n')).drop 1)

/-- The text after `export` and the blanks that have to follow it. -/
def skipExport (t : Text) : Text :=
  match Text.after? "export" t with
  | some rest => if rest.head?.any isLineBlank then skipLineBlanks rest else t
  | none => t

/-- Reads a key, in single quotes or up to a blank, `=` or `#`. -/
def readKey (t : Text) : Option (Text × Text) :=
  match t with
  | '\x27' :: rest =>
    let key := rest.takeWhile (· != '\x27')
    match rest.drop key.length with
    | _ :: after => if key.isEmpty then none else some (key, after)
    | [] => none
  | _ =>
    let key := t.takeWhile fun c => c != '=' && c != '#' && !Text.isBlank c
    if key.isEmpty then none else some (key, t.drop key.length)

/-! ## Values -/

/-- The length of a quoted value, up to the closing quote. A backslash belongs to the character after it,
which has to be on the same line. -/
def quotedLength (quote : Char) (used : Nat) : Text → Option Nat
  | [] => none
  | '\\' :: c :: rest => if c == '\n' then none else quotedLength quote (used + 2) rest
  | c :: rest =>
    if c == quote then some used
    else if c == '\\' then none
    else quotedLength quote (used + 1) rest

/-- The character that a letter after a backslash writes in double quotes. -/
def escape? (c : Char) : Option Char :=
  if c == 'a' then some '\x07'
  else if c == 'b' then some '\x08'
  else if c == 'f' then some '\x0c'
  else if c == 'n' then some '\n'
  else if c == 'r' then some '\r'
  else if c == 't' then some '\t'
  else if c == 'v' then some '\x0b'
  else if c == '\\' || c == '\x27' || c == '\x22' then some c
  else none

/-- Undoes the escapes of a quoted value; single quotes know only those of the backslash and of the
single quote. -/
def unescape (double : Bool) : Text → Text
  | '\\' :: d :: rest =>
    match escape? d with
    | some e =>
      if double || d == '\\' || d == '\x27' then e :: unescape double rest
      else '\\' :: unescape double (d :: rest)
    | none => '\\' :: unescape double (d :: rest)
  | c :: rest => c :: unescape double rest
  | [] => []

/-- The text up to the first blanks that `#` follows. -/
def cutComment : Text → Text
  | [] => []
  | c :: rest =>
    if Text.isBlank c && (rest.dropWhile Text.isBlank).head? == some '#' then []
    else c :: cutComment rest

/-- Reads a value after the equals sign and the blanks behind it. A comment may take its place if there
are such blanks. -/
def readValue (spaced : Bool) (t : Text) : Option (Text × Text) :=
  match t with
  | [] => some ([], [])
  | q :: rest =>
    if spaced && q == '#' then some ([], t)
    else if q == '\x27' || q == '\x22' then
      (quotedLength q 0 rest).map fun n => (unescape (q == '\x22') (rest.take n), rest.drop (n + 1))
    else
      let line := t.takeWhile (· != '\n')
      some (Text.stripRight (cutComment line), t.drop line.length)

/-! ## Lines -/

/-- What follows the end of the line, if nothing but a comment stands before it. -/
def endLine? (t : Text) : Option Text :=
  let t := skipLineBlanks t
  match t with
  | [] => some []
  | '\n' :: rest => some rest
  | '#' :: _ => some (splitLine t).2
  | _ => none

/-- Reads the line at the head: its binding, if it holds one, and what follows it. -/
def readLine (t : Text) : Option Binding × Text :=
  if t.head? == some '#' then (none, (splitLine t).2)
  else
    let t := skipExport t
    if t.head? == some '#' then (none, (splitLine t).2)
    else match readKey t with
      | none => (none, (splitLine t).2)
      | some (key, rest) =>
        match skipLineBlanks rest with
        | '=' :: rest =>
          let value := skipLineBlanks rest
          match readValue (rest.head?.any isLineBlank) value with
          -- a quote that is not closed: the line is given up from the value on
          | none => (none, (splitLine value).2)
          | some (value, after) =>
            match endLine? after with
            | some next => (some ⟨key, some value⟩, next)
            | none => (none, (splitLine after).2)
        | rest =>
          match endLine? rest with
          | some next => (some ⟨key, none⟩, next)
          | none => (none, (splitLine rest).2)

/-- Reads bindings line by line. -/
def readLines : Nat → Text → List Binding
  | 0, _ => []
  | fuel + 1, t =>
    match Text.stripLeft t with
    | [] => []
    | t =>
      let (binding, rest) := readLine t
      binding.toList ++ readLines fuel rest

/-! ## References -/

/-- The value of a name: of the last binding that has one, or of the environment. -/
def lookUp (bindings : List Binding) (environment : List (Text × Text)) (name : Text) : Option Text :=
  match bindings.reverse.find? (·.key == name) with
  | some b => some (b.value.getD [])
  | none => (environment.reverse.find? (·.1 == name)).map (·.2)

/-- Reads a reference after its opening brace: its name, its default and what follows it. -/
def readReference (t : Text) : Option (Text × Option Text × Text) :=
  let name := t.takeWhile fun c => c != '\x7d' && c != ':'
  match t.drop name.length with
  | '\x7d' :: rest => some (name, none, rest)
  | ':' :: '-' :: rest =>
    let given := rest.takeWhile (· != '\x7d')
    match rest.drop given.length with
    | _ :: after => some (name, some given, after)
    | [] => none
  | _ => none

/-- Replaces the references of a value. -/
def expand (value? : Text → Option Text) : Nat → Text → Text
  | 0, t => t
  | _ + 1, [] => []
  | fuel + 1, '$' :: '\x7b' :: rest =>
    match readReference rest with
    | some (name, given, after) => (value? name).getD (given.getD []) ++ expand value? fuel after
    | none => '$' :: expand value? fuel ('\x7b' :: rest)
  | fuel + 1, c :: rest => c :: expand value? fuel rest

/-- Replaces the references of the bindings in order; `done` are those before. -/
def expandAll (environment : List (Text × Text)) (done : List Binding) : List Binding → List Binding
  | [] => done
  | b :: bs =>
    let value := b.value.map fun v => expand (lookUp done environment) (v.length + 1) v
    expandAll environment (done ++ [⟨b.key, value⟩]) bs

/-- The text without the mark of its encoding at the start. -/
def dropMark : Text → Text
  | '\ufeff' :: rest => rest
  | t => t

/-- The bindings of a file, in order. -/
def parse (environment : List (Text × Text)) (file : Text) : List Binding :=
  let t := Text.unifyLines (dropMark file)
  expandAll environment [] (readLines (t.length + 1) t)

end DryRun.Dotenv
