import DryRun.Text.Basic

/-!
# Options on the command line

A word that begins with a dash is an option. A long option takes its value from after an equals sign or
from the next word, a short one from the rest of its word or from the next word, whatever that looks like.
Words after `--` are arguments. The last of repeated options counts.
-/

namespace DryRun.Command

/-- A name of an option, with its dashes, and what it stands for. -/
structure OptionName (κ : Type) where
  name : Text
  key : κ
  takesValue : Bool := false

/-- Why a command line cannot be understood. -/
inductive UsageError where
  | unknownOption (name : Text)
  | missingValue (name : Text)
  | unwantedValue (name : Text)
  | missingArgument (name : Text)
  | extraArgument (word : Text)
  | missingCommand
  | unknownCommand (name : Text)
  /-- A variable of the environment that has to be a truth value. -/
  | notBool (value : Text)
  | notFile (path : Text)
  | isDirectory (path : Text)
  /-- A path that no file can have, since it holds a null character. -/
  | impossiblePath (path : Text)
deriving DecidableEq, Repr

def UsageError.message : UsageError → Text
  | .unknownOption name => "No such option: ".toList ++ name
  | .missingValue name => "Option ".toList ++ name ++ " requires an argument.".toList
  | .unwantedValue name => "Option ".toList ++ name ++ " does not take a value.".toList
  | .missingArgument name => "Missing argument ".toList ++ name ++ ".".toList
  | .extraArgument word => "Got unexpected extra argument (".toList ++ word ++ ")".toList
  | .missingCommand => "Missing command.".toList
  | .unknownCommand name => "No such command: ".toList ++ name
  | .notBool value => "Not a valid boolean: ".toList ++ value
  | .notFile path => "File does not exist: ".toList ++ path
  | .isDirectory path => "File is a directory: ".toList ++ path
  | .impossiblePath path => "Not a path: ".toList ++ path

/-- The options and arguments of a command line, each in order. -/
structure Parsed (κ : Type) where
  options : List (κ × Text) := []
  arguments : List Text := []

namespace Parsed

variable {κ α : Type}

def addOption (key : κ) (value : Text) (p : Parsed κ) : Parsed κ :=
  { p with options := (key, value) :: p.options }

def addArgument (word : Text) (p : Parsed κ) : Parsed κ :=
  { p with arguments := word :: p.arguments }

/-- What the last option that `read` knows stands for. -/
def last? (read : κ × Text → Option α) (p : Parsed κ) : Option α := p.options.reverse.findSome? read

end Parsed

section Reading

variable {κ : Type}

/-- An option word, split at its first equals sign. -/
def splitEquals (word : Text) : Text × Option Text :=
  let name := word.takeWhile (· != '=')
  match word.drop name.length with
  | _ :: value => (name, some value)
  | [] => (name, none)

def findOption (names : List (OptionName κ)) (name : Text) : Option (OptionName κ) :=
  names.find? (·.name == name)

/-- Whether a word is an option: a dash and something after it. -/
def isOptionWord : Text → Bool
  | '-' :: _ :: _ => true
  | _ => false

/-- Whether a word begins with two dashes. -/
def isLongWord (word : Text) : Bool := Text.startsWith word "--".toList

/-- What an option word says: options without value, and perhaps one that takes its value from the word
or, if that gives none, from the next word. -/
structure WordOptions (κ : Type) where
  flags : List κ
  valued : Option (OptionName κ × Option Text) := none

/-- The letters of a short option word, read from the left up to the first that takes a value. -/
def readLetters (names : List (OptionName κ)) : Text → Except UsageError (WordOptions κ)
  | [] => .ok ⟨[], none⟩
  | letter :: rest =>
    match findOption names ['-', letter] with
    | none => .error (.unknownOption ['-', letter])
    | some o =>
      if o.takesValue then .ok ⟨[], some (o, if rest.isEmpty then none else some rest)⟩
      else (readLetters names rest).map fun r => { r with flags := o.key :: r.flags }

def readOptionWord (names : List (OptionName κ)) (word : Text) : Except UsageError (WordOptions κ) :=
  let (name, value) := splitEquals word
  match (findOption names name).filter fun _ => isLongWord name with
  | some o =>
    if o.takesValue then .ok ⟨[], some (o, value)⟩
    else match value with
      | some _ => .error (.unwantedValue name)
      | none => .ok ⟨[o.key], none⟩
  | none => if isLongWord word then .error (.unknownOption name) else readLetters names (word.drop 1)

/-- Adds what an option word says to what comes after it. -/
def addFlags (flags : List κ) (p : Parsed κ) : Parsed κ :=
  flags.foldr (fun key p => p.addOption key []) p

/-- Reads a command line. If options and arguments do not `mix`, the first argument ends the options. -/
def readWords (names : List (OptionName κ)) (mix : Bool) : List Text → Except UsageError (Parsed κ)
  | [] => .ok {}
  | word :: words =>
    if word == "--".toList then .ok { arguments := words }
    else if isOptionWord word then
      match readOptionWord names word with
      | .error e => .error e
      | .ok ⟨flags, none⟩ => (readWords names mix words).map (addFlags flags)
      | .ok ⟨flags, some (o, some value)⟩ =>
        (readWords names mix words).map fun p => addFlags flags (p.addOption o.key value)
      | .ok ⟨flags, some (o, none)⟩ =>
        match words with
        | [] => .error (.missingValue o.name)
        | value :: words =>
          (readWords names mix words).map fun p => addFlags flags (p.addOption o.key value)
    else if mix then (readWords names mix words).map (Parsed.addArgument word)
    else .ok { arguments := word :: words }

end Reading

end DryRun.Command
