import DryRun.Job.Basic
import DryRun.Log.Record
import DryRun.Reading.Insert
import DryRun.Table.Mock

/-!
# Transforms of a dry run

A transform that is declared an INSERT and reads as one is redirected to the mock of its table; one
that cannot be read is dropped; one that is something else is kept. Transforms of other types are kept
without being read. Each transform is treated on its own.
-/

namespace DryRun

open Sql

/-- What becomes of a transform. -/
inductive TransformOutcome where
  /-- Replaced by a statement that writes to the mock of `table`. -/
  | redirected (statement : JobStatement) (table : Text)
  | kept
  | dropped (cause : ReadError)
deriving DecidableEq, Repr

def TransformOutcome.label : TransformOutcome → Text
  | .redirected .. => "rewritten".toList
  | .kept => "passed_through".toList
  | .dropped _ => "dropped".toList

/-- A transform and what becomes of it. -/
structure TransformResult where
  given : JobStatement
  outcome : TransformOutcome
deriving DecidableEq, Repr

namespace TransformResult

/-- The statement that goes into the prepared job, if any. -/
def output? (r : TransformResult) : Option JobStatement :=
  match r.outcome with
  | .redirected statement _ => some statement
  | .kept => some r.given
  | .dropped _ => none

/-- The table that the transform no longer writes to. -/
def table? (r : TransformResult) : Option Text :=
  match r.outcome with
  | .redirected _ table => some table
  | _ => none

def dropped? (r : TransformResult) : Option Text :=
  match r.outcome with
  | .dropped _ => some r.given.value
  | _ => none

/-- The fault for which the transform was dropped. -/
def cause? (r : TransformResult) : Option ReadError :=
  match r.outcome with
  | .dropped cause => some cause
  | _ => none

def isRedirected (r : TransformResult) : Bool := r.table?.isSome

end TransformResult

/-- The record of a text that could not be cut into tokens or that the grammar rejects. -/
def readingLog : ReadError → List Log.Record
  | .lexical _ =>
    [⟨.debug, .reading, "SQLGlot could not tokenize statement: <TokenError>".toList, none⟩]
  | .hint _ => [⟨.debug, .reading, "SQLGlot rejected statement: <TokenError>".toList, none⟩]
  | .grammar => [⟨.debug, .reading, "SQLGlot rejected statement: <ParseError>".toList, none⟩]
  | _ => []

/-- The INSERT redirected to the mock of its table. -/
def mockInsert (insert : Insert) : JobStatement :=
  ⟨(insert.retarget (Mock.ref insert.target.name)).render, .insert⟩

def redirectTransform (statement : JobStatement) : TransformResult × List Log.Record :=
  if statement.type != .insert then (⟨statement, .kept⟩, [])
  else match readInsert statement.value with
    | .ok insert => (⟨statement, .redirected (mockInsert insert) insert.target.name⟩, [])
    -- readable, but no INSERT into a named table
    | .error (.unexpected actual) =>
      (⟨statement, .kept⟩,
       [⟨.debug, .transforms,
         "Transform declared as INSERT kept unchanged: ".toList ++ unexpectedMessage actual, none⟩])
    | .error (.unreadable cause) =>
      (⟨statement, .dropped cause⟩,
       readingLog cause ++
        [⟨.error, .transforms,
          "Statement parse error, statement dropped: ".toList ++ statement.value,
          some statement.value⟩])

/-! ## Lists of transforms -/

/-- Inserts a name into a list in increasing order, unless it is there. -/
def insertSorted (name : Text) : List Text → List Text
  | [] => [name]
  | n :: ns =>
    if name == n then n :: ns
    else if Text.before name n then name :: n :: ns
    else n :: insertSorted name ns

/-- The distinct names of a list in increasing order. -/
def sortedNames (names : List Text) : List Text := names.foldr insertSorted []

/-- What becomes of a list of transforms. -/
structure TransformScan where
  results : List TransformResult
deriving DecidableEq, Repr

namespace TransformScan

/-- The tables that are no longer written to, in increasing order. -/
def tables (s : TransformScan) : List Text := sortedNames (s.results.filterMap TransformResult.table?)

/-- The statements of the prepared job. -/
def statements (s : TransformScan) : List JobStatement := s.results.filterMap TransformResult.output?

def dropped (s : TransformScan) : List Text := s.results.filterMap TransformResult.dropped?

def redirectedCount (s : TransformScan) : Nat := s.results.countP TransformResult.isRedirected

end TransformScan

/-- Treats all transforms in order. -/
def scanTransforms (statements : List JobStatement) : TransformScan × List Log.Record :=
  let treated := statements.map redirectTransform
  (⟨treated.map (·.1)⟩, treated.flatMap (·.2))

end DryRun
