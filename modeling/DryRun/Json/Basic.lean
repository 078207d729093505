import DryRun.Number.Real64
import DryRun.Text.Basic

/-!
# JSON values

A value keeps whether a number was written as an integer, and the fields of an object in the order
they were written, a repeated key included; of a repeated key the last value counts.
-/

namespace DryRun

/-- A JSON value. -/
inductive Json where
  | null
  | bool (value : Bool)
  | int (value : Int)
  | real (value : Real64)
  | string (value : Text)
  | array (items : List Json)
  | object (fields : List (Text × Json))
deriving Repr

namespace Json

def ofString (s : String) : Json := .string s.toList

def ofNat (n : Nat) : Json := .int n

def texts (ts : List Text) : Json := .array (ts.map .string)

def textOrNull : Option Text → Json
  | some t => .string t
  | none => .null

/-- The value of a field; of a repeated key the last. -/
def field? (fields : List (Text × Json)) (key : Text) : Option Json :=
  (fields.reverse.find? (·.1 == key)).map (·.2)

/-- The value of a field of an object. -/
def get? (key : String) : Json → Option Json
  | .object fields => field? fields key.toList
  | _ => none

end Json

end DryRun
