import DryRun.Json.Basic
import DryRun.Number.Shortest
import DryRun.Text.Quoted

/-!
# JSON values in messages

The texts in which messages show values and name their types: strings in quotes, `None` for null, `True`
and `False`, lists and tables of values in brackets and braces. A table has each key once.
-/

namespace DryRun.Json

/-- The texts of numbers that are not finite. -/
def shownSpecials : Real64.SpecialTexts := ⟨"nan".toList, "inf".toList⟩

/-- The fields with another value for a key, which stays in its place if it is there. -/
def setField (key : Text) (value : Json) : List (Text × Json) → List (Text × Json)
  | [] => [(key, value)]
  | f :: fields => if f.1 == key then (key, value) :: fields else f :: setField key value fields

mutual

/-- The value with each key of its tables once. Of the values of a repeated key the last one counts. -/
def tabled : Json → Json
  | .array items => .array (tabledItems items)
  | .object fields => .object (tabledFields [] fields)
  | value => value

def tabledItems : List Json → List Json
  | [] => []
  | item :: items => tabled item :: tabledItems items

/-- The fields after those that were read, which have each key once. -/
def tabledFields (read : List (Text × Json)) : List (Text × Json) → List (Text × Json)
  | [] => read
  | (key, value) :: fields => tabledFields (setField key (tabled value) read) fields

end

mutual

/-- The text of a value whose tables have each key once. -/
def shownTabled : Json → Text
  | .null => "None".toList
  | .bool b => Text.ofBool b
  | .int n => Text.ofInt n
  | .real x => x.text shownSpecials
  | .string t => Text.quoted t
  | .array items => '[' :: shownItems items ++ [']']
  | .object fields => '\x7b' :: shownFields fields ++ ['\x7d']

/-- The texts of items with commas between them. -/
def shownItems : List Json → Text
  | [] => []
  | [item] => shownTabled item
  | item :: items => shownTabled item ++ ", ".toList ++ shownItems items

/-- The texts of fields with commas between them. -/
def shownFields : List (Text × Json) → Text
  | [] => []
  | [(key, value)] => Text.quoted key ++ ": ".toList ++ shownTabled value
  | (key, value) :: fields =>
    Text.quoted key ++ ": ".toList ++ shownTabled value ++ ", ".toList ++ shownFields fields

end

/-- The text of a value. -/
def shown (value : Json) : Text := shownTabled (tabled value)

def typeName : Json → Text
  | .null => "NoneType".toList
  | .bool _ => "bool".toList
  | .int _ => "int".toList
  | .real _ => "float".toList
  | .string _ => "str".toList
  | .array _ => "list".toList
  | .object _ => "dict".toList

end DryRun.Json
