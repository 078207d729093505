import DryRun.Json.Shown
import DryRun.Text.Utf8
import DryRun.Validation.Basic

/-!
# Issues in words

The text in which a person is told about the issues of a value: for each its place, what is wrong, and
the value that was found, shortened in the middle if it is long.
-/

namespace DryRun.Validation

/-- What a fault asks for. -/
def Fault.sentence : Fault → Text
  | .notJson => "Invalid JSON".toList
  | .notObject => "Input should be an object".toList
  | .notList => "Input should be a valid list".toList
  | .notString => "Input should be a valid string".toList
  | .missing => "Field required".toList
  | .notMember => "Input should be one of the allowed names".toList
  | .notBool => "Input should be a valid boolean".toList
  | .unreadableBool => "Input should be a valid boolean, unable to interpret input".toList
  | .notInt => "Input should be a valid integer".toList
  | .unreadableInt => "Input should be a valid integer, unable to parse string as an integer".toList
  | .tooLongInt => "Unable to parse input string as an integer, exceeded maximum size".toList
  | .fractional => "Input should be a valid integer, got a number with a fractional part".toList
  | .notFinite => "Input should be a finite number".toList
  | .unknownKey => "Extra inputs are not permitted".toList
  | .rule reason => "Value error, ".toList ++ reason

/-- The longest beginning of a text whose encoding has at most `room` octets. -/
def takeOctets : Nat → Text → Text
  | _, [] => []
  | room, c :: cs =>
    let size := (Text.charOctets c).length
    if size ≤ room then c :: takeOctets (room - size) cs else []

/-- A text of more than 50 octets with dots for what stands between its ends. -/
def shorten (t : Text) : Text :=
  if (Text.toUtf8 t).length ≤ 50 then t
  else takeOctets 25 t ++ "...".toList ++ (takeOctets 24 t.reverse).reverse

/-- A step on the way to a place. -/
def Step.text : Step → Text
  | .key name => name
  | .index position => Text.ofNat position

def Issue.describe (i : Issue) : Text :=
  (if i.place.isEmpty then [] else Text.join ['.'] (i.place.map Step.text) ++ ['\n']) ++
    "  ".toList ++ i.fault.sentence ++ " [type=".toList ++ i.fault.label ++
    ", input_value=".toList ++ shorten i.input.shown ++ ", input_type=".toList ++
    i.input.typeName ++ "]".toList

/-- The text of all issues of a value of the given sort. -/
def describe (sort : Text) (issues : List Issue) : Text :=
  Text.ofNat issues.length ++
    (if issues.length == 1 then " validation error for ".toList else " validation errors for ".toList) ++
    sort ++ ['\n'] ++ Text.join ['\n'] (issues.map Issue.describe)

end DryRun.Validation
