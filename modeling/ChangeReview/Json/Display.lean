import ChangeReview.Json.Basic
import ChangeReview.Text.Visible

/-!
# Values for display

A value as a reader of labels sees it: a string is its own text, and inside other values it is a literal.
-/

namespace ChangeReview.Json

mutual

/-- A value as a literal. -/
def literal : Json → Text
  | .null => "None"
  | .bool value => if value then "True" else "False"
  | .int value => Text.ofInt value
  | .real value => value.toText
  | .str value => value.quoted
  | .arr items => "[" ++ literalItems items ++ "]"
  | .obj members => "\x7b" ++ literalMembers members ++ "\x7d"

/-- Items divided by a comma and a blank. -/
def literalItems : List Json → Text
  | [] => []
  | [item] => literal item
  | item :: items => literal item ++ ", " ++ literalItems items

/-- Members divided by a comma and a blank. -/
def literalMembers : List (Text × Json) → Text
  | [] => []
  | [(key, value)] => key.quoted ++ ": " ++ literal value
  | (key, value) :: members => key.quoted ++ ": " ++ literal value ++ ", " ++ literalMembers members

end

/-- The text of a value. -/
def display : Json → Text
  | .str value => value
  | other => literal other

/-- Whether a value is null. -/
def isNull : Json → Bool
  | .null => true
  | _ => false

/-- Whether a value counts as true: it is not empty, zero, false or null. -/
def isTruthy : Json → Bool
  | .null => false
  | .bool value => value
  | .int value => value != 0
  | .real (.finite _ significand _) => significand != 0
  | .real _ => true
  | .str value => !value.isEmpty
  | .arr items => !items.isEmpty
  | .obj members => !members.isEmpty

end ChangeReview.Json
