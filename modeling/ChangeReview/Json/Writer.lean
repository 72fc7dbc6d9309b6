import ChangeReview.Json.Basic

/-!
# Writing JSON

Two layouts: one line with a blank after commas and colons, and two-space indentation. Both are pure
ASCII: every other code point is escaped, above the basic plane as a pair of surrogates.
-/

namespace ChangeReview.Json

/-- A four-digit escape of one UTF-16 unit. -/
def unitEscape (n : Nat) : Text := "\\u" ++ Text.hex 4 n

/-- One code point inside a string. -/
def escape (c : CodePoint) : Text :=
  if c == '"' then "\\\""
  else if c == '\\' then "\\\\"
  else if c == '\n' then "\\n"
  else if c == '\r' then "\\r"
  else if c == '\t' then "\\t"
  else if c.val == 0x0C then "\\f"
  else if c.val == 0x08 then "\\b"
  else if 0x20 ≤ c.val && c.val ≤ 0x7E then [c]
  else if c.val < 0x10000 then unitEscape c.val
  else
    let offset := c.val - 0x10000
    unitEscape (0xD800 + offset / 0x400) ++ unitEscape (0xDC00 + offset % 0x400)

/-- A string in quotes. -/
def quote (t : Text) : Text := "\"" ++ t.flatMap escape ++ "\""

/-- A number, a truth value or a string. -/
def scalar : Json → Text
  | .null => "null"
  | .bool value => if value then "true" else "false"
  | .int value => Text.ofInt value
  | .real value => value.toText
  | .str value => quote value
  | _ => []

mutual

/-- A value on one line. -/
def line : Json → Text
  | .arr items => "[" ++ lineItems items ++ "]"
  | .obj members => "\x7b" ++ lineMembers members ++ "\x7d"
  | other => scalar other

/-- Items divided by a comma and a blank. -/
def lineItems : List Json → Text
  | [] => []
  | [item] => line item
  | item :: items => line item ++ ", " ++ lineItems items

/-- Members divided by a comma and a blank. -/
def lineMembers : List (Text × Json) → Text
  | [] => []
  | [(key, value)] => quote key ++ ": " ++ line value
  | (key, value) :: members => quote key ++ ": " ++ line value ++ ", " ++ lineMembers members

end

/-- A new line indented by two blanks a level. -/
def newLine (depth : Nat) : Text := '\n' :: List.replicate (2 * depth) (CodePoint.ofChar ' ')

mutual

/-- A value with each item and member on a line of its own. Empty arrays and objects stay closed. -/
def indented (depth : Nat) : Json → Text
  | .arr [] => "[]"
  | .arr items => "[" ++ indentedItems (depth + 1) items ++ newLine depth ++ "]"
  | .obj [] => "\x7b\x7d"
  | .obj members => "\x7b" ++ indentedMembers (depth + 1) members ++ newLine depth ++ "\x7d"
  | other => scalar other

/-- Items, each on a new line, divided by commas. -/
def indentedItems (depth : Nat) : List Json → Text
  | [] => []
  | [item] => newLine depth ++ indented depth item
  | item :: items => newLine depth ++ indented depth item ++ "," ++ indentedItems depth items

/-- Members, each on a new line, divided by commas. -/
def indentedMembers (depth : Nat) : List (Text × Json) → Text
  | [] => []
  | [(key, value)] => newLine depth ++ quote key ++ ": " ++ indented depth value
  | (key, value) :: members =>
    newLine depth ++ quote key ++ ": " ++ indented depth value ++ ","
      ++ indentedMembers depth members

end

/-- The document of a value, indented. -/
def document (value : Json) : Text := indented 0 value

end ChangeReview.Json
