import ChangeReview.Declaration.Expression

/-!
# Patterns

What stands after `case`: literals, captures, dotted values, and sequences, mappings and classes of
patterns.
-/

namespace ChangeReview.Declaration.Pattern

open ChangeReview.Declaration.Parser

/-- The pattern that matches everything and binds nothing. -/
def wildcard : Term := .node .capturePattern [.absent, .absent]

/-- A name to bind. -/
def capture : Parser Text := do
  let name ← identifier
  if name == "_" || (← atAny [".", "(", "="]) then refuse else return name

/-- A number token's value. -/
def numberValue : Parser Term := do
  match Literal.number? (← ofKind .number) with
  | some value => return value
  | none => refuse

/-- Whether a term is an imaginary number. -/
def isImaginary : Term → Bool
  | .node .imaginary _ => true
  | _ => false

/-- A number with a sign, or the sum or difference of a real and an imaginary number. -/
def signedNumber : Parser Term := do
  let negative ← takeOperator "-"
  let value ← numberValue
  let real := if negative then Term.node .negate [value] else value
  if ← atAny ["+", "-"] then
    let form : Form := if ← atOperator "+" then .add else .subtract
    skip
    let imaginary ← numberValue
    if isImaginary value || !isImaginary imaginary then refuse
    else return .node form [real, imaginary]
  else return real

/-- A literal that is no name: a number, a string or a constant. The flag tells a constant. -/
def literal (strings : List Text → Option Term) : Parser (Term × Bool) := do
  if ← atKind .string then
    match strings (← whileAt (atKind .string) (ofKind .string)) with
    | some value => return (value, false)
    | none => refuse
  else if ← takeKeyword "None" then return (.node .noneValue [], true)
  else if ← takeKeyword "True" then return (.node .trueValue [], true)
  else if ← takeKeyword "False" then return (.node .falseValue [], true)
  else return (← signedNumber, false)

/-- A dotted name; the flag tells whether a point stands in it. -/
def dotted : Parser (Term × Bool) := do
  let first ← identifier
  let more ← whileAt (atOperator ".") (do skip; identifier)
  return (more.foldl (fun t name => .node .member [t, .atom name]) (.name first), !more.isEmpty)

/-- An element of a sequence: a pattern, or the rest of the sequence. -/
def element (rules : Rules) : Parser Term := do
  if ← takeOperator "*" then
    let name ← identifier
    if name == "_" then return .node .starPattern [.absent]
    else if ← atAny [".", "(", "="] then refuse
    else return .node .starPattern [.atom name]
  else rules .pattern

/-- Elements up to a closing bracket. -/
def elements (rules : Rules) (closing : Text) : Parser (List Term) := do
  if ← atOperator closing then return []
  else return (← commaList (atOperator closing) (element rules)).1

/-- What stands in parentheses: a group, or a sequence marked by a comma. -/
def parenthesized (rules : Rules) : Parser Term := do
  operator "("
  if ← takeOperator ")" then return .node .sequencePattern []
  else
    let starred ← atOperator "*"
    let first ← element rules
    if ← takeOperator "," then
      let more ← elements rules ")"
      operator ")"
      return .node .sequencePattern (first :: more)
    else if starred then refuse
    else
      operator ")"
      return first

/-- The entries of a mapping; the rest of it comes last. -/
def mappingEntries (rules : Rules) (strings : List Text → Option Term) :
    (steps : Nat) → List Term → Parser Term
  | 0, _ => refuse
  | steps + 1, entries => do
    if ← takeOperator "\x7d" then return .node .mappingPattern [.sequence entries, .absent]
    else if ← takeOperator "**" then
      let rest ← capture
      let _ ← takeOperator ","
      operator "\x7d"
      return .node .mappingPattern [.sequence entries, .atom rest]
    else
      let key ←
        if ← atKind .name then (do
          let (value, hasPoint) ← dotted
          if hasPoint then return value else refuse)
        else (do return (← literal strings).1)
      operator ":"
      let entry := Term.sequence [key, ← rules .pattern]
      if ← takeOperator "," then mappingEntries rules strings steps (entries ++ [entry])
      else
        operator "\x7d"
        return .node .mappingPattern [.sequence (entries ++ [entry]), .absent]

/-- The arguments of a class pattern; those by keyword come last. -/
def classArguments (rules : Rules) : (steps : Nat) → List Term → List Term → Parser (List Term × List Term)
  | 0, _, _ => refuse
  | steps + 1, positional, keywords => do
    if ← atOperator ")" then return (positional, keywords)
    else
      let (positional, keywords) ←
        if ← atNameThen "=" then (do
          let name ← identifier
          skip
          return (positional, keywords ++ [.node .keyword [.atom name, ← rules .pattern]]))
        else if keywords.isEmpty then (do return (positional ++ [← rules .pattern], keywords))
        else refuse
      if ← takeOperator "," then classArguments rules steps positional keywords
      else return (positional, keywords)

/-- A pattern that begins with a name. -/
def named (rules : Rules) : Parser Term := do
  let (value, hasPoint) ← dotted
  if ← takeOperator "(" then
    let (positional, keywords) ← classArguments rules ((← remaining) + 1) [] []
    operator ")"
    return .node .classPattern [value, .sequence positional, .sequence keywords]
  else if ← atOperator "=" then refuse
  else match value, hasPoint with
    | .node .name [.atom name], false => return .node .capturePattern [.absent, .atom name]
    | _, _ => return .node .valuePattern [value]

/-- A pattern without alternatives. -/
def closed (rules : Rules) (strings : List Text → Option Term) : Parser Term := do
  match ← peek with
  | none => refuse
  | some t =>
    if t.kind == .name then
      if t.text == "_" then
        skip
        return wildcard
      else named rules
    else if t.kind == .operator && t.text == "(" then parenthesized rules
    else if t.kind == .operator && t.text == "[" then
      skip
      let inside ← elements rules "]"
      operator "]"
      return .node .sequencePattern inside
    else if t.kind == .operator && t.text == "\x7b" then
      skip
      mappingEntries rules strings ((← remaining) + 1) []
    else
      let (value, isConstant) ← literal strings
      return .node (if isConstant then .singletonPattern else .valuePattern) [value]

/-- Alternatives, perhaps bound to a name. -/
def pattern (rules : Rules) (strings : List Text → Option Term) : Parser Term := do
  let first ← closed rules strings
  let more ← whileAt (atOperator "|") (do skip; closed rules strings)
  let value := if more.isEmpty then first else .node .orPattern (first :: more)
  if ← takeKeyword "as" then return .node .capturePattern [value, .atom (← capture)]
  else return value

/-- The patterns of a case: one, or a sequence marked by a comma. -/
def patterns (rules : Rules) : Parser Term := do
  let starred ← atOperator "*"
  let stop : Parser Bool := do return (← atOperator ":") || (← atKeyword "if")
  match ← commaList stop (element rules) with
  | ([single], false) => if starred then refuse else return single
  | (items, _) => return .node .sequencePattern items

end ChangeReview.Declaration.Pattern
