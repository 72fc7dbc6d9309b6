import ChangeReview.Declaration.Literal
import ChangeReview.Declaration.ParameterList

/-!
# Expressions

The rules for expressions, from conditional expressions down to atoms. A bracketed form is decided
after its first element: a tuple by a comma, a comprehension by `for`, a dictionary by a colon.
-/

namespace ChangeReview.Declaration.Expression

open ChangeReview.Declaration.Parser

/-- A left-associative level: operands divided by operators of one rank. -/
def leftSteps (operators : List (Text × Form)) (operand : Parser Term) :
    (steps : Nat) → Term → Parser Term
  | 0, left => return left
  | steps + 1, left => do
    match (← peek).bind fun t => if t.kind == .operator then operators.lookup t.text else none with
    | none => return left
    | some form =>
      skip
      let right ← operand
      leftSteps operators operand steps (.node form [left, right])

/-- A left-associative level. -/
def leftLevel (operators : List (Text × Form)) (operand : Parser Term) : Parser Term := do
  let left ← operand
  leftSteps operators operand (← remaining) left

/-- Products. -/
def product (rules : Rules) : Parser Term :=
  leftLevel [("*", .multiply), ("/", .divide), ("//", .floorDivide), ("%", .modulo),
    ("@", .matrixMultiply)] (rules .factor)

/-- Sums. -/
def sum (rules : Rules) : Parser Term := leftLevel [("+", .add), ("-", .subtract)] (product rules)

/-- Shifts. -/
def shift (rules : Rules) : Parser Term :=
  leftLevel [("<<", .shiftLeft), (">>", .shiftRight)] (sum rules)

/-- Bitwise operations. -/
def bitwiseOr (rules : Rules) : Parser Term :=
  leftLevel [("|", .bitOr)] (leftLevel [("^", .bitXor)] (leftLevel [("&", .bitAnd)] (shift rules)))

/-- A signed operand, or a power. -/
def factor (rules : Rules) : Parser Term := do
  if ← takeOperator "+" then return .node .plus [← rules .factor]
  else if ← takeOperator "-" then return .node .negate [← rules .factor]
  else if ← takeOperator "~" then return .node .invert [← rules .factor]
  else
    let operand ←
      if ← takeKeyword "await" then (do return .node .awaited [← rules .primary]) else rules .primary
    if ← takeOperator "**" then return .node .power [operand, ← rules .factor] else return operand

/-- The comparison operator that comes next, read. -/
def comparisonOperator? : Parser (Option Form) := do
  let symbols : List (Text × Form) :=
    [("==", .equal), ("!=", .notEqual), ("<", .less), ("<=", .lessEqual), (">", .greater),
      (">=", .greaterEqual)]
  match (← peek).bind fun t => if t.kind == .operator then symbols.lookup t.text else none with
  | some form =>
    skip
    return some form
  | none =>
    if ← takeKeyword "in" then return some .inOp
    else if ← takeKeyword "is" then
      if ← takeKeyword "not" then return some .isNotOp else return some .isOp
    else if ← atKeyword "not" then
      skip
      keyword "in"
      return some .notInOp
    else return none

/-- The comparisons after the first operand. -/
def comparisons (rules : Rules) : (steps : Nat) → Parser (List Term)
  | 0 => return []
  | steps + 1 => do
    match ← comparisonOperator? with
    | none => return []
    | some form =>
      let right ← rules .bitwiseOr
      return .node form [right] :: (← comparisons rules steps)

/-- A negation or a chain of comparisons. -/
def inversion (rules : Rules) : Parser Term := do
  if ← takeKeyword "not" then return .node .notOp [← rules .inversion]
  else
    let left ← rules .bitwiseOr
    match ← comparisons rules (← remaining) with
    | [] => return left
    | pairs => return .node .comparison (left :: pairs)

/-- Operands joined by one keyword. -/
def joinedBy (word : Text) (form : Form) (operand : Parser Term) : Parser Term := do
  let first ← operand
  let more ← whileAt (atKeyword word) (do skip; operand)
  if more.isEmpty then return first else return .node form (first :: more)

/-- Disjunctions of conjunctions. -/
def disjunction (rules : Rules) : Parser Term :=
  joinedBy "or" .orOp (joinedBy "and" .andOp (rules .inversion))

/-- A lambda, a conditional expression, or a disjunction. -/
def expression (rules : Rules) : Parser Term := do
  if ← takeKeyword "lambda" then
    let parameters ← ParameterList.read rules ⟨":", false⟩
    operator ":"
    return .node .lambda [parameters.toTerm, ← rules .expression]
  else
    let value ← rules .disjunction
    if ← takeKeyword "if" then
      let condition ← rules .disjunction
      keyword "else"
      return .node .conditional [condition, value, ← rules .expression]
    else return value

/-- An expression, or one bound to a name on the spot. -/
def namedExpression (rules : Rules) : Parser Term := do
  if ← atNameThen ":=" then
    let target ← identifier
    skip
    return .node .assigned [.name target, ← rules .expression]
  else
    let value ← rules .expression
    if ← atOperator ":=" then refuse else return value

/-- An expression, or a starred operand. -/
def starExpression (rules : Rules) : Parser Term := do
  if ← takeOperator "*" then return .node .starred [← rules .bitwiseOr] else rules .expression

/-- A named expression, or a starred operand. -/
def starNamedExpression (rules : Rules) : Parser Term := do
  if ← takeOperator "*" then return .node .starred [← rules .bitwiseOr] else rules .namedExpression

/-- Where a row of expressions may stop after a comma: at no token that starts an expression. -/
def atExpressionEnd : Parser Bool := do
  match ← peek with
  | none => return true
  | some t =>
    match t.kind with
    | .name | .number | .string => return false
    | .keyword =>
      return !(Text.list ["False", "None", "True", "await", "lambda", "not"]).contains t.text
    | .operator =>
      return !(Text.list ["(", "[", "\x7b", "-", "+", "~", "*", "..."]).contains t.text
    | _ => return true

/-- One expression, or several as a tuple. -/
def starExpressions (rules : Rules) : Parser Term := do
  match ← commaList atExpressionEnd (starExpression rules) with
  | ([single], false) => return single
  | (items, _) => return .node .tuple items

/-- The value handed out by a generator. -/
def yielding (rules : Rules) : Parser Term := do
  keyword "yield"
  if ← takeKeyword "from" then return .node .yieldedFrom [← rules .expression]
  else if ← atExpressionEnd then return .node .yielded [.absent]
  else return .node .yielded [← rules .starExpressions]

/-- Whether a comprehension starts here. -/
def atComprehension : Parser Bool := do
  return (← atKeyword "for") || (← atKeyword "async")

/-- One `for` of a comprehension with its conditions. -/
def comprehensionClause (rules : Rules) : Parser Term := do
  let isAsync ← takeKeyword "async"
  keyword "for"
  let target ← rules .starTargets
  keyword "in"
  let iterated ← rules .disjunction
  let conditions ← whileAt (atKeyword "if") (do skip; rules .disjunction)
  return .node .comprehension [target, iterated, .sequence conditions, .flag isAsync]

/-- The clauses of a comprehension. -/
def comprehensionClauses (rules : Rules) : Parser Term := do
  return .sequence (← whileAt atComprehension (comprehensionClause rules))

/-- The rest of a row of elements, after the first of them and a comma. -/
def moreElements (rules : Rules) (closing : Text) : Parser (List Term) := do
  if ← atOperator closing then return []
  else return (← commaList (atOperator closing) (starNamedExpression rules)).1

/-- What stands in parentheses. -/
def parenthesized (rules : Rules) : Parser Term := do
  operator "("
  if ← takeOperator ")" then return .node .tuple []
  else if ← atKeyword "yield" then
    let value ← rules .yielding
    operator ")"
    return value
  else
    let starred ← atOperator "*"
    let first ← starNamedExpression rules
    if ← takeOperator "," then
      let more ← moreElements rules ")"
      operator ")"
      return .node .tuple (first :: more)
    else if starred then refuse
    else if ← atComprehension then
      let clauses ← comprehensionClauses rules
      operator ")"
      return .node .generator [first, clauses]
    else
      operator ")"
      return first

/-- What stands in square brackets. -/
def bracketed (rules : Rules) : Parser Term := do
  operator "["
  if ← takeOperator "]" then return .node .list []
  else
    let starred ← atOperator "*"
    let first ← starNamedExpression rules
    if !starred && (← atComprehension) then
      let clauses ← comprehensionClauses rules
      operator "]"
      return .node .listComprehension [first, clauses]
    else
      let more ← if ← takeOperator "," then moreElements rules "]" else pure []
      operator "]"
      return .node .list (first :: more)

/-- An entry of a dictionary: a key and its value, or another dictionary spread out. -/
def entry (rules : Rules) : Parser Term := do
  if ← takeOperator "**" then return .sequence [.absent, ← rules .bitwiseOr]
  else
    let key ← rules .expression
    operator ":"
    return .sequence [key, ← rules .expression]

/-- The rest of a dictionary after its first entry. -/
def dictionary (rules : Rules) (first : Term) (spread : Bool) : Parser Term := do
  if !spread && (← atComprehension) then
    let clauses ← comprehensionClauses rules
    operator "\x7d"
    return .node .dictComprehension [first, clauses]
  else
    let more ←
      if ← takeOperator "," then
        if ← atOperator "\x7d" then pure [] else (do return (← commaList (atOperator "\x7d") (entry rules)).1)
      else pure []
    operator "\x7d"
    return .node .dict (first :: more)

/-- What stands in braces. -/
def braced (rules : Rules) : Parser Term := do
  operator "\x7b"
  if ← takeOperator "\x7d" then return .node .dict []
  else if ← atOperator "**" then
    let first ← entry rules
    dictionary rules first true
  else
    let starred ← atOperator "*"
    let named ← atNameThen ":="
    let first ← starNamedExpression rules
    if !starred && !named && (← atOperator ":") then
      skip
      let value ← rules .expression
      dictionary rules (.sequence [first, value]) false
    else if !starred && (← atComprehension) then
      let clauses ← comprehensionClauses rules
      operator "\x7d"
      return .node .setComprehension [first, clauses]
    else
      let more ← if ← takeOperator "," then moreElements rules "\x7d" else pure []
      operator "\x7d"
      return .node .set (first :: more)

/-- One part of a subscript: an expression, a slice or a starred expression. -/
def subscriptPart (rules : Rules) : Parser Term := do
  let bound : Parser (Option Term) := do
    if (← atOperator ":") || (← atOperator ",") || (← atOperator "]") then return none
    else return some (← rules .expression)
  if ← takeOperator "*" then return .node .starred [← rules .expression]
  else if ← atNameThen ":=" then rules .namedExpression
  else
    let lower ← bound
    if ← takeOperator ":" then
      let upper ← bound
      let step ← if ← takeOperator ":" then bound else pure none
      return .node .slice [.option lower, .option upper, .option step]
    else match lower with
      | some value => if ← atOperator ":=" then refuse else return value
      | none => refuse

/-- The inside of a subscript; several parts, or a starred one, are a tuple. -/
def subscript (rules : Rules) : Parser Term := do
  let starred ← atOperator "*"
  match ← commaList (atOperator "]") (subscriptPart rules) with
  | ([single], false) => return if starred then .node .tuple [single] else single
  | (parts, _) => return .node .tuple parts

/-- The arguments of a call so far. -/
structure Arguments where
  positional : List Term := []
  keywords : List Term := []

/-- The arguments of a call as parts of a term. -/
def Arguments.parts (a : Arguments) : List Term := [.sequence a.positional, .sequence a.keywords]

/-- How far the arguments of a call have come: positional ones only before the first keyword, starred
ones only before the first double star. -/
inductive ArgumentPhase where
  | positional
  | keyword
  | spread
deriving DecidableEq

/-- The arguments of a call up to the closing parenthesis. -/
def arguments (rules : Rules) : (steps : Nat) → ArgumentPhase → Arguments → Parser Arguments
  | 0, _, _ => refuse
  | steps + 1, phase, a => do
    if ← atOperator ")" then return a
    else
      let (phase, a) ←
        if ← atNameThen "=" then (do
          let name ← identifier
          skip
          let value ← rules .expression
          let phase := if phase == .positional then .keyword else phase
          return (phase, { a with keywords := a.keywords ++ [.node .keyword [.atom name, value]] }))
        else if ← takeOperator "**" then (do
          let value ← rules .expression
          return (ArgumentPhase.spread,
            { a with keywords := a.keywords ++ [.node .keyword [.absent, value]] }))
        else if ← takeOperator "*" then (do
          let value ← rules .expression
          if phase == .spread then refuse
          else return (phase, { a with positional := a.positional ++ [.node .starred [value]] }))
        else (do
          let value ← rules .namedExpression
          if phase != .positional then refuse
          else return (phase, { a with positional := a.positional ++ [value] }))
      if ← takeOperator "," then arguments rules steps phase a
      else if ← atOperator ")" then return a
      else refuse

/-- A call's arguments from the opening parenthesis on; a comprehension may be the only one. -/
def callArguments (rules : Rules) : Parser Arguments := do
  operator "("
  if ← takeOperator ")" then return {}
  else if (← atNameThen "=") || (← atOperator "*") || (← atOperator "**") then
    let a ← arguments rules ((← remaining) + 1) .positional {}
    operator ")"
    return a
  else
    let first ← rules .namedExpression
    if ← atComprehension then
      let clauses ← comprehensionClauses rules
      operator ")"
      return { positional := [.node .generator [first, clauses]] }
    else
      let a : Arguments := { positional := [first] }
      let a ←
        if ← takeOperator "," then arguments rules ((← remaining) + 1) .positional a else pure a
      operator ")"
      return a

/-- The trailers of an operand: attributes, calls and subscripts. -/
def trailers (rules : Rules) : (steps : Nat) → Term → Parser Term
  | 0, operand => return operand
  | steps + 1, operand => do
    if ← takeOperator "." then
      let name ← identifier
      trailers rules steps (.node .member [operand, .atom name])
    else if ← atOperator "(" then
      let a ← callArguments rules
      trailers rules steps (.node .call (operand :: a.parts))
    else if ← takeOperator "[" then
      let index ← subscript rules
      operator "]"
      trailers rules steps (.node .subscript [operand, index])
    else return operand

/-- An atom: a name, a literal or a bracketed form. `strings` gives the value of adjacent strings. -/
def atom (rules : Rules) (strings : List Text → Option Term) : Parser Term := do
  match ← peek with
  | none => refuse
  | some t =>
    match t.kind with
    | .name =>
      skip
      return .name t.text
    | .number =>
      skip
      match Literal.number? t.text with
      | some value => return value
      | none => refuse
    | .string =>
      let texts ← whileAt (atKind .string) (ofKind .string)
      match strings texts with
      | some value => return value
      | none => refuse
    | .keyword =>
      skip
      if t.text == "None" then return .node .noneValue []
      else if t.text == "True" then return .node .trueValue []
      else if t.text == "False" then return .node .falseValue []
      else refuse
    | .operator =>
      if t.text == "(" then parenthesized rules
      else if t.text == "[" then bracketed rules
      else if t.text == "\x7b" then braced rules
      else if t.text == "..." then
        skip
        return .node .ellipsis []
      else refuse
    | _ => refuse

/-- An atom with its trailers. -/
def primary (rules : Rules) (strings : List Text → Option Term) : Parser Term := do
  let operand ← atom rules strings
  trailers rules (← remaining) operand

mutual

/-- Whether a term can be assigned to. -/
def isTarget : Term → Bool
  | .node .name _ | .node .member _ | .node .subscript _ => true
  | .node .tuple parts | .node .list parts => areStarTargets parts
  | _ => false

/-- Whether terms can be assigned to in a row, one of them perhaps starred. -/
def areStarTargets : List Term → Bool
  | [] => true
  | .node .starred [inner] :: rest => isTarget inner && areStarTargets rest
  | part :: rest => isTarget part && areStarTargets rest

end

/-- One target of an assignment or a loop. -/
def starTarget (rules : Rules) : Parser Term := do
  let starred ← takeOperator "*"
  let target ← rules .primary
  if isTarget target then return if starred then .node .starred [target] else target else refuse

/-- The targets of a loop. -/
def starTargets (rules : Rules) : Parser Term := do
  match ← commaList atExpressionEnd (starTarget rules) with
  | ([single], false) => return single
  | (items, _) => return .node .tuple items

end ChangeReview.Declaration.Expression
