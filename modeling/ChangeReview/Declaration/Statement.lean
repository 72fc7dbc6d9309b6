import ChangeReview.Declaration.Pattern

/-!
# Statements and declarations

The statements of a body, and the declarations of functions and classes. A declaration is kept as a
structure of its own; inside a body it becomes a term.
-/

namespace ChangeReview

namespace Declaration

/-- A declared function. -/
structure FunctionForm where
  isAsync : Bool
  name : Text
  parameters : ParameterList
  returns : Option Term
  decorators : List Term
  body : Term

/-- A declared class. -/
structure ClassForm where
  name : Text
  bases : List Term
  keywords : List Term
  decorators : List Term
  body : Term

end Declaration

/-- A declaration of a function or a class. -/
inductive Declaration where
  | function (form : Declaration.FunctionForm)
  | classOf (form : Declaration.ClassForm)

namespace Declaration

/-- A declaration as a term; equal terms are equal declarations up to layout. -/
def toTerm : Declaration → Term
  | .function f =>
    .node (if f.isAsync then .asyncFunctionDefinition else .functionDefinition)
      [.atom f.name, f.parameters.toTerm, .option f.returns, .sequence f.decorators, f.body]
  | .classOf c =>
    .node .classDefinition
      [.atom c.name, .sequence c.bases, .sequence c.keywords, .sequence c.decorators, c.body]

namespace Statement

open ChangeReview.Declaration.Parser Expression

/-- The head of a function and its body. -/
def function (rules : Rules) (decorators : List Term) (isAsync : Bool) : Parser Declaration := do
  keyword "def"
  let name ← identifier
  operator "("
  let parameters ← ParameterList.read rules ⟨")", true⟩
  operator ")"
  let returns ← if ← takeOperator "->" then (do return some (← rules .expression)) else pure none
  operator ":"
  let body ← rules .block
  return .function { isAsync, name, parameters, returns, decorators, body }

/-- The head of a class and its body. -/
def classOf (rules : Rules) (decorators : List Term) : Parser Declaration := do
  keyword "class"
  let name ← identifier
  let a ←
    if ← takeOperator "(" then (do
      let a ← arguments rules ((← remaining) + 1) .positional {}
      operator ")"
      return a)
    else pure {}
  operator ":"
  let body ← rules .block
  return .classOf { name, bases := a.positional, keywords := a.keywords, decorators, body }

/-- A decorator line. -/
def decorator (rules : Rules) : Parser Term := do
  operator "@"
  let value ← rules .namedExpression
  let _ ← ofKind .newline
  return value

/-- A declaration with its decorators. -/
def declaration (rules : Rules) : Parser Declaration := do
  let decorators ← whileAt (atOperator "@") (decorator rules)
  if ← takeKeyword "async" then function rules decorators true
  else if ← atKeyword "def" then function rules decorators false
  else classOf rules decorators

/-- A value on the right of an assignment, or alone. -/
def value (rules : Rules) : Parser Term := do
  if ← atKeyword "yield" then rules .yielding else rules .starExpressions

/-- A target that can carry an annotation or be updated in place. -/
def isSingleTarget : Term → Bool
  | .node .name _ | .node .member _ | .node .subscript _ => true
  | _ => false

/-- A target or a row of targets, one of them perhaps starred. -/
def isStarTarget : Term → Bool
  | .node .starred [inner] => isTarget inner
  | t => isTarget t

mutual

/-- A target that can be deleted. -/
def isDeletable : Term → Bool
  | .node .name _ | .node .member _ | .node .subscript _ => true
  | .node .tuple parts | .node .list parts => areDeletable parts
  | _ => false

/-- Targets that can be deleted. -/
def areDeletable : List Term → Bool
  | [] => true
  | part :: rest => isDeletable part && areDeletable rest

end

/-- The operators that update in place. -/
def updates : List (Text × Form) :=
  [("+=", .add), ("-=", .subtract), ("*=", .multiply), ("@=", .matrixMultiply), ("/=", .divide),
    ("%=", .modulo), ("&=", .bitAnd), ("|=", .bitOr), ("^=", .bitXor), ("<<=", .shiftLeft),
    (">>=", .shiftRight), ("**=", .power), ("//=", .floorDivide)]

/-- An assignment in any of its shapes, or an expression alone. -/
def assignmentOrExpression (rules : Rules) : Parser Term := do
  let startsWithName ← atKind .name
  let yields ← atKeyword "yield"
  let first ← value rules
  match (← peek).bind fun t => if t.kind == .operator then updates.lookup t.text else none with
  | some form =>
    if yields || !isSingleTarget first then refuse
    else
      skip
      return .node .augmentedAssignment [first, .node form [], ← value rules]
  | none =>
    if ← atOperator ":" then
      if yields || !isSingleTarget first then refuse
      else
        skip
        let hint ← rules .expression
        let assigned ← if ← takeOperator "=" then (do return some (← value rules)) else pure none
        let isSimple := startsWithName && (match first with | .node .name _ => true | _ => false)
        return .node .annotatedAssignment [first, hint, .option assigned, .flag isSimple]
    else
      let more ← whileAt (atOperator "=") (do skip; let y ← atKeyword "yield"; return (y, ← value rules))
      match ((yields, first) :: more).reverse with
      | [] | [_] => return .node .expressionStatement [first]
      | (_, last) :: targets =>
        if targets.all fun (y, t) => !y && isStarTarget t then
          return .node .assignment [.sequence (targets.reverse.map (·.2)), last]
        else refuse

/-- Names divided by commas. -/
def names : Parser (List Term) := do
  return (← commaList (pure false) (do return .atom (← identifier))).1

/-- A name bound by an import. -/
def renamed (path : Parser Text) : Parser Term := do
  let name ← path
  if ← takeKeyword "as" then return .node .importAlias [.atom name, .atom (← identifier)]
  else return .node .importAlias [.atom name, .absent]

/-- A dotted module name. -/
def modulePath : Parser Text := do
  let first ← identifier
  let more ← whileAt (atOperator ".") (do skip; identifier)
  return Text.join "." (first :: more)

/-- The points before a module name. -/
def importLevel : Parser Nat := do
  let points ← whileAt (atAny [".", "..."]) (do
    if ← takeOperator "..." then return 3 else (do skip; return 1))
  return total points

/-- The names that are imported from a module. -/
def importedNames : Parser (List Term) := do
  if ← takeOperator "*" then return [.node .importAlias [.atom "*", .absent]]
  else if ← takeOperator "(" then
    let (items, _) ← commaList (atOperator ")") (renamed identifier)
    operator ")"
    return items
  else return (← commaList (pure false) (renamed identifier)).1

/-- A simple statement. -/
def simple (rules : Rules) : Parser Term := do
  if ← takeKeyword "return" then
    if ← atExpressionEnd then return .node .returned [.absent]
    else return .node .returned [← rules .starExpressions]
  else if ← takeKeyword "import" then
    return .node .imported (← commaList (pure false) (renamed modulePath)).1
  else if ← takeKeyword "from" then
    let level ← importLevel
    let path ← if ← atKind .name then (do return Term.atom (← modulePath)) else pure .absent
    if level == 0 && path == .absent then refuse
    else
      keyword "import"
      return .node .importedFrom [path, .sequence (← importedNames), .atom (Text.ofNat level)]
  else if ← takeKeyword "raise" then
    if ← atExpressionEnd then return .node .raised [.absent, .absent]
    else
      let raised ← rules .expression
      let cause ← if ← takeKeyword "from" then rules .expression else pure .absent
      return .node .raised [raised, cause]
  else if ← takeKeyword "pass" then return .node .passed []
  else if ← takeKeyword "del" then
    let stop : Parser Bool := do return (← atOperator ";") || (← atKind .newline)
    let (targets, _) ← commaList stop (rules .primary)
    if areDeletable targets then return .node .deleted targets else refuse
  else if ← takeKeyword "assert" then
    let condition ← rules .expression
    let message ← if ← takeOperator "," then rules .expression else pure .absent
    return .node .asserted [condition, message]
  else if ← takeKeyword "break" then return .node .broken []
  else if ← takeKeyword "continue" then return .node .continued []
  else if ← takeKeyword "global" then return .node .globalNames (← names)
  else if ← takeKeyword "nonlocal" then return .node .nonlocalNames (← names)
  else assignmentOrExpression rules

/-- Simple statements up to the end of the line, divided by semicolons. -/
def simpleSteps (rules : Rules) : (steps : Nat) → Parser (List Term)
  | 0 => refuse
  | steps + 1 => do
    let first ← simple rules
    if ← takeOperator ";" then
      if ← atKind .newline then
        skip
        return [first]
      else return first :: (← simpleSteps rules steps)
    else
      let _ ← ofKind .newline
      return [first]

/-- The simple statements of one line. -/
def simpleLine (rules : Rules) : Parser (List Term) := do
  simpleSteps rules ((← remaining) + 1)

/-- The block after `else`, if there is one. -/
def elseBlock (rules : Rules) : Parser Term := do
  if ← takeKeyword "else" then
    operator ":"
    rules .block
  else return .sequence []

/-- The branches of a conditional statement after its first keyword. -/
def ifSteps (rules : Rules) : (steps : Nat) → Parser Term
  | 0 => refuse
  | steps + 1 => do
    let condition ← rules .namedExpression
    operator ":"
    let body ← rules .block
    let otherwise ←
      if ← takeKeyword "elif" then (do return .sequence [← ifSteps rules steps]) else elseBlock rules
    return .node .ifStatement [condition, body, otherwise]

/-- One item of a `with` statement. -/
def withItem (rules : Rules) : Parser Term := do
  let context ← rules .expression
  if ← takeKeyword "as" then
    let target ← rules .starTarget
    if ← atAny [",", ")", ":"] then return .node .withItem [context, target] else refuse
  else return .node .withItem [context, .absent]

/-- The items of a `with` statement, in parentheses or not, and the colon after them. -/
def withItems (rules : Rules) : Parser (List Term) :=
  (do
    operator "("
    let (items, _) ← commaList (atOperator ")") (withItem rules)
    operator ")"
    operator ":"
    return items)
  <|> (do
    let (items, _) ← commaList (pure false) (withItem rules)
    operator ":"
    return items)

/-- A `with` statement. -/
def withStatement (rules : Rules) (isAsync : Bool) : Parser Term := do
  keyword "with"
  let items ← withItems rules
  let body ← rules .block
  return .node (if isAsync then .asyncWithBlock else .withBlock) [.sequence items, body]

/-- A loop over values. -/
def forStatement (rules : Rules) (isAsync : Bool) : Parser Term := do
  keyword "for"
  let target ← rules .starTargets
  keyword "in"
  let iterated ← rules .starExpressions
  operator ":"
  let body ← rules .block
  let otherwise ← elseBlock rules
  return .node (if isAsync then .asyncForLoop else .forLoop) [target, iterated, body, otherwise]

/-- A handler of a `try` statement; all of them are starred, or none is. -/
def handler (rules : Rules) (starred : Bool) : Parser Term := do
  keyword "except"
  if starred then operator "*"
  if !starred && (← atOperator ":") then
    skip
    return .node .handler [.absent, .absent, ← rules .block]
  else
    let caught ← rules .expression
    let name ← if ← takeKeyword "as" then (do return Term.atom (← identifier)) else pure .absent
    operator ":"
    return .node .handler [caught, name, ← rules .block]

/-- Whether a starred handler comes next. -/
def atStarHandler : Parser Bool := fun ts =>
  some (match ts with
    | a :: b :: _ => a.kind == .keyword && a.text == "except" && b.kind == .operator && b.text == "*"
    | _ => false, ts)

/-- A `try` statement: handlers, or a final block, or both. -/
def tryStatement (rules : Rules) : Parser Term := do
  keyword "try"
  operator ":"
  let body ← rules .block
  let starred ← atStarHandler
  let handlers ← whileAt (atKeyword "except") (handler rules starred)
  let otherwise ← if handlers.isEmpty then pure (.sequence []) else elseBlock rules
  let hasFinal ← takeKeyword "finally"
  let final ←
    if hasFinal then (do
      operator ":"
      rules .block)
    else pure (.sequence [])
  let form : Form := if starred then .tryStarBlock else .tryBlock
  if handlers.isEmpty && !hasFinal then refuse
  else return .node form [body, .sequence handlers, otherwise, final]

/-- Reads a name with a meaning of its own in this place. -/
def word (text : Text) : Parser Unit := do
  if (← identifier) == text then return () else refuse

/-- A case of a `match` statement. -/
def caseBlock (rules : Rules) : Parser Term := do
  word "case"
  let pattern ← rules .patterns
  let guard ← if ← takeKeyword "if" then rules .namedExpression else pure .absent
  operator ":"
  return .node .caseBlock [pattern, guard, ← rules .block]

/-- A `match` statement. -/
def matchStatement (rules : Rules) : Parser Term := do
  word "match"
  let starred ← atOperator "*"
  let subject ← do
    match ← commaList (atOperator ":") (starNamedExpression rules) with
    | ([single], false) => if starred then refuse else pure single
    | (items, _) => pure (Term.node .tuple items)
  operator ":"
  let _ ← ofKind .newline
  let _ ← ofKind .indent
  let first ← caseBlock rules
  let more ← whileAt (do return !(← atKind .dedent)) (caseBlock rules)
  let _ ← ofKind .dedent
  return .node .matchStatement (subject :: first :: more)

/-- A compound statement. -/
def compound? (rules : Rules) : Parser (Option Term) := do
  match ← peek with
  | none => return none
  | some t =>
    if t.kind == .operator && t.text == "@" then return some (← declaration rules).toTerm
    else if t.kind == .name && t.text == "match" then
      (do return some (← matchStatement rules)) <|> return none
    else if t.kind != .keyword then return none
    else if t.text == "def" || t.text == "class" then return some (← declaration rules).toTerm
    else if t.text == "if" then
      skip
      return some (← ifSteps rules ((← remaining) + 1))
    else if t.text == "with" then return some (← withStatement rules false)
    else if t.text == "for" then return some (← forStatement rules false)
    else if t.text == "try" then return some (← tryStatement rules)
    else if t.text == "while" then
      skip
      let condition ← rules .namedExpression
      operator ":"
      let body ← rules .block
      return some (.node .whileLoop [condition, body, ← elseBlock rules])
    else if t.text == "async" then
      skip
      if ← atKeyword "def" then return some (← function rules [] true).toTerm
      else if ← atKeyword "with" then return some (← withStatement rules true)
      else return some (← forStatement rules true)
    else return none

/-- A statement, or the simple statements of one line. -/
def statement (rules : Rules) : Parser Term := do
  match ← compound? rules with
  | some term => return .sequence [term]
  | none => return .sequence (← simpleLine rules)

/-- The statements in a sequence. -/
def inside : Term → List Term
  | .node .sequence parts => parts
  | term => [term]

/-- A block: indented statements, or simple statements on the same line. -/
def block (rules : Rules) : Parser Term := do
  if ← atKind .newline then
    skip
    let _ ← ofKind .indent
    let first ← rules .statement
    let more ← whileAt (do return !(← atKind .dedent)) (rules .statement)
    let _ ← ofKind .dedent
    return .sequence ((first :: more).flatMap inside)
  else return .sequence (← simpleLine rules)

end Statement

end Declaration

end ChangeReview
