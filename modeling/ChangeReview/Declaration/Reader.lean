import ChangeReview.Declaration.Formatted
import ChangeReview.Declaration.Statement

/-!
# Reading a declaration

The grammar's table of rules, closed by a depth that the length of the text bounds, and the reader of
a whole declaration.
-/

namespace ChangeReview.Declaration

/-- One rule in terms of the table. -/
def rule (rules : Rules) (strings : List Text → Option Term) : Rule → Parser Term
  | .starExpressions => Expression.starExpressions rules
  | .namedExpression => Expression.namedExpression rules
  | .expression => Expression.expression rules
  | .disjunction => Expression.disjunction rules
  | .inversion => Expression.inversion rules
  | .bitwiseOr => Expression.bitwiseOr rules
  | .factor => Expression.factor rules
  | .primary => Expression.primary rules strings
  | .yielding => Expression.yielding rules
  | .starTargets => Expression.starTargets rules
  | .starTarget => Expression.starTarget rules
  | .statement => Statement.statement rules
  | .block => Statement.block rules
  | .pattern => Pattern.pattern rules strings
  | .patterns => Pattern.patterns rules

/-- The table of rules to a depth of nesting. Expressions inside strings are read from their own text in
parentheses. -/
def table (named? : Text → Option CodePoint) : (depth : Nat) → Rules
  | 0 => fun _ => Parser.refuse
  | depth + 1 => fun r =>
    let expression? (t : Text) : Option Term := do
      let tokens ← Token.scan? ("(" ++ t ++ (")\n" : Text))
      return (← table named? depth .starExpressions tokens).1
    rule (table named? depth) (Formatted.value? expression? named?) r

/-- A depth that no nesting in a text of some length exceeds. -/
def depthFor (length : Nat) : Nat := 32 * (length + 2)

/-- The declaration that a source consists of. The source ends with a line feed. -/
def read? (named? : Text → Option CodePoint) (source : Text) : Option Declaration := do
  let tokens ← Token.scan? source
  let rules := table named? (depthFor source.length)
  match ← Statement.declaration rules tokens with
  | (d, []) => return d
  | _ => none

end ChangeReview.Declaration
