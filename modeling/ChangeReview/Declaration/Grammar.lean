import ChangeReview.Declaration.Term
import ChangeReview.Declaration.Token

/-!
# The grammar's rules

A rule reads a term from the front of a list of tokens, or refuses it. Rules refer to each other
through a table, which the reader closes at the end; so each rule is a function of its own.
-/

namespace ChangeReview.Declaration

/-- Reads something from the front of the tokens, or refuses them. -/
abbrev Parser := StateT (List Token) Option

/-- The rules that others refer to. -/
inductive Rule where
  | starExpressions
  | namedExpression
  | expression
  | disjunction
  | inversion
  | bitwiseOr
  | factor
  | primary
  | yielding
  | starTargets
  | starTarget
  | statement
  | block
  | pattern
  | patterns
deriving DecidableEq

/-- What each rule reads. -/
abbrev Rules := Rule → Parser Term

namespace Parser

/-- Reads nothing and refuses. -/
def refuse {α : Type} : Parser α := fun _ => none

/-- The next token, left in place. -/
def peek : Parser (Option Token) := fun ts => some (ts.head?, ts)

/-- Whether the next token is this operator. -/
def atOperator (text : Text) : Parser Bool := fun ts =>
  some (match ts with
    | t :: _ => t.kind == .operator && t.text == text
    | [] => false, ts)

/-- Whether the next token is this keyword. -/
def atKeyword (text : Text) : Parser Bool := fun ts =>
  some (match ts with
    | t :: _ => t.kind == .keyword && t.text == text
    | [] => false, ts)

/-- Whether the next token is of a kind. -/
def atKind (kind : TokenKind) : Parser Bool := fun ts =>
  some (match ts with
    | t :: _ => t.kind == kind
    | [] => false, ts)

/-- The text of a token of a kind. -/
def ofKind (kind : TokenKind) : Parser Text := fun ts =>
  match ts with
  | t :: rest => if t.kind == kind then some (t.text, rest) else none
  | [] => none

/-- Reads one token, whatever it is. -/
def skip : Parser Unit := fun ts =>
  match ts with
  | _ :: rest => some ((), rest)
  | [] => none

/-- Reads an operator if it comes next, and tells whether it did. -/
def takeOperator (text : Text) : Parser Bool := do
  if ← atOperator text then
    skip
    return true
  else return false

/-- Reads a keyword if it comes next, and tells whether it did. -/
def takeKeyword (text : Text) : Parser Bool := do
  if ← atKeyword text then
    skip
    return true
  else return false

/-- Reads an operator. -/
def operator (text : Text) : Parser Unit := do
  if ← takeOperator text then return () else refuse

/-- Reads a keyword. -/
def keyword (text : Text) : Parser Unit := do
  if ← takeKeyword text then return () else refuse

/-- Reads a name. -/
def identifier : Parser Text := ofKind .name

/-- Whether a name and then an operator come next. -/
def atNameThen (text : Text) : Parser Bool := fun ts =>
  some (match ts with
    | a :: b :: _ => a.kind == .name && b.kind == .operator && b.text == text
    | _ => false, ts)

/-- The number of tokens left. -/
def remaining : Parser Nat := fun ts => some (ts.length, ts)

/-- Reads with `item` while `go` holds, at most `steps` times. -/
def whileSteps {α : Type} (go : Parser Bool) (item : Parser α) : (steps : Nat) → Parser (List α)
  | 0 => return []
  | steps + 1 => do
    if ← go then
      let first ← item
      return first :: (← whileSteps go item steps)
    else return []

/-- Reads with `item` while `go` holds. -/
def whileAt {α : Type} (go : Parser Bool) (item : Parser α) : Parser (List α) := do
  whileSteps go item (← remaining)

/-- Items divided by commas, at most `steps` of them; the flag tells whether a comma comes last. A
comma is read only if it is followed by an item, or by a token at which `stop` holds. -/
def commaSteps {α : Type} (stop : Parser Bool) (item : Parser α) :
    (steps : Nat) → Parser (List α × Bool)
  | 0 => refuse
  | steps + 1 => do
    let first ← item
    if ← takeOperator "," then
      if ← stop then return ([first], true)
      else
        let (rest, trailing) ← commaSteps stop item steps
        return (first :: rest, trailing)
    else return ([first], false)

/-- One or more items divided by commas. -/
def commaList {α : Type} (stop : Parser Bool) (item : Parser α) : Parser (List α × Bool) := do
  commaSteps stop item ((← remaining) + 1)

/-- Whether one of these operators comes next. -/
def atAny (texts : List Text) : Parser Bool := fun ts =>
  some (match ts with
    | t :: _ => t.kind == .operator && texts.contains t.text
    | [] => false, ts)

end Parser

end ChangeReview.Declaration
