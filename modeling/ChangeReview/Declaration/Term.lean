import ChangeReview.Text.Basic

/-!
# Parsed terms

The expressions and statements of a Python declaration as labelled trees. Layout, parentheses and the
spelling of literals are gone, so two sources with equal terms have the same structure.
-/

namespace ChangeReview.Declaration

/-- The form of a term. -/
inductive Form where
  -- parts
  | absent | sequence | trueFlag | falseFlag
  -- constants
  | noneValue | trueValue | falseValue | ellipsis | integer | float | imaginary | string
  | markedString | bytes | joined | formatted
  -- operands
  | name | tuple | list | set | dict | generator | listComprehension | setComprehension
  | dictComprehension | comprehension | lambda | argument | arguments
  | member | subscript | slice | call | keyword | starred | awaited
  -- operations
  | orOp | andOp | notOp | comparison | equal | notEqual | less | lessEqual | greater | greaterEqual
  | isOp | isNotOp | inOp | notInOp | bitOr | bitXor | bitAnd | shiftLeft | shiftRight | add | subtract
  | multiply | divide | floorDivide | modulo | matrixMultiply | power | negate | plus | invert
  | conditional | assigned | yielded | yieldedFrom
  -- statements
  | expressionStatement | assignment | annotatedAssignment | augmentedAssignment | returned | raised
  | globalNames | nonlocalNames | deleted | asserted | passed | broken | continued | imported
  | importedFrom | importAlias | ifStatement | whileLoop | forLoop | asyncForLoop | withBlock
  | asyncWithBlock | withItem | tryBlock | tryStarBlock | handler | matchStatement | caseBlock
  | functionDefinition | asyncFunctionDefinition | classDefinition
  -- patterns
  | valuePattern | singletonPattern | sequencePattern | mappingPattern | classPattern | starPattern
  | capturePattern | orPattern
deriving DecidableEq

/-- A parsed term. -/
inductive Term where
  /-- A name, or the value of a literal. -/
  | atom (text : Text)
  /-- A form with its parts. -/
  | node (form : Form) (parts : List Term)

namespace Term

instance : Inhabited Term := ⟨.atom []⟩

mutual

/-- Equality of terms is decidable. -/
def decEq : (a b : Term) → Decidable (a = b)
  | .atom s, .atom t =>
    if h : s = t then isTrue (h ▸ rfl) else isFalse fun e => by cases e; exact h rfl
  | .atom _, .node _ _ => isFalse Term.noConfusion
  | .node _ _, .atom _ => isFalse Term.noConfusion
  | .node f ps, .node g qs =>
    if h : f = g then
      match decEqList ps qs with
      | isTrue h' => isTrue (h ▸ h' ▸ rfl)
      | isFalse h' => isFalse fun e => by cases e; exact h' rfl
    else isFalse fun e => by cases e; exact h rfl

/-- Equality of lists of terms is decidable. -/
def decEqList : (as bs : List Term) → Decidable (as = bs)
  | [], [] => isTrue rfl
  | [], _ :: _ => isFalse (List.cons_ne_nil _ _ ∘ Eq.symm)
  | _ :: _, [] => isFalse (List.cons_ne_nil _ _)
  | a :: as, b :: bs =>
    match decEq a b, decEqList as bs with
    | isTrue h, isTrue h' => isTrue (h ▸ h' ▸ rfl)
    | isFalse h, _ => isFalse fun e => by cases e; exact h rfl
    | _, isFalse h => isFalse fun e => by cases e; exact h rfl

end

instance : DecidableEq Term := decEq

/-- A part that is not there. -/
def absent : Term := .node .absent []

/-- A part that may be there. -/
def option (part : Option Term) : Term := part.getD absent

/-- Parts in a row. -/
def sequence (parts : List Term) : Term := .node .sequence parts

/-- A name. -/
def name (text : Text) : Term := .node .name [.atom text]

/-- A truth value among the parts. -/
def flag (value : Bool) : Term := .node (if value then .trueFlag else .falseFlag) []

end Term

end ChangeReview.Declaration
