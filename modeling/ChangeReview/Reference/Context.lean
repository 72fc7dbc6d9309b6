import ChangeReview.Reference.Basic
import ChangeReview.Syntax.Place

/-!
# The context of a name

Whether a name stands in an import, is what a call calls, or neither. A receiver is referred to when its
member is called, but it is not itself called.
-/

namespace ChangeReview

/-- The kinds of nodes that import. -/
def importKinds : List Text :=
  Text.list ["import_statement", "import_from_statement", "import_clause", "import_specifier",
    "import_declaration", "import_spec"]

/-- The kinds of nodes that call. -/
def callKinds : List Text := Text.list ["call", "call_expression"]

/-- The field in which a node that selects a member holds the member. -/
def memberField? (kind : Text) : Option Text :=
  if kind == "attribute" then some "attribute"
  else if kind == "member_expression" then some "property"
  else if kind == "selector_expression" then some "field"
  else none

/-- Which of its operands a node passes on unchanged when the program runs. -/
inductive Wrapping where
  | single
  | leading
  | trailing

/-- How a node wraps an operand. -/
def Wrapping.ofKind? (kind : Text) : Option Wrapping :=
  if kind == "non_null_expression" || kind == "parenthesized_expression" then some .single
  else if kind == "as_expression" || kind == "satisfies_expression" then some .leading
  else if kind == "type_assertion" then some .trailing
  else none

/-- The index of the operand that a wrapper passes on. Comments are no operands. -/
def operandIndex? (n : SyntaxNode) : Option Nat :=
  (Wrapping.ofKind? n.kind).bind fun wrapping =>
    let operands := n.children.zipIdx.filter fun (c, _) => c.isNamed && c.kind != "comment"
    match wrapping with
    | .single => match operands with
      | [(_, index)] => some index
      | _ => none
    | .leading => operands.head?.map Prod.snd
    | .trailing => operands.getLast?.map Prod.snd

/-- Whether the node below the steps is what a call calls. -/
def isCalled : List Step → Bool
  | [] => false
  | s :: above =>
    if callKinds.contains s.parent.kind then s.parent.childIndex? "function" == some s.index
    else match operandIndex? s.parent with
      | some index => index == s.index && isCalled above
      | none => match memberField? s.parent.kind with
        | some member => s.field == some member && isCalled above
        | none => false

namespace Place

/-- Whether the place is part of an import. -/
def isImported (p : Place) : Bool := Step.passes importKinds p.above

/-- Whether the place is what a call calls. -/
def isCallTarget (p : Place) : Bool := isCalled p.above

/-- The context of a name at the place. -/
def context (p : Place) : ReferenceContext :=
  if p.isImported then .imported else if p.isCallTarget then .call else .reference

end Place

end ChangeReview
