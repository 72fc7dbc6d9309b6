import ChangeReview.Signature.Assessment

/-!
# References

Places where the name of a changed symbol occurs. Which symbol a name belongs to is not resolved.
-/

namespace ChangeReview

/-- The syntactic context of a name. -/
inductive ReferenceContext where
  | imported
  | call
  | reference
deriving DecidableEq

namespace ReferenceContext

/-- The name of a context. -/
def toText : ReferenceContext → Text
  | .imported => "import"
  | .call => "call"
  | .reference => "reference"

/-- The context of a given name. -/
def ofText? (t : Text) : Option ReferenceContext :=
  [ReferenceContext.imported, .call, .reference].find? (·.toText == t)

end ReferenceContext

/-- A place where a name occurs. -/
structure Reference where
  file : Text
  line : Int
  symbolName : Text
  context : ReferenceContext
  sourceLine : Text := []
  confidence : Confidence := .low
  evidence : Text := "AST name match; symbol ownership unresolved"

end ChangeReview
