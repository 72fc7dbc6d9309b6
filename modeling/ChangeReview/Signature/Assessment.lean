import ChangeReview.Text.Basic

/-!
# Assessments of a signature change

What a review says about two signatures: a category with its rule, a verdict on existing calls, and the
evidence and gaps behind the verdict.
-/

namespace ChangeReview

/-- What a change does to existing uses. -/
inductive Verdict where
  | breaking
  | compatible
  | unknown
deriving DecidableEq

/-- The verdict on several changes together: one that breaks decides, and all must be compatible. -/
def Verdict.all (verdicts : List Verdict) : Verdict :=
  if verdicts.contains .breaking then .breaking
  else if verdicts.all (· == .compatible) then .compatible
  else .unknown

/-- How sure an assessment is. -/
inductive Confidence where
  | high
  | medium
  | low
deriving DecidableEq

namespace Confidence

/-- The name of a confidence. -/
def toText : Confidence → Text
  | .high => "high"
  | .medium => "medium"
  | .low => "low"

/-- The confidence of a given name. -/
def ofText? (t : Text) : Option Confidence :=
  [Confidence.high, .medium, .low].find? (·.toText == t)

end Confidence

/-- What kind of change a signature went through. -/
inductive Category where
  | parameterRemoved
  | parameterAdded
  | requiredParameterAdded
  | optionalParameterAdded
  | parameterReordered
  | parameterRenamed
  | parametersChanged
  | parameterKindChanged
  | parameterAnnotationChanged
  | defaultRemoved
  | defaultChanged
  | defaultAdded
  | returnAnnotationChanged
  | returnTypeChanged
  | decoratorChanged
  | typeParametersChanged
  | classSignatureChanged
  | signatureChanged
deriving DecidableEq

namespace Category

/-- The rule a category belongs to. -/
def ruleId : Category → Text
  | .parameterRemoved => "DG101"
  | .parameterAdded | .requiredParameterAdded => "DG102"
  | .parameterReordered => "DG103"
  | .defaultRemoved => "DG104"
  | .defaultChanged => "DG105"
  | .defaultAdded | .optionalParameterAdded => "DG106"
  | .parameterAnnotationChanged => "DG107"
  | .returnAnnotationChanged | .returnTypeChanged => "DG108"
  | .parameterRenamed => "DG109"
  | .parametersChanged | .parameterKindChanged | .decoratorChanged | .typeParametersChanged
  | .classSignatureChanged | .signatureChanged => "DG110"

/-- The identifier of a category. -/
def identifier : Category → Text
  | .parameterRemoved => "parameter_removed"
  | .parameterAdded => "parameter_added"
  | .requiredParameterAdded => "required_parameter_added"
  | .optionalParameterAdded => "optional_parameter_added"
  | .parameterReordered => "parameter_reordered"
  | .parameterRenamed => "parameter_renamed"
  | .parametersChanged => "parameters_changed"
  | .parameterKindChanged => "parameter_kind_changed"
  | .parameterAnnotationChanged => "parameter_annotation_changed"
  | .defaultRemoved => "default_removed"
  | .defaultChanged => "default_changed"
  | .defaultAdded => "default_added"
  | .returnAnnotationChanged => "return_annotation_changed"
  | .returnTypeChanged => "return_type_changed"
  | .decoratorChanged => "decorator_changed"
  | .typeParametersChanged => "type_parameters_changed"
  | .classSignatureChanged => "class_signature_changed"
  | .signatureChanged => "signature_changed"

/-- The label of a category in a report. -/
def label : Category → Text
  | .parameterRemoved => "PARAMETER REMOVED"
  | .parameterAdded => "PARAMETER ADDED"
  | .requiredParameterAdded => "PARAMETER ADDED (REQUIRED)"
  | .optionalParameterAdded => "OPTIONAL PARAMETER ADDED"
  | .parameterReordered => "PARAMETERS REORDERED"
  | .parameterRenamed => "PARAMETER RENAMED"
  | .parametersChanged => "PARAMETERS CHANGED"
  | .parameterKindChanged => "PARAMETER KIND CHANGED"
  | .parameterAnnotationChanged => "PARAMETER ANNOTATION CHANGED"
  | .defaultRemoved => "DEFAULT REMOVED"
  | .defaultChanged => "DEFAULT VALUE CHANGED"
  | .defaultAdded => "DEFAULT ADDED"
  | .returnAnnotationChanged => "RETURN ANNOTATION CHANGED"
  | .returnTypeChanged => "RETURN TYPE CHANGED"
  | .decoratorChanged => "DECORATOR CHANGED"
  | .typeParametersChanged => "TYPE PARAMETERS CHANGED"
  | .classSignatureChanged => "CLASS SIGNATURE CHANGED"
  | .signatureChanged => "SIGNATURE CHANGED"

end Category

/-- What a review says about a changed signature. -/
structure Assessment where
  category : Category
  verdict : Verdict
  confidence : Confidence
  evidence : List Text
  gaps : List Text
deriving DecidableEq

namespace Assessment

/-- The gap of an assessment that several changes went into. -/
def compoundGap : Text :=
  "Compound signature compatibility could not be represented by one bounded rule; review every evidence item and analysis gap"

/-- Whether two assessments say the same apart from evidence and gaps. -/
def agrees (a b : Assessment) : Bool := a.category == b.category && a.verdict == b.verdict

/-- All evidence of several assessments, each item once. -/
def allEvidence (as : List Assessment) : List Text := Text.distinct (as.flatMap (·.evidence))

/-- All gaps of several assessments, each item once. -/
def allGaps (as : List Assessment) : List Text := Text.distinct (as.flatMap (·.gaps))

/-- One assessment of several syntax changes. -/
def combine (first : Assessment) (rest : List Assessment) : Assessment :=
  let evidence := allEvidence (first :: rest)
  let gaps := allGaps (first :: rest)
  if rest.all (agrees · first) then { first with evidence, gaps }
  else
    { category := .signatureChanged
      verdict := Verdict.all ((first :: rest).map (·.verdict))
      confidence := .high
      evidence
      gaps := compoundGap :: gaps }

/-- An assessment of the call shape together with those of other syntax. A break, or a change that no
rule could judge, keeps its category. -/
def merge (primary : Assessment) (syntaxChanges : List Assessment) : Assessment :=
  if syntaxChanges.isEmpty then primary
  else
    let evidence := allEvidence (primary :: syntaxChanges)
    let gaps := allGaps (primary :: syntaxChanges)
    let keeps := primary.verdict == .breaking
      || (primary.category.ruleId == "DG110" && primary.verdict == .unknown)
    if syntaxChanges.all (agrees · primary) || keeps then { primary with evidence, gaps }
    else
      { category := .signatureChanged
        verdict :=
          if (primary :: syntaxChanges).all (·.verdict == .compatible) then .compatible else .unknown
        confidence := .high
        evidence
        gaps := Text.distinct (compoundGap :: gaps) }

end Assessment

end ChangeReview
