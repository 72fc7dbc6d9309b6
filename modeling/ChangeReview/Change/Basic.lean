import ChangeReview.Json.Basic
import ChangeReview.Patch.Basic
import ChangeReview.Signature.Assessment

/-!
# Changes

What happened to the symbols of a file, and to the file.
-/

namespace ChangeReview

/-- What happened to a symbol. -/
inductive ChangeKind where
  | functionAdded
  | functionRemoved
  | functionModified
  | classAdded
  | classRemoved
  | classModified
  | signatureChanged
  | moved
deriving DecidableEq

namespace ChangeKind

/-- The name of a kind of change. -/
def toText : ChangeKind → Text
  | .functionAdded => "function_added"
  | .functionRemoved => "function_removed"
  | .functionModified => "function_modified"
  | .classAdded => "class_added"
  | .classRemoved => "class_removed"
  | .classModified => "class_modified"
  | .signatureChanged => "signature_changed"
  | .moved => "moved"

/-- The kind of change of a given name. -/
def ofText? (t : Text) : Option ChangeKind :=
  [ChangeKind.functionAdded, .functionRemoved, .functionModified, .classAdded, .classRemoved,
    .classModified, .signatureChanged, .moved].find? (·.toText == t)

/-- A symbol came into being. -/
def isAddition : ChangeKind → Bool
  | .functionAdded | .classAdded => true
  | _ => false

/-- A symbol is gone. -/
def isRemoval : ChangeKind → Bool
  | .functionRemoved | .classRemoved => true
  | _ => false

/-- The body of a symbol changed. -/
def isModification : ChangeKind → Bool
  | .functionModified | .classModified => true
  | _ => false

end ChangeKind

/-- A change of one symbol. -/
structure Change where
  kind : ChangeKind
  name : Text
  signature : Option Text := none
  beforeSignature : Option Text := none
  afterSignature : Option Text := none
  fileFrom : Option Text := none
  line : Option Int := none
  verdict : Verdict := .unknown
  ruleId : Option Text := none
  categoryId : Option Text := none
  category : Option Text := none
  confidence : Option Confidence := none
  evidence : List Text := []
  gaps : List Text := []
  detail : Option Json := none

/-- Whether a change breaks existing uses for sure. -/
def Change.isBreaking (c : Change) : Bool := c.verdict == .breaking

/-- A changed file with the changes of its symbols. -/
structure FileChange where
  path : Text
  language : Option Text := none
  changeType : ChangeType
  isGenerated : Bool := false
  isBinary : Bool := false
  hasParseError : Bool := false
  isUnsupported : Bool := false
  changes : List Change := []

end ChangeReview
