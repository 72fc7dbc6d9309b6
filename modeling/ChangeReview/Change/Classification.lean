import ChangeReview.Change.Basic
import ChangeReview.Failure
import ChangeReview.Symbol.Basic

/-!
# Classifying matches

A match of symbols becomes a change, or nothing if the symbol stayed as it was.
-/

namespace ChangeReview.Change

/-- Compares two signatures; nothing if they are equivalent. -/
abbrev Comparator := Text → Text → Except Failure (Option Assessment)

/-- The change of a symbol that may have moved. -/
def ofMove (fileFrom : Text) (new : Symbol) : Change :=
  { kind := .moved
    name := new.name
    signature := some new.signature
    fileFrom := some fileFrom
    line := some new.startLine
    ruleId := some "DG202"
    categoryId := some "possible_symbol_move"
    category := some "POSSIBLE SYMBOL MOVE"
    confidence := some .medium
    evidence := ["Matching symbol name/signature or body exists at a different file path"]
    gaps := ["Move identity and import/export ownership were not resolved"] }

/-- The change of a symbol that came into being. -/
def ofAddition (new : Symbol) : Change :=
  { kind := if new.kind == .classOf then .classAdded else .functionAdded
    name := new.name
    signature := some new.signature
    line := some new.startLine
    confidence := some .high
    evidence := ["Symbol declaration exists only in the after snapshot"] }

/-- The change of a symbol that is gone. -/
def ofRemoval (old : Symbol) : Change :=
  { kind := if old.kind == .classOf then .classRemoved else .functionRemoved
    name := old.name
    signature := some old.signature
    line := some old.startLine
    ruleId := some "DG201"
    categoryId := some "symbol_removed"
    category := some "SYMBOL REMOVED"
    confidence := some .high
    evidence := ["Symbol declaration exists only in the before snapshot"]
    gaps := ["Public/export status and dependent ownership were not resolved"] }

/-- The change of a signature. -/
def ofAssessment (old new : Symbol) (a : Assessment) : Change :=
  { kind := .signatureChanged
    name := new.name
    beforeSignature := some old.signature
    afterSignature := some new.signature
    line := some new.startLine
    verdict := a.verdict
    ruleId := some a.category.ruleId
    categoryId := some a.category.identifier
    category := some a.category.label
    confidence := some a.confidence
    evidence := a.evidence
    gaps := a.gaps }

/-- The change of a body. -/
def ofBody (new : Symbol) : Change :=
  { kind := if new.kind == .classOf then .classModified else .functionModified
    name := new.name
    signature := some new.signature
    line := some new.startLine
    confidence := some .high
    evidence := ["Symbol body syntax changed while its signature remained structurally equivalent"] }

/-- The change of a symbol that exists on both sides. The signature is compared whether the body changed
or not. -/
def ofPair (compare : Comparator) (old new : Symbol) : Except Failure (Option Change) := do
  let assessed ← if old.signature == new.signature then pure none else compare old.signature new.signature
  match assessed with
  | some a => return some (ofAssessment old new a)
  | none => return if old.bodyHash == new.bodyHash then none else some (ofBody new)

/-- The change that a match stands for. A match without any side is refused. -/
def ofMatch (compare : Comparator) (m : Symbol.Match) : Except Failure (Option Change) :=
  match m.old, m.new with
  | some old, some new =>
    match m.fileFrom with
    | some file => return some (ofMove file new)
    | none => ofPair compare old new
  | none, some new => return some (ofAddition new)
  | some old, none => return some (ofRemoval old)
  | none, none => throw .emptyMatch

/-- The changes of several matches. -/
def classify (compare : Comparator) (ms : List Symbol.Match) : Except Failure (List Change) := do
  return (← ms.mapM (ofMatch compare)).filterMap id

end ChangeReview.Change
