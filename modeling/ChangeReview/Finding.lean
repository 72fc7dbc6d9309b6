import ChangeReview.Change.Basic
import ChangeReview.Reference.Basic

/-!
# Findings

The changes that are worth a reviewer's attention because they can affect callers, with the places where
the changed names occur.
-/

namespace ChangeReview

/-- A text that is there and not empty. -/
def isPresent (t : Option Text) : Bool := (t.map fun s => !s.isEmpty).getD false

namespace Change

/-- Whether a change can affect callers: a changed signature, a break, a removal or a move. -/
def isHighSignal (c : Change) : Bool :=
  (isPresent c.beforeSignature && isPresent c.afterSignature) || c.isBreaking || c.kind.isRemoval
    || c.kind == .moved

/-- The label under which a change is reported. -/
def reportCategory (c : Change) : Text :=
  if c.kind.isRemoval then "SYMBOL REMOVED"
  else match c.category.filter (!·.isEmpty) with
    | some category => category
    | none => if c.kind == .moved then "POSSIBLE SYMBOL MOVE" else "CHANGED"

end Change

/-- A change that is worth attention. -/
structure Finding where
  file : FileChange
  change : Change
  category : Text
  production : List Reference
  tests : List Reference

namespace Finding

/-- The names of all changed symbols. -/
def changedNames (files : List FileChange) : List Text := files.flatMap fun f => f.changes.map (·.name)

/-- Whether some change is worth attention. -/
def hasHighSignal (files : List FileChange) : Bool := files.any fun f => f.changes.any (·.isHighSignal)

/-- The findings of a review, with the references to each changed name. -/
def ofFiles (files : List FileChange) (references : List Reference) : List Finding :=
  files.flatMap fun file => (file.changes.filter (·.isHighSignal)).map fun change =>
    let named := references.filter (·.symbolName == change.name)
    { file, change
      category := change.reportCategory
      production := named.filter fun r => !Path.isTest r.file
      tests := named.filter fun r => Path.isTest r.file }

end Finding

end ChangeReview
