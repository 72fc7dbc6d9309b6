import ChangeReview.Analysis.OfPatch
import ChangeReview.Finding
import ChangeReview.Reference.Search
import ChangeReview.Repository.Diff
import ChangeReview.Review.Request

/-!
# Reviews

A review takes the diff of its subject, analyses it, and searches for references to the names of its
findings. A review that fails is known by the range it had settled on until then.
-/

namespace ChangeReview.Review

/-- An action whose failure carries the range of the review. -/
abbrev Labelled := ExceptT (Text × Failure) (StateM Session)

/-- An action of a review that is known by a range. -/
def under {α : Type} (label : Text) (act : Action α) : Labelled α := ExceptT.adapt (label, ·) act

/-- The diff that is reviewed, and where the files of both its sides are. -/
structure Material where
  label : Text
  diff : Text
  contents : Analysis.Contents
  /-- The snapshot in which references are searched. -/
  snapshot : Text

/-- The diff of a range in a repository. -/
def rangeMaterial (repository range : Text) : Labelled Material := do
  let label ← under range (Repository.resolveRange range)
  return {
    label
    diff := ← under label (Repository.diff repository label)
    contents := fun ref => (Snapshot.commit ref).content repository
    snapshot := (RefRange.ofText label).new }

/-- The diff of the index of a repository. -/
def stagedMaterial (repository : Text) : Labelled Material := do
  return {
    label := "HEAD..:index"
    diff := ← under "HEAD" (Repository.stagedDiff repository)
    contents := fun ref =>
      (if ref == ":index" then Snapshot.index else Snapshot.commit ref).content repository
    snapshot := ":index" }

/-- The diff of the working tree of a repository from where it parted from a revision. -/
def worktreeMaterial (repository ref : Text) : Labelled Material := under "HEAD" do
  if (← Repository.commit? ref).isNone then throw (.invalidBase ref)
  match ← Repository.mergeBase? ref "HEAD" with
  | none => throw (.noMergeBase ref)
  | some base =>
    return {
      label := base ++ "..:worktree"
      diff := ← Repository.worktreeDiff repository base
      contents := fun ref => (Snapshot.ofText ref).content repository
      snapshot := ":worktree" }

/-- The diff of a subject. -/
def Subject.material (s : Subject) (repository : Text) : Labelled Material :=
  match s with
  | .range r => rangeMaterial repository r
  | .staged => stagedMaterial repository
  | .worktree base => worktreeMaterial repository base

/-- What a review comes to. -/
inductive Outcome where
  /-- The diff is empty. -/
  | unchanged
  | reviewed (analysis : Analysis) (findings : List Finding)

/-- The review of a diff. -/
def Material.review (m : Material) (repository : Text) (searchesReferences : Bool) : Action Outcome := do
  if m.diff.isBlank then return .unchanged
  let analysis ← Analysis.ofPatch m.diff m.label (some m.contents)
  let findings := Finding.ofFiles analysis.files []
  let names := Text.distinct (findings.map (·.change.name))
  if !searchesReferences || names.isEmpty then return .reviewed analysis findings
  let found ← ReferenceSearch.run repository names m.snapshot
  let analysis := { analysis with warnings := analysis.warnings ++ found.warnings }
  return .reviewed analysis (Finding.ofFiles analysis.files found.references)

/-- The review of a subject, and the range it is known by. -/
def Subject.review (s : Subject) (repository : Text) (searchesReferences : Bool) :
    Labelled (Text × Outcome) := do
  let repository ← under s.label (Repository.root repository)
  let material ← s.material repository
  return (material.label, ← under material.label (material.review repository searchesReferences))

end ChangeReview.Review
