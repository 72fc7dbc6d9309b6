import ChangeReview.Analysis.OfPatch
import ChangeReview.Report.SummaryText
import ChangeReview.Repository.Diff
import ChangeReview.Repository.Snapshot
import ChangeReview.Review.Printed

/-!
# Printed summaries

Runs an analysis and prints its summary.
-/

namespace ChangeReview.Summary

/-- What a summary looks at. -/
inductive Source where
  /-- A diff that is given as text. -/
  | given (diff : Text)
  | range (repository range : Text)
  | worktree (repository : Text)

/-- The form of a summary: a document, or a text of some length. -/
inductive Format where
  | json
  | text (tier : Report.Tier)

/-- The diff of a source, the range it is known by, and the files of both its sides. -/
def Source.material : Source → Action (Text × Text × Option Analysis.Contents)
  | .given diff => return ("stdin", diff, none)
  | .range directory asked => do
    let repository ← Repository.root directory
    let range ← Repository.resolveRange asked
    let diff ← Repository.diff repository range
    return (range, diff, some fun ref => (Snapshot.commit ref).content repository)
  | .worktree directory => do
    let repository ← Repository.root directory
    let diff ← Repository.worktreeDiff repository "HEAD"
    return ("HEAD..:worktree", diff, some fun ref => (Snapshot.ofText ref).content repository)

/-- The summary of an analysis in print. -/
def printAnalysis (format : Format) (options : SummaryOptions) (a : Analysis) : Printed :=
  let text := match format with
    | .json => Report.summaryDocument a
    | .text tier => Report.summaryText a tier options
  { status := if a.files.any (·.hasParseError) then 4 else 0, output := Printed.line text }

/-- The summary of an empty diff in print. -/
def printEmpty (format : Format) (label : Text) : Printed :=
  match format with
  | .json => { status := 3, output := Printed.line (Report.emptySummaryDocument label) }
  | .text _ => { status := 3, errors := Printed.line "No changes found." }

/-- Runs an analysis and prints its summary. -/
def print (source : Source) (format : Format) (options : Analysis.Options) : StateM Session Printed := do
  let act : Action Printed := do
    let (label, diff, contents) ← source.material
    if diff.isBlank then return printEmpty format label
    return printAnalysis format options.summary (← Analysis.ofPatch diff label contents options)
  match ← ExceptT.run act with
  | .ok printed => return printed
  | .error f => return Printed.failed f.message.terminalSafe

end ChangeReview.Summary
