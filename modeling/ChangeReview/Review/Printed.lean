import ChangeReview.Report.Review
import ChangeReview.Review.Run

/-!
# Printed reviews

What a review prints, and the status it exits with. A finding is told by the status, in either format.
-/

namespace ChangeReview

/-- What a command prints, and the status it exits with. -/
structure Printed where
  status : Nat
  output : Text := []
  errors : Text := []
deriving DecidableEq

namespace Printed

/-- A line. -/
def line (t : Text) : Text := t ++ ("\n" : Text)

/-- A command that fails with a message. -/
def failed (message : Text) : Printed := { status := 2, errors := line ("Error: " ++ message) }

end Printed

namespace Review

/-- The format of a review. -/
inductive Format where
  | text
  | json
deriving DecidableEq

/-- A failed review in print. -/
def printFailure (format : Format) (label : Text) (mode : ReviewMode) (message : Text) : Printed :=
  match format with
  | .json => { status := 2, output := Printed.line (Report.errorDocument label mode message) }
  | .text => Printed.failed message.terminalSafe

/-- The warnings of a review in print. -/
def printWarnings (warnings : List Text) : Text :=
  if warnings.isEmpty then []
  else Printed.line "DiffGuard analysis warnings:"
    ++ warnings.flatMap fun w => Printed.line ("- " ++ w.terminalSafe)

/-- A review in print. -/
def printOutcome (format : Format) (isVerbose : Bool) (label : Text) (mode : ReviewMode) :
    Outcome → Printed
  | .unchanged =>
    match format with
    | .json => { status := 0, output := Printed.line (Report.emptyDocument label mode "no changes in diff") }
    | .text => { status := 0, errors := Printed.line "No changes found." }
  | .reviewed analysis findings =>
    match format with
    | .json =>
      { status := if findings.isEmpty then 0 else 1
        output := Printed.line (Report.reviewDocument analysis label mode findings) }
    | .text =>
      let errors := printWarnings analysis.warnings
      if !isVerbose && findings.isEmpty then { status := 0, errors }
      else
        let text := Report.reviewText findings
        if text.isEmpty then { status := 0, errors } else { status := 1, output := Printed.line text, errors }

/-- Runs a review and prints it. -/
def Request.print (r : Request) (format : Format) (isVerbose : Bool) : StateM Session Printed := do
  match r.subject with
  | .error conflict => return printFailure format (r.range.getD []) conflict.mode conflict.message
  | .ok subject =>
    match ← (subject.review r.repository r.searchesReferences).run with
    | .error (label, f) => return printFailure format label subject.mode f.message
    | .ok (label, outcome) => return printOutcome format isVerbose label subject.mode outcome

end Review

end ChangeReview
