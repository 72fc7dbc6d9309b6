import ChangeReview.Text.Basic

/-!
# Review hints

What a reviewer should do about each category of finding.
-/

namespace ChangeReview.Report

/-- The hint of each category. -/
def hints : List (String × String) :=
  [("PARAMETER REMOVED", "Review calls that still pass the removed parameter"),
    ("PARAMETER ADDED (REQUIRED)", "Update calls that do not provide the required parameter"),
    ("PARAMETER ADDED", "Check language-specific compatibility with the new parameter"),
    ("PARAMETERS REORDERED", "Review positional call sites for changed argument meaning"),
    ("PARAMETERS CHANGED", "Run the language compiler/type checker for compatibility"),
    ("PARAMETER RENAMED", "Review keyword calls; positional calls may remain compatible"),
    ("PARAMETER ANNOTATION CHANGED", "Run the configured type checker; syntax alone is not proof"),
    ("RETURN ANNOTATION CHANGED", "Run the configured type checker; syntax alone is not proof"),
    ("RETURN TYPE CHANGED", "Run the language compiler/type checker for compatibility"),
    ("DEFAULT REMOVED", "Update calls that omit the now-required parameter"),
    ("DEFAULT ADDED", "Verify the new omitted-argument behavior is intended"),
    ("DEFAULT VALUE CHANGED", "Verify omitted-argument behavior against requirements"),
    ("OPTIONAL PARAMETER ADDED", "Verify the expanded call shape is intended"),
    ("SIGNATURE CHANGED", "Review compatibility; bounded syntax rules were inconclusive"),
    ("SYMBOL REMOVED", "Check unresolved references and public API expectations"),
    ("POSSIBLE SYMBOL MOVE", "Confirm identity, then review import/export behavior")]

/-- The hint for a category. -/
def hint (category : Text) : Text :=
  ((hints.find? fun (name, _) => category == Text.ofString name).map fun (_, text) =>
    Text.ofString text).getD "Review this change"

end ChangeReview.Report
