import ChangeReview.Analysis
import ChangeReview.Failure

/-!
# Summaries as text

A summary is built once more from texts that a terminal may show, so that a line feed in a path cannot
pass for layout.
-/

namespace ChangeReview

namespace Change

/-- A change whose texts a terminal may show. -/
def terminalSafe (c : Change) : Change :=
  { c with
    name := c.name.terminalSafe
    signature := c.signature.map Text.terminalSafe
    beforeSignature := c.beforeSignature.map Text.terminalSafe
    afterSignature := c.afterSignature.map Text.terminalSafe
    fileFrom := c.fileFrom.map Text.terminalSafe
    ruleId := c.ruleId.map Text.terminalSafe
    categoryId := c.categoryId.map Text.terminalSafe
    category := c.category.map Text.terminalSafe
    evidence := c.evidence.map Text.terminalSafe
    gaps := c.gaps.map Text.terminalSafe
    detail := c.detail.map (·.mapText Text.terminalSafe) }

end Change

namespace FileChange

/-- A changed file whose texts a terminal may show. -/
def terminalSafe (f : FileChange) : FileChange :=
  { f with
    path := f.path.terminalSafe
    language := f.language.map Text.terminalSafe
    changes := f.changes.map Change.terminalSafe }

end FileChange

namespace Report

/-- A length of summary. -/
inductive Tier where
  | oneLine
  | short
  | detailed
deriving DecidableEq

/-- The length of a given name. -/
def Tier.ofText (t : Text) : Except Failure Tier :=
  if t == "oneliner" then .ok .oneLine
  else if t == "short" then .ok .short
  else if t == "detailed" then .ok .detailed
  else .error (.unknownTier t)

/-- The summary of an analysis as text. -/
def summaryText (a : Analysis) (tier : Tier) (options : SummaryOptions) : Text :=
  let files := a.files.map FileChange.terminalSafe
  let tiers := Tiers.ofFiles files (Summary.ofFiles files) options
  match tier with
  | .oneLine => tiers.oneLine
  | .short => tiers.short
  | .detailed => tiers.detailed

end Report

end ChangeReview
