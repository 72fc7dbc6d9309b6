import ChangeReview.Corpus.Case
import ChangeReview.Json.Writer
import ChangeReview.Review.Printed

/-!
# Scoring a corpus

All cases of a corpus are analysed. Their score says how well the answers fit the labels, for each rule and in
all. An answer that gives a rule more often than its label expects is wrong as often as it gives it too much.
-/

namespace ChangeReview.Corpus

namespace Answer

/-- How often the label expects a rule. -/
def expected (a : Answer) (rule : Text) : Nat := if a.expectedRule == some rule then 1 else 0

/-- How often the answer gives a rule. -/
def predicted (a : Answer) (rule : Text) : Nat := a.rules.count rule

/-- How often the answer gives a rule that the label expects. -/
def found (a : Answer) (rule : Text) : Nat := min (a.expected rule) (a.predicted rule)

/-- How often the label expects a rule that the answer does not give. -/
def missed (a : Answer) (rule : Text) : Nat := a.expected rule - a.found rule

/-- How often the answer gives a rule that the label does not expect. -/
def surplus (a : Answer) (rule : Text) : Nat := a.predicted rule - a.expected rule

/-- The rules that an answer or its label names. -/
def named (a : Answer) : List Text := Text.distinct (a.expectedRule.toList ++ a.rules)

/-- The sum over the rules that are named. -/
def total (a : Answer) (count : Answer → Text → Nat) : Nat := ChangeReview.total (a.named.map (count a))

/-- Whether a gap was met that no label expects. -/
def hasUnexpectedGap (a : Answer) : Bool := a.hasGap && !a.expectsGap

/-- Whether a gap is missing that a label expects. -/
def lacksGap (a : Answer) : Bool := a.expectsGap && !a.hasGap

end Answer

/-- The figures of one rule. -/
structure RuleScore where
  rule : Text
  expected : Nat
  predicted : Nat
  found : Nat
  surplus : Nat
  missed : Nat

/-- A ratio to four places, unless there is nothing to divide by. -/
def ratio (num den : Nat) : Option Binary64 :=
  if den == 0 then none else some ((Binary64.ofRatio false num den).roundPlaces 4)

namespace RuleScore

/-- The figures of a rule over all answers. -/
def ofAnswers (answers : List Answer) (rule : Text) : RuleScore :=
  let sum (count : Answer → Text → Nat) : Nat := ChangeReview.total (answers.map fun a => count a rule)
  { rule, expected := sum Answer.expected, predicted := sum Answer.predicted, found := sum Answer.found
    surplus := sum Answer.surplus, missed := sum Answer.missed }

/-- The figures of a rule as a document value. -/
def toJson (s : RuleScore) : Json :=
  .object [("expected", .int s.expected), ("predicted", .int s.predicted), ("true_positive", .int s.found),
    ("false_positive", .int s.surplus), ("miss", .int s.missed),
    ("precision", .ofOption .real (ratio s.found s.predicted)),
    ("recall", .ofOption .real (ratio s.found s.expected))]

end RuleScore

/-- How well the answers fit their labels. A case is listed as often as it counts. -/
structure Score where
  size : Nat
  rules : List RuleScore
  findings : List Text
  misses : List Text
  surplus : List Text
  expectedGaps : List Text
  gaps : List Text
  unexpectedGaps : List Text
  missingGaps : List Text

namespace Score

/-- The cases, each as often as it counts. -/
def listed (answers : List Answer) (count : Answer → Text → Nat) : List Text :=
  answers.flatMap fun a => List.replicate (a.total count) a.id

/-- The cases of which something holds. -/
def those (answers : List Answer) (p : Answer → Bool) : List Text := (answers.filter p).map (·.id)

/-- The score of answers. -/
def ofAnswers (answers : List Answer) : Score where
  size := answers.length
  rules := (Text.sort (Text.distinct (answers.flatMap Answer.named))).map (RuleScore.ofAnswers answers)
  findings := listed answers Answer.found
  misses := listed answers Answer.missed
  surplus := listed answers Answer.surplus
  expectedGaps := those answers (·.expectsGap)
  gaps := those answers (·.hasGap)
  unexpectedGaps := those answers Answer.hasUnexpectedGap
  missingGaps := those answers Answer.lacksGap

/-- The sum of a figure over all rules. -/
def sum (s : Score) (figure : RuleScore → Nat) : Nat := ChangeReview.total (s.rules.map figure)

/-- A score as a document value. -/
def toJson (s : Score) : Json :=
  let found := s.sum RuleScore.found
  .object [("sample_size", .int s.size), ("labeled_findings", .int (s.sum RuleScore.expected)),
    ("true_positive", .int found), ("false_positive", .int s.surplus.length),
    ("misses", .int s.misses.length),
    ("precision", .ofOption .real (ratio found (s.sum RuleScore.predicted))),
    ("recall", .ofOption .real (ratio found (s.sum RuleScore.expected))),
    ("findings", .texts s.findings), ("missed_cases", .texts s.misses),
    ("false_positive_cases", .texts s.surplus),
    ("parse_gap_metrics", .object [("expected", .int s.expectedGaps.length),
      ("observed", .int s.gaps.length),
      ("matched", .int ((s.expectedGaps.length : Int) - s.missingGaps.length)),
      ("unexpected", .int s.unexpectedGaps.length), ("missing", .int s.missingGaps.length)]),
    ("expected_parse_gaps", .texts s.expectedGaps), ("parse_gaps", .texts s.gaps),
    ("unexpected_parse_gaps", .texts s.unexpectedGaps),
    ("missing_expected_parse_gaps", .texts s.missingGaps),
    ("per_rule", .obj (s.rules.map fun r => (r.rule, r.toJson)))]

/-- Whether all answers fit their labels. -/
def isClean (s : Score) : Bool :=
  s.misses.isEmpty && s.surplus.isEmpty && s.unexpectedGaps.isEmpty && s.missingGaps.isEmpty

end Score

/-- The score of the cases of a corpus, as they are written. -/
def score (cases : List Json) : Action Score := do
  let answers ← cases.mapM fun value => do (← Case.ofJson value).answer
  return Score.ofAnswers answers

/-- Whether a flag asks to check the score. A flag may be shortened while it is told from others. -/
def isCheck (flag : Text) : Bool := flag.startsWith "--ch" && Text.startsWith "--check" flag

/-- Prints the score of a corpus. When it is checked, a score that is not clean fails. -/
def print (cases : List Json) (flags : List Text) : Action Printed := do
  if !flags.all isCheck then return { status := 2 }
  let s ← score cases
  return {
    status := if !flags.isEmpty && !s.isClean then 1 else 0
    output := Printed.line (Json.document s.toJson) }

end ChangeReview.Corpus
