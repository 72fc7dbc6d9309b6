import ChangeReview.Change.Classification
import ChangeReview.Json.Display
import ChangeReview.Signature.Comparison
import ChangeReview.Symbol.Extraction
import ChangeReview.Symbol.Matching

/-!
# Labelled cases

A case is a pair of sources with the rule that a review should find between them, or the gap it should
meet.
-/

namespace ChangeReview.Corpus

/-- A pair of sources with labels. -/
structure Case where
  id : Text
  language : Language
  old : Text
  new : Text
  expectedRule : Option Text
  expectsGap : Bool

/-- What the analysis of a case answers. A case with a gap is not compared. -/
structure Answer where
  id : Text
  expectedRule : Option Text
  expectsGap : Bool
  hasGap : Bool
  /-- The rules of the changes. -/
  rules : List Text

/-- A member of a labelled case as text. -/
def member (value : Json) (key : Text) : Except Failure Text :=
  match value with
  | .obj members =>
    match List.lookup key members with
    | some value => .ok value.display
    | none => .error (.missingMember key)
  | _ => .error .notObject

/-- A case as it is written. -/
def Case.ofJson (value : Json) : Except Failure Case := do
  let id ← member value "id"
  let language ← member value "language"
  return {
    id, language := Language.ofText language
    old := ← member value "old"
    new := ← member value "new"
    expectedRule := ((value.member? "expected_rule_id").filter fun v => !v.isNull).map Json.display
    expectsGap := (value.member? "expected_parse_gap").any Json.isTruthy }

/-- The rules between the symbols of both sources. -/
def rulesOf (language : Language) (old new : List Symbol) : Except Failure (List Text) := do
  let changes ← Change.classify (Signature.compare language) (Symbol.matchAll old new)
  return changes.filterMap (·.ruleId)

/-- Analyses a case. -/
def Case.answer (c : Case) : Action Answer := do
  let old ← ParsedFile.read c.language none c.old
  let new ← ParsedFile.read c.language none c.new
  let hasGap := old.hasGap || new.hasGap
  let rules : List Text ← if hasGap then pure [] else rulesOf c.language old.symbols new.symbols
  return { id := c.id, expectedRule := c.expectedRule, expectsGap := c.expectsGap, hasGap, rules }

end ChangeReview.Corpus
