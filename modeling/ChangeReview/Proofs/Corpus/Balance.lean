import Mathlib.Algebra.BigOperators.Group.Finset.Basic
import ChangeReview.Corpus.Run
import ChangeReview.Proofs.Session.Basic
import ChangeReview.Proofs.Sorting
import ChangeReview.Proofs.Symbol.Extraction

/-!
# Balance of a score

A score counts each answer twice: under the rules it names, and in the lists of cases. Both ways give
the same totals. For a single answer and rule the figures balance by the arithmetic of minima. Summing
over answers keeps that balance, and since an answer counts for nothing under a rule that it does not
name, the sum over all rules may be taken answer by answer.
-/

namespace ChangeReview

/-! ## Totals -/

variable {α β : Type}

theorem total_map_add (f g : α → Nat) (xs : List α) :
    total (xs.map fun x => f x + g x) = total (xs.map f) + total (xs.map g) := by
  induction xs with
  | nil => rfl
  | cons x xs ih =>
    simp only [List.map_cons, total_cons, ih]
    omega

/-- A sum over a table may be taken by rows or by columns. -/
theorem total_comm (f : α → β → Nat) (xs : List α) (ys : List β) :
    total (ys.map fun y => total (xs.map fun x => f x y))
      = total (xs.map fun x => total (ys.map (f x))) := by
  induction xs with
  | nil => induction ys <;> simp_all
  | cons x xs ih => simp only [List.map_cons, total_cons, total_map_add, ih]

/-- Keys that count for nothing may be left out of a sum. -/
theorem total_map_of_subset [DecidableEq α] {f : α → Nat} {part whole : List α} (hpart : part.Nodup)
    (hwhole : whole.Nodup) (hsub : part ⊆ whole) (hzero : ∀ x, x ∉ part → f x = 0) :
    total (whole.map f) = total (part.map f) := by
  change (whole.map f).sum = (part.map f).sum
  rw [← List.sum_toFinset f hwhole, ← List.sum_toFinset f hpart]
  refine (Finset.sum_subset ?_ ?_).symm
  · intro x hx
    exact List.mem_toFinset.2 (hsub (List.mem_toFinset.1 hx))
  · intro x _ hx
    exact hzero x fun hmem => hx (List.mem_toFinset.2 hmem)

namespace Corpus

/-! ## One answer -/

namespace Answer

variable (a : Answer) (rule : Text)

theorem expected_eq : a.expected rule = a.found rule + a.missed rule := by
  have hle : a.found rule ≤ a.expected rule := Nat.min_le_left _ _
  rw [missed, Nat.add_sub_cancel' hle]

theorem predicted_eq : a.predicted rule = a.found rule + a.surplus rule := by
  unfold found surplus
  omega

variable {a rule}

theorem mem_named : rule ∈ a.named ↔ a.expectedRule = some rule ∨ rule ∈ a.rules := by
  rw [named, Text.mem_distinct, List.mem_append, Option.mem_toList]

theorem expected_eq_zero (h : rule ∉ a.named) : a.expected rule = 0 := by
  rw [mem_named, not_or] at h
  rw [expected, if_neg]
  exact fun heq => h.1 (eq_of_beq heq)

theorem predicted_eq_zero (h : rule ∉ a.named) : a.predicted rule = 0 := by
  rw [mem_named, not_or] at h
  exact List.count_eq_zero.2 h.2

end Answer

/-- A count that is nothing for the rules which an answer does not name. -/
def Named (count : Answer → Text → Nat) : Prop := ∀ a rule, rule ∉ a.named → count a rule = 0

theorem named_expected : Named Answer.expected := fun _ _ h => Answer.expected_eq_zero h

theorem named_predicted : Named Answer.predicted := fun _ _ h => Answer.predicted_eq_zero h

/-- The parts of a count that is nothing are nothing. -/
theorem Named.of_le {count part : Answer → Text → Nat} (h : Named count)
    (hle : ∀ a rule, part a rule ≤ count a rule) : Named part :=
  fun a rule hrule => Nat.le_zero.1 (h a rule hrule ▸ hle a rule)

theorem named_found : Named Answer.found := named_expected.of_le fun _ _ => Nat.min_le_left _ _

theorem named_missed : Named Answer.missed := named_expected.of_le fun _ _ => Nat.sub_le _ _

theorem named_surplus : Named Answer.surplus := named_predicted.of_le fun _ _ => Nat.sub_le _ _

/-! ## All answers -/

namespace Score

variable (answers : List Answer)

theorem length_listed (count : Answer → Text → Nat) :
    (listed answers count).length = total (answers.map fun a => a.total count) := by
  induction answers with
  | nil => rfl
  | cons a answers ih =>
    rw [listed] at ih ⊢
    rw [List.flatMap_cons, List.length_append, List.length_replicate, ih, List.map_cons, total_cons]

/-- A figure summed over the rules of a score is the length of the list of its cases. -/
theorem sum_ofAnswers (figure : RuleScore → Nat) {count : Answer → Text → Nat} (hcount : Named count)
    (hfigure : ∀ rule, figure (RuleScore.ofAnswers answers rule) = total (answers.map (count · rule))) :
    (ofAnswers answers).sum figure = (listed answers count).length := by
  have hrows : ∀ a ∈ answers, total ((Text.sort (Text.distinct (answers.flatMap Answer.named))).map
      (count a)) = a.total count := by
    intro a ha
    refine total_map_of_subset (Text.nodup_distinct _) (Text.nodup_sort.2 (Text.nodup_distinct _)) ?_
      (hcount a)
    intro rule hrule
    exact Text.mem_sort.2 (Text.mem_distinct.2 (List.mem_flatMap.2 ⟨a, ha, hrule⟩))
  rw [sum, ofAnswers, List.map_map, length_listed, ← List.map_congr_left hrows, ← total_comm]
  exact congrArg total (List.map_congr_left fun rule _ => hfigure rule)

/-- Cases of one kind divide into those that are also of another kind and those that are not. -/
theorem length_those (p q : Answer → Bool) : (those answers p).length
    = (those answers fun a => p a && q a).length + (those answers fun a => p a && !q a).length := by
  simp only [those, List.length_map]
  induction answers with
  | nil => rfl
  | cons a answers ih =>
    cases hp : p a <;> cases hq : q a <;> simp [hp, hq] <;> omega

/-- A report in which each total is the length of a list of cases. -/
def ledger (s : Score) (matched : Nat) : Json :=
  let found := s.findings.length
  let labelled := found + s.misses.length
  .object [("sample_size", .int s.size), ("labeled_findings", .int labelled),
    ("true_positive", .int found), ("false_positive", .int s.surplus.length),
    ("misses", .int s.misses.length),
    ("precision", .ofOption .real (ratio found (found + s.surplus.length))),
    ("recall", .ofOption .real (ratio found labelled)),
    ("findings", .texts s.findings), ("missed_cases", .texts s.misses),
    ("false_positive_cases", .texts s.surplus),
    ("parse_gap_metrics", .object [("expected", .int s.expectedGaps.length),
      ("observed", .int s.gaps.length), ("matched", .int matched),
      ("unexpected", .int s.unexpectedGaps.length), ("missing", .int s.missingGaps.length)]),
    ("expected_parse_gaps", .texts s.expectedGaps), ("parse_gaps", .texts s.gaps),
    ("unexpected_parse_gaps", .texts s.unexpectedGaps),
    ("missing_expected_parse_gaps", .texts s.missingGaps),
    ("per_rule", .obj (s.rules.map fun r => (r.rule, r.toJson)))]

/-- The figures of a score agree with each other and with its report. -/
structure Balanced (s : Score) : Prop where
  rules : ∀ r ∈ s.rules, r.expected = r.found + r.missed ∧ r.predicted = r.found + r.surplus
  expected : s.sum RuleScore.expected = s.findings.length + s.misses.length
  predicted : s.sum RuleScore.predicted = s.findings.length + s.surplus.length
  found : s.sum RuleScore.found = s.findings.length
  missed : s.sum RuleScore.missed = s.misses.length
  surplus : s.sum RuleScore.surplus = s.surplus.length
  report : ∃ matched : Nat, s.expectedGaps.length = matched + s.missingGaps.length
    ∧ s.gaps.length = matched + s.unexpectedGaps.length ∧ s.toJson = s.ledger matched

theorem rules_ofAnswers : ∀ r ∈ (ofAnswers answers).rules,
    r.expected = r.found + r.missed ∧ r.predicted = r.found + r.surplus := by
  intro r hr
  obtain ⟨rule, -, rfl⟩ := List.mem_map.1 hr
  simp only [RuleScore.ofAnswers, ← total_map_add, ← Answer.expected_eq, ← Answer.predicted_eq,
    and_self]

/-- If both halves of a figure of each rule are known, so is its sum. -/
theorem sum_add (s : Score) {f g h : RuleScore → Nat} (hrules : ∀ r ∈ s.rules, f r = g r + h r) :
    s.sum f = s.sum g + s.sum h := by
  rw [sum, sum, sum, ← total_map_add, List.map_congr_left hrules]

theorem balanced_ofAnswers : (ofAnswers answers).Balanced := by
  have hrules := rules_ofAnswers answers
  have hfound := sum_ofAnswers answers RuleScore.found named_found fun _ => rfl
  have hmissed := sum_ofAnswers answers RuleScore.missed named_missed fun _ => rfl
  have hsurplus := sum_ofAnswers answers RuleScore.surplus named_surplus fun _ => rfl
  have hexpected := sum_add _ fun r hr => (hrules r hr).1
  have hpredicted := sum_add _ fun r hr => (hrules r hr).2
  rw [hfound, hmissed] at hexpected
  rw [hfound, hsurplus] at hpredicted
  have hgaps := length_those answers (·.expectsGap) (·.hasGap)
  have hmet := length_those answers (·.hasGap) (·.expectsGap)
  simp only [Bool.and_comm (Answer.hasGap _) (Answer.expectsGap _)] at hmet
  refine ⟨hrules, hexpected, hpredicted, hfound, hmissed, hsurplus, _, hgaps, hmet, ?_⟩
  -- The report takes the gaps that match as a difference.
  have hmatched : ((ofAnswers answers).expectedGaps.length : Int) - (ofAnswers answers).missingGaps.length
      = (those answers fun a => a.expectsGap && a.hasGap).length := by
    rw [sub_eq_iff_eq_add]
    exact congrArg Nat.cast hgaps
  rw [toJson, hfound, hexpected, hpredicted, hmatched]
  rfl

end Score

/-! ## The run over a corpus -/

/-- An answer to a written case: the case is read, and analysed in some session. -/
def Answers (value : Json) (a : Answer) : Prop :=
  ∃ (c : Case) (s t : Session), Case.ofJson value = .ok c ∧ c.answer.on s = (.ok a, t)

/-- A case with a gap is not compared. -/
theorem Case.rules_of_hasGap {c : Case} {a : Answer} {s t : Session} (h : c.answer.on s = (.ok a, t))
    (hgap : a.hasGap = true) : a.rules = [] := by
  obtain ⟨old, s, -, h⟩ := Action.exists_of_on_bind h
  obtain ⟨new, s, -, h⟩ := Action.exists_of_on_bind h
  dsimp only at h
  split at h
  · cases h
    rfl
  · obtain ⟨rules, s, -, h⟩ := Action.exists_of_on_bind h
    cases h
    contradiction

theorem exists_answers {cases : List Json} {s t : Session} {result : Score}
    (h : (score cases).on s = (.ok result, t)) :
    ∃ answers, List.Forall₂ Answers cases answers ∧ result = Score.ofAnswers answers := by
  obtain ⟨answers, r, hanswers, h⟩ := Action.exists_of_on_bind h
  cases h
  refine ⟨answers, Action.forall₂_of_mapM ?_ hanswers, rfl⟩
  intro value s t a ha
  obtain ⟨c, r, hc, ha⟩ := Action.exists_of_on_bind ha
  rw [Action.on_lift] at hc
  exact ⟨c, r, t, congrArg Prod.fst hc, ha⟩

/-- The figures of each rule, the totals, the lists of cases and the report agree, whatever the answers are. A
corpus is scored by answers to its cases, and an answer with a gap adds to no prediction. -/
theorem score_balanced :
    (∀ answers : List Answer, (Score.ofAnswers answers).Balanced) ∧
    ∀ {cases : List Json} {s t : Session} {result : Score}, (score cases).on s = (.ok result, t) →
      result.Balanced ∧ ∃ answers, List.Forall₂ Answers cases answers ∧ result = Score.ofAnswers answers
        ∧ ∀ a ∈ answers, a.hasGap = true → ∀ rule, a.predicted rule = 0 := by
  refine ⟨Score.balanced_ofAnswers, fun h => ?_⟩
  obtain ⟨answers, hanswers, rfl⟩ := exists_answers h
  refine ⟨Score.balanced_ofAnswers answers, answers, hanswers, rfl, fun a ha hgap rule => ?_⟩
  obtain ⟨i, hi, rfl⟩ := List.getElem_of_mem ha
  obtain ⟨c, _, _, -, hrun⟩ := hanswers.get (hanswers.length_eq ▸ hi) hi
  rw [List.get_eq_getElem] at hrun
  rw [Answer.predicted, Case.rules_of_hasGap hrun hgap, List.count_nil]

/-! Two functions are deleted where one deletion is expected. A case that expects one has a gap, and one with the
same source in another language has none and is missed. -/

def labelled (id language old : Text) : Json :=
  .object [("id", .str id), ("language", .str language), ("old", .str old), ("new", .str ""),
    ("expected_rule_id", .str "DG201")]

def labelledCases : List Json :=
  [labelled "both" "go" "func F()\nfunc G()", labelled "gap" "go" "func (",
    labelled "other" "javascript" "func ("]

def deletions : Session where
  trees.tree? dialect source :=
    if source == "func F()\nfunc G()" then
      some { kind := "source_file", start := 0, stop := 17
             children := [Symbol.Go.functionAt 0, Symbol.Go.functionAt 9] }
    else if source == "func (" then
      some { kind := "source_file", start := 0, stop := 6, hasError := dialect = .go }
    else none

theorem score_balanced_deletions :
    ∃ (result : Score) (t : Session),
      (score labelledCases).on deletions = (.ok result, t)
      ∧ result.findings = ["both"] ∧ result.surplus = ["both"] ∧ result.misses = Text.list ["gap", "other"]
      ∧ result.gaps = ["gap"] ∧ result.sum RuleScore.expected = 3 ∧ result.sum RuleScore.predicted = 2 := by
  have hrun : ((score labelledCases).on deletions).1.toOption.map
      (fun r => (r.findings, r.surplus, r.misses, r.gaps))
      = some ([("both" : Text)], [("both" : Text)], Text.list ["gap", "other"], [("gap" : Text)]) := by
    decide +kernel
  rcases h : (score labelledCases).on deletions with ⟨_ | result, t⟩
  · rw [h] at hrun
    cases hrun
  · rw [h] at hrun
    obtain ⟨hfindings, hrest⟩ := Prod.mk.inj (Option.some.inj hrun)
    obtain ⟨hsurplus, hrest⟩ := Prod.mk.inj hrest
    obtain ⟨hmisses, hgaps⟩ := Prod.mk.inj hrest
    have hbalanced := (score_balanced.2 h).1
    refine ⟨result, t, rfl, hfindings, hsurplus, hmisses, hgaps, ?_, ?_⟩
    · rw [hbalanced.expected, hfindings, hmisses]
      rfl
    · rw [hbalanced.predicted, hfindings, hsurplus]
      rfl

end Corpus

end ChangeReview
