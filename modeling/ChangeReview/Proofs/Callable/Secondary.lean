import ChangeReview.Proofs.Callable.Cases
import ChangeReview.Proofs.Callable.Declared
import ChangeReview.Proofs.Callable.Lookup
import ChangeReview.Proofs.Sorting

/-!
# Changes beside the call shape

A function can change its defaults, its annotations, its decorators and its type parameters while its call
shape changes too. The assessment of the whole change reports each of them, whichever rule judged the call
shape: no evidence is lost, nothing is compatible that a syntax change leaves open, and a break stays the
break it was.
-/

namespace ChangeReview

namespace Assessment

variable {a b : Assessment} {as : List Assessment} {item : Text}

theorem mem_allEvidence : item ∈ allEvidence as ↔ ∃ b ∈ as, item ∈ b.evidence := by
  unfold allEvidence
  rw [Text.mem_distinct, List.mem_flatMap]

/-- Merging keeps all evidence and adds none. -/
theorem mem_evidence_merge : item ∈ (a.merge as).evidence ↔ ∃ b ∈ a :: as, item ∈ b.evidence := by
  unfold merge
  by_cases hempty : as.isEmpty = true
  · rw [if_pos hempty, List.isEmpty_iff.1 hempty]
    simp
  rw [if_neg hempty]
  dsimp only
  split
  · exact mem_allEvidence
  · exact mem_allEvidence

/-- Merging is compatible if all that is merged is. -/
theorem merge_compatible_iff : (a.merge as).verdict = .compatible ↔
    a.verdict = .compatible ∧ ∀ b ∈ as, b.verdict = .compatible := by
  unfold merge
  by_cases hempty : as.isEmpty = true
  · rw [if_pos hempty, List.isEmpty_iff.1 hempty]
    simp
  rw [if_neg hempty]
  dsimp only
  split
  · rename_i hkeeps
    refine ⟨fun (ha : a.verdict = .compatible) => ⟨ha, fun b hb => ?_⟩, And.left⟩
    -- a compatible assessment is kept only if the others agree with it
    have hagree : as.all (agrees · a) = true := by simpa [ha] using hkeeps
    have hb := List.all_eq_true.1 hagree b hb
    unfold agrees at hb
    rw [Bool.and_eq_true, beq_iff_eq, beq_iff_eq] at hb
    exact hb.2.trans ha
  · rw [← List.forall_mem_cons (p := fun b : Assessment => b.verdict = .compatible)]
    have hall : (a :: as).all (·.verdict == .compatible) = true ↔
        ∀ b ∈ a :: as, b.verdict = .compatible := by
      simp only [List.all_eq_true, beq_iff_eq]
    rw [← hall]
    split
    · rename_i h
      exact iff_of_true rfl h
    · rename_i h
      exact iff_of_false (by rintro ⟨⟩) h

end Assessment

namespace Callable

variable {f g : Callable} {p q : Parameter} {a : Assessment} {v : Verdict} {item : Text}

/-- The parameters `p` of `f` and `q` of `g` stand for the same one. Either `q` is what `g` has under the
name of `p`, the last one if there are several. Or neither name is known to the other function, and both
stand in one place of lists that have the same kinds in a row. -/
inductive Counterpart (f g : Callable) (p q : Parameter) : Prop where
  | name (left : p ∈ f.parameters) (found : g.find? p.name = some q)
  | place (kinds : sameKinds f g = true) (paired : (p, q) ∈ f.parameters.zip g.parameters)
      (left : p.name ∉ g.names) (right : q.name ∉ f.names)

/-- A change beside the call shape, with the verdict on it alone and the evidence for it. -/
inductive SecondaryChange (f g : Callable) : Verdict → Text → Prop where
  | defaultAdded {p q : Parameter} (h : Counterpart f g p q) (hold : p.default = none)
      (hnew : q.default ≠ none) :
      SecondaryChange f g .compatible ("Default added to " ++ shownPair p q)
  | defaultChanged {p q : Parameter} (h : Counterpart f g p q) (hold : p.default ≠ none)
      (hnew : q.default ≠ none) (hne : p.default ≠ q.default) :
      SecondaryChange f g .compatible ("Default changed for " ++ shownPair p q)
  | hint {p q : Parameter} (h : Counterpart f g p q) (hne : p.hint ≠ q.hint) :
      SecondaryChange f g .unknown ("Annotation syntax changed for " ++ shownPair p q)
  | returns (hne : f.returns ≠ g.returns) :
      SecondaryChange f g .unknown "Python return annotation syntax changed"
  | decorators (hne : f.decorators ≠ g.decorators) :
      SecondaryChange f g .unknown "Python decorator syntax changed"
  | typeParameters (hne : f.typeParameters ≠ g.typeParameters) :
      SecondaryChange f g .unknown "Python type-parameter syntax changed"

theorem mem_sameName :
    (p, q) ∈ (f.parameters.filterMap fun p => (g.find? p.name).map fun q => (p, q)) ↔
      p ∈ f.parameters ∧ g.find? p.name = some q := by
  rw [List.mem_filterMap]
  constructor
  · rintro ⟨p', hp', h⟩
    obtain ⟨q', hq', heq⟩ := Option.map_eq_some_iff.1 h
    obtain ⟨rfl, rfl⟩ := Prod.mk.inj heq
    exact ⟨hp', hq'⟩
  · rintro ⟨hp, hq⟩
    exact ⟨p, hp, by rw [hq]; rfl⟩

theorem mem_samePlace :
    (p, q) ∈ ((f.parameters.zip g.parameters).filter fun (p, q) =>
        p.name != q.name && !g.has p.name && !f.has q.name) ↔
      (p, q) ∈ f.parameters.zip g.parameters ∧ p.name ∉ g.names ∧ q.name ∉ f.names := by
  simp only [List.mem_filter, Bool.and_eq_true, bne_iff_ne, Bool.not_eq_true', ← Bool.not_eq_true,
    has_iff]
  constructor
  · rintro ⟨hpair, ⟨-, hp⟩, hq⟩
    exact ⟨hpair, hp, hq⟩
  · rintro ⟨hpair, hp, hq⟩
    refine ⟨hpair, ⟨fun heq => hp ?_, hp⟩, hq⟩
    rw [heq]
    exact name_mem (List.of_mem_zip hpair).2

theorem mem_retainedPairs : (p, q) ∈ retainedPairs f g ↔ Counterpart f g p q := by
  unfold retainedPairs
  dsimp only
  split
  · rename_i hrenames
    rw [List.mem_append, mem_sameName, mem_samePlace]
    constructor
    · rintro (⟨hp, hq⟩ | ⟨hpair, hp, hq⟩)
      · exact .name hp hq
      · exact .place (Bool.and_eq_true_iff.1 hrenames).1 hpair hp hq
    · rintro (⟨hp, hq⟩ | ⟨-, hpair, hp, hq⟩)
      · exact Or.inl ⟨hp, hq⟩
      · exact Or.inr ⟨hpair, hp, hq⟩
  · rename_i hrenames
    rw [mem_sameName]
    constructor
    · rintro ⟨hp, hq⟩
      exact .name hp hq
    · rintro (⟨hp, hq⟩ | ⟨hkinds, hpair, hp, -⟩)
      · exact ⟨hp, hq⟩
      · -- a name that is gone makes it a renaming
        refine absurd ?_ hrenames
        have hall : f.names.all g.names.contains = false := by
          rw [List.all_eq_false]
          exact ⟨p.name, name_mem (List.of_mem_zip hpair).1, by simpa using hp⟩
        rw [hkinds, hall]
        rfl

/-- What is reported of a pair of parameters is a change of it. -/
theorem secondary_of_parameterSyntax (h : Counterpart f g p q)
    (ha : a ∈ parameterSyntax (shownPair p q) p q) :
    ∃ item, a.evidence = [item] ∧ SecondaryChange f g a.verdict item := by
  unfold parameterSyntax at ha
  rcases List.mem_append.1 ha with ha | ha
  · split at ha
    · rename_i y hold hnew
      rw [List.mem_singleton.1 ha]
      exact ⟨_, rfl, .defaultAdded h hold (by simp [hnew])⟩
    · rename_i x y hold hnew
      split at ha
      · rename_i hne
        rw [List.mem_singleton.1 ha]
        refine ⟨_, rfl, .defaultChanged h (by simp [hold]) (by simp [hnew]) ?_⟩
        rw [hold, hnew]
        exact fun heq => bne_iff_ne.1 hne (Option.some.inj heq)
      · cases ha
    · cases ha
  · split at ha
    · rename_i hne
      rw [List.mem_singleton.1 ha]
      exact ⟨_, rfl, .hint h (bne_iff_ne.1 hne)⟩
    · cases ha

/-- What is reported around the parameters is a change there, and it is left open. -/
theorem secondary_of_surroundingSyntax (ha : a ∈ surroundingSyntax f g) :
    a.verdict = .unknown ∧ ∃ item, a.evidence = [item] ∧ SecondaryChange f g .unknown item := by
  unfold surroundingSyntax at ha
  simp only [List.mem_append] at ha
  rcases ha with (ha | ha) | ha <;> split at ha
  · rename_i hne
    rw [List.mem_singleton.1 ha]
    exact ⟨rfl, _, rfl, .returns (bne_iff_ne.1 hne)⟩
  · cases ha
  · rename_i hne
    rw [List.mem_singleton.1 ha]
    exact ⟨rfl, _, rfl, .decorators (bne_iff_ne.1 hne)⟩
  · cases ha
  · rename_i hne
    rw [List.mem_singleton.1 ha]
    exact ⟨rfl, _, rfl, .typeParameters (bne_iff_ne.1 hne)⟩
  · cases ha

/-- Nothing is reported beside the call shape but its changes. -/
theorem secondary_of_syntaxChanges (ha : a ∈ syntaxChanges f g) :
    ∃ item, a.evidence = [item] ∧ SecondaryChange f g a.verdict item := by
  rcases List.mem_append.1 ha with ha | ha
  · obtain ⟨⟨p, q⟩, hpair, ha⟩ := List.mem_flatMap.1 ha
    exact secondary_of_parameterSyntax (mem_retainedPairs.1 hpair) ha
  · obtain ⟨hv, item, hsaid, hchange⟩ := secondary_of_surroundingSyntax ha
    exact ⟨item, hsaid, hv ▸ hchange⟩

theorem mem_syntaxChanges (h : Counterpart f g p q) (ha : a ∈ parameterSyntax (shownPair p q) p q) :
    a ∈ syntaxChanges f g :=
  List.mem_append_left _ (List.mem_flatMap.2 ⟨(p, q), mem_retainedPairs.2 h, ha⟩)

theorem mem_if_of_ne {α : Type} [BEq α] [LawfulBEq α] {x y : α} (h : x ≠ y) :
    a ∈ if x != y then [a] else [] := by
  rw [if_pos (bne_iff_ne.2 h)]
  exact List.mem_cons_self

/-- Every change beside the call shape is reported. -/
theorem SecondaryChange.exists_syntaxChange (h : SecondaryChange f g v item) :
    ∃ a ∈ syntaxChanges f g, a.evidence = [item] ∧ a.verdict = v := by
  cases h with
  | @defaultAdded p q h hold hnew =>
    obtain ⟨y, hnew⟩ := Option.ne_none_iff_exists'.1 hnew
    refine ⟨?_, mem_syntaxChanges h (List.mem_append_left _ ?mem), ?said⟩
    case mem =>
      rw [hold, hnew]
      exact List.mem_cons_self
    case said => exact ⟨rfl, rfl⟩
  | @defaultChanged p q h hold hnew hne =>
    obtain ⟨x, hold⟩ := Option.ne_none_iff_exists'.1 hold
    obtain ⟨y, hnew⟩ := Option.ne_none_iff_exists'.1 hnew
    rw [hold, hnew] at hne
    refine ⟨?_, mem_syntaxChanges h (List.mem_append_left _ ?mem), ?said⟩
    case mem =>
      rw [hold, hnew]
      exact mem_if_of_ne fun heq => hne (congrArg some heq)
    case said => exact ⟨rfl, rfl⟩
  | hint h hne =>
    refine ⟨_, mem_syntaxChanges h (List.mem_append_right _ (mem_if_of_ne hne)), ?_⟩
    exact ⟨rfl, rfl⟩
  | returns hne =>
    refine ⟨_, List.mem_append_right _ (List.mem_append_left _ (List.mem_append_left _
      (mem_if_of_ne hne))), ?_⟩
    exact ⟨rfl, rfl⟩
  | decorators hne =>
    refine ⟨_, List.mem_append_right _ (List.mem_append_left _ (List.mem_append_right _
      (mem_if_of_ne hne))), ?_⟩
    exact ⟨rfl, rfl⟩
  | typeParameters hne =>
    refine ⟨_, List.mem_append_right _ (List.mem_append_right _ (mem_if_of_ne hne)), ?_⟩
    exact ⟨rfl, rfl⟩

/-- The evidence is that of the call shape and that of each change beside it. -/
theorem mem_evidence_assess : item ∈ (f.assess g).evidence ↔
    item ∈ (f.assessShape g).evidence ∨ ∃ v, SecondaryChange f g v item := by
  unfold assess
  rw [Assessment.mem_evidence_merge, List.exists_mem_cons_iff]
  refine or_congr_right ⟨?_, ?_⟩
  · rintro ⟨a, ha, hitem⟩
    obtain ⟨said, hsaid, hchange⟩ := secondary_of_syntaxChanges ha
    rw [hsaid, List.mem_singleton] at hitem
    exact ⟨a.verdict, hitem ▸ hchange⟩
  · rintro ⟨v, hchange⟩
    obtain ⟨a, ha, hsaid, -⟩ := hchange.exists_syntaxChange
    exact ⟨a, ha, by rw [hsaid]; exact List.mem_cons_self⟩

theorem SecondaryChange.verdict_cases (h : SecondaryChange f g v item) :
    v = .compatible ∨ v = .unknown := by
  cases h with
  | defaultAdded => exact Or.inl rfl
  | defaultChanged => exact Or.inl rfl
  | hint => exact Or.inr rfl
  | returns => exact Or.inr rfl
  | decorators => exact Or.inr rfl
  | typeParameters => exact Or.inr rfl

/-- A change is compatible if its call shape is and no change beside it is left open. -/
theorem assess_compatible_iff : (f.assess g).verdict = .compatible ↔
    (f.assessShape g).verdict = .compatible ∧ ∀ item, ¬ SecondaryChange f g .unknown item := by
  unfold assess
  rw [Assessment.merge_compatible_iff]
  refine and_congr_right fun _ => ⟨?_, ?_⟩
  · intro hall item hchange
    obtain ⟨a, ha, -, hv⟩ := hchange.exists_syntaxChange
    rw [hall a ha] at hv
    cases hv
  · intro hnone a ha
    obtain ⟨item, -, hchange⟩ := secondary_of_syntaxChanges ha
    rcases hchange.verdict_cases with hv | hv
    · exact hv
    · exact absurd (hv ▸ hchange) (hnone item)

/-- A break of the call shape stays that break. -/
theorem assess_of_shape_breaking (h : (f.assessShape g).verdict = .breaking) :
    (f.assess g).verdict = .breaking ∧ (f.assess g).category = (f.assessShape g).category := by
  unfold assess
  rcases Assessment.merge_cases (f.assessShape g) (syntaxChanges f g) with ⟨hv, hc⟩ | ⟨hne, -⟩
  · exact ⟨hv.trans h, hc⟩
  · exact absurd h hne

end Callable

namespace Signature

variable {old new : Text} {f g : Callable}

/-- **Changes beside the call shape.** Two signatures that declare functions have an assessment. Its
evidence is that of the call shape and an item for each changed default, annotation, return annotation,
decorator list and type-parameter list. It is compatible only if nothing but defaults changed beside a
compatible call shape. A break of the call shape keeps its category, and with that its rule. -/
theorem assess_reports_secondary_changes (hold : Declares old f) (hnew : Declares new g) :
    ∃ a, assess .python old new = .ok a ∧
      (∀ item, item ∈ a.evidence ↔
        item ∈ (f.assessShape g).evidence ∨ ∃ v, Callable.SecondaryChange f g v item) ∧
      (a.verdict = .compatible ↔ (f.assessShape g).verdict = .compatible ∧
        ∀ item, ¬ Callable.SecondaryChange f g .unknown item) ∧
      ((f.assessShape g).verdict = .breaking →
        a.verdict = .breaking ∧ a.category = (f.assessShape g).category) :=
  ⟨f.assess g, hold.assess_eq hnew, fun _ => Callable.mem_evidence_assess,
    Callable.assess_compatible_iff, Callable.assess_of_shape_breaking⟩

/-- A default is removed, which breaks calls; the changed annotations are reported beside it. -/
theorem assess_reports_secondary_changes_annotations :
    ∃ f g a, Declares "def foo(value: int = 1) -> int" f ∧ Declares "def foo(value: str) -> str" g ∧
      assess .python "def foo(value: int = 1) -> int" "def foo(value: str) -> str" = .ok a ∧
      a.verdict = .breaking ∧ a.category = .defaultRemoved ∧
      ("Annotation syntax changed for Python parameter 'value'" : Text) ∈ a.evidence ∧
      ("Python return annotation syntax changed" : Text) ∈ a.evidence := by
  let p : Parameter :=
    ⟨"value", .positionalOrKeyword, some (.node .integer [.atom "1"]), some (.name "int")⟩
  let q : Parameter := ⟨"value", .positionalOrKeyword, none, some (.name "str")⟩
  have hold : Declares "def foo(value: int = 1) -> int" ⟨[p], some (.name "int"), [], []⟩ := by
    decide +kernel
  have hnew : Declares "def foo(value: str) -> str" ⟨[q], some (.name "str"), [], []⟩ := by
    decide +kernel
  obtain ⟨a, ha, hitems, -, hbreaking⟩ := assess_reports_secondary_changes hold hnew
  obtain ⟨hverdict, hcategory⟩ := hbreaking (by decide +kernel)
  have hpair : Callable.Counterpart ⟨[p], some (.name "int"), [], []⟩
      ⟨[q], some (.name "str"), [], []⟩ p q := .name List.mem_cons_self rfl
  refine ⟨_, _, a, hold, hnew, ha, hverdict, ?_, ?_, ?_⟩
  · rw [hcategory]
    decide +kernel
  · exact (hitems _).2 (Or.inr ⟨_, .hint hpair (by decide)⟩)
  · exact (hitems _).2 (Or.inr ⟨_, .returns (by decide)⟩)

end Signature

end ChangeReview
