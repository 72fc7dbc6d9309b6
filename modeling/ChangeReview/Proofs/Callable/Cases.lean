import Mathlib.Data.List.Basic
import ChangeReview.Callable.Assessment

/-!
# The reasons of a verdict

An assessment is taken apart once: `compatible_cases`, `breaking_cases` and `demand_cases` list the ways
in which a verdict or a category comes about, with everything that was checked on the way.
-/

namespace ChangeReview

theorem Verdict.all_eq_breaking {vs : List Verdict} :
    Verdict.all vs = .breaking ↔ .breaking ∈ vs := by
  unfold Verdict.all
  rw [List.contains_eq_mem]
  by_cases h : Verdict.breaking ∈ vs
  · simp [h]
  · simp only [h, decide_false, Bool.false_eq_true, if_false, iff_false]
    split <;> decide

theorem Verdict.all_eq_compatible {vs : List Verdict} :
    Verdict.all vs = .compatible ↔ ∀ v ∈ vs, v = .compatible := by
  unfold Verdict.all
  rw [List.contains_eq_mem]
  constructor
  · intro h
    split at h
    · cases h
    · split at h
      · rename_i hall
        intro v hv
        simpa using List.all_eq_true.1 hall v hv
      · cases h
  · intro h
    have hno : Verdict.breaking ∉ vs := fun hb => by cases h _ hb
    have hall : vs.all (· == .compatible) = true :=
      List.all_eq_true.2 fun v hv => by rw [h v hv]; decide
    simp [hno, hall]

namespace Assessment

variable {a b : Assessment} {as : List Assessment}

/-- Merging keeps verdict and category, or it makes a signature change that breaks nothing. -/
theorem merge_cases (a : Assessment) (as : List Assessment) :
    ((a.merge as).verdict = a.verdict ∧ (a.merge as).category = a.category) ∨
      (a.verdict ≠ .breaking ∧ (a.merge as).verdict ≠ .breaking ∧
        (a.merge as).category = .signatureChanged ∧
        ((a.merge as).verdict = .compatible → a.verdict = .compatible)) := by
  unfold merge
  by_cases hempty : as.isEmpty = true
  · rw [if_pos hempty]
    exact Or.inl ⟨rfl, rfl⟩
  · rw [if_neg hempty]
    dsimp only
    split
    · exact Or.inl ⟨rfl, rfl⟩
    · rename_i hkeeps
      refine Or.inr ⟨fun h => hkeeps (by simp [h]), ?_, rfl, ?_⟩
      · split <;> rintro ⟨⟩
      · intro h
        split at h
        · rename_i hall
          simpa using List.all_eq_true.1 hall a List.mem_cons_self
        · cases h

theorem merge_breaking : (a.merge as).verdict = .breaking ↔ a.verdict = .breaking := by
  rcases merge_cases a as with ⟨hv, -⟩ | ⟨ha, hm, -, -⟩
  · rw [hv]
  · exact iff_of_false hm ha

theorem compatible_of_merge (h : (a.merge as).verdict = .compatible) : a.verdict = .compatible := by
  rcases merge_cases a as with ⟨hv, -⟩ | ⟨-, -, -, himp⟩
  · rw [← hv, h]
  · exact himp h

theorem category_of_merge (h : (a.merge as).category = .requiredParameterAdded) :
    a.category = .requiredParameterAdded := by
  rcases merge_cases a as with ⟨-, hc⟩ | ⟨-, -, hc, -⟩
  · rw [← hc, h]
  · rw [hc] at h; cases h

/-- An assessment that breaks nothing and demands nothing. -/
def Mild (a : Assessment) : Prop := a.verdict ≠ .breaking ∧ a.category ≠ .requiredParameterAdded

theorem combine_mild (h : ∀ c ∈ b :: as, c.Mild) : (combine b as).Mild := by
  unfold combine
  dsimp only
  split
  · exact h b List.mem_cons_self
  · refine ⟨?_, by rintro ⟨⟩⟩
    show Verdict.all ((b :: as).map (·.verdict)) ≠ .breaking
    rw [Ne, Verdict.all_eq_breaking, List.mem_map]
    rintro ⟨c, hc, hv⟩
    exact (h c hc).1 hv

end Assessment

namespace Callable

variable {f g : Callable} {a : Assessment}

theorem parameterSyntax_mild {shown : Text} {p q : Parameter}
    (ha : a ∈ parameterSyntax shown p q) : a.Mild := by
  unfold parameterSyntax at ha
  rcases List.mem_append.1 ha with ha | ha
  · split at ha
    · rw [List.mem_singleton.1 ha]; exact ⟨by rintro ⟨⟩, by rintro ⟨⟩⟩
    · split at ha
      · rw [List.mem_singleton.1 ha]; exact ⟨by rintro ⟨⟩, by rintro ⟨⟩⟩
      · cases ha
    · cases ha
  · split at ha
    · rw [List.mem_singleton.1 ha]; exact ⟨by rintro ⟨⟩, by rintro ⟨⟩⟩
    · cases ha

theorem surroundingSyntax_mild (ha : a ∈ surroundingSyntax f g) : a.Mild := by
  unfold surroundingSyntax at ha
  simp only [List.mem_append] at ha
  rcases ha with (ha | ha) | ha <;> split at ha
  all_goals first
    | (rw [List.mem_singleton.1 ha]; exact ⟨by rintro ⟨⟩, by rintro ⟨⟩⟩)
    | cases ha

theorem retainedSyntax_mild (ha : a ∈ retainedSyntax f g) : a.Mild := by
  unfold retainedSyntax at ha
  rcases List.mem_append.1 ha with ha | ha
  · obtain ⟨x, -, ha⟩ := List.mem_flatMap.1 ha
    split at ha
    · exact parameterSyntax_mild ha
    · cases ha
  · exact surroundingSyntax_mild ha

theorem assessKinds_verdict (changes : List KindChange) :
    (assessKinds f g changes).verdict =
      if kindsBreakCalls f g then .breaking else Verdict.all (g.kindOutcomes changes) := rfl

theorem assessRemoval_verdict (removed : List Text) :
    (assessRemoval f g removed).verdict =
      if !(kindChanges f g).isEmpty && kindsBreakCalls f g then .breaking
      else Verdict.all (removalVerdict f g removed :: g.kindOutcomes (kindChanges f g)) := rfl

theorem kindOutcomes_nil : g.kindOutcomes [] = [] := rfl

/-- The added parameters that must be given. -/
def requiredNames (f g : Callable) : List Text :=
  (removedNames g f).filter fun name => g.at? name (·.isRequired)

/-- An added parameter takes a positional argument. -/
def addsPositional (f g : Callable) : Bool :=
  (removedNames g f).any fun name => g.at? name (·.kind.isPositional)

/-- A parameter that a keyword binds has another name in its place. -/
def renamesKeyword (f g : Callable) : Bool :=
  (f.parameters.zip g.parameters).any fun (p, q) => p.name != q.name && p.kind.isKeyword

/-! ## Compatible -/

/-- The kinds changed compatibly, by themselves and together. -/
structure KindsCompatible (f g : Callable) : Prop where
  shape : kindChanges f g ≠ [] → kindsBreakCalls f g = false
  outcomes : ∀ v ∈ g.kindOutcomes (kindChanges f g), v = .compatible

/-- How a change comes to be compatible. -/
inductive CompatibleCase (f g : Callable) : Prop where
  | removal (hadded : removedNames g f = [])
      (hverdict : removalVerdict f g (removedNames f g) = .compatible)
      (hkinds : KindsCompatible f g)
  | addition (hremoved : removedNames f g = []) (hdemands : demanded f g (requiredNames f g) = [])
      (hplaces : placeChanges f g = [])
      (hpositional : addsPositional f g = true →
        kindsBreakCalls f g = false ∧ claimsKeyword f g (removedNames g f) = false)
      (hkinds : KindsCompatible f g)
  | renamed (hsame : sameKinds f g = true) (hplaces : placeChanges f g = [])
      (hnames : renamesKeyword f g = false) (hother : otherSyntaxDiffers f g = false)
  | kinds (hremoved : removedNames f g = []) (hadded : removedNames g f = [])
      (hchanged : kindChanges f g ≠ []) (hkinds : KindsCompatible f g)
  | order (hremoved : removedNames f g = []) (hadded : removedNames g f = [])
      (hkinds : kindChanges f g = [])
      (hnames : f.names = g.names ∨ f.positionalNames = g.positionalNames)

theorem kindsCompatible_of_assessKinds
    (h : (assessKinds f g (kindChanges f g)).verdict = .compatible) : KindsCompatible f g := by
  rw [assessKinds_verdict] at h
  split at h
  · cases h
  · rename_i hbreaks
    exact ⟨fun _ => Bool.eq_false_iff.2 hbreaks, Verdict.all_eq_compatible.1 h⟩

theorem removal_compatible (hadded : removedNames g f = [])
    (h : (assessRemoval f g (removedNames f g)).verdict = .compatible) : CompatibleCase f g := by
  rw [assessRemoval_verdict] at h
  split at h
  · cases h
  · rename_i hbreaks
    have hall := Verdict.all_eq_compatible.1 h
    refine .removal hadded (hall _ List.mem_cons_self) ⟨fun hne => ?_, fun v hv => ?_⟩
    · simpa [hne] using hbreaks
    · exact hall v (List.mem_cons_of_mem _ hv)

theorem addition_compatible (hremoved : removedNames f g = [])
    (h : (assessAddition f g (removedNames g f)).verdict = .compatible) : CompatibleCase f g := by
  unfold assessAddition at h
  dsimp only at h
  split at h
  · cases h
  rename_i hdemands
  split at h
  · cases h
  rename_i hplaces
  split at h
  · cases h
  rename_i hpositional
  have hkinds : KindsCompatible f g := by
    split at h
    · exact kindsCompatible_of_assessKinds h
    · rename_i hnone
      have hnil : kindChanges f g = [] := by simpa using hnone
      refine ⟨fun hne => absurd hnil hne, ?_⟩
      rw [hnil, kindOutcomes_nil]
      rintro v ⟨⟩
  refine .addition hremoved (by simpa [requiredNames] using hdemands) (by simpa using hplaces) ?_ hkinds
  intro hadds
  unfold addsPositional at hadds
  rw [hadds, Bool.true_and] at hpositional
  simp only [Bool.or_eq_true, not_or, Bool.not_eq_true] at hpositional
  exact ⟨hpositional.2.1, hpositional.2.2⟩

theorem replacement_compatible {removed added : List Text}
    (h : (assessReplacement f g removed added).verdict = .compatible) : CompatibleCase f g := by
  unfold assessReplacement at h
  dsimp only at h
  split at h
  · cases h
  split at h
  · rename_i hsame
    unfold assessRenaming at h
    dsimp only at h
    split at h
    · cases h
    split at h
    · cases h
    rename_i hplaces
    split at h
    · cases h
    rename_i hother
    have hnames : renamesKeyword f g = false := by
      unfold renamesKeyword
      split at h
      · cases h
      · rename_i hby
        simpa using hby
    refine .renamed hsame (by simpa using hplaces) hnames ?_
    unfold renamesKeyword at hnames
    rw [hnames] at hother
    simpa using hother
  split at h
  · cases h
  split at h
  · rename_i a ha
    unfold assessCompound? at ha
    dsimp only at ha
    split at ha
    · cases ha; cases h
    · split at ha
      · cases ha; cases h
      · cases ha
  · cases h

/-- **Compatible changes.** The ways to a compatible verdict. -/
theorem compatible_cases (h : (f.assess g).verdict = .compatible) :
    defaultsRemoved f g = [] ∧ CompatibleCase f g := by
  have h := Assessment.compatible_of_merge h
  unfold assessShape at h
  dsimp only at h
  split at h
  · cases h
  rename_i hdefaults
  refine ⟨by simpa using hdefaults, ?_⟩
  split at h
  · rename_i hcase
    simp only [Bool.and_eq_true, List.isEmpty_iff] at hcase
    exact removal_compatible hcase.2 h
  split at h
  · rename_i hcase
    simp only [Bool.and_eq_true, List.isEmpty_iff] at hcase
    exact addition_compatible hcase.1 h
  rename_i hnotremoval hnotaddition
  split at h
  · exact replacement_compatible h
  rename_i hremoved
  have hremoved : removedNames f g = [] := by simpa using hremoved
  have hadded : removedNames g f = [] := by simpa [hremoved] using hnotaddition
  split at h
  · rename_i hchanged
    exact .kinds hremoved hadded (by simpa using hchanged) (kindsCompatible_of_assessKinds h)
  rename_i hsame
  have hsame : kindChanges f g = [] := by simpa using hsame
  split at h
  · refine .order hremoved hadded hsame (Or.inr ?_)
    by_contra hne
    simp [sure, hne] at h
  · rename_i hnames
    exact .order hremoved hadded hsame (Or.inl (by simpa using hnames))

/-! ## Breaking -/

/-- The new function requires more parameters than the old one, or an added keyword. -/
def demandsMore (f g : Callable) : Bool :=
  f.parameters.countP (·.isRequired) < g.parameters.countP (·.isRequired)
    || ((requiredNames f g).any fun name => g.at? name (·.kind == .keywordOnly))

/-- The kinds changed in a way that breaks calls, by themselves or together. -/
def KindsBreak (f g : Callable) : Prop :=
  kindsBreakCalls f g = true ∨ .breaking ∈ g.kindOutcomes (kindChanges f g)

/-- How a change comes to be breaking. -/
inductive BreakingCase (f g : Callable) : Prop where
  | undefaulted (h : defaultsRemoved f g ≠ [])
  | removal (hadded : removedNames g f = [])
      (h : removalVerdict f g (removedNames f g) = .breaking ∨ KindsBreak f g)
  | demand (h : demanded f g (requiredNames f g) ≠ [])
  | shift (h : placeChanges f g ≠ [])
  | insertion (hremoved : removedNames f g = []) (h : addsPositional f g = true)
  | kinds (hremoved : removedNames f g = []) (h : KindsBreak f g)
  | variadic (h : losesVariadic f g = true)
  | renamed (h : sameKinds f g = true)
  | surplus (h : demandsMore f g = true)
  | capacity (hrest : g.hasKind .variadicPositional = false)
      (h : g.positionals.length < f.positionals.length)
  | keyword (hrest : g.hasKind .variadicKeyword = false) {x : Text}
      (hx : x ∈ removedNames f g) (h : f.at? x (·.kind.isKeyword) = true)
  | order (hremoved : removedNames f g = []) (hadded : removedNames g f = [])
      (hkinds : kindChanges f g = []) (h : f.positionalNames ≠ g.positionalNames)

theorem kindsBreak_of_assessKinds
    (h : (assessKinds f g (kindChanges f g)).verdict = .breaking) : KindsBreak f g := by
  rw [assessKinds_verdict] at h
  split at h
  · rename_i hbreaks
    exact Or.inl hbreaks
  · exact Or.inr (Verdict.all_eq_breaking.1 h)

theorem removal_breaking (hadded : removedNames g f = [])
    (h : (assessRemoval f g (removedNames f g)).verdict = .breaking) : BreakingCase f g := by
  refine .removal hadded ?_
  rw [assessRemoval_verdict] at h
  split at h
  · rename_i hbreaks
    exact Or.inr (Or.inl (Bool.and_eq_true_iff.1 hbreaks).2)
  · rcases List.mem_cons.1 (Verdict.all_eq_breaking.1 h) with hremoval | houtcome
    · exact Or.inl hremoval.symm
    · exact Or.inr (Or.inr houtcome)

theorem addition_breaking (hremoved : removedNames f g = [])
    (h : (assessAddition f g (removedNames g f)).verdict = .breaking) : BreakingCase f g := by
  unfold assessAddition at h
  dsimp only at h
  split at h
  · rename_i hdemands
    exact .demand (by simpa [requiredNames] using hdemands)
  split at h
  · rename_i hplaces
    exact .shift (by simpa using hplaces)
  split at h
  · rename_i hinsertion
    exact .insertion hremoved (Bool.and_eq_true_iff.1 hinsertion).1
  split at h
  · exact .kinds hremoved (kindsBreak_of_assessKinds h)
  · cases h

theorem compound_breaking {a : Assessment}
    (h : assessCompound? f g (removedNames f g) (removedNames g f) = some a) : BreakingCase f g := by
  unfold assessCompound? at h
  dsimp only at h
  split at h
  · rename_i hmore
    exact .surplus hmore
  split at h
  · rename_i hless
    rcases Bool.or_eq_true_iff.1 hless with hless | hless
    · simp only [Bool.and_eq_true, Bool.not_eq_true', decide_eq_true_eq] at hless
      exact .capacity hless.1 hless.2
    · simp only [Bool.and_eq_true, Bool.not_eq_true'] at hless
      obtain ⟨x, hx, hk⟩ : ∃ x ∈ removedNames f g, f.at? x (·.kind.isKeyword) = true := by
        simpa using hless.1
      exact .keyword hless.2 hx hk
  · cases h

theorem replacement_breaking
    (h : (assessReplacement f g (removedNames f g) (removedNames g f)).verdict = .breaking) :
    BreakingCase f g := by
  unfold assessReplacement at h
  dsimp only at h
  split at h
  · rename_i hvariadic
    exact .variadic hvariadic
  split at h
  · rename_i hsame
    exact .renamed hsame
  split at h
  · rename_i hplaces
    exact .shift (by simpa using hplaces)
  split at h
  · rename_i a ha
    exact compound_breaking ha
  · cases h

/-- **Breaking changes.** The ways to a breaking verdict. -/
theorem breaking_cases (h : (f.assess g).verdict = .breaking) : BreakingCase f g := by
  have h := Assessment.merge_breaking.1 h
  unfold assessShape at h
  dsimp only at h
  split at h
  · rename_i hdefaults
    exact .undefaulted (by simpa using hdefaults)
  split at h
  · rename_i hcase
    simp only [Bool.and_eq_true, List.isEmpty_iff] at hcase
    exact removal_breaking hcase.2 h
  split at h
  · rename_i hcase
    simp only [Bool.and_eq_true, List.isEmpty_iff] at hcase
    exact addition_breaking hcase.1 h
  rename_i hnotaddition
  split at h
  · exact replacement_breaking h
  rename_i hremoved
  have hremoved : removedNames f g = [] := by simpa using hremoved
  have hadded : removedNames g f = [] := by simpa [hremoved] using hnotaddition
  split at h
  · exact .kinds hremoved (kindsBreak_of_assessKinds h)
  rename_i hsame
  split at h
  · refine .order hremoved hadded (by simpa using hsame) fun heq => ?_
    simp [sure, heq] at h
  split at h
  · rename_i first rest hother
    refine absurd h (Assessment.combine_mild fun a ha => ?_).1
    exact retainedSyntax_mild (f := f) (g := g) (hother ▸ ha)
  · cases h

/-! ## Demands -/

theorem addition_demand
    (h : (assessAddition f g (removedNames g f)).category = .requiredParameterAdded) :
    demanded f g (requiredNames f g) ≠ [] := by
  unfold assessAddition at h
  dsimp only at h
  split at h
  · rename_i hdemands
    simpa [requiredNames] using hdemands
  split at h
  · cases h
  split at h
  · cases h
  split at h
  · cases h
  · cases h

theorem replacement_demand
    (h : (assessReplacement f g (removedNames f g) (removedNames g f)).category =
      .requiredParameterAdded) : demandsMore f g = true := by
  unfold assessReplacement at h
  dsimp only at h
  split at h
  · cases h
  split at h
  · unfold assessRenaming at h
    dsimp only at h
    split at h
    · cases h
    split at h
    · cases h
    split at h
    · cases h
    · cases h
  split at h
  · cases h
  split at h
  · rename_i a ha
    unfold assessCompound? at ha
    dsimp only at ha
    split at ha
    · rename_i hmore
      exact hmore
    · split at ha
      · cases ha; cases h
      · cases ha
  · cases h

/-- **Added demands.** The two ways to the category of an added required parameter. -/
theorem demand_cases (h : (f.assess g).category = .requiredParameterAdded) :
    demanded f g (requiredNames f g) ≠ [] ∨ demandsMore f g = true := by
  have h := Assessment.category_of_merge h
  unfold assessShape at h
  dsimp only at h
  split at h
  · cases h
  split at h
  · cases h
  split at h
  · exact Or.inl (addition_demand h)
  split at h
  · exact Or.inr (replacement_demand h)
  split at h
  · cases h
  split at h
  · cases h
  split at h
  · rename_i first rest hother
    refine absurd h (Assessment.combine_mild fun a ha => ?_).2
    exact retainedSyntax_mild (f := f) (g := g) (hother ▸ ha)
  · cases h

end Callable

end ChangeReview
