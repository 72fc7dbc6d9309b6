import ChangeReview.Signature.Parameters

/-!
# Signatures that differ in defaults

Two signatures are said to differ in defaults only once a pair of parameters with two different defaults is
found. The parameters up to that pair have been compared without their defaults; those behind it have not.
-/

namespace ChangeReview.Signature

variable {pair : Text × Text} {pairs : List (Text × Text)}

/-- The two parameters are the same without their defaults. -/
def SameButDefault (pair : Text × Text) : Prop := withoutDefault pair.1 = withoutDefault pair.2

/-- Both parameters have a default, and not the same. -/
def DefaultChanged (pair : Text × Text) : Prop :=
  ∃ before after, defaultValue? pair.1 = some before ∧ defaultValue? pair.2 = some after ∧ before ≠ after

/-- The parameters of one list are those of the other without their defaults, and a default has changed. -/
structure DifferInDefaults (old new : List Text) : Prop where
  length_eq : old.length = new.length
  same : ∀ pair ∈ old.zip new, SameButDefault pair
  changed : ∃ pair ∈ old.zip new, DefaultChanged pair

/-! ## The comparison of pairs -/

/-- One step: a changed default answers, and otherwise the rest does. -/
theorem go_cons_iff :
    onlyDefaultsDiffer.go (pair :: pairs) = true ↔
      SameButDefault pair ∧ (DefaultChanged pair ∨ onlyDefaultsDiffer.go pairs = true) := by
  obtain ⟨old, new⟩ := pair
  rw [onlyDefaultsDiffer.go, Bool.and_eq_true, beq_iff_eq]
  refine and_congr_right fun _ => ?_
  unfold DefaultChanged
  cases defaultValue? old with
  | none => simp
  | some before =>
    cases defaultValue? new with
    | none => simp
    | some after => simp

/-- The answer is yes if some pair has a changed default, and all pairs up to it are the same without. -/
theorem go_iff_exists_split :
    onlyDefaultsDiffer.go pairs = true ↔ ∃ seen pair unseen, pairs = seen ++ pair :: unseen ∧
      (∀ p ∈ seen, SameButDefault p) ∧ SameButDefault pair ∧ DefaultChanged pair := by
  induction pairs with
  | nil => simp [onlyDefaultsDiffer.go]
  | cons first rest ih =>
    rw [go_cons_iff]
    constructor
    · rintro ⟨hsame, hchanged | hrest⟩
      · exact ⟨[], first, rest, rfl, List.forall_mem_nil _, hsame, hchanged⟩
      · obtain ⟨seen, pair, unseen, rfl, hseen, hpair⟩ := ih.1 hrest
        exact ⟨first :: seen, pair, unseen, rfl, List.forall_mem_cons.2 ⟨hsame, hseen⟩, hpair⟩
    · rintro ⟨seen, pair, unseen, hsplit, hseen, hsame, hchanged⟩
      cases seen with
      | nil =>
        obtain ⟨rfl, rfl⟩ := List.cons.inj hsplit
        exact ⟨hsame, Or.inl hchanged⟩
      | cons p seen =>
        obtain ⟨rfl, rfl⟩ := List.cons.inj hsplit
        obtain ⟨hp, hseen⟩ := List.forall_mem_cons.1 hseen
        exact ⟨hp, Or.inr (ih.2 ⟨seen, pair, unseen, rfl, hseen, hsame, hchanged⟩)⟩

theorem onlyDefaultsDiffer_iff_exists_split {old new : Text} :
    onlyDefaultsDiffer old new = true ↔ (parameters none old).length = (parameters none new).length ∧
      ∃ seen pair unseen, (parameters none old).zip (parameters none new) = seen ++ pair :: unseen ∧
        (∀ p ∈ seen, SameButDefault p) ∧ SameButDefault pair ∧ DefaultChanged pair := by
  rw [onlyDefaultsDiffer, Bool.and_eq_true, beq_iff_eq, go_iff_exists_split]

/-- The comparison reads up to a pair with a changed default. So it answers yes wherever the signatures
differ in defaults only, and a yes means that exactly if the pairs behind are the same too. -/
theorem onlyDefaultsDiffer_up_to_change (old new : Text) :
    (onlyDefaultsDiffer old new = true ↔ (parameters none old).length = (parameters none new).length ∧
      ∃ seen pair unseen, (parameters none old).zip (parameters none new) = seen ++ pair :: unseen ∧
        (∀ p ∈ seen, SameButDefault p) ∧ SameButDefault pair ∧ DefaultChanged pair) ∧
    (DifferInDefaults (parameters none old) (parameters none new) ↔ onlyDefaultsDiffer old new = true ∧
      ∀ p ∈ (parameters none old).zip (parameters none new), SameButDefault p) := by
  refine ⟨onlyDefaultsDiffer_iff_exists_split, ?_, ?_⟩
  · rintro ⟨hlength, hsame, pair, hpair, hchanged⟩
    obtain ⟨seen, unseen, hsplit⟩ := List.append_of_mem hpair
    have hseen : ∀ p ∈ seen, SameButDefault p := fun p hp => hsame p (hsplit ▸ List.mem_append_left _ hp)
    exact ⟨onlyDefaultsDiffer_iff_exists_split.2
      ⟨hlength, seen, pair, unseen, hsplit, hseen, hsame pair hpair, hchanged⟩, hsame⟩
  · rintro ⟨hyes, hsame⟩
    obtain ⟨hlength, seen, pair, unseen, hsplit, -, -, hchanged⟩ :=
      onlyDefaultsDiffer_iff_exists_split.1 hyes
    exact ⟨hlength, hsame, pair, hsplit ▸ by simp, hchanged⟩

/-- A parameter behind a changed default may be another one. -/
theorem other_parameter_behind_changed_default :
    onlyDefaultsDiffer "def f(a=1, b=2)" "def f(a=2, c=2)" = true ∧
      ¬ DifferInDefaults (parameters none "def f(a=1, b=2)") (parameters none "def f(a=2, c=2)") := by
  refine ⟨by decide +kernel, fun h => ?_⟩
  have hpair : ((("b=2" : Text), ("c=2" : Text)) : Text × Text)
      ∈ (parameters none "def f(a=1, b=2)").zip (parameters none "def f(a=2, c=2)") := by decide +kernel
  exact absurd (h.same _ hpair) (by unfold SameButDefault; decide +kernel)

end ChangeReview.Signature
