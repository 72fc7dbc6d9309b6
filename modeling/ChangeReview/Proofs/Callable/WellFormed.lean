import Mathlib.Data.List.Pairwise
import ChangeReview.Proofs.Callable.Lookup

/-!
# Well-formed functions

What the grammar promises of a parameter list: kinds stand in a fixed order with at most one collector
of each sort, and no positional parameter without a default follows one with a default. Names are
distinct besides, which the grammar leaves to the callers.

A call cannot go without the required positional-only parameters. They stand first, and `forced`
counts them.
-/

namespace ChangeReview

namespace ParameterKind

/-- Where a kind stands in a parameter list. -/
def rank : ParameterKind → ℕ
  | .positionalOnly => 0
  | .positionalOrKeyword => 1
  | .variadicPositional => 2
  | .keywordOnly => 3
  | .variadicKeyword => 4

/-- A parameter of the first kind may stand before one of the second. -/
def MayPrecede (k l : ParameterKind) : Prop := k.rank < l.rank ∨ (k = l ∧ k.isVariadic = false)

instance : DecidableRel MayPrecede := fun k l => by unfold MayPrecede; infer_instance

theorem isPositional_iff {k : ParameterKind} :
    k.isPositional = true ↔ k = .positionalOnly ∨ k = .positionalOrKeyword := by
  cases k <;> decide

theorem isKeyword_iff {k : ParameterKind} :
    k.isKeyword = true ↔ k = .positionalOrKeyword ∨ k = .keywordOnly := by
  cases k <;> decide

/-! A fixed kind is known by the two ways in which it is given. -/

theorem eq_positionalOrKeyword {k : ParameterKind} (hpos : k.isPositional = true)
    (hkey : k.isKeyword = true) : k = .positionalOrKeyword := by
  revert hpos hkey
  cases k <;> decide

theorem eq_positionalOnly {k : ParameterKind} (hfixed : k.isVariadic = false)
    (hkey : ¬ k.isKeyword = true) : k = .positionalOnly := by
  revert hfixed hkey
  cases k <;> decide

theorem eq_keywordOnly {k : ParameterKind} (hfixed : k.isVariadic = false)
    (hpos : ¬ k.isPositional = true) : k = .keywordOnly := by
  revert hfixed hpos
  cases k <;> decide

theorem fixed_of_isPositional {k : ParameterKind} (hpos : k.isPositional = true) :
    k.isVariadic = false := by
  revert hpos
  cases k <;> decide

end ParameterKind

theorem Parameter.isRequired_iff {p : Parameter} :
    p.isRequired = true ↔ p.kind.isVariadic = false ∧ p.default = none := by
  unfold Parameter.isRequired
  simp

namespace Callable

variable {f : Callable} {p q : Parameter} {i j : ℕ}

/-- The names of a function are distinct and its parameters stand as the grammar has them. -/
structure WellFormed (f : Callable) : Prop where
  distinct : f.names.Nodup
  ordered : f.parameters.Pairwise fun p q => p.kind.MayPrecede q.kind
  trailing : f.positionals.Pairwise fun p q => p.default.isSome = true → q.default.isSome = true

/-- There is one collector of each sort at most. -/
theorem WellFormed.collector_unique (hf : f.WellFormed) (hp : p ∈ f.parameters)
    (hq : q ∈ f.parameters) (hk : p.kind = q.kind) (hv : p.kind.isVariadic = true) : p = q := by
  by_contra hne
  have hsymm : ¬ (p.kind.MayPrecede q.kind ∨ q.kind.MayPrecede p.kind) := by
    rw [← hk]
    unfold ParameterKind.MayPrecede
    simp [hv]
  refine hsymm ?_
  exact List.Pairwise.forall_of_forall_of_flip (R := fun p q : Parameter =>
      p ≠ q → p.kind.MayPrecede q.kind ∨ q.kind.MayPrecede p.kind)
    (fun x _ h => absurd rfl h) (hf.ordered.imp fun h _ => Or.inl h)
    (hf.ordered.imp fun h _ => Or.inr h) hp hq hne

/-! ## What a call must give by position -/

/-- In a list whose members with `P` come first, they stand at the places below their number. -/
theorem lt_countP_iff {α : Type} {P : α → Bool} {l : List α}
    (hl : l.Pairwise fun a b => P b = true → P a = true) {i : ℕ} {a : α} (hi : l[i]? = some a) :
    i < l.countP P ↔ P a = true := by
  induction l generalizing i with
  | nil => simp at hi
  | cons b l ih =>
    rw [List.pairwise_cons] at hl
    cases hb : P b with
    | true =>
      rw [List.countP_cons_of_pos hb]
      cases i with
      | zero =>
        rw [List.getElem?_cons_zero, Option.some.injEq] at hi
        simp [← hi, hb]
      | succ i =>
        rw [List.getElem?_cons_succ] at hi
        rw [Nat.add_lt_add_iff_right, ih hl.2 hi]
    | false =>
      -- nothing after `b` has `P` either
      have hall : ∀ c ∈ b :: l, ¬ P c = true := by
        rintro c (_ | ⟨_, hc⟩)
        · simp [hb]
        · intro h
          rw [hl.1 c hc h] at hb
          cases hb
      rw [List.countP_eq_zero.2 hall]
      simpa using hall a (List.mem_of_getElem? hi)

/-- The number of required positional-only parameters. -/
def forced (f : Callable) : ℕ :=
  f.parameters.countP fun p => p.isRequired && p.kind == .positionalOnly

theorem forced_eq_positionals :
    f.forced = f.positionals.countP fun p => p.isRequired && p.kind == .positionalOnly := by
  unfold forced positionals
  rw [List.countP_filter]
  refine List.countP_congr fun p _ => ?_
  simp only [Bool.and_eq_true, beq_iff_eq, ParameterKind.isPositional_iff]
  tauto

theorem forced_le_length : f.forced ≤ f.positionals.length := by
  rw [forced_eq_positionals]; exact List.countP_le_length

/-- The forced places are those of the required positional-only parameters. -/
theorem WellFormed.lt_forced_iff (hf : f.WellFormed) (hi : f.positionals[i]? = some p) :
    i < f.forced ↔ p.isRequired = true ∧ p.kind = .positionalOnly := by
  have hfirst : f.positionals.Pairwise fun p q =>
      (q.isRequired && q.kind == .positionalOnly) = true →
        (p.isRequired && p.kind == .positionalOnly) = true := by
    have hsub : f.positionals.Pairwise fun p q => p.kind.MayPrecede q.kind :=
      hf.ordered.sublist List.filter_sublist
    refine (hsub.and hf.trailing).imp ?_
    intro p q ⟨hpq, hdef⟩ hq
    simp only [Bool.and_eq_true, beq_iff_eq, Parameter.isRequired_iff] at hq ⊢
    obtain ⟨⟨-, hnone⟩, hkind⟩ := hq
    have hp : p.kind = .positionalOnly := by
      rw [hkind] at hpq
      revert hpq
      cases p.kind <;> decide
    refine ⟨⟨by rw [hp]; rfl, ?_⟩, hp⟩
    by_contra hsome
    have := hdef (Option.ne_none_iff_isSome.1 hsome)
    rw [hnone] at this
    cases this
  rw [forced_eq_positionals, lt_countP_iff hfirst hi, Bool.and_eq_true, beq_iff_eq]

end Callable

end ChangeReview
