import Mathlib.Data.List.Pairwise
import ChangeReview.Declaration.Reader

/-!
# What a parsed parameter list is like

A parser is followed by what it yields: `Yields m P` says that every value `m` reads has `P`. For the
parameter list of a declaration this gives that no positional parameter without a default follows one
with a default.
-/

namespace ChangeReview.Declaration

namespace Parser

/-- Whatever `m` reads has `P`. -/
def Yields {α : Type} (m : Parser α) (P : α → Prop) : Prop :=
  ∀ (ts : List Token) (r : α × List Token), m ts = some r → P r.1

variable {α β : Type} {P : α → Prop} {Q : β → Prop}

theorem Yields.pure {a : α} (h : P a) : Yields (pure a : Parser α) P := by
  intro ts r hr
  cases hr
  exact h

theorem Yields.refuse : Yields (refuse : Parser α) P := by
  intro ts r hr
  cases hr

theorem Yields.bind {m : Parser α} {k : α → Parser β} (hm : Yields m P)
    (hk : ∀ a, P a → Yields (k a) Q) : Yields (m >>= k) Q := by
  intro ts r hr
  have hr : (m ts).bind (fun s => k s.1 s.2) = some r := hr
  obtain ⟨⟨a, us⟩, ha, hr⟩ := Option.bind_eq_some_iff.1 hr
  exact hk a (hm ts _ ha) us r hr

/-- A step whose value does not matter. -/
theorem Yields.after {m : Parser α} {k : α → Parser β} (hk : ∀ a, Yields (k a) Q) :
    Yields (m >>= k) Q :=
  Yields.bind (P := fun _ => True) (fun _ _ _ => trivial) fun a _ => hk a

theorem Yields.ite {b : Prop} [Decidable b] {m n : Parser α} (hm : b → Yields m P)
    (hn : ¬ b → Yields n P) : Yields (if b then m else n) P := by
  by_cases h : b
  · rw [if_pos h]; exact hm h
  · rw [if_neg h]; exact hn h

end Parser

namespace ParameterList

open ChangeReview.Declaration.Parser

/-- No positional parameter without a default comes after one with a default. -/
def Orderly (l : ParameterList) : Prop :=
  (l.positionalOnly ++ l.positional).Pairwise fun p q =>
    p.default.isSome = true → q.default.isSome = true

theorem orderly_nil : Orderly {} := List.Pairwise.nil

variable {rules : Rules} {style : Style}

theorem keywordRest_yields {l : ParameterList} (hl : l.Orderly) :
    Yields (keywordRest rules style l) Orderly := by
  unfold keywordRest
  refine Yields.after fun _ => Yields.after fun p => Yields.after fun _ => Yields.after fun _ => ?_
  exact Yields.ite (fun _ => Yields.pure hl) fun _ => Yields.refuse

theorem afterStar_yields {l : ParameterList} (hl : l.Orderly) (steps : ℕ) :
    Yields (afterStar rules style steps l) Orderly := by
  induction steps generalizing l with
  | zero => exact Yields.refuse
  | succ steps ih =>
    unfold afterStar
    refine Yields.after fun _ => Yields.ite (fun _ => Yields.pure hl) fun _ => ?_
    refine Yields.after fun _ => Yields.ite (fun _ => keywordRest_yields hl) fun _ => ?_
    refine Yields.after fun _ => Yields.after fun p => Yields.after fun _ => ?_
    exact ih hl

theorem star_yields {l : ParameterList} (hl : l.Orderly) (steps : ℕ) :
    Yields (star rules style steps l) Orderly := by
  unfold star
  refine Yields.after fun _ => Yields.after fun _ => Yields.ite (fun _ => ?_) fun _ => ?_
  · exact Yields.after fun _ => Yields.ite (fun _ => afterStar_yields hl steps) fun _ => Yields.refuse
  · refine Yields.after fun p => Yields.after fun _ => ?_
    have hrest : Orderly { l with rest := some p } := hl
    exact afterStar_yields hrest steps

/-- One more positional parameter keeps the order if it has a default or none before it has. -/
theorem Orderly.push {l : ParameterList} (hl : l.Orderly) {p : Declared}
    (hp : ¬ (p.default.isNone && l.hasDefaults) = true) :
    Orderly { l with positional := l.positional ++ [p] } := by
  show (l.positionalOnly ++ (l.positional ++ [p])).Pairwise _
  rw [← List.append_assoc, List.pairwise_append]
  refine ⟨hl, List.pairwise_singleton _ _, ?_⟩
  intro q hq r hr hdefault
  rw [List.mem_singleton] at hr
  subst hr
  unfold hasDefaults at hp
  by_contra hnone
  refine hp ?_
  rw [Bool.and_eq_true, List.any_eq_true]
  exact ⟨by simpa using hnone, q, hq, hdefault⟩

theorem positionals_yields {l : ParameterList} (hl : l.Orderly) (steps : ℕ) :
    Yields (positionals rules style steps l) Orderly := by
  induction steps generalizing l with
  | zero => exact Yields.refuse
  | succ steps ih =>
    unfold positionals
    refine Yields.after fun _ => Yields.ite (fun _ => Yields.pure hl) fun _ => ?_
    refine Yields.after fun _ => Yields.ite (fun _ => keywordRest_yields hl) fun _ => ?_
    refine Yields.after fun _ => Yields.ite (fun _ => star_yields hl steps) fun _ => ?_
    refine Yields.after fun _ => Yields.ite (fun _ => ?_) fun _ => ?_
    · refine Yields.ite (fun _ => Yields.refuse) fun hslash => ?_
      refine Yields.after fun _ => Yields.after fun _ => ih ?_
      -- the slash only renames what was read so far
      have hnone : l.positionalOnly = [] := by
        rw [Bool.or_eq_true, not_or] at hslash
        simpa using hslash.2
      unfold Orderly at hl ⊢
      rwa [hnone, List.nil_append, ← List.append_nil l.positional] at hl
    · refine Yields.after fun _ => Yields.after fun p => Yields.after fun _ => ?_
      exact Yields.ite (fun _ => Yields.refuse) fun hp => ih (hl.push hp)

theorem read_yields : Yields (read rules style) Orderly := by
  unfold read
  exact Yields.after fun _ => positionals_yields orderly_nil _

end ParameterList

open ChangeReview.Declaration.Parser

/-- The parameter list of a function is orderly. -/
def HasOrderly (d : Declaration) : Prop :=
  ∀ form, d = .function form → form.parameters.Orderly

theorem Statement.function_yields {rules : Rules} {decorators : List Term} {isAsync : Bool} :
    Yields (Statement.function rules decorators isAsync) HasOrderly := by
  unfold Statement.function
  refine Yields.after fun _ => Yields.after fun name => Yields.after fun _ => ?_
  refine Yields.bind ParameterList.read_yields fun l hl => ?_
  have hend : ∀ returns, Yields (do
      operator ":"
      let body ← rules .block
      return .function { isAsync, name, parameters := l, returns, decorators, body }) HasOrderly := by
    intro returns
    refine Yields.after fun _ => Yields.after fun body => Yields.pure ?_
    rintro form ⟨⟩
    exact hl
  refine Yields.after fun _ => Yields.after fun _ => Yields.ite (fun _ => ?_) fun _ => ?_
  · exact Yields.after fun returns => hend returns
  · exact Yields.after fun returns => hend returns

theorem Statement.classOf_yields {rules : Rules} {decorators : List Term} :
    Yields (Statement.classOf rules decorators) HasOrderly := by
  unfold Statement.classOf
  have hend : ∀ (name : Text) (a : Expression.Arguments), Yields (do
      operator ":"
      let body ← rules .block
      return .classOf { name, bases := a.positional, keywords := a.keywords, decorators, body })
      HasOrderly := by
    intro name a
    refine Yields.after fun _ => Yields.after fun body => Yields.pure ?_
    rintro form ⟨⟩
  refine Yields.after fun _ => Yields.after fun name => Yields.after fun _ => ?_
  refine Yields.ite (fun _ => ?_) fun _ => ?_
  · exact Yields.after fun a => hend name a
  · exact Yields.after fun a => hend name a

theorem Statement.declaration_yields {rules : Rules} :
    Yields (Statement.declaration rules) HasOrderly := by
  unfold Statement.declaration
  refine Yields.after fun _ => Yields.after fun _ => ?_
  refine Yields.ite (fun _ => Statement.function_yields) fun _ => Yields.after fun _ => ?_
  exact Yields.ite (fun _ => Statement.function_yields) fun _ => Statement.classOf_yields

/-- A source that declares a function declares one with an orderly parameter list. -/
theorem orderly_of_read? {named? : Text → Option CodePoint} {source : Text} {d : Declaration}
    (h : read? named? source = some d) : HasOrderly d := by
  unfold read? at h
  simp only [Option.bind_eq_bind, Option.bind_eq_some_iff] at h
  obtain ⟨ts, -, ⟨d', rest⟩, hd, h⟩ := h
  have hyields := Statement.declaration_yields ts _ hd
  cases rest with
  | nil => cases h; exact hyields
  | cons t ts => cases h

end ChangeReview.Declaration
