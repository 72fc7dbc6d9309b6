import Mathlib.Data.List.Basic

/-!
# Results that may fail

A computation that may fail gives a result exactly if each of its steps does, and what its result is like
follows from what the results of its steps are like.
-/

namespace ChangeReview.Except

variable {ε α β : Type} {x : Except ε α} {f : α → Except ε β}

theorem isOk_iff : x.isOk = true ↔ ∃ a, x = .ok a := by
  cases x with
  | error e => simp [Except.isOk, Except.toBool]
  | ok a => simp [Except.isOk, Except.toBool]

theorem eq_ok_of_bind {b : β} (h : x >>= f = .ok b) : ∃ a, x = .ok a ∧ f a = .ok b := by
  cases x with
  | error e => cases h
  | ok a => exact ⟨a, rfl, h⟩

theorem isOk_bind (hx : x.isOk = true) (hf : ∀ a, x = .ok a → (f a).isOk = true) :
    (x >>= f).isOk = true := by
  obtain ⟨a, rfl⟩ := isOk_iff.1 hx
  exact hf a rfl

/-- A pass over a list gives what each item gives. -/
theorem mapM_eq_ok_iff {xs : List α} {ys : List β} : xs.mapM f = .ok ys ↔ xs.map f = ys.map Except.ok := by
  induction xs generalizing ys with
  | nil =>
    cases ys with
    | nil => exact iff_of_true rfl rfl
    | cons y ys => exact iff_of_false (fun h => nomatch h) (fun h => nomatch h)
  | cons x xs ih =>
    rw [List.mapM_cons, List.map_cons]
    constructor
    · intro h
      obtain ⟨first, hfirst, h⟩ := eq_ok_of_bind h
      obtain ⟨rest, hrest, h⟩ := eq_ok_of_bind h
      cases h
      rw [List.map_cons, hfirst, ih.1 hrest]
    · intro h
      cases ys with
      | nil => cases h
      | cons y ys =>
        rw [List.map_cons, List.cons.injEq] at h
        rw [h.1, ih.2 h.2]
        rfl

theorem isOk_mapM_iff {xs : List α} : (xs.mapM f).isOk = true ↔ ∀ x ∈ xs, (f x).isOk = true := by
  constructor
  · intro h x hx
    obtain ⟨ys, hys⟩ := isOk_iff.1 h
    have hmem : f x ∈ ys.map Except.ok := mapM_eq_ok_iff.1 hys ▸ List.mem_map_of_mem hx
    obtain ⟨y, -, hy⟩ := List.mem_map.1 hmem
    exact isOk_iff.2 ⟨y, hy.symm⟩
  · intro h
    induction xs with
    | nil => rfl
    | cons x xs ih =>
      obtain ⟨hx, hxs⟩ := List.forall_mem_cons.1 h
      rw [List.mapM_cons]
      exact isOk_bind hx fun _ _ => isOk_bind (ih hxs) fun _ _ => rfl

/-- Every result of the computation has the property. -/
def Gives (P : α → Prop) (x : Except ε α) : Prop := ∀ a, x = .ok a → P a

theorem gives_ok {P : α → Prop} {a : α} (h : P a) : Gives P (.ok a : Except ε α) := by
  intro b hb
  cases hb
  exact h

theorem gives_bind {P : β → Prop} (h : ∀ a, x = .ok a → Gives P (f a)) : Gives P (x >>= f) := by
  intro b hb
  obtain ⟨a, ha, hb⟩ := eq_ok_of_bind hb
  exact h a ha b hb

theorem gives_mapM {P : β → Prop} {xs : List α} (h : ∀ x ∈ xs, Gives P (f x)) :
    Gives (fun ys => ∀ y ∈ ys, P y) (xs.mapM f) := by
  intro ys hys y hy
  have hmem : Except.ok y ∈ xs.map f := mapM_eq_ok_iff.1 hys ▸ List.mem_map_of_mem hy
  obtain ⟨x, hx, hxy⟩ := List.mem_map.1 hmem
  exact h x hx y hxy

theorem isOk_map (g : α → β) : (x.map g).isOk = x.isOk := by cases x <;> rfl

end ChangeReview.Except
