import Mathlib.Data.List.Forall2
import ChangeReview.Session.Basic

/-!
# Running actions

An action that gives a result has given one at each of its steps, each from the session that the step
before it left.
-/

namespace ChangeReview

/-- The language of a path has a grammar. -/
theorem Path.language?_ne_other {path : Text} {language : Language} (h : Path.language? path = some language)
    (name : Text) : language ≠ .other name := by
  rintro rfl
  unfold Path.language? at h
  dsimp only at h
  repeat' split at h
  all_goals cases h

theorem Dialect.exists_select {language : Language} (h : ∀ name, language ≠ .other name)
    (path : Option Text) : ∃ dialect, Dialect.select language path = .ok dialect := by
  cases language with
  | other name => exact absurd rfl (h name)
  | _ => exact ⟨_, rfl⟩

namespace Action

variable {α β γ δ : Type} {s r t : Session}

theorem on_pure (a : α) (s : Session) : (pure a : Action α).on s = (.ok a, s) := rfl

theorem on_bind {x : Action α} {f : α → Action β} {a : α} (h : x.on s = (.ok a, r)) :
    (x >>= f).on s = (f a).on r := by
  unfold Action.on at h ⊢
  simp only [bind, ExceptT.bind, ExceptT.mk, ExceptT.bindCont, StateT.bind, h]

theorem on_bind_error {x : Action α} {f : α → Action β} {e : Failure} (h : x.on s = (.error e, r)) :
    (x >>= f).on s = (.error e, r) := by
  unfold Action.on at h ⊢
  simp only [bind, ExceptT.bind, ExceptT.mk, ExceptT.bindCont, StateT.bind, h]
  rfl

theorem exists_of_on_bind {x : Action α} {f : α → Action β} {b : β}
    (h : (x >>= f).on s = (.ok b, t)) : ∃ a r, x.on s = (.ok a, r) ∧ (f a).on r = (.ok b, t) := by
  rcases hx : x.on s with ⟨_ | a, r⟩
  · unfold Action.on at h hx
    simp only [bind, ExceptT.bind, ExceptT.mk, ExceptT.bindCont, StateT.bind, hx] at h
    cases h
  · exact ⟨a, r, rfl, (on_bind hx).symm.trans h⟩

theorem on_eq {x : Action α} {a : α} (h : (x.on s).1 = .ok a) : x.on s = (.ok a, (x.on s).2) := Prod.ext h rfl

theorem on_bind_pure (x : Action α) (f : α → β) (s : Session) :
    ((x >>= fun a => pure (f a)).on s).1 = (x.on s).1.map f := by
  rcases h : x.on s with ⟨e | a, r⟩
  · rw [on_bind_error h]
    rfl
  · rw [on_bind h]
    rfl

theorem on_lift (x : Except Failure α) (s : Session) : (liftM x : Action α).on s = (x, s) := by
  cases x <;> rfl

theorem on_lift_of_eq {x y : Except Failure α} (h : x = y) (s : Session) :
    (liftM x : Action α).on s = (y, s) := by rw [on_lift, h]

theorem on_parse {source : Text} {bytes : Bytes} (h : source.encode = .ok bytes) (dialect : Dialect)
    (s : Session) : (parse dialect source).on s
      = (.ok (s.trees.tree dialect source bytes, bytes), { s with dialects := s.dialects ++ [dialect] }) := by
  rw [parse, on_bind (on_lift_of_eq h s)]
  rfl

theorem length_of_mapM {f : α → Action β} {xs : List α} {bs : List β} (h : (xs.mapM f).on s = (.ok bs, t)) :
    bs.length = xs.length := by
  induction xs generalizing s bs with
  | nil =>
    cases h
    rfl
  | cons x xs ih =>
    rw [List.mapM_cons] at h
    obtain ⟨b, r, -, h⟩ := exists_of_on_bind h
    obtain ⟨bs', q, hbs, h⟩ := exists_of_on_bind h
    cases h
    rw [List.length_cons, List.length_cons, ih hbs]

/-- What each step gives of its item, a run over a list gives of all items. -/
theorem forall₂_of_mapM {f : α → Action β} {R : α → β → Prop}
    (hstep : ∀ x s t b, (f x).on s = (.ok b, t) → R x b) {xs : List α} {bs : List β}
    (h : (xs.mapM f).on s = (.ok bs, t)) : List.Forall₂ R xs bs := by
  induction xs generalizing s bs with
  | nil =>
    cases h
    exact .nil
  | cons x xs ih =>
    rw [List.mapM_cons] at h
    obtain ⟨b, r, hb, h⟩ := exists_of_on_bind h
    obtain ⟨bs', q, hbs, h⟩ := exists_of_on_bind h
    cases h
    exact .cons (hstep x s r b hb) (ih hbs)

/-- If each step of one action can be followed by a step of another from and to the same session, so
can its run over a list. -/
theorem exists_mapM_of_mapM {f : α → Action β} {g : α → Action γ} {R : β → γ → Prop}
    (hstep : ∀ x s t b, (f x).on s = (.ok b, t) → ∃ c, (g x).on s = (.ok c, t) ∧ R b c)
    {xs : List α} {bs : List β} (h : (xs.mapM f).on s = (.ok bs, t)) :
    ∃ cs, (xs.mapM g).on s = (.ok cs, t) ∧ List.Forall₂ R bs cs := by
  induction xs generalizing s bs with
  | nil =>
    cases h
    exact ⟨[], rfl, .nil⟩
  | cons x xs ih =>
    rw [List.mapM_cons] at h
    obtain ⟨b, r, hb, h⟩ := exists_of_on_bind h
    obtain ⟨bs', q, hbs, h⟩ := exists_of_on_bind h
    cases h
    obtain ⟨c, hc, hbc⟩ := hstep x s r b hb
    obtain ⟨cs, hcs, hall⟩ := ih hbs
    refine ⟨c :: cs, ?_, .cons hbc hall⟩
    rw [List.mapM_cons, on_bind hc, on_bind hcs, on_pure]

end Action

end ChangeReview
