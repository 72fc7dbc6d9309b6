import ChangeReview.Proofs.Grouping
import ChangeReview.Text.Basic

/-!
# Stable sorting

Items that an order does not tell apart are on one level. Sorting keeps the items of each level in their given
order, and a sorted list is made up of its levels. So two lists with the same levels are sorted alike,
however their items are mixed. The order of texts by code point tells any two texts apart.
-/

namespace ChangeReview

/-! ## Levels -/

section Levels

variable {α : Type} {le : α → α → Bool}

/-- The items on the level of `a`. -/
def level (le : α → α → Bool) (a : α) (items : List α) : List α := items.filter fun b => le a b && le b a

theorem mem_level {a b : α} {items : List α} :
    b ∈ level le a items ↔ b ∈ items ∧ le a b = true ∧ le b a = true := by
  unfold level
  rw [List.mem_filter, Bool.and_eq_true]

/-- A sorted list is determined by its levels. -/
theorem eq_of_level_eq (hself : ∀ a, le a a = true) {xs ys : List α}
    (hxs : xs.Pairwise fun a b => le a b = true) (hys : ys.Pairwise fun a b => le a b = true)
    (h : ∀ a, level le a xs = level le a ys) : xs = ys := by
  have hmem : ∀ {items others : List α} {a : α}, (∀ a, level le a items = level le a others) →
      a ∈ items → a ∈ others := by
    intro items others a hlevel ha
    have : a ∈ level le a others := hlevel a ▸ mem_level.2 ⟨ha, hself a, hself a⟩
    exact (mem_level.1 this).1
  induction xs generalizing ys with
  | nil =>
    cases ys with
    | nil => rfl
    | cons y ys => cases hmem (fun a => (h a).symm) (List.mem_cons_self : y ∈ y :: ys)
  | cons x xs ih =>
    cases ys with
    | nil => cases hmem h (List.mem_cons_self : x ∈ x :: xs)
    | cons y ys =>
      obtain ⟨hx, hxs'⟩ := List.pairwise_cons.1 hxs
      obtain ⟨hy, hys'⟩ := List.pairwise_cons.1 hys
      -- Each of the two first items stands in the other list, so that both are on one level.
      have hyx : le y x = true := by
        rcases List.mem_cons.1 (hmem h List.mem_cons_self) with rfl | hin
        · exact hself x
        · exact hy x hin
      have hxy : le x y = true := by
        rcases List.mem_cons.1 (hmem (fun a => (h a).symm) List.mem_cons_self) with rfl | hin
        · exact hself y
        · exact hx y hin
      have hlevel := h x
      unfold level at hlevel
      rw [List.filter_cons_of_pos (by rw [hself x, Bool.and_self]),
        List.filter_cons_of_pos (by rw [hxy, hyx, Bool.and_self])] at hlevel
      obtain rfl := (List.cons.inj hlevel).1
      refine congrArg (x :: ·) (ih hxs' hys' fun a => ?_)
      have hrest := h a
      unfold level at hrest ⊢
      rw [List.filter_cons, List.filter_cons] at hrest
      split at hrest
      · exact (List.cons.inj hrest).2
      · exact hrest

variable (htrans : ∀ a b c, le a b = true → le b c = true → le a c = true)
  (htotal : ∀ a b, (le a b || le b a) = true)

include htrans htotal

theorem level_mergeSort (a : α) (items : List α) : level le a (items.mergeSort le) = level le a items := by
  have hsame : (level le a items).Pairwise fun b c => le b c = true := by
    refine List.pairwise_of_forall_mem_list fun b hb c hc => ?_
    exact htrans b a c (mem_level.1 hb).2.2 (mem_level.1 hc).2.1
  have hsub : (level le a items).Sublist (level le a (items.mergeSort le)) := by
    have hkept := (List.sublist_mergeSort htrans htotal hsame List.filter_sublist).filter
      fun b => le a b && le b a
    unfold level at hkept ⊢
    simpa only [List.filter_filter, Bool.and_self] using hkept
  have hlength : (level le a (items.mergeSort le)).length = (level le a items).length :=
    ((List.mergeSort_perm items le).filter _).length_eq
  exact (hsub.eq_of_length hlength.symm).symm

/-- Lists with the same levels are sorted alike. -/
theorem mergeSort_eq_of_level_eq {xs ys : List α} (h : ∀ a, level le a xs = level le a ys) :
    xs.mergeSort le = ys.mergeSort le := by
  have hself : ∀ a, le a a = true := fun a => by simpa using htotal a a
  refine eq_of_level_eq hself (List.pairwise_mergeSort htrans htotal xs)
    (List.pairwise_mergeSort htrans htotal ys) fun a => ?_
  rw [level_mergeSort htrans htotal, level_mergeSort htrans htotal, h]

end Levels

/-! ## The order of texts -/

namespace Text

theorem lt_cons {a b : CodePoint} {r s : Text} :
    lt (a :: r) (b :: s) = true ↔ a.val < b.val ∨ a = b ∧ lt r s = true := by
  rw [lt, Bool.or_eq_true, Bool.and_eq_true, decide_eq_true_eq, beq_iff_eq]
  constructor
  · rintro (h | ⟨h, h'⟩)
    · exact Or.inl h
    · exact Or.inr ⟨CodePoint.ext h, h'⟩
  · rintro (h | ⟨rfl, h⟩)
    · exact Or.inl h
    · exact Or.inr ⟨rfl, h⟩

theorem lt_irrefl (t : Text) : lt t t = false := by
  induction t with
  | nil => rfl
  | cons c r ih =>
    rw [Bool.eq_false_iff, ne_eq, lt_cons]
    rintro (h | ⟨-, h⟩)
    · exact Nat.lt_irrefl _ h
    · exact Bool.false_ne_true (ih.symm.trans h)

theorem lt_trans {t u v : Text} (htu : lt t u = true) (huv : lt u v = true) : lt t v = true := by
  induction t generalizing u v with
  | nil =>
    cases v with
    | nil => cases u <;> cases huv
    | cons c v => rfl
  | cons a r ih =>
    cases u with
    | nil => cases htu
    | cons b u =>
      cases v with
      | nil => cases huv
      | cons c v =>
        rw [lt_cons] at htu huv ⊢
        rcases htu with hab | ⟨rfl, hru⟩
        · rcases huv with hbc | ⟨rfl, -⟩
          · exact Or.inl (Nat.lt_trans hab hbc)
          · exact Or.inl hab
        · rcases huv with hbc | ⟨rfl, huv⟩
          · exact Or.inl hbc
          · exact Or.inr ⟨rfl, ih hru huv⟩

theorem lt_or_lt_of_ne {t u : Text} (h : t ≠ u) : lt t u = true ∨ lt u t = true := by
  induction t generalizing u with
  | nil =>
    cases u with
    | nil => exact absurd rfl h
    | cons b u => exact Or.inl rfl
  | cons a r ih =>
    cases u with
    | nil => exact Or.inr rfl
    | cons b u =>
      rw [lt_cons, lt_cons]
      rcases Nat.lt_trichotomy a.val b.val with hab | hab | hab
      · exact Or.inl (Or.inl hab)
      · obtain rfl := CodePoint.ext hab
        rcases ih (fun heq => h (by rw [heq])) with h' | h'
        · exact Or.inl (Or.inr ⟨rfl, h'⟩)
        · exact Or.inr (Or.inr ⟨rfl, h'⟩)
      · exact Or.inr (Or.inl hab)

theorem mem_distinct {t : Text} {ts : List Text} : t ∈ distinct ts ↔ t ∈ ts := by
  have h : t ∈ keysOf id ts ↔ t ∈ ts.map id := mem_keysOf
  rwa [List.map_id] at h

theorem nodup_distinct (ts : List Text) : (distinct ts).Nodup := keysOf_nodup id ts

theorem mem_sort {t : Text} {ts : List Text} : t ∈ sort ts ↔ t ∈ ts := List.mem_mergeSort

theorem nodup_sort {ts : List Text} : (sort ts).Nodup ↔ ts.Nodup := (List.mergeSort_perm ts le).nodup_iff

end Text

end ChangeReview
