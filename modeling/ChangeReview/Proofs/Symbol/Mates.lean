import Mathlib.Data.List.Nodup
import Mathlib.Data.List.Perm.Subperm
import Mathlib.Data.Prod.Basic

/-!
# Mates

Two items of two lists are mates under a relation if neither has another partner. Mates are told by
membership alone: an item of which there is a second copy has none, so no item is used twice, and
neither the order of the lists nor the side from which one looks matters.
-/

namespace ChangeReview

variable {α β : Type} {r : α → β → Bool} {xs xs' : List α} {ys ys' : List β} {x : α} {y : β}

/-- The only partner of `x`, if `x` is its only partner too. -/
def mate? (r : α → β → Bool) (xs : List α) (ys : List β) (x : α) : Option β :=
  match ys.filter (r x) with
  | [y] => if xs.countP (r · y) == 1 then some y else none
  | _ => none

/-- The pairs of mates, in the order of their left sides. -/
def mates (r : α → β → Bool) (xs : List α) (ys : List β) : List (α × β) :=
  xs.filterMap fun x => (mate? r xs ys x).map (x, ·)

theorem mate?_eq_some (hx : x ∈ xs) :
    mate? r xs ys x = some y ↔ xs.filter (r · y) = [x] ∧ ys.filter (r x) = [y] := by
  unfold mate?
  constructor
  · intro h
    rcases hy : ys.filter (r x) with _ | ⟨z, _ | ⟨w, rest⟩⟩
    · rw [hy] at h; cases h
    · rw [hy] at h
      simp only [beq_iff_eq, Option.ite_none_right_eq_some, Option.some.injEq] at h
      obtain ⟨hcount, rfl⟩ := h
      have hr : r x z = true := (List.mem_filter.1 (hy ▸ List.mem_singleton_self z)).2
      have hmem : x ∈ xs.filter (r · z) := List.mem_filter.2 ⟨hx, hr⟩
      rw [List.countP_eq_length_filter] at hcount
      obtain ⟨x₁, hx₁⟩ := List.length_eq_one_iff.1 hcount
      rw [hx₁, List.mem_singleton] at hmem
      exact ⟨hmem ▸ hx₁, rfl⟩
    · rw [hy] at h; cases h
  · rintro ⟨hxs, hys⟩
    rw [hys]
    simp [List.countP_eq_length_filter, hxs]

/-- A pair of mates: each is all that the other is related to. -/
theorem mem_mates :
    (x, y) ∈ mates r xs ys ↔ xs.filter (r · y) = [x] ∧ ys.filter (r x) = [y] := by
  unfold mates
  rw [List.mem_filterMap]
  constructor
  · rintro ⟨x', hx', h⟩
    obtain ⟨y', hy', heq⟩ := Option.map_eq_some_iff.1 h
    cases heq
    exact (mate?_eq_some hx').1 hy'
  · intro h
    have hx : x ∈ xs := (List.mem_filter.1 (h.1 ▸ List.mem_singleton_self x)).1
    exact ⟨x, hx, by rw [(mate?_eq_some hx).2 h]; rfl⟩

theorem related_of_mem_mates (h : (x, y) ∈ mates r xs ys) : x ∈ xs ∧ y ∈ ys ∧ r x y = true := by
  obtain ⟨hx, hy⟩ := mem_mates.1 h
  obtain ⟨hmem, hr⟩ := List.mem_filter.1 (hx ▸ List.mem_singleton_self x)
  exact ⟨hmem, (List.mem_filter.1 (hy ▸ List.mem_singleton_self y)).1, hr⟩

/-- An item that is related to the right side of a pair of mates is its left side. -/
theorem eq_of_mates_left {x' : α} (h : (x, y) ∈ mates r xs ys) (hx' : x' ∈ xs)
    (hr : r x' y = true) : x' = x := by
  have hmem : x' ∈ xs.filter (r · y) := List.mem_filter.2 ⟨hx', hr⟩
  rw [(mem_mates.1 h).1] at hmem
  exact List.mem_singleton.1 hmem

theorem eq_of_mates_right {y' : β} (h : (x, y) ∈ mates r xs ys) (hy' : y' ∈ ys)
    (hr : r x y' = true) : y' = y := by
  have hmem : y' ∈ ys.filter (r x) := List.mem_filter.2 ⟨hy', hr⟩
  rw [(mem_mates.1 h).2] at hmem
  exact List.mem_singleton.1 hmem

/-- The left sides of the mates are some of the items, in their order. -/
theorem map_fst_mates_sublist (r : α → β → Bool) (xs : List α) (ys : List β) :
    ((mates r xs ys).map Prod.fst).Sublist xs := by
  have h : (mates r xs ys).map Prod.fst = xs.filter fun x => (mate? r xs ys x).isSome := by
    unfold mates
    rw [List.map_filterMap, ← List.filterMap_eq_filter]
    apply List.filterMap_congr
    intro x _
    cases hx : mate? r xs ys x <;> simp [Option.guard, hx]
  rw [h]
  exact List.filter_sublist

/-- Mates of what the items stand for. -/
theorem mates_map {α' β' : Type} (f : α' → α) (g : β' → β) (xs : List α') (ys : List β') :
    (mates (fun x y => r (f x) (g y)) xs ys).map (Prod.map f g)
      = mates r (xs.map f) (ys.map g) := by
  unfold mates mate?
  rw [List.map_filterMap, List.filterMap_map]
  apply List.filterMap_congr
  intro x _
  simp only [Function.comp_apply, List.filter_map, List.countP_map]
  rcases h : ys.filter (fun y => r (f x) (g y)) with _ | ⟨y, _ | ⟨z, rest⟩⟩
  · simp [Function.comp_def, h]
  · by_cases hc : xs.countP (fun x => r (f x) (g y)) = 1 <;> simp [Function.comp_def, h, hc]
  · simp [Function.comp_def, h]

section Equality

variable [DecidableEq α]

/-- No item is the left side of two pairs of mates: a copy of it would be a second partner. -/
theorem nodup_map_fst_mates : ((mates r xs ys).map Prod.fst).Nodup := by
  rw [List.nodup_iff_count_le_one]
  intro x
  by_cases hx : x ∈ (mates r xs ys).map Prod.fst
  · obtain ⟨⟨x', y⟩, hmem, rfl⟩ := List.mem_map.1 hx
    calc ((mates r xs ys).map Prod.fst).count x'
        ≤ xs.count x' := (map_fst_mates_sublist r xs ys).count_le x'
      _ = (xs.filter (r · y)).count x' :=
          (List.count_filter (p := (r · y)) (related_of_mem_mates hmem).2.2).symm
      _ = 1 := by rw [(mem_mates.1 hmem).1, List.count_singleton_self]
  · rw [List.count_eq_zero_of_not_mem hx]
    exact Nat.zero_le 1

theorem mates_nodup : (mates r xs ys).Nodup := nodup_map_fst_mates.of_map _

/-- The order of the items does not matter. -/
theorem mates_perm (hx : xs.Perm xs') (hy : ys.Perm ys') :
    (mates r xs ys).Perm (mates r xs' ys') := by
  rw [List.perm_ext_iff_of_nodup mates_nodup mates_nodup]
  rintro ⟨x, y⟩
  have hleft : (xs.filter (r · y)).Perm (xs'.filter (r · y)) := hx.filter _
  have hright : (ys.filter (r x)).Perm (ys'.filter (r x)) := hy.filter _
  rw [mem_mates, mem_mates, ← List.perm_singleton, ← List.perm_singleton, ← List.perm_singleton,
    ← List.perm_singleton]
  exact and_congr ⟨hleft.symm.trans, hleft.trans⟩ ⟨hright.symm.trans, hright.trans⟩

/-- Seen from the other side, the mates are the same with their sides exchanged. -/
theorem mates_swap [DecidableEq β] (r : α → β → Bool) (xs : List α) (ys : List β) :
    (mates (fun y x => r x y) ys xs).Perm ((mates r xs ys).map Prod.swap) := by
  rw [List.perm_ext_iff_of_nodup mates_nodup (mates_nodup.map Prod.swap_injective)]
  rintro ⟨y, x⟩
  rw [mem_mates, List.mem_map]
  constructor
  · rintro ⟨hy, hx⟩
    exact ⟨(x, y), mem_mates.2 ⟨hx, hy⟩, rfl⟩
  · rintro ⟨⟨x', y'⟩, h, heq⟩
    cases heq
    exact (mem_mates.1 h).symm

end Equality

end ChangeReview
