import Mathlib.Data.List.Nodup
import Mathlib.Data.List.Perm.Subperm

/-!
# Grouping by keys

Items are sorted into groups by a key, the groups in order of the first appearance of their keys. No
item is lost or doubled, and the order of the items decides only the order of the groups.
-/

namespace ChangeReview

variable {α κ : Type} [BEq κ] [LawfulBEq κ]

/-- The keys of items, each once, in order of appearance. -/
def keysOf (key : α → κ) (items : List α) : List κ :=
  items.foldl (fun seen x => if seen.contains (key x) then seen else seen ++ [key x]) []

/-- Keys collected behind those already seen: still distinct, and nothing but those of the items. -/
theorem foldl_seen (key : α → κ) (items : List α) (seen : List κ) (hseen : seen.Nodup) :
    let all := items.foldl (fun seen x => if seen.contains (key x) then seen else seen ++ [key x]) seen
    all.Nodup ∧ ∀ k, k ∈ all ↔ k ∈ seen ∨ k ∈ items.map key := by
  induction items generalizing seen with
  | nil => simp [hseen]
  | cons x rest ih =>
    simp only [List.foldl_cons]
    by_cases hx : key x ∈ seen
    · rw [if_pos (List.contains_iff_mem.2 hx)]
      refine ⟨(ih seen hseen).1, fun k => ?_⟩
      rw [(ih seen hseen).2 k]
      grind
    · rw [if_neg (by simpa using hx)]
      have happ : (seen ++ [key x]).Nodup := List.nodup_append.2 ⟨hseen, by simp, by grind⟩
      refine ⟨(ih _ happ).1, fun k => ?_⟩
      rw [(ih _ happ).2 k]
      grind

theorem keysOf_nodup (key : α → κ) (items : List α) : (keysOf key items).Nodup :=
  (foldl_seen key items [] List.nodup_nil).1

theorem mem_keysOf {key : α → κ} {items : List α} {k : κ} :
    k ∈ keysOf key items ↔ k ∈ items.map key := by
  have h := (foldl_seen key items [] List.nodup_nil).2 k
  simpa [keysOf] using h

theorem keysOf_perm {key : α → κ} {items items' : List α} (h : items.Perm items') :
    (keysOf key items).Perm (keysOf key items') := by
  rw [List.perm_ext_iff_of_nodup (keysOf_nodup ..) (keysOf_nodup ..)]
  intro k
  rw [mem_keysOf, mem_keysOf, (h.map key).mem_iff]

/-- Items sorted into the groups of distinct keys are the same items. -/
theorem flatMap_filter_perm (key : α → κ) {ks : List κ} (hks : ks.Nodup) {items : List α}
    (hcover : ∀ x ∈ items, key x ∈ ks) :
    (ks.flatMap fun k => items.filter (key · == k)).Perm items := by
  induction ks generalizing items with
  | nil =>
    have hnil : items = [] :=
      List.eq_nil_iff_forall_not_mem.2 fun x hx => by simpa using hcover x hx
    simp [hnil]
  | cons k ks ih =>
    obtain ⟨hk, hks⟩ := List.nodup_cons.1 hks
    -- The later groups do not see the items of the first one.
    have hlater : (ks.flatMap fun k' => items.filter (key · == k'))
        = ks.flatMap fun k' => (items.filter fun x => !(key x == k)).filter (key · == k') := by
      apply List.flatMap_congr
      intro k' hk'
      rw [List.filter_filter]
      apply List.filter_congr
      intro x _
      have hne : k' ≠ k := fun h => hk (h ▸ hk')
      by_cases hx : key x = k' <;> simp [hx, hne]
    rw [List.flatMap_cons, hlater]
    refine (List.Perm.append_left _ (ih hks ?_)).trans (List.filter_append_perm (key · == k) items)
    intro x hx
    obtain ⟨hmem, hne⟩ := List.mem_filter.1 hx
    exact (List.mem_cons.1 (hcover x hmem)).resolve_left (by simpa using hne)

omit [BEq κ] [LawfulBEq κ] in
/-- Groups of parts make up a part of the groups. -/
theorem flatMap_subperm {f g : κ → List α} {ks : List κ} (h : ∀ k ∈ ks, (f k).Subperm (g k)) :
    (ks.flatMap f).Subperm (ks.flatMap g) := by
  induction ks with
  | nil => exact List.Subperm.refl _
  | cons k ks ih =>
    rw [List.flatMap_cons, List.flatMap_cons]
    exact (h k List.mem_cons_self).append (ih fun k' hk' => h k' (List.mem_cons_of_mem _ hk'))

/-- The image of a part is a part of the image, whatever items fall together. -/
theorem map_subperm {α β : Type} (f : α → β) {xs ys : List α} (h : xs.Subperm ys) :
    (xs.map f).Subperm (ys.map f) := by
  obtain ⟨zs, hperm, hsub⟩ := h
  exact ⟨zs.map f, hperm.map f, hsub.map f⟩

end ChangeReview
