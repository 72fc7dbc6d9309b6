import Mathlib.Algebra.BigOperators.Group.Finset.Basic
import ChangeReview.Proofs.Symbol.Matching

/-!
# Matching pairs as much as it can

Under one key, symbols of equal signature are paired as long as both sides have one, so what they leave
shares no signature. The rest is paired by position until one side is used up. The matching of a file is
the matchings of its keys in a row.
-/

namespace ChangeReview.Symbol

variable {olds news old new : List Symbol} {key : Key} {m : Match}

/-! ## Pairs of equal signature -/

theorem signature_of_mem_pairSignatures {p : Symbol × Symbol}
    (hp : p ∈ (pairSignatures olds news).1) : p.1.signature = p.2.signature := by
  induction olds generalizing news with
  | nil => cases hp
  | cons o olds ih =>
    rw [pairSignatures] at hp
    cases hn : takeFirst? (fun n => o.signature == n.signature) news with
    | none =>
      rw [hn] at hp
      exact ih hp
    | some found =>
      obtain ⟨n, rest⟩ := found
      rw [hn] at hp
      rcases List.mem_cons.1 hp with rfl | hp
      · obtain ⟨-, -, -, -, hsignature, -⟩ := takeFirst?_eq_some hn
        exact beq_iff_eq.1 hsignature
      · exact ih hp

theorem mem_of_mem_left {n : Symbol} (hn : n ∈ (pairSignatures olds news).2.2) : n ∈ news :=
  (pairSignatures_perm olds news).2.subset (List.mem_append_right _ hn)

/-- What is left on one side has no counterpart on the other. -/
theorem signature_ne_of_left {o n : Symbol} (ho : o ∈ (pairSignatures olds news).2.1)
    (hn : n ∈ (pairSignatures olds news).2.2) : o.signature ≠ n.signature := by
  induction olds generalizing news with
  | nil => cases ho
  | cons s olds ih =>
    rw [pairSignatures] at ho hn
    cases hs : takeFirst? (fun n => s.signature == n.signature) news with
    | none =>
      rw [hs] at ho hn
      rcases List.mem_cons.1 ho with rfl | ho
      · have hnone := takeFirst?_eq_none hs n (mem_of_mem_left hn)
        exact beq_eq_false_iff_ne.1 hnone
      · exact ih ho hn
    | some found =>
      obtain ⟨n, rest⟩ := found
      rw [hs] at ho hn
      exact ih ho hn

/-- Of each signature there are as many pairs as both sides have symbols. -/
theorem count_pairSignatures (g : Text) :
    ((pairSignatures olds news).1.map (·.1.signature)).count g =
      min ((olds.map signature).count g) ((news.map signature).count g) := by
  obtain ⟨hold, hnew⟩ := pairSignatures_perm olds news
  have holds := ((hold.map signature).count_eq g).symm
  have hnews := ((hnew.map signature).count_eq g).symm
  have hsame : ((pairSignatures olds news).1.map Prod.snd).map signature
      = ((pairSignatures olds news).1.map Prod.fst).map signature := by
    rw [List.map_map, List.map_map]
    exact List.map_congr_left fun p hp => (signature_of_mem_pairSignatures hp).symm
  rw [List.map_append, List.count_append] at holds hnews
  rw [hsame] at hnews
  have hfirst : (pairSignatures olds news).1.map (·.1.signature) =
      ((pairSignatures olds news).1.map Prod.fst).map signature := by
    rw [List.map_map]; rfl
  -- a signature is used up on one side at least
  have hleft : ((pairSignatures olds news).2.1.map signature).count g = 0 ∨
      ((pairSignatures olds news).2.2.map signature).count g = 0 := by
    by_contra hboth
    rw [not_or, List.count_eq_zero, List.count_eq_zero, not_not, not_not] at hboth
    obtain ⟨o, ho, hog⟩ := List.mem_map.1 hboth.1
    obtain ⟨n, hn, hng⟩ := List.mem_map.1 hboth.2
    exact signature_ne_of_left ho hn (hog.trans hng.symm)
  rw [hfirst]
  omega

/-! ## Matches under one key -/

/-- What stands in the pairing by position: pairs, and the surplus of the longer side alone. -/
theorem mem_pairPositions (hm : m ∈ pairPositions olds news) :
    (∃ o ∈ olds, ∃ n ∈ news, m = { old := some o, new := some n }) ∨
      (∃ o ∈ olds, m = { old := some o, new := none } ∧ news.length < olds.length) ∨
      (∃ n ∈ news, m = { old := none, new := some n } ∧ olds.length < news.length) := by
  induction olds generalizing news with
  | nil =>
    rw [pairPositions, List.map_nil, List.nil_append] at hm
    · obtain ⟨n, hn, rfl⟩ := List.mem_map.1 hm
      exact Or.inr (Or.inr ⟨n, hn, rfl, List.length_pos_of_mem hn⟩)
    · simp
  | cons o olds ih =>
    cases news with
    | nil =>
      rw [pairPositions, List.map_nil, List.append_nil] at hm
      · obtain ⟨o', ho', rfl⟩ := List.mem_map.1 hm
        exact Or.inr (Or.inl ⟨o', ho', rfl, Nat.succ_pos _⟩)
      · simp
    | cons n news =>
      rw [pairPositions] at hm
      rcases List.mem_cons.1 hm with rfl | hm
      · exact Or.inl ⟨o, List.mem_cons_self, n, List.mem_cons_self, rfl⟩
      rcases ih hm with ⟨o', ho', n', hn', rfl⟩ | ⟨o', ho', rfl, hlt⟩ | ⟨n', hn', rfl, hlt⟩
      · exact Or.inl ⟨o', List.mem_cons_of_mem o ho', n', List.mem_cons_of_mem n hn', rfl⟩
      · exact Or.inr (Or.inl ⟨o', List.mem_cons_of_mem o ho', rfl, Nat.succ_lt_succ hlt⟩)
      · exact Or.inr (Or.inr ⟨n', List.mem_cons_of_mem n hn', rfl, Nat.succ_lt_succ hlt⟩)

/-- A pair under the key whose symbols have one signature. -/
def Match.keepsSignature (key : Key) (m : Match) : Bool :=
  match m.old, m.new with
  | some o, some n => o.key == key && o.signature == n.signature
  | _, _ => false

theorem keepsSignature_of_mem_pairSignatures {p : Symbol × Symbol} (holds : ∀ o ∈ olds, o.key = key)
    (hp : p ∈ (pairSignatures olds news).1) :
    Match.keepsSignature key { old := some p.1, new := some p.2 } = true := by
  have hkey : p.1.key = key := holds p.1 ((pairSignatures_perm olds news).1.subset
    (List.mem_append_left _ (List.mem_map_of_mem hp)))
  simp [Match.keepsSignature, hkey, signature_of_mem_pairSignatures hp]

theorem keepsSignature_of_mem_pairPositions (key : Key)
    (hm : m ∈ pairPositions (pairSignatures olds news).2.1 (pairSignatures olds news).2.2) :
    m.keepsSignature key = false := by
  rcases mem_pairPositions hm with ⟨o, ho, n, hn, rfl⟩ | ⟨o, -, rfl, -⟩ | ⟨n, -, rfl, -⟩
  · simp [Match.keepsSignature, signature_ne_of_left ho hn]
  · simp [Match.keepsSignature]
  · simp [Match.keepsSignature]

/-- The pairs of one signature are those that were paired for it: pairs by position have two. -/
theorem countP_matchGroup (holds : ∀ o ∈ olds, o.key = key) :
    (matchGroup olds news).countP (Match.keepsSignature key) =
      (pairSignatures olds news).1.length := by
  have hpositions : (pairPositions (pairSignatures olds news).2.1
      (pairSignatures olds news).2.2).countP (Match.keepsSignature key) = 0 := by
    rw [List.countP_eq_zero]
    exact fun m hm => Bool.eq_false_iff.1 (keepsSignature_of_mem_pairPositions key hm)
  unfold matchGroup
  dsimp only
  rw [List.countP_append, hpositions, Nat.add_zero, List.countP_map, List.countP_eq_length]
  exact fun p hp => keepsSignature_of_mem_pairSignatures holds hp

/-- How many symbols have a key and a signature. -/
def occurrences (key : Key) (g : Text) (symbols : List Symbol) : ℕ :=
  symbols.countP fun s => s.key == key && s.signature == g

theorem count_signature_filter (key : Key) (g : Text) (symbols : List Symbol) :
    ((symbols.filter (·.key == key)).map signature).count g = occurrences key g symbols := by
  unfold occurrences
  rw [List.count_eq_countP, List.countP_map, List.countP_filter]
  congr 1
  funext s
  exact Bool.and_comm _ _

theorem countP_group (key : Key) (old new : List Symbol) {signatures : Finset Text}
    (h : ∀ s ∈ old, s.signature ∈ signatures) :
    (matchGroup (old.filter (·.key == key)) (new.filter (·.key == key))).countP
        (Match.keepsSignature key) =
      ∑ g ∈ signatures, min (occurrences key g old) (occurrences key g new) := by
  rw [countP_matchGroup fun o ho => beq_iff_eq.1 (List.mem_filter.1 ho).2]
  generalize hpairs : pairSignatures (old.filter (·.key == key)) (new.filter (·.key == key)) = found
  have hcount : ∀ g, (found.1.map (·.1.signature)).count g =
      min (occurrences key g old) (occurrences key g new) := by
    intro g
    rw [← hpairs, count_pairSignatures, count_signature_filter, count_signature_filter]
  have hmem : ∀ g ∈ ((found.1.map (·.1.signature) : List Text) : Multiset Text), g ∈ signatures := by
    intro g hg
    rw [Multiset.mem_coe, List.mem_map] at hg
    obtain ⟨p, hp, rfl⟩ := hg
    have hold := (pairSignatures_perm (old.filter (·.key == key)) (new.filter (·.key == key))).1
    rw [hpairs] at hold
    have := hold.subset (List.mem_append_left _ (List.mem_map_of_mem hp))
    exact h p.1 (List.mem_filter.1 this).1
  have htotal := Multiset.sum_count_eq_card hmem
  rw [Multiset.coe_card, List.length_map] at htotal
  rw [← htotal]
  refine Finset.sum_congr rfl fun g _ => ?_
  rw [Multiset.coe_count, ← hcount g, lawful_beq_subsingleton instBEqOfDecidableEq List.instBEq]

/-! ## All matches -/

/-- A match under a key: it has a side, and its sides have the key. -/
structure Match.Under (key : Key) (m : Match) : Prop where
  side : m.old.isSome = true ∨ m.new.isSome = true
  old : ∀ s, m.old = some s → s.key = key
  new : ∀ s, m.new = some s → s.key = key

theorem under_of_mem_matchGroup
    (hm : m ∈ matchGroup (old.filter (·.key == key)) (new.filter (·.key == key))) : m.Under key := by
  have hside : ∀ side : Side, ∀ s, side.of? m = some s → s.key = key := by
    intro side s hs
    have hmem := (filterMap_matchGroup_perm side _ _).subset (List.mem_filterMap.2 ⟨m, hm, hs⟩)
    cases side with
    | old => exact beq_iff_eq.1 (List.mem_filter.1 hmem).2
    | new => exact beq_iff_eq.1 (List.mem_filter.1 hmem).2
  refine ⟨?_, hside .old, hside .new⟩
  rcases List.mem_append.1 hm with hm | hm
  · obtain ⟨p, -, rfl⟩ := List.mem_map.1 hm
    exact Or.inl rfl
  · rcases mem_pairPositions hm with ⟨o, -, n, -, rfl⟩ | ⟨o, -, rfl, -⟩ | ⟨n, -, rfl, -⟩
    · exact Or.inl rfl
    · exact Or.inl rfl
    · exact Or.inr rfl

/-- Every match stands under one key, in the matching of that key. -/
theorem exists_group_of_mem (hm : m ∈ matchAll old new) :
    ∃ key, m.Under key ∧ m ∈ matchGroup (old.filter (·.key == key)) (new.filter (·.key == key)) := by
  obtain ⟨key, -, hm⟩ := List.mem_flatMap.1 hm
  exact ⟨key, under_of_mem_matchGroup hm, hm⟩

/-- A symbol stands alone only on the side of which equal signatures leave more. -/
theorem length_lt_of_alone (side : Side) (hm : m ∈ matchGroup olds news)
    (hother : side.other.of? m = none) :
    let left := (pairSignatures olds news).2
    (side.other.pick left.1 left.2).length < (side.pick left.1 left.2).length := by
  rcases List.mem_append.1 hm with hm | hm
  · obtain ⟨p, -, rfl⟩ := List.mem_map.1 hm
    cases side <;> cases hother
  · rcases mem_pairPositions hm with ⟨o, -, n, -, rfl⟩ | ⟨o, -, rfl, hlt⟩ | ⟨n, -, rfl, hlt⟩
    · cases side <;> cases hother
    · cases side with
      | old => exact hlt
      | new => cases hother
    · cases side with
      | old => cases hother
      | new => exact hlt

theorem mem_alone {side : Side} {ms : List Match} {s : Symbol} :
    s ∈ alone side ms ↔ ∃ m ∈ ms, side.of? m = some s ∧ side.other.of? m = none := by
  unfold alone
  rw [List.mem_filterMap]
  refine exists_congr fun m => and_congr_right fun _ => ?_
  cases side.other.of? m <;> simp

/-- Under one key, symbols stand alone on one side at most. -/
theorem key_ne_of_alone {o n : Symbol} (ho : o ∈ alone .old (matchAll old new))
    (hn : n ∈ alone .new (matchAll old new)) : o.key ≠ n.key := by
  obtain ⟨m, hm, hmo, hmnone⟩ := mem_alone.1 ho
  obtain ⟨m', hm', hmn, hmnone'⟩ := mem_alone.1 hn
  obtain ⟨key, hunder, hgroup⟩ := exists_group_of_mem hm
  obtain ⟨key', hunder', hgroup'⟩ := exists_group_of_mem hm'
  intro hkey
  have hsame : key' = key := by rw [← hunder.old o hmo, ← hunder'.new n hmn, hkey]
  subst hsame
  have hold := length_lt_of_alone .old hgroup hmnone
  have hnew := length_lt_of_alone .new hgroup' hmnone'
  exact Nat.lt_asymm hold hnew

/-- A filter that keeps items of one group alone, on groups in a row. -/
theorem filter_flatMap_single {κ β : Type} {ks : List κ} (hks : ks.Nodup) {f : κ → List β}
    {p : β → Bool} {k : κ} (hother : ∀ k' ∈ ks, k' ≠ k → (f k').filter p = [])
    (hmissing : k ∉ ks → (f k).filter p = []) :
    (ks.flatMap f).filter p = (f k).filter p := by
  induction ks with
  | nil => exact (hmissing List.not_mem_nil).symm
  | cons k' ks ih =>
    obtain ⟨hk', hks⟩ := List.nodup_cons.1 hks
    rw [List.flatMap_cons, List.filter_append]
    by_cases hk : k' = k
    · subst hk
      have hrest : (ks.flatMap f).filter p = [] := by
        rw [List.filter_flatMap, List.flatMap_eq_nil_iff]
        exact fun j hj => hother j (List.mem_cons_of_mem k' hj) fun h => hk' (h ▸ hj)
      rw [hrest, List.append_nil]
    · rw [hother k' List.mem_cons_self hk, List.nil_append]
      refine ih hks (fun j hj => hother j (List.mem_cons_of_mem k' hj)) fun hmem => ?_
      exact hmissing fun h => hmem ((List.mem_cons.1 h).resolve_left (Ne.symm hk))

/-- A filter that keeps matches under one key alone keeps what it keeps of the matching of that key. -/
theorem filter_matchAll {p : Match → Bool} (hp : ∀ m, p m = true → ∀ k, m.Under k → k = key)
    (old new : List Symbol) :
    (matchAll old new).filter p
      = (matchGroup (old.filter (·.key == key)) (new.filter (·.key == key))).filter p := by
  refine filter_flatMap_single (keysOf_nodup _ _) ?_ ?_
  · intro k _ hk
    rw [List.filter_eq_nil_iff]
    exact fun m hm hkeeps => hk (hp m hkeeps k (under_of_mem_matchGroup hm))
  · intro hmissing
    have hnone : ∀ s ∈ old ++ new, ¬ (s.key == key) = true := fun s hs hkey =>
      hmissing (mem_keysOf.2 (List.mem_map.2 ⟨s, hs, beq_iff_eq.1 hkey⟩))
    rw [List.filter_eq_nil_iff.2 fun s hs => hnone s (List.mem_append_left new hs),
      List.filter_eq_nil_iff.2 fun s hs => hnone s (List.mem_append_right old hs)]
    rfl

/-- The pairs of one signature under a key are those of the matching of that key. -/
theorem countP_matchAll (key : Key) (old new : List Symbol) {signatures : Finset Text}
    (h : ∀ s ∈ old, s.signature ∈ signatures) :
    (matchAll old new).countP (Match.keepsSignature key) =
      ∑ g ∈ signatures, min (occurrences key g old) (occurrences key g new) := by
  rw [← countP_group key old new h, List.countP_eq_length_filter, List.countP_eq_length_filter,
    filter_matchAll]
  intro m hkeeps k hunder
  unfold Match.keepsSignature at hkeeps
  split at hkeeps
  · rename_i o n ho hn
    rw [Bool.and_eq_true, beq_iff_eq] at hkeeps
    exact (hunder.old o ho).symm.trans hkeeps.1
  · cases hkeeps

/-- **Matching.** Every symbol stands in one match, no match is empty, and pairs have one key. Under each
key symbols stand alone on one side at most, and as many pairs as possible keep their signature. -/
theorem matchAll_complete_and_maximal (old new : List Symbol) :
    ((matchAll old new).filterMap (·.old)).Perm old ∧
      ((matchAll old new).filterMap (·.new)).Perm new ∧
      (∀ m ∈ matchAll old new, m.old.isSome = true ∨ m.new.isSome = true) ∧
      (∀ m ∈ matchAll old new, ∀ o n, m.old = some o → m.new = some n → o.key = n.key) ∧
      (∀ o ∈ alone .old (matchAll old new), ∀ n ∈ alone .new (matchAll old new), o.key ≠ n.key) ∧
      ∀ key, (matchAll old new).countP (Match.keepsSignature key) =
        ∑ g ∈ ((old ++ new).map signature).toFinset,
          min (occurrences key g old) (occurrences key g new) := by
  refine ⟨filterMap_matchAll_perm .old old new, filterMap_matchAll_perm .new old new, ?_, ?_, ?_, ?_⟩
  · intro m hm
    obtain ⟨key, hunder, -⟩ := exists_group_of_mem hm
    exact hunder.side
  · intro m hm o n ho hn
    obtain ⟨key, hunder, -⟩ := exists_group_of_mem hm
    rw [hunder.old o ho, hunder.new n hn]
  · exact fun o ho n hn => key_ne_of_alone ho hn
  · intro key
    refine countP_matchAll key old new fun s hs => ?_
    rw [List.mem_toFinset]
    exact List.mem_map_of_mem (List.mem_append_left new hs)

/-- Overloads of which one signature occurs twice on one side and once on the other. -/
theorem matchAll_complete_and_maximal_overloads :
    let overload (signature : Text) (line : Int) : Symbol :=
      ⟨"f", .function, signature, line, line, "h", none⟩
    let old := [overload "f(a)" 1, overload "f(a)" 2, overload "f(b)" 3]
    let new := [overload "f(c)" 1, overload "f(a)" 4]
    overload "f(b)" 3 ∈ alone .old (matchAll old new) ∧
      (∀ n ∈ alone .new (matchAll old new), (overload "f(b)" 3).key ≠ n.key) ∧
      (matchAll old new).countP (Match.keepsSignature ⟨"f", .function, none⟩) = 1 := by
  intro overload old new
  obtain ⟨-, -, -, -, hside, hcount⟩ := matchAll_complete_and_maximal old new
  have halone : overload "f(b)" 3 ∈ alone .old (matchAll old new) := by decide +kernel
  exact ⟨halone, hside _ halone, (hcount _).trans (by decide +kernel)⟩

end ChangeReview.Symbol
