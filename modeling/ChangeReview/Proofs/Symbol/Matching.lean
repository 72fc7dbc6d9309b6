import ChangeReview.Proofs.Grouping
import ChangeReview.Symbol.Matching

/-!
# Matching loses no symbol

Every symbol of either side stands in exactly one match. So the symbols that are taken for unpaired by
striking out the sides of the pairs are those that stand alone in a match. Where both sides have the
same bodies under each signature, every symbol is paired with its own counterpart.
-/

namespace ChangeReview.Symbol

/-- A side of a change. -/
inductive Side where
  | old
  | new
deriving DecidableEq

namespace Side

/-- The other side. -/
def other : Side → Side
  | .old => .new
  | .new => .old

/-- The symbol that a match has on a side. -/
def of? : Side → Match → Option Symbol
  | .old, m => m.old
  | .new, m => m.new

/-- What is given for a side. -/
def pick {α : Type} : Side → α → α → α
  | .old, a, _ => a
  | .new, _, b => b

end Side

/-- The symbols of a side that are paired. -/
def paired (side : Side) (ms : List Match) : List Symbol :=
  ms.filterMap fun m => if (side.other.of? m).isSome then side.of? m else none

/-- The symbols of a side that stand alone. -/
def alone (side : Side) (ms : List Match) : List Symbol :=
  ms.filterMap fun m => if (side.other.of? m).isSome then none else side.of? m

/-! ## Taking out the first -/

theorem takeFirst?_eq_some {α : Type} {p : α → Bool} {xs ys : List α} {y : α}
    (h : takeFirst? p xs = some (y, ys)) :
    ∃ before after, xs = before ++ y :: after ∧ ys = before ++ after ∧ p y = true ∧
      ∀ x ∈ before, p x = false := by
  induction xs generalizing y ys with
  | nil => cases h
  | cons x xs ih =>
    rw [takeFirst?] at h
    by_cases hx : p x = true
    · rw [if_pos hx] at h
      cases h
      exact ⟨[], xs, rfl, rfl, hx, by simp⟩
    · rw [if_neg hx] at h
      obtain ⟨⟨z, zs⟩, hz, heq⟩ := Option.map_eq_some_iff.1 h
      cases heq
      obtain ⟨before, after, rfl, rfl, hy, hbefore⟩ := ih hz
      exact ⟨x :: before, after, rfl, rfl, hy, by simpa [hx] using hbefore⟩

theorem takeFirst?_eq_none {α : Type} {p : α → Bool} {xs : List α} (h : takeFirst? p xs = none) :
    ∀ x ∈ xs, p x = false := by
  induction xs with
  | nil => simp
  | cons x xs ih =>
    rw [takeFirst?] at h
    by_cases hx : p x = true
    · rw [if_pos hx] at h; cases h
    · rw [if_neg hx, Option.map_eq_none_iff] at h
      simpa [hx] using ih h

/-! ## Every symbol in one match -/

/-- Pairs of equal signature and what they leave are all symbols. -/
theorem pairSignatures_perm (olds news : List Symbol) :
    let found := pairSignatures olds news
    (found.1.map Prod.fst ++ found.2.1).Perm olds ∧ (found.1.map Prod.snd ++ found.2.2).Perm news := by
  induction olds generalizing news with
  | nil => simp [pairSignatures]
  | cons o olds ih =>
    rw [pairSignatures]
    cases hn : takeFirst? (fun n => o.signature == n.signature) news with
    | none =>
      obtain ⟨hold, hnew⟩ := ih news
      exact ⟨List.perm_middle.trans (hold.cons o), hnew⟩
    | some found =>
      obtain ⟨n, rest⟩ := found
      obtain ⟨hold, hnew⟩ := ih rest
      obtain ⟨before, after, rfl, rfl, -, -⟩ := takeFirst?_eq_some hn
      exact ⟨hold.cons o, (hnew.cons n).trans List.perm_middle.symm⟩

theorem filterMap_pairPositions (side : Side) (olds news : List Symbol) :
    (pairPositions olds news).filterMap side.of? = side.pick olds news := by
  induction olds generalizing news with
  | nil => cases side <;> simp [pairPositions, Side.of?, Side.pick, List.filterMap_map, Function.comp_def]
  | cons o olds ih =>
    cases news with
    | nil => cases side <;> simp [pairPositions, Side.of?, Side.pick, List.filterMap_map, Function.comp_def]
    | cons n news =>
      rw [pairPositions, List.filterMap_cons, ih]
      cases side <;> rfl

theorem filterMap_matchGroup_perm (side : Side) (olds news : List Symbol) :
    ((matchGroup olds news).filterMap side.of?).Perm (side.pick olds news) := by
  obtain ⟨hold, hnew⟩ := pairSignatures_perm olds news
  unfold matchGroup
  rw [List.filterMap_append, filterMap_pairPositions, List.filterMap_map]
  cases side with
  | old => simpa [Side.of?, Side.pick, Function.comp_def, List.filterMap_eq_map] using hold
  | new => simpa [Side.of?, Side.pick, Function.comp_def, List.filterMap_eq_map] using hnew

/-- The symbols of a side, read off the matches, are those that were matched. -/
theorem filterMap_matchAll_perm (side : Side) (old new : List Symbol) :
    ((matchAll old new).filterMap side.of?).Perm (side.pick old new) := by
  unfold matchAll
  rw [List.filterMap_flatMap]
  have hcover : ∀ s ∈ side.pick old new, s.key ∈ keys (old ++ new) := by
    intro s hs
    apply mem_keysOf.2
    apply List.mem_map_of_mem
    cases side with
    | old => exact List.mem_append_left _ hs
    | new => exact List.mem_append_right _ hs
  refine (List.Perm.flatMap_left _ fun key _ => filterMap_matchGroup_perm side _ _).trans ?_
  refine (List.Perm.of_eq ?_).trans (flatMap_filter_perm key (keysOf_nodup _ _) hcover)
  cases side <;> rfl

/-- No match of one file is a move. -/
theorem fileFrom_of_mem_matchAll {old new : List Symbol} {m : Match} (hm : m ∈ matchAll old new) :
    m.fileFrom = none := by
  obtain ⟨key, -, hm⟩ := List.mem_flatMap.1 hm
  have hpositions : ∀ olds news : List Symbol, ∀ m ∈ pairPositions olds news, m.fileFrom = none := by
    intro olds news m hm
    fun_induction pairPositions olds news with
    | case1 o olds n news ih =>
      rcases List.mem_cons.1 hm with rfl | hm
      · rfl
      · exact ih hm
    | case2 olds news =>
      rcases List.mem_append.1 hm with hm | hm
      all_goals
        obtain ⟨_, -, rfl⟩ := List.mem_map.1 hm
        rfl
  rcases List.mem_append.1 hm with hm | hm
  · obtain ⟨_, -, rfl⟩ := List.mem_map.1 hm
    rfl
  · exact hpositions _ _ m hm

/-! ## What is left unpaired -/

theorem paired_append_alone_perm (side : Side) (ms : List Match) :
    (paired side ms ++ alone side ms).Perm (ms.filterMap side.of?) := by
  induction ms with
  | nil => exact List.Perm.refl _
  | cons m ms ih =>
    unfold paired alone at ih ⊢
    rw [List.filterMap_cons, List.filterMap_cons, List.filterMap_cons]
    cases side.of? m with
    | none => simpa using ih
    | some s =>
      by_cases hother : (side.other.of? m).isSome = true
      · simpa [hother] using ih
      · simpa [hother] using List.perm_middle.trans (ih.cons s)

/-- Striking out the paired symbols leaves the others. -/
theorem unpaired_perm {symbols used rest : List Symbol} (h : symbols.Perm (used ++ rest)) :
    (unpaired symbols used).Perm rest := by
  induction used generalizing symbols with
  | nil => exact h
  | cons s used ih =>
    have herase := h.erase s
    rw [List.cons_append, List.erase_cons_head] at herase
    exact ih herase

/-- What the matching of a file leaves unpaired on a side, as it is reckoned for the search for moves. -/
def unpairedOf (side : Side) (old new : List Symbol) : List Symbol :=
  side.pick (unpairedOld old (matchAll old new)) (unpairedNew new (matchAll old new))

/-- It is what stands alone in a match. -/
theorem unpairedOf_perm (side : Side) (old new : List Symbol) :
    (unpairedOf side old new).Perm (alone side (matchAll old new)) := by
  have h : (side.pick old new).Perm (paired side (matchAll old new) ++ alone side (matchAll old new)) :=
    (filterMap_matchAll_perm side old new).symm.trans (paired_append_alone_perm side _).symm
  cases side with
  | old => exact unpaired_perm h
  | new => exact unpaired_perm h

/-! ## The same bodies on both sides -/

/-- The body hashes of the symbols of a signature, in order. -/
def bodiesOf (signature : Text) (symbols : List Symbol) : List Text :=
  (symbols.filter (·.signature == signature)).map bodyHash

/-- Both sides have the same bodies in the same order under each key and signature. Across keys and
signatures the order is free, and so are all lines. -/
def SameBodies (old new : List Symbol) : Prop :=
  ∀ key signature, bodiesOf signature (old.filter (·.key == key))
    = bodiesOf signature (new.filter (·.key == key))

theorem bodiesOf_cons (signature : Text) (s : Symbol) (symbols : List Symbol) :
    bodiesOf signature (s :: symbols)
      = if s.signature = signature then s.bodyHash :: bodiesOf signature symbols
        else bodiesOf signature symbols := by
  unfold bodiesOf
  by_cases h : s.signature = signature <;> simp [h]

theorem bodiesOf_append (signature : Text) (symbols more : List Symbol) :
    bodiesOf signature (symbols ++ more) = bodiesOf signature symbols ++ bodiesOf signature more := by
  unfold bodiesOf
  rw [List.filter_append, List.map_append]

theorem bodiesOf_eq_nil {signature : Text} (symbols : List Symbol)
    (h : ∀ s ∈ symbols, signature ≠ s.signature) : bodiesOf signature symbols = [] := by
  unfold bodiesOf
  rw [List.map_eq_nil_iff, List.filter_eq_nil_iff]
  intro s hs
  simpa using (h s hs).symm

/-- It is enough to look at the keys and signatures that occur. -/
theorem sameBodies_iff {old new : List Symbol} :
    SameBodies old new ↔ ∀ s ∈ old ++ new,
      bodiesOf s.signature (old.filter (·.key == s.key))
        = bodiesOf s.signature (new.filter (·.key == s.key)) := by
  refine ⟨fun h s _ => h s.key s.signature, fun h key signature => ?_⟩
  by_cases hs : ∃ s ∈ old ++ new, s.key = key ∧ s.signature = signature
  · obtain ⟨s, hmem, rfl, rfl⟩ := hs
    exact h s hmem
  · have hnone : ∀ s ∈ (old ++ new).filter (·.key == key), signature ≠ s.signature := by
      intro s hs' hsig
      obtain ⟨hmem, hkey⟩ := List.mem_filter.1 hs'
      exact hs ⟨s, hmem, beq_iff_eq.1 hkey, hsig.symm⟩
    rw [List.filter_append, List.forall_mem_append] at hnone
    rw [bodiesOf_eq_nil _ hnone.1, bodiesOf_eq_nil _ hnone.2]

instance (old new : List Symbol) : Decidable (SameBodies old new) :=
  decidable_of_iff _ sameBodies_iff.symm

/-- Two symbols that differ in their lines only, as far as a change is concerned. -/
def Unchanged (o n : Symbol) : Prop := o.signature = n.signature ∧ o.bodyHash = n.bodyHash

/-- Each symbol finds the first one of its signature that is left, which is its own counterpart. -/
theorem pairSignatures_of_bodies {olds news : List Symbol}
    (h : ∀ signature, bodiesOf signature olds = bodiesOf signature news) :
    ∃ pairs, pairSignatures olds news = (pairs, [], []) ∧ ∀ p ∈ pairs, Unchanged p.1 p.2 := by
  induction olds generalizing news with
  | nil =>
    cases news with
    | nil => exact ⟨[], rfl, by simp⟩
    | cons n news =>
      have hn := h n.signature
      rw [bodiesOf_cons, if_pos rfl] at hn
      cases hn
  | cons o olds ih =>
    have ho := h o.signature
    rw [bodiesOf_cons, if_pos rfl] at ho
    cases hfirst : takeFirst? (fun n => o.signature == n.signature) news with
    | none =>
      have hnone := takeFirst?_eq_none hfirst
      rw [bodiesOf_eq_nil news fun n hn => by simpa using hnone n hn] at ho
      cases ho
    | some found =>
      obtain ⟨n, rest⟩ := found
      obtain ⟨before, after, rfl, rfl, hn, hbefore⟩ := takeFirst?_eq_some hfirst
      have hsig : n.signature = o.signature := (beq_iff_eq.1 hn).symm
      have hskip : bodiesOf o.signature before = [] :=
        bodiesOf_eq_nil _ fun m hm => by simpa using hbefore m hm
      rw [bodiesOf_append, hskip, bodiesOf_cons, if_pos hsig] at ho
      obtain ⟨hbody, hrest⟩ := List.cons.inj ho
      -- Without the pair, both sides still have the same bodies.
      have hleft : ∀ signature, bodiesOf signature olds = bodiesOf signature (before ++ after) := by
        intro signature
        by_cases hs : o.signature = signature
        · rw [← hs, bodiesOf_append, hskip, List.nil_append, hrest]
        · have hother := h signature
          rw [bodiesOf_cons, if_neg hs, bodiesOf_append, bodiesOf_cons, if_neg (hsig ▸ hs)] at hother
          rw [hother, bodiesOf_append]
      obtain ⟨pairs, hpairs, hall⟩ := ih hleft
      refine ⟨(o, n) :: pairs, ?_, ?_⟩
      · simp only [pairSignatures, hfirst, hpairs]
      · rintro p (_ | ⟨_, hp⟩)
        · exact ⟨hsig.symm, hbody⟩
        · exact hall p hp

/-- With the same bodies on both sides, every match is a pair of unchanged symbols. -/
theorem matchAll_of_sameBodies {old new : List Symbol} (h : SameBodies old new) :
    ∀ m ∈ matchAll old new, ∃ o n, m = { old := some o, new := some n } ∧ Unchanged o n := by
  intro m hm
  obtain ⟨key, -, hgroup⟩ := List.mem_flatMap.1 hm
  obtain ⟨pairs, hpairs, hall⟩ := pairSignatures_of_bodies (h key)
  unfold matchGroup at hgroup
  simp only [hpairs, pairPositions, List.map_nil, List.append_nil, List.mem_map] at hgroup
  obtain ⟨⟨o, n⟩, hp, rfl⟩ := hgroup
  exact ⟨o, n, rfl, hall (o, n) hp⟩

end ChangeReview.Symbol
