import ChangeReview.Proofs.Grouping
import ChangeReview.Proofs.Symbol.Mates
import ChangeReview.Symbol.Moves

/-!
# Moves pair symbols one to one

The search for moves numbers the symbols of a key and strikes out the numbers that were used. The numbers
do not matter: a symbol of which there is a second copy in its file has two partners or none, so
striking out a number is striking out a symbol. Freed of numbers, each kind of evidence takes the
mates among the symbols that are left, and what is left depends on the mates only. So moves are one to
one, do not depend on the order of files and symbols, and look the same from both sides.
-/

namespace ChangeReview.Symbol

variable {e : Evidence} {es : List Evidence} {o n : Located} {olds olds' news news' : List Located}

/-! ## Evidence -/

theorem Evidence.holds_comm (e : Evidence) (o n : Located) : e.holds o n = e.holds n o := by
  unfold Evidence.holds
  rw [bne_comm, BEq.comm (a := o.symbol.signature), BEq.comm (a := o.symbol.bodyHash)]

theorem Evidence.file_ne_of_holds (h : e.holds o n = true) : o.file ≠ n.file := by
  unfold Evidence.holds at h
  simp only [Bool.and_eq_true, bne_iff_ne] at h
  exact h.1

/-- Whatever the evidence, signatures or bodies are equal. -/
theorem Evidence.eq_of_holds (h : e.holds o n = true) :
    o.symbol.signature = n.symbol.signature ∨ o.symbol.bodyHash = n.symbol.bodyHash := by
  unfold Evidence.holds at h
  cases e with
  | signatureAndBody =>
    simp only [Bool.and_eq_true, beq_iff_eq] at h
    exact Or.inl h.2.1
  | signature =>
    simp only [Bool.and_eq_true, beq_iff_eq] at h
    exact Or.inl h.2
  | body =>
    simp only [Bool.and_eq_true, beq_iff_eq] at h
    exact Or.inr h.2

/-! ## Pairs without numbers -/

/-- The pairs by each kind of evidence in turn, among what stronger evidence has left. -/
def pairsBy : List Evidence → (olds news : List Located) → List (Located × Located)
  | [], _, _ => []
  | e :: weaker, olds, news =>
    let pairs := mates e.holds olds news
    pairs ++ pairsBy weaker (olds.filter (· ∉ pairs.map Prod.fst)) (news.filter (· ∉ pairs.map Prod.snd))

/-- The move that a pair stands for. -/
def moveOf (pair : Located × Located) : Match :=
  { old := some pair.1.symbol, new := some pair.2.symbol
    fileFrom := some pair.1.file, fileTo := some pair.2.file }

theorem uniquePairs_eq_mates (e : Evidence) (os ns : List (Located × ℕ)) :
    uniquePairs e os ns = mates (fun o n => e.holds o.1 n.1) os ns := by
  unfold uniquePairs mates mate?
  apply List.filterMap_congr
  intro o _
  rcases hn : ns.filter (fun n => e.holds o.1 n.1) with _ | ⟨m, _ | ⟨m', rest⟩⟩
  · simp [hn]
  · by_cases hcount : os.countP (fun o => e.holds o.1 m.1) = 1 <;> simp [hn, hcount]
  · simp [hn]

/-- A pair that the evidence singles out holds symbols of which the lists have no copies. -/
theorem unique_of_mem_uniquePairs {os ns : List (Located × ℕ)} {p q : Located × ℕ}
    (h : (p, q) ∈ uniquePairs e os ns) :
    (p ∈ os ∧ ∀ a ∈ os, a.1 = p.1 → a = p) ∧ (q ∈ ns ∧ ∀ a ∈ ns, a.1 = q.1 → a = q) := by
  rw [uniquePairs_eq_mates] at h
  obtain ⟨hp, hq, hr⟩ := related_of_mem_mates h
  refine ⟨⟨hp, fun a ha hvalue => ?_⟩, hq, fun a ha hvalue => ?_⟩
  · exact eq_of_mates_left h ha (by rw [hvalue]; exact hr)
  · exact eq_of_mates_right h ha (by rw [hvalue]; exact hr)

/-- Striking out numbers strikes out what they number, if no copy of it has another number. -/
theorem map_filter_unused {all : List (Located × ℕ)} (used : List (Located × ℕ))
    (hall : (all.map Prod.snd).Nodup) (hused : ∀ u ∈ used, u ∈ all ∧ ∀ a ∈ all, a.1 = u.1 → a = u) :
    (all.filter fun a => !used.any (·.2 == a.2)).map Prod.fst
      = (all.map Prod.fst).filter (· ∉ used.map Prod.fst) := by
  rw [List.filter_map]
  congr 1
  apply List.filter_congr
  intro a ha
  rw [Function.comp_apply, decide_not, Bool.not_inj_iff, Bool.eq_iff_iff, List.any_eq_true,
    decide_eq_true_iff, List.mem_map]
  constructor
  · rintro ⟨u, hu, hnumber⟩
    exact ⟨u, hu, by rw [List.inj_on_of_nodup_map hall (hused u hu).1 ha (beq_iff_eq.1 hnumber)]⟩
  · rintro ⟨u, hu, hvalue⟩
    exact ⟨u, hu, by rw [(hused u hu).2 a ha hvalue.symm, beq_self_eq_true]⟩

/-- The numbers of the symbols do not matter. -/
theorem movesBy_eq (es : List Evidence) {os ns : List (Located × ℕ)} (hos : (os.map Prod.snd).Nodup)
    (hns : (ns.map Prod.snd).Nodup) :
    movesBy es os ns = (pairsBy es (os.map Prod.fst) (ns.map Prod.fst)).map moveOf := by
  induction es generalizing os ns with
  | nil => rfl
  | cons e weaker ih =>
    have hpairs : mates e.holds (os.map Prod.fst) (ns.map Prod.fst)
        = (uniquePairs e os ns).map (Prod.map Prod.fst Prod.fst) := by
      rw [uniquePairs_eq_mates, mates_map]
    have hleft := map_filter_unused ((uniquePairs e os ns).map Prod.fst) hos <| by
      intro u hu
      obtain ⟨⟨p, q⟩, hpq, rfl⟩ := List.mem_map.1 hu
      exact (unique_of_mem_uniquePairs hpq).1
    have hright := map_filter_unused ((uniquePairs e os ns).map Prod.snd) hns <| by
      intro u hu
      obtain ⟨⟨p, q⟩, hpq, rfl⟩ := List.mem_map.1 hu
      exact (unique_of_mem_uniquePairs hpq).2
    simp only [List.any_map, List.map_map, Function.comp_def] at hleft hright
    simp only [movesBy, pairsBy, hpairs, List.map_append, List.map_map, Function.comp_def, Prod.map]
    rw [ih (hos.sublist (List.filter_sublist.map _)) (hns.sublist (List.filter_sublist.map _)),
      hleft, hright]
    rfl

/-! ## Each symbol at most once -/

theorem related_of_mem_pairsBy {p : Located × Located} (h : p ∈ pairsBy es olds news) :
    p.1 ∈ olds ∧ p.2 ∈ news ∧ ∃ e ∈ es, e.holds p.1 p.2 = true := by
  induction es generalizing olds news with
  | nil => cases h
  | cons e weaker ih =>
    simp only [pairsBy] at h
    rcases List.mem_append.1 h with h | h
    · obtain ⟨ho, hn, hr⟩ := related_of_mem_mates h
      exact ⟨ho, hn, e, List.mem_cons_self, hr⟩
    · obtain ⟨ho, hn, e', he', hr⟩ := ih h
      exact ⟨List.mem_of_mem_filter ho, List.mem_of_mem_filter hn, e', List.mem_cons_of_mem _ he', hr⟩

theorem pairsBy_fst_subperm : ((pairsBy es olds news).map Prod.fst).Subperm olds := by
  induction es generalizing olds news with
  | nil => exact List.nil_subperm
  | cons e weaker ih =>
    simp only [pairsBy, List.map_append]
    -- What the evidence uses and what it leaves make up the old symbols.
    set used := (mates e.holds olds news).map Prod.fst with hused
    have hpart : used.Sublist (olds.filter (· ∈ used)) := by
      have h := (map_fst_mates_sublist e.holds olds news).filter (· ∈ used)
      rwa [← hused, List.filter_eq_self.2 (by simp)] at h
    have hsplit : (olds.filter (· ∈ used) ++ olds.filter (· ∉ used)).Perm olds := by
      simpa using List.filter_append_perm (· ∈ used) olds
    exact (hpart.subperm.append ih).trans hsplit.subperm

/-! ## Any order, either side -/

theorem pairsBy_perm (ho : olds.Perm olds') (hn : news.Perm news') :
    (pairsBy es olds news).Perm (pairsBy es olds' news') := by
  induction es generalizing olds olds' news news' with
  | nil => exact List.Perm.refl _
  | cons e weaker ih =>
    have hpairs : (mates e.holds olds news).Perm (mates e.holds olds' news') := mates_perm ho hn
    simp only [pairsBy, (hpairs.map Prod.fst).mem_iff, (hpairs.map Prod.snd).mem_iff]
    exact hpairs.append (ih (ho.filter _) (hn.filter _))

theorem pairsBy_swap (es : List Evidence) (olds news : List Located) :
    (pairsBy es news olds).Perm ((pairsBy es olds news).map Prod.swap) := by
  induction es generalizing olds news with
  | nil => exact List.Perm.refl _
  | cons e weaker ih =>
    have hpairs : (mates e.holds news olds).Perm ((mates e.holds olds news).map Prod.swap) := by
      have h := mates_swap e.holds olds news
      simpa only [e.holds_comm] using h
    simp only [pairsBy, (hpairs.map Prod.fst).mem_iff, (hpairs.map Prod.snd).mem_iff, List.map_map,
      List.map_append]
    exact hpairs.append (ih _ _)

theorem pairsBy_snd_subperm : ((pairsBy es olds news).map Prod.snd).Subperm news := by
  have h := (pairsBy_swap es olds news).map Prod.fst
  rw [List.map_map] at h
  exact h.symm.subperm.trans pairsBy_fst_subperm

/-! ## All keys -/

/-- The kinds of evidence, the strongest first. -/
def tiers : List Evidence := [.signatureAndBody, .signature, .body]

/-- The pairs of located symbols that moves are made of. -/
def movedPairs (olds news : List Located) : List (Located × Located) :=
  (keysOf Located.moveKey (olds ++ news)).flatMap fun key =>
    pairsBy tiers (olds.filter (·.moveKey == key)) (news.filter (·.moveKey == key))

theorem moves_eq (old new : OrderedMap Text Candidates) :
    moves old new = (movedPairs (locate old) (locate new)).map moveOf := by
  unfold moves movedPairs
  rw [List.map_flatMap]
  apply List.flatMap_congr
  intro key _
  have hnumbers (ls : List Located) : (ls.zipIdx.map Prod.snd).Nodup := by
    rw [List.zipIdx_map_snd]
    exact List.nodup_range'
  rw [← tiers, movesBy_eq tiers (hnumbers _) (hnumbers _), List.zipIdx_map_fst, List.zipIdx_map_fst]

theorem movedPairs_fst_subperm (olds news : List Located) :
    ((movedPairs olds news).map Prod.fst).Subperm olds := by
  unfold movedPairs
  rw [List.map_flatMap]
  refine (flatMap_subperm fun key _ => pairsBy_fst_subperm).trans
    (flatMap_filter_perm Located.moveKey (keysOf_nodup _ _) fun o ho => ?_).subperm
  exact mem_keysOf.2 (List.mem_map_of_mem (List.mem_append_left _ ho))

theorem movedPairs_snd_subperm (olds news : List Located) :
    ((movedPairs olds news).map Prod.snd).Subperm news := by
  unfold movedPairs
  rw [List.map_flatMap]
  refine (flatMap_subperm fun key _ => pairsBy_snd_subperm).trans
    (flatMap_filter_perm Located.moveKey (keysOf_nodup _ _) fun n hn => ?_).subperm
  exact mem_keysOf.2 (List.mem_map_of_mem (List.mem_append_right _ hn))

theorem movedPairs_perm (ho : olds.Perm olds') (hn : news.Perm news') :
    (movedPairs olds news).Perm (movedPairs olds' news') :=
  (keysOf_perm (ho.append hn)).flatMap fun _ _ => pairsBy_perm (ho.filter _) (hn.filter _)

theorem movedPairs_swap (olds news : List Located) :
    (movedPairs news olds).Perm ((movedPairs olds news).map Prod.swap) := by
  unfold movedPairs
  rw [List.map_flatMap]
  exact (keysOf_perm List.perm_append_comm).flatMap fun _ _ => pairsBy_swap _ _ _

/-- Two located symbols that may be one that moved. -/
structure Related (o n : Located) : Prop where
  language_eq : o.language = n.language
  name_eq : o.symbol.name = n.symbol.name
  kind_eq : o.symbol.kind = n.symbol.kind
  parent_eq : o.symbol.parent = n.symbol.parent
  file_ne : o.file ≠ n.file
  evidence : o.symbol.signature = n.symbol.signature ∨ o.symbol.bodyHash = n.symbol.bodyHash

theorem related_of_mem_movedPairs {p : Located × Located} (h : p ∈ movedPairs olds news) :
    Related p.1 p.2 := by
  obtain ⟨k, -, hp⟩ := List.mem_flatMap.1 h
  obtain ⟨ho, hn, e, -, hr⟩ := related_of_mem_pairsBy hp
  have hkey : p.1.moveKey = p.2.moveKey := by
    rw [beq_iff_eq.1 (List.mem_filter.1 ho).2, beq_iff_eq.1 (List.mem_filter.1 hn).2]
  simp only [Located.moveKey, key, Prod.mk.injEq, Key.mk.injEq] at hkey
  obtain ⟨hlanguage, hname, hkind, hparent⟩ := hkey
  exact ⟨hlanguage, hname, hkind, hparent, Evidence.file_ne_of_holds hr, Evidence.eq_of_holds hr⟩

/-- Among all symbols of their key and language, `o` and `n` alone share signature and body across files. -/
def SinglesOut (olds news : List Located) (o n : Located) : Prop :=
  olds.filter (fun o' => Evidence.signatureAndBody.holds o' n && o'.moveKey == n.moveKey) = [o] ∧
    news.filter (fun n' => Evidence.signatureAndBody.holds o n' && n'.moveKey == o.moveKey) = [n]

/-- The strongest evidence is never passed over. -/
theorem mem_movedPairs_of_singlesOut (h : SinglesOut olds news o n) : (o, n) ∈ movedPairs olds news := by
  obtain ⟨ho, hn⟩ := h
  obtain ⟨hmem, hboth⟩ := List.mem_filter.1 (ho ▸ List.mem_singleton_self o)
  have hkey : o.moveKey = n.moveKey := beq_iff_eq.1 (Bool.and_eq_true_iff.1 hboth).2
  refine List.mem_flatMap.2 ⟨n.moveKey, ?_, ?_⟩
  · rw [← hkey]
    exact mem_keysOf.2 (List.mem_map_of_mem (List.mem_append_left _ hmem))
  · refine List.mem_append_left _ (mem_mates.2 ⟨?_, ?_⟩)
    · rw [List.filter_filter, ho]
    · rw [List.filter_filter, ← hkey, hn]

/-! ## Moves between files -/

/-- A match seen from the other side. -/
def Match.swap (m : Match) : Match :=
  { old := m.new, new := m.old, fileFrom := m.fileTo, fileTo := m.fileFrom }

/-- The same files with the same symbols, both in any order. -/
def Rearranged (a b : OrderedMap Text Candidates) : Prop :=
  ∃ c : OrderedMap Text Candidates, a.Perm c ∧
    List.Forall₂ (fun x y => x.1 = y.1 ∧ x.2.language = y.2.language ∧ x.2.symbols.Perm y.2.symbols) c b

theorem locate_cons (file : Text × Candidates) (rest : OrderedMap Text Candidates) :
    locate (file :: rest)
      = file.2.symbols.map (fun s => ⟨file.1, file.2.language, s⟩) ++ locate rest := rfl

theorem Rearranged.locate_perm {a b : OrderedMap Text Candidates} (h : Rearranged a b) :
    (locate a).Perm (locate b) := by
  obtain ⟨c, hperm, hfiles⟩ := h
  have hfiles' : (locate c).Perm (locate b) := by
    clear hperm
    induction hfiles with
    | nil => exact List.Perm.refl _
    | cons hfile _ ih =>
      obtain ⟨hpath, hlanguage, hsymbols⟩ := hfile
      rw [locate_cons, locate_cons, hpath, hlanguage]
      exact (hsymbols.map _).append ih
  exact (hperm.flatMap_right _).trans hfiles'

/-- Moves use each occurrence of a symbol at most once and pair symbols that agree; a pair that the
strongest evidence singles out is among them. They do not depend on the order of the files or of the symbols
in a file, and seen from the other side they are the same with their sides exchanged. -/
theorem moves_pair_one_to_one {old new old' new' : OrderedMap Text Candidates}
    (ho : Rearranged old old') (hn : Rearranged new new') :
    (∃ pairs : List (Located × Located), moves old new = pairs.map moveOf ∧
      (pairs.map Prod.fst).Subperm (locate old) ∧ (pairs.map Prod.snd).Subperm (locate new) ∧
      (∀ p ∈ pairs, Related p.1 p.2) ∧
      ∀ o n, SinglesOut (locate old) (locate new) o n → (o, n) ∈ pairs) ∧
    (moves old' new').Perm (moves old new) ∧
    (moves new old).Perm ((moves old new).map Match.swap) := by
  refine ⟨⟨movedPairs (locate old) (locate new), moves_eq old new, movedPairs_fst_subperm _ _,
    movedPairs_snd_subperm _ _, fun p => related_of_mem_movedPairs,
    fun o n => mem_movedPairs_of_singlesOut⟩, ?_, ?_⟩
  · rw [moves_eq, moves_eq]
    exact (movedPairs_perm ho.locate_perm.symm hn.locate_perm.symm).map moveOf
  · rw [moves_eq, moves_eq, List.map_map]
    have h := (movedPairs_swap (locate old) (locate new)).map moveOf
    rw [List.map_map] at h
    exact h

/-- Two functions of one file that went to two other files, seen in two orders. -/
theorem moves_pair_one_to_one_parted :
    let f : Symbol := ⟨"f", .function, "def f()", 1, 2, "x", none⟩
    let g : Symbol := ⟨"g", .function, "def g()", 4, 5, "y", none⟩
    let old : OrderedMap Text Candidates := [("a.py", ⟨"python", [f, g]⟩)]
    let old' : OrderedMap Text Candidates := [("a.py", ⟨"python", [g, f]⟩)]
    let new : OrderedMap Text Candidates := [("b.py", ⟨"python", [f]⟩), ("c.py", ⟨"python", [g]⟩)]
    let new' : OrderedMap Text Candidates := [("c.py", ⟨"python", [g]⟩), ("b.py", ⟨"python", [f]⟩)]
    Rearranged old old' ∧ Rearranged new new' ∧ (moves old new).length = 2 ∧
      (moves old' new').Perm (moves old new) := by
  intro f g old old' new new'
  have ho : Rearranged old old' :=
    ⟨old, List.Perm.refl _, .cons ⟨rfl, rfl, List.Perm.swap g f []⟩ .nil⟩
  have hn : Rearranged new new' :=
    ⟨new', List.Perm.swap .., .cons ⟨rfl, rfl, .refl _⟩ (.cons ⟨rfl, rfl, .refl _⟩ .nil)⟩
  exact ⟨ho, hn, by decide +kernel +zetaReduce, (moves_pair_one_to_one ho hn).2.1⟩

end ChangeReview.Symbol
