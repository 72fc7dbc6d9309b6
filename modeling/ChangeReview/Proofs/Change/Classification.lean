import ChangeReview.Change.Classification
import ChangeReview.Proofs.Results
import ChangeReview.Proofs.Symbol.Matching

/-!
# What classifying reports

A symbol that stands alone in a match is reported as removed or added, with its name, signature and
line, and a pair is reported at most as a change in place. So the removals and the additions of a file are the
symbols that its matching leaves alone. A pair of unchanged symbols is not reported at all: moving code
around in a file invents no change.
-/

namespace ChangeReview

open ChangeReview.Symbol (Side alone)

/-- What a report says of a symbol that came or went. -/
structure Entry where
  path : Text
  name : Text
  signature : Option Text
  line : Option Int
deriving DecidableEq

/-- The entry that a symbol of a file should have. -/
def Symbol.entry (path : Text) (s : Symbol) : Entry := ⟨path, s.name, some s.signature, some s.startLine⟩

/-- The kinds of change that report a symbol of one side alone. -/
def Symbol.Side.reports : Side → ChangeKind → Bool
  | .old => ChangeKind.isRemoval
  | .new => ChangeKind.isAddition

namespace Change

variable {compare : Comparator} {m : Symbol.Match} {ms : List Symbol.Match} {o n : Symbol}

/-- The entry that a change makes for a file. -/
def entry (path : Text) (c : Change) : Entry := ⟨path, c.name, c.signature, c.line⟩

/-- The entries for the symbols of one side alone. -/
def entries (side : Side) (path : Text) (changes : List Change) : List Entry :=
  (changes.filter (side.reports ·.kind)).map (entry path)

theorem entries_append (side : Side) (path : Text) (cs ds : List Change) :
    entries side path (cs ++ ds) = entries side path cs ++ entries side path ds := by
  unfold entries
  rw [List.filter_append, List.map_append]

theorem entries_singleton (side : Side) (path : Text) (c : Change) :
    entries side path [c] = if side.reports c.kind then [entry path c] else [] := by
  unfold entries
  by_cases h : side.reports c.kind = true <;> simp [h]

theorem entry_ofRemoval (path : Text) (o : Symbol) : entry path (ofRemoval o) = o.entry path := rfl

theorem entry_ofAddition (path : Text) (n : Symbol) : entry path (ofAddition n) = n.entry path := rfl

theorem reports_ofRemoval (side : Side) (o : Symbol) :
    side.reports (ofRemoval o).kind = decide (side = .old) := by
  unfold ofRemoval
  by_cases h : o.kind = .classOf <;> cases side <;> simp [h, Side.reports, ChangeKind.isRemoval,
    ChangeKind.isAddition]

theorem reports_ofAddition (side : Side) (n : Symbol) :
    side.reports (ofAddition n).kind = decide (side = .new) := by
  unfold ofAddition
  by_cases h : n.kind = .classOf <;> cases side <;> simp [h, Side.reports, ChangeKind.isRemoval,
    ChangeKind.isAddition]

/-- A change of a symbol that stays in its place: of its signature or its body. -/
def InPlace (c : Change) : Prop := c.kind = .signatureChanged ∨ c.kind.isModification = true

/-! ## One match -/

theorem ofBody_inPlace (n : Symbol) : (ofBody n).InPlace := by
  unfold InPlace ofBody
  by_cases h : n.kind = .classOf <;> simp [h, ChangeKind.isModification]

theorem ofPair_inPlace {c : Option Change} (h : ofPair compare o n = .ok c) : ∀ d ∈ c, d.InPlace := by
  have hbody : ∀ d ∈ (if o.bodyHash == n.bodyHash then none else some (ofBody n)), d.InPlace := by
    intro d hd
    split at hd
    · cases hd
    · cases hd
      exact ofBody_inPlace n
  unfold ofPair at h
  by_cases hsignature : (o.signature == n.signature) = true
  · rw [if_pos hsignature] at h
    cases h
    exact hbody
  · rw [if_neg hsignature] at h
    obtain ⟨assessed, -, h⟩ := Except.eq_ok_of_bind h
    cases assessed with
    | some a =>
      cases h
      rintro d ⟨⟩
      exact Or.inl rfl
    | none =>
      cases h
      exact hbody

/-- What the match of symbols of one file may become. -/
theorem ofMatch_cases {c : Option Change} (hm : m.fileFrom = none) (h : ofMatch compare m = .ok c) :
    (∃ o, m.old = some o ∧ m.new = none ∧ c = some (ofRemoval o)) ∨
      (∃ n, m.old = none ∧ m.new = some n ∧ c = some (ofAddition n)) ∨
      (∃ o n, m.old = some o ∧ m.new = some n ∧ ∀ d ∈ c, d.InPlace) := by
  unfold ofMatch at h
  cases ho : m.old with
  | none =>
    cases hn : m.new with
    | none => rw [ho, hn] at h; cases h
    | some n => rw [ho, hn] at h; cases h; exact Or.inr (Or.inl ⟨n, rfl, rfl, rfl⟩)
  | some o =>
    cases hn : m.new with
    | none => rw [ho, hn] at h; cases h; exact Or.inl ⟨o, rfl, rfl, rfl⟩
    | some n =>
      rw [ho, hn, hm] at h
      exact Or.inr (Or.inr ⟨o, n, rfl, rfl, ofPair_inPlace h⟩)

theorem InPlace.not_reports {c : Change} (h : c.InPlace) (side : Side) :
    side.reports c.kind = false := by
  unfold InPlace at h
  cases hk : c.kind <;> cases side <;> first | rfl | simp [hk, ChangeKind.isModification] at h

/-- A match makes an entry for a side exactly when its symbol stands there alone. -/
theorem entries_of_ofMatch (side : Side) (path : Text) {c : Option Change} (hm : m.fileFrom = none)
    (h : ofMatch compare m = .ok c) :
    entries side path c.toList = (alone side [m]).map (Symbol.entry path) := by
  rcases ofMatch_cases hm h with ⟨o, ho, hn, rfl⟩ | ⟨n, ho, hn, rfl⟩ | ⟨o, n, ho, hn, hplace⟩
  · rw [Option.toList_some, entries_singleton, reports_ofRemoval, entry_ofRemoval]
    cases side <;> simp [alone, Side.of?, Side.other, ho, hn]
  · rw [Option.toList_some, entries_singleton, reports_ofAddition, entry_ofAddition]
    cases side <;> simp [alone, Side.of?, Side.other, ho, hn]
  · have hnone : entries side path c.toList = [] := by
      unfold entries
      rw [List.map_eq_nil_iff, List.filter_eq_nil_iff]
      intro d hd
      rw [(hplace d (Option.mem_toList.1 hd)).not_reports side]
      exact Bool.false_ne_true
    rw [hnone]
    cases side <;> simp [alone, Side.of?, Side.other, ho, hn]

/-- An unchanged symbol is not reported, and its signatures are not compared. -/
theorem ofMatch_of_unchanged (h : Symbol.Unchanged o n) :
    ofMatch compare { old := some o, new := some n } = .ok none := by
  simp [ofMatch, ofPair, h.1, h.2, pure, Except.pure, bind, Except.bind]

/-! ## All matches -/

theorem classify_cons {cs : List Change} :
    classify compare (m :: ms) = .ok cs ↔
      ∃ c rest, ofMatch compare m = .ok c ∧ classify compare ms = .ok rest ∧ cs = c.toList ++ rest := by
  unfold classify
  rw [List.mapM_cons]
  constructor
  · intro h
    obtain ⟨found, hfound, h⟩ := Except.eq_ok_of_bind h
    obtain ⟨c, hc, hfound⟩ := Except.eq_ok_of_bind hfound
    obtain ⟨rest, hrest, hfound⟩ := Except.eq_ok_of_bind hfound
    cases hfound
    cases h
    refine ⟨c, rest.filterMap id, hc, ?_, ?_⟩
    · rw [hrest]; rfl
    · cases c <;> rfl
  · rintro ⟨c, rest, hc, hrest, rfl⟩
    obtain ⟨found, hfound, h⟩ := Except.eq_ok_of_bind hrest
    cases h
    rw [hc, hfound]
    cases c <;> rfl

/-- The entries that classifying makes for a side are those of the symbols that stand alone on it. -/
theorem entries_of_classify (side : Side) (path : Text) {cs : List Change}
    (hms : ∀ m ∈ ms, m.fileFrom = none) (h : classify compare ms = .ok cs) :
    entries side path cs = (alone side ms).map (Symbol.entry path) := by
  induction ms generalizing cs with
  | nil => cases h; rfl
  | cons m ms ih =>
    obtain ⟨c, rest, hc, hrest, rfl⟩ := classify_cons.1 h
    obtain ⟨hm, hms⟩ := List.forall_mem_cons.1 hms
    have hsplit : alone side (m :: ms) = alone side [m] ++ alone side ms := by
      unfold alone
      rw [← List.filterMap_append, List.singleton_append]
    rw [entries_append, entries_of_ofMatch side path hm hc, ih hms hrest, hsplit, List.map_append]

/-- Matches of one file report no move. -/
theorem not_moved_of_classify {cs : List Change} (hms : ∀ m ∈ ms, m.fileFrom = none)
    (h : classify compare ms = .ok cs) : ∀ c ∈ cs, c.kind ≠ .moved := by
  induction ms generalizing cs with
  | nil => cases h; simp
  | cons m ms ih =>
    obtain ⟨c, rest, hc, hrest, rfl⟩ := classify_cons.1 h
    obtain ⟨hm, hms⟩ := List.forall_mem_cons.1 hms
    rw [List.forall_mem_append]
    refine ⟨?_, ih hms hrest⟩
    intro d hd hmoved
    rw [Option.mem_toList] at hd
    rcases ofMatch_cases hm hc with ⟨o, -, -, rfl⟩ | ⟨n, -, -, rfl⟩ | ⟨o, n, -, -, hplace⟩
    · cases hd
      have := reports_ofRemoval .old o
      simp [hmoved, Side.reports, ChangeKind.isRemoval] at this
    · cases hd
      have := reports_ofAddition .new n
      simp [hmoved, Side.reports, ChangeKind.isAddition] at this
    · rcases hplace d hd with h | h <;> simp [hmoved, ChangeKind.isModification] at h

/-- Pairs of unchanged symbols make no report. -/
theorem classify_of_unchanged
    (h : ∀ m ∈ ms, ∃ o n, m = { old := some o, new := some n } ∧ Symbol.Unchanged o n) :
    classify compare ms = .ok [] := by
  induction ms with
  | nil => rfl
  | cons m ms ih =>
    obtain ⟨⟨o, n, rfl, hpair⟩, hms⟩ := List.forall_mem_cons.1 h
    exact classify_cons.2 ⟨none, [], ofMatch_of_unchanged hpair, ih hms, rfl⟩

/-- Where the bodies under each key and signature are the same in the same order, nothing is reported,
whatever the order across keys and signatures, the lines and the comparison of signatures. -/
theorem classify_rearranged_eq_nil (compare : Comparator) {old new : List Symbol}
    (h : Symbol.SameBodies old new) : classify compare (Symbol.matchAll old new) = .ok [] :=
  classify_of_unchanged (Symbol.matchAll_of_sameBodies h)

/-- Three overloads of a function and another function, rearranged. The comparison fails on any
two signatures, and is never asked. -/
theorem classify_rearranged_eq_nil_overloads :
    let f (signature body : Text) (line : Int) : Symbol :=
      ⟨"f", .function, signature, line, line + 1, body, none⟩
    let g (line : Int) : Symbol := ⟨"g", .function, "def g()", line, line, "z", none⟩
    let old := [f "def f(a)" "x" 1, f "def f(b)" "y" 5, g 8, f "def f(a)" "w" 9]
    let new := [g 1, f "def f(b)" "y" 3, f "def f(a)" "x" 6, f "def f(a)" "w" 20]
    Symbol.SameBodies old new ∧
      classify (fun _ _ => .error .emptyMatch) (Symbol.matchAll old new) = .ok [] := by
  intro f g old new
  have h : Symbol.SameBodies old new := by decide +kernel +zetaReduce
  exact ⟨h, classify_rearranged_eq_nil _ h⟩

end Change

end ChangeReview
