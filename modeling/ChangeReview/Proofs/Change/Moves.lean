import ChangeReview.Change.Moves
import ChangeReview.Proofs.Change.Classification
import ChangeReview.Proofs.Symbol.Moves

/-!
# Moves take the place of entries

Applying one move strikes out one entry for its old side, in the source, and one for its new side, in the
destination, and reports the move there; everything else stays. So a run of moves strikes out exactly
the entries of its sides, however the files and names of the moves overlap, as long as there are
entries enough.
-/

namespace ChangeReview

open ChangeReview.Symbol (Side Located moveOf)

/-- The entry that a located symbol should have. -/
def Symbol.Located.entry (l : Located) : Entry := l.symbol.entry l.file

namespace Change

variable {side : Side} {path : Text} {s : Symbol} {cs : List Change}

theorem mem_entries {e : Entry} :
    e ∈ entries side path cs ↔ ∃ c ∈ cs, side.reports c.kind = true ∧ entry path c = e := by
  unfold entries
  rw [List.mem_map]
  constructor
  · rintro ⟨c, hc, rfl⟩
    obtain ⟨hmem, hkind⟩ := List.mem_filter.1 hc
    exact ⟨c, hmem, hkind, rfl⟩
  · rintro ⟨c, hmem, hkind, rfl⟩
    exact ⟨c, List.mem_filter.2 ⟨hmem, hkind⟩, rfl⟩

end Change

namespace FileChange

variable {side : Side} {path : Text} {s : Symbol} {cs : List Change} {files : List FileChange}

/-! ## One list of changes -/

/-- Striking out a symbol touches no change of another kind. -/
theorem filter_withoutSymbol {isKind : ChangeKind → Bool} {p : Change → Bool}
    (hp : ∀ c, isKind c.kind = true → p c = false) :
    (withoutSymbol isKind s cs).filter p = cs.filter p := by
  have herase : ∀ q : Change → Bool, (∀ c, q c = true → p c = false) →
      (cs.eraseP q).filter p = cs.filter p := by
    intro q hq
    rcases List.exists_or_eq_self_of_eraseP q cs with h | ⟨c, before, after, -, hc, hcs, h⟩
    · rw [h]
    · rw [h, hcs, List.filter_append, List.filter_append, List.filter_cons_of_neg (by simp [hq c hc])]
  unfold withoutSymbol
  dsimp only
  split
  · exact herase _ fun c hc => hp c (by simp at hc; tauto)
  · exact herase _ fun c hc => hp c (by simp at hc; tauto)

/-- Whether a change makes the entry of a symbol for a side. -/
def recordsSymbol (side : Side) (s : Symbol) (c : Change) : Bool :=
  c.name == s.name && side.reports c.kind && c.signature == some s.signature
    && c.line == some s.startLine

theorem recordsSymbol_iff (path : Text) {c : Change} :
    recordsSymbol side s c = true ↔ side.reports c.kind = true ∧ Change.entry path c = s.entry path := by
  simp only [recordsSymbol, Change.entry, Symbol.entry, Bool.and_eq_true, beq_iff_eq, Entry.mk.injEq]
  tauto

/-- If a symbol has an entry, striking it out takes one such entry. -/
theorem entries_withoutSymbol (h : s.entry path ∈ Change.entries side path cs) :
    (Change.entries side path cs).Perm
      (s.entry path :: Change.entries side path (withoutSymbol side.reports s cs)) := by
  obtain ⟨c, hc, hkind, hentry⟩ := Change.mem_entries.1 h
  have hrecords : recordsSymbol side s c = true := (recordsSymbol_iff path).2 ⟨hkind, hentry⟩
  have hwithout : withoutSymbol side.reports s cs = cs.eraseP (recordsSymbol side s) :=
    if_pos (List.any_eq_true.2 ⟨c, hc, hrecords⟩)
  obtain ⟨d, before, after, -, hd, hcs, herase⟩ := List.exists_of_eraseP hc hrecords
  obtain ⟨hkind', hentry'⟩ := (recordsSymbol_iff path).1 hd
  rw [hwithout, herase, hcs, Change.entries_append, ← List.singleton_append, Change.entries_append,
    Change.entries_singleton, if_pos hkind', hentry', Change.entries_append]
  exact List.perm_middle

/-! ## One file among the files -/

/-- The entries of all files for the symbols of one side alone. -/
def entries (side : Side) (files : List FileChange) : List Entry :=
  files.flatMap fun f => Change.entries side f.path f.changes

/-- The moves that a file reports, each with the path of the file. -/
def movesIn (f : FileChange) : List (Text × Change) :=
  (f.changes.filter (·.kind == .moved)).map (f.path, ·)

/-- The moves that all files report. -/
def reportedMoves (files : List FileChange) : List (Text × Change) := files.flatMap movesIn

/-- Path and language of each file, which moves do not change. -/
def places (files : List FileChange) : List (Text × Option Text) := files.map fun f => (f.path, f.language)

theorem places_atPath (files : List FileChange) (path : Text) (f : List Change → List Change) :
    places (atPath files path f) = places files := by
  unfold places atPath
  rw [List.map_map]
  apply List.map_congr_left
  intro file _
  rw [Function.comp_apply]
  split <;> rfl

/-- Editing the only file of a path: what is read off the files changes as it does for that file. -/
theorem flatMap_atPath_perm {β : Type} {g : FileChange → List β} {file : FileChange}
    {f : List Change → List Change} (xs ys : List β) (hfile : files.filter (·.path == path) = [file])
    (hg : (xs ++ g { file with changes := f file.changes }).Perm (ys ++ g file)) :
    (xs ++ (atPath files path f).flatMap g).Perm (ys ++ files.flatMap g) := by
  obtain ⟨before, after, rfl, hbefore, hpath, hafter⟩ := List.filter_eq_cons_iff.1 hfile
  have hother : ∀ fs : List FileChange, (∀ x ∈ fs, ¬ (x.path == path) = true) → atPath fs path f = fs := by
    intro fs hfs
    exact (List.map_congr_left fun x hx => if_neg (hfs x hx)).trans (List.map_id fs)
  have hedit : atPath (before ++ file :: after) path f
      = before ++ { file with changes := f file.changes } :: after := by
    unfold atPath at hother ⊢
    rw [List.map_append, List.map_cons, if_pos hpath, hother before hbefore,
      hother after (List.filter_eq_nil_iff.1 hafter)]
  rw [hedit, List.flatMap_append, List.flatMap_append, List.flatMap_cons, List.flatMap_cons]
  have hfront : ∀ zs ws : List β, (zs ++ (before.flatMap g ++ (ws ++ after.flatMap g))).Perm
      (zs ++ ws ++ (before.flatMap g ++ after.flatMap g)) := by
    intro zs ws
    rw [List.append_assoc zs]
    exact (List.perm_append_comm_assoc _ ws _).append_left zs
  exact (hfront xs _).trans ((hg.append_right _).trans (hfront ys _).symm)

/-! ## One move -/

/-- Source and destination are one file each, and of one language. -/
structure Applicable (ps : List (Text × Option Text)) (p : Located × Located) : Prop where
  source : ps.filter (·.1 == p.1.file) = [(p.1.file, some p.1.language)]
  destination : ps.filter (·.1 == p.2.file) = [(p.2.file, some p.2.language)]
  language_eq : p.1.language = p.2.language

/-- A path that occurs once is the path of one file. -/
theorem exists_file {language : Option Text}
    (h : (places files).filter (·.1 == path) = [(path, language)]) :
    ∃ file, files.filter (·.path == path) = [file] ∧ file.path = path ∧ file.language = language := by
  unfold places at h
  rw [List.filter_map, List.map_eq_singleton_iff] at h
  obtain ⟨file, hfile, heq⟩ := h
  exact ⟨file, hfile, congrArg Prod.fst heq, congrArg Prod.snd heq⟩

/-- What a move does to the changes of its source. -/
def depart (p : Located × Located) : List Change → List Change :=
  withoutSymbol (Side.reports .old) p.1.symbol

/-- What a move does to the changes of its destination, with what else changed there. -/
def arrive (p : Located × Located) (more cs : List Change) : List Change :=
  withoutSymbol (Side.reports .new) p.2.symbol cs ++ Change.ofMove p.1.file p.2.symbol :: more

theorem applyMove_eq {p : Located × Located} {files' : List FileChange}
    (hp : Applicable (places files) p) (h : applyMove files (moveOf p) = .ok files') :
    ∃ more : List Change, (∀ c ∈ more, c.InPlace) ∧
      files' = atPath (atPath files p.1.file (depart p)) p.2.file (arrive p more) := by
  obtain ⟨sourceFile, hsource, -, hlang⟩ := exists_file hp.source
  obtain ⟨destinationFile, hdestination, -, hlang'⟩ := exists_file hp.destination
  have hsame : (sourceFile.language != destinationFile.language) = false := by
    rw [hlang, hlang', hp.language_eq, bne_self_eq_false]
  unfold applyMove moveOf at h
  dsimp only at h
  rw [hsource, hdestination] at h
  dsimp only at h
  rw [hsame, if_neg Bool.false_ne_true] at h
  by_cases hsignature : (p.1.symbol.signature == p.2.symbol.signature) = true
  · rw [if_pos hsignature] at h
    cases h
    exact ⟨[], by simp, rfl⟩
  · rw [if_neg hsignature] at h
    obtain ⟨more, hmore, h⟩ := Except.eq_ok_of_bind h
    cases h
    obtain ⟨c, rest, hc, hrest, rfl⟩ := Change.classify_cons.1 hmore
    cases hrest
    refine ⟨c.toList ++ [], ?_, rfl⟩
    intro d hd
    rw [List.append_nil, Option.mem_toList] at hd
    exact Change.ofPair_inPlace hc d hd

/-- An edit of one file that strikes out an entry of one side leaves the other side alone. -/
theorem entries_strike_other (side struck : Side) {file : FileChange} {f : List Change → List Change}
    (hne : side ≠ struck) (hfile : files.filter (·.path == path) = [file])
    (hf : ∀ cs, Change.entries side file.path (f cs)
      = Change.entries side file.path (withoutSymbol struck.reports s cs)) :
    (entries side (atPath files path f)).Perm (entries side files) := by
  refine flatMap_atPath_perm [] [] hfile (List.Perm.of_eq ?_)
  have hother : ∀ c : Change, struck.reports c.kind = true → side.reports c.kind = false := by
    intro c
    cases side <;> cases struck <;> cases c.kind <;> simp_all [Side.reports, ChangeKind.isRemoval,
      ChangeKind.isAddition]
  dsimp only [List.nil_append]
  rw [hf, Change.entries, filter_withoutSymbol hother, Change.entries]

/-- On its own side it takes that entry, if there is one. -/
theorem entries_strike {file : FileChange} {f : List Change → List Change}
    (hfile : files.filter (·.path == path) = [file])
    (hf : ∀ cs, Change.entries side file.path (f cs)
      = Change.entries side file.path (withoutSymbol side.reports s cs))
    (hs : s.entry path ∈ entries side files) :
    (entries side files).Perm (s.entry path :: entries side (atPath files path f)) := by
  -- The entry can only come from the file of its path.
  obtain ⟨file', hmem, hentry⟩ := List.mem_flatMap.1 hs
  obtain ⟨c, -, -, heq⟩ := Change.mem_entries.1 hentry
  have hpath : file'.path = path := congrArg Entry.path heq
  have hfile' : file' ∈ files.filter (·.path == path) := List.mem_filter.2 ⟨hmem, by simp [hpath]⟩
  rw [hfile, List.mem_singleton] at hfile'
  subst hfile'
  subst hpath
  refine (flatMap_atPath_perm [s.entry file'.path] [] hfile ?_).symm
  rw [hf]
  exact (entries_withoutSymbol hentry).symm

/-- Reporting a move and what else changed makes no entry. -/
theorem entries_arrive (side : Side) (path : Text) (p : Located × Located) {more : List Change}
    (hmore : ∀ c ∈ more, c.InPlace) (cs : List Change) :
    Change.entries side path (arrive p more cs)
      = Change.entries side path (withoutSymbol (Side.reports .new) p.2.symbol cs) := by
  have hnone : Change.entries side path (Change.ofMove p.1.file p.2.symbol :: more) = [] := by
    unfold Change.entries
    rw [List.map_eq_nil_iff, List.filter_eq_nil_iff]
    intro c hc
    rcases List.mem_cons.1 hc with rfl | hc
    · cases side <;> simp [Change.ofMove, Side.reports, ChangeKind.isRemoval, ChangeKind.isAddition]
    · rw [(hmore c hc).not_reports side]
      exact Bool.false_ne_true
  rw [arrive, Change.entries_append, hnone, List.append_nil]

/-- One move strikes out the entry of each of its sides. -/
theorem applyMove_entries (side : Side) {p : Located × Located} {files' : List FileChange}
    (hp : Applicable (places files) p) (hside : (side.pick p.1 p.2).entry ∈ entries side files)
    (h : applyMove files (moveOf p) = .ok files') :
    (entries side files).Perm ((side.pick p.1 p.2).entry :: entries side files') := by
  obtain ⟨more, hmore, rfl⟩ := applyMove_eq hp h
  obtain ⟨source, hsource, -, -⟩ := exists_file hp.source
  obtain ⟨destination, hdestination, -, -⟩ :=
    exists_file ((places_atPath files p.1.file (depart p)).symm ▸ hp.destination)
  have harrive := fun side => entries_arrive side destination.path p hmore
  cases side with
  | old =>
    have hfirst := entries_strike (f := depart p) hsource (fun _ => rfl) hside
    have hsecond := entries_strike_other .old .new (by simp) hdestination (harrive .old)
    exact hfirst.trans (hsecond.symm.cons _)
  | new =>
    have hfirst := entries_strike_other .new .old (f := depart p) (by simp)
      hsource (fun _ => rfl)
    have hsecond := entries_strike hdestination (harrive .new) (hfirst.symm.mem_iff.1 hside)
    exact hfirst.symm.trans hsecond

theorem filter_moved_withoutSymbol (side : Side) (s : Symbol) (cs : List Change) :
    (withoutSymbol side.reports s cs).filter (·.kind == .moved) = cs.filter (·.kind == .moved) := by
  apply filter_withoutSymbol
  intro c hc
  cases side <;> cases hk : c.kind <;> simp_all [Side.reports, ChangeKind.isRemoval, ChangeKind.isAddition]

theorem filter_moved_arrive (p : Located × Located) {more : List Change} (hmore : ∀ c ∈ more, c.InPlace)
    (cs : List Change) :
    (arrive p more cs).filter (·.kind == .moved)
      = cs.filter (·.kind == .moved) ++ [Change.ofMove p.1.file p.2.symbol] := by
  have hnone : more.filter (·.kind == .moved) = [] := by
    rw [List.filter_eq_nil_iff]
    intro c hc hmoved
    rcases hmore c hc with h | h
    · simp [h] at hmoved
    · simp [beq_iff_eq.1 hmoved, ChangeKind.isModification] at h
  rw [arrive, List.filter_append, filter_moved_withoutSymbol, List.filter_cons_of_pos (by rfl), hnone]

/-- One move is reported once, in its destination. -/
theorem applyMove_reportedMoves {p : Located × Located} {files' : List FileChange}
    (hp : Applicable (places files) p) (h : applyMove files (moveOf p) = .ok files') :
    (reportedMoves files').Perm
      ((p.2.file, Change.ofMove p.1.file p.2.symbol) :: reportedMoves files) := by
  obtain ⟨more, hmore, rfl⟩ := applyMove_eq hp h
  obtain ⟨source, hsource, -, -⟩ := exists_file hp.source
  obtain ⟨destination, hdestination, hpath, -⟩ :=
    exists_file ((places_atPath files p.1.file (depart p)).symm ▸ hp.destination)
  have hfirst : (reportedMoves (atPath files p.1.file (depart p))).Perm (reportedMoves files) := by
    refine flatMap_atPath_perm [] [] hsource (List.Perm.of_eq ?_)
    dsimp only [List.nil_append, movesIn, depart]
    rw [filter_moved_withoutSymbol]
  refine (flatMap_atPath_perm [] [_] hdestination ?_).trans (hfirst.cons _)
  dsimp only [List.nil_append, movesIn]
  rw [filter_moved_arrive p hmore, List.map_append, List.map_singleton, hpath]
  exact List.perm_append_comm

/-! ## A run of moves -/

/-- A run of moves strikes out the entries of its sides and reports each move in its destination,
provided that it finds the entries. -/
theorem applyMoves_spec {pairs : List (Located × Located)} {files' : List FileChange}
    (hpairs : ∀ p ∈ pairs, Applicable (places files) p)
    (hfound : ∀ side : Side,
      (pairs.map fun p => (side.pick p.1 p.2).entry).Subperm (entries side files))
    (h : applyMoves files (pairs.map moveOf) = .ok files') :
    (∀ side : Side, (entries side files).Perm
      ((pairs.map fun p => (side.pick p.1 p.2).entry) ++ entries side files')) ∧
    (reportedMoves files').Perm
      ((pairs.map fun p => (p.2.file, Change.ofMove p.1.file p.2.symbol)) ++ reportedMoves files) := by
  induction pairs generalizing files with
  | nil =>
    cases h
    exact ⟨fun _ => List.Perm.refl _, List.Perm.refl _⟩
  | cons p pairs ih =>
    obtain ⟨middle, hmiddle, hrest⟩ := Except.eq_ok_of_bind h
    obtain ⟨hp, hpairs⟩ := List.forall_mem_cons.1 hpairs
    have hplaces : places middle = places files := by
      obtain ⟨more, -, rfl⟩ := applyMove_eq hp hmiddle
      rw [places_atPath, places_atPath]
    have hstep : ∀ side : Side,
        (entries side files).Perm ((side.pick p.1 p.2).entry :: entries side middle) := fun side =>
      applyMove_entries side hp ((hfound side).subset List.mem_cons_self) hmiddle
    have hleft : ∀ side : Side,
        (pairs.map fun p => (side.pick p.1 p.2).entry).Subperm (entries side middle) := fun side =>
      (List.subperm_cons _).1 ((hfound side).trans (hstep side).subperm)
    obtain ⟨hentries, hmoves⟩ := ih (fun q hq => hplaces ▸ hpairs q hq) hleft hrest
    refine ⟨fun side => (hstep side).trans ((hentries side).cons _), ?_⟩
    exact hmoves.trans (((applyMove_reportedMoves hp hmiddle).append_left _).trans List.perm_middle)

end FileChange

end ChangeReview
