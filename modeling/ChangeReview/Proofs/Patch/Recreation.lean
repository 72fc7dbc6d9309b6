import ChangeReview.Patch.Reader
import Mathlib.Data.List.Basic

/-!
# Recreated files

A path may have two records in a patch that mean one modification: its removal and, anywhere behind it, its
addition. Such a pair is folded where the removal stands. Folding one pair keeps the lines of the patch and
makes no new pair (`coalesce_fold`), so by induction on the number of records (`fold_induction`) the patch in
which all pairs are folded has the same lines and no pair left.
-/

namespace ChangeReview.Patch

/-- A removal, and an addition behind it, are all that the files have under their key. -/
structure Recreated (files : List FileRecord) (removal addition : FileRecord) : Prop where
  isRemoval : removal.isRemoval = true
  isAddition : addition.isAddition = true
  only : files.filter (·.key == removal.key) = [removal, addition]

/-- The files in turn: one whose key has no pair stays, the removal of a pair becomes a modification with
the hunks of both, and the addition of a pair is left out. -/
inductive Joins (pair : FileRecord → FileRecord → Prop) : List FileRecord → List FileRecord → Prop
  | nil : Joins pair [] []
  | keep {f : FileRecord} {files joined : List FileRecord} (alone : ∀ r a, pair r a → f.key ≠ r.key)
      (rest : Joins pair files joined) : Joins pair (f :: files) (f :: joined)
  | join {r a : FileRecord} {files joined : List FileRecord} (paired : pair r a)
      (rest : Joins pair files joined) :
      Joins pair (r :: files)
        ({ oldPath := r.oldPath, newPath := a.newPath, changeType := .modified
           isBinary := r.isBinary || a.isBinary, isGenerated := r.isGenerated || a.isGenerated
           hunks := r.hunks ++ a.hunks } :: joined)
  | drop {r a : FileRecord} {files joined : List FileRecord} (paired : pair r a)
      (rest : Joins pair files joined) : Joins pair (a :: files) joined

variable {files : List FileRecord} {r a f : FileRecord} {key : Text}

/-! ## Keys and pairs -/

theorem key_ne_nil {path : Text} (h : path ≠ []) : Path.key path ≠ [] := by
  rw [Path.key, if_neg (by simpa using h)]
  extract_lets slashes lead body whole
  split
  · exact List.cons_ne_nil _ _
  · rename_i hwhole
    simpa using hwhole

theorem FileRecord.isRemoval_eq_false (h : f.isAddition = true) : f.isRemoval = false := by
  simp only [isAddition, Bool.and_eq_true, beq_iff_eq] at h
  simp [isRemoval, h.1.1]

/-- A modification goes by the path of its addition. -/
theorem FileRecord.path_recreate (h : a.isAddition = true) (hpath : a.path ≠ []) :
    (r.recreate a).path = a.path := by
  simp only [isAddition, Bool.and_eq_true, beq_iff_eq, Option.isNone_iff_eq_none,
    Option.isSome_iff_exists] at h
  obtain ⟨⟨-, hold⟩, path, hnew⟩ := h
  rw [FileRecord.path, hold, hnew] at hpath
  rw [FileRecord.path, FileRecord.path, recreate, hold, hnew]
  cases path with
  | nil => exact absurd rfl hpath
  | cons c path => rfl

theorem recreated?_eq_some (h : recreated? files key = some (r, a)) :
    Recreated files r a ∧ r.key = key := by
  unfold recreated? at h
  split at h
  · cases h
  · split at h
    · rename_i removal addition hpair
      split at h
      · rename_i hshape
        cases h
        rw [Bool.and_eq_true] at hshape
        have hmem : r ∈ files.filter (·.key == key) := hpair ▸ List.mem_cons_self
        have hkey : r.key = key := beq_iff_eq.1 (List.mem_filter.1 hmem).2
        exact ⟨⟨hshape.1, hshape.2, by rw [hkey, hpair]⟩, hkey⟩
      · cases h
    · cases h

theorem Recreated.recreated?_eq (h : Recreated files r a) (hkey : r.key ≠ []) :
    recreated? files r.key = some (r, a) := by
  unfold recreated?
  rw [if_neg (by simpa using hkey), h.only]
  dsimp only
  rw [h.isRemoval, h.isAddition, Bool.and_self, if_pos rfl]

theorem Recreated.mem_iff (h : Recreated files r a) : f ∈ files ∧ f.key = r.key ↔ f = r ∨ f = a := by
  have hmem : f ∈ files.filter (·.key == r.key) ↔ f ∈ [r, a] := by rw [h.only]
  simpa using hmem

/-- A pair divides the files, and no other file has its key. -/
theorem Recreated.exists_split (h : Recreated files r a) : ∃ before between after,
    files = before ++ r :: (between ++ a :: after) ∧ a.key = r.key ∧
      ∀ f ∈ before ++ (between ++ after), f.key ≠ r.key := by
  obtain ⟨before, rest, rfl, hbefore, -, hrest⟩ := List.filter_eq_cons_iff.1 h.only
  obtain ⟨between, after, rfl, hbetween, hkey, hafter⟩ := List.filter_eq_cons_iff.1 hrest
  refine ⟨before, between, after, rfl, beq_iff_eq.1 hkey, ?_⟩
  have hafter := List.filter_eq_nil_iff.1 hafter
  simp only [beq_iff_eq] at hbefore hbetween hafter
  simp only [List.forall_mem_append]
  exact ⟨hbefore, hbetween, hafter⟩

/-! ## What becomes of one file -/

/-- What becomes of one of the files. -/
def folded? (files : List FileRecord) (f : FileRecord) : Option FileRecord :=
  match recreated? files f.key with
  | none => some f
  | some (removal, addition) => if f.isRemoval then some (removal.recreate addition) else none

theorem coalesce_eq (files : List FileRecord) : coalesce files = files.filterMap (folded? files) := rfl

theorem folded?_of_none (h : recreated? files f.key = none) : folded? files f = some f := by
  rw [folded?, h]

theorem Recreated.folded?_removal (h : Recreated files r a) (hkey : r.key ≠ []) :
    folded? files r = some (r.recreate a) := by
  rw [folded?, h.recreated?_eq hkey]
  dsimp only
  rw [h.isRemoval, if_pos rfl]

theorem Recreated.folded?_addition (h : Recreated files r a) (hkey : r.key ≠ []) :
    folded? files a = none := by
  have hsame : a.key = r.key := (h.mem_iff.2 (Or.inr rfl)).2
  rw [folded?, hsame, h.recreated?_eq hkey]
  dsimp only
  rw [FileRecord.isRemoval_eq_false h.isAddition, if_neg Bool.false_ne_true]

/-- What becomes of a file depends on the files of its key alone. -/
theorem folded?_congr {others : List FileRecord} (h : recreated? files f.key = recreated? others f.key) :
    folded? files f = folded? others f := by
  rw [folded?, folded?, h]

theorem joins_coalesce (hpath : ∀ f ∈ files, f.path ≠ []) :
    Joins (Recreated files) files (coalesce files) := by
  -- the pairs are those of all files, and the files run out one by one
  have hall : ∀ fs, (∀ f ∈ fs, f ∈ files) → Joins (Recreated files) fs (fs.filterMap (folded? files)) := by
    intro fs
    induction fs with
    | nil => exact fun _ => .nil
    | cons f fs ih =>
      intro hfs
      obtain ⟨hf, hfs⟩ := List.forall_mem_cons.1 hfs
      have hne : f.key ≠ [] := key_ne_nil (hpath f hf)
      rw [List.filterMap_cons]
      cases hpair : recreated? files f.key with
      | none =>
        rw [folded?_of_none hpair]
        refine .keep (fun r a h hkey => ?_) (ih hfs)
        rw [hkey] at hne hpair
        cases (h.recreated?_eq hne).symm.trans hpair
      | some pair =>
        obtain ⟨h, hkey⟩ := recreated?_eq_some hpair
        have hrest := ih hfs
        rcases h.mem_iff.1 ⟨hf, hkey.symm⟩ with rfl | rfl
        · rw [h.folded?_removal hne]
          exact .join h hrest
        · rw [h.folded?_addition (hkey ▸ hne)]
          exact .drop h hrest
  exact hall files fun _ hf => hf

/-! ## One pair at a time -/

/-- Folding one pair leaves the same work to do. -/
theorem coalesce_fold {before between after : List FileRecord}
    (h : Recreated (before ++ r :: (between ++ a :: after)) r a) (hpath : a.path ≠ [])
    (hkey : a.key = r.key) (hothers : ∀ f ∈ before ++ (between ++ after), f.key ≠ r.key) :
    coalesce (before ++ r :: (between ++ a :: after))
      = coalesce (before ++ r.recreate a :: (between ++ after)) := by
  have hne : r.key ≠ [] := hkey ▸ key_ne_nil hpath
  have hfolded : (r.recreate a).key = r.key := by
    rw [FileRecord.key, FileRecord.path_recreate h.isAddition hpath]
    exact hkey
  simp only [List.forall_mem_append] at hothers
  obtain ⟨hbefore, hbetween, hafter⟩ := hothers
  -- under another key the pair is not seen
  have hsame : ∀ f : FileRecord, f.key ≠ r.key →
      folded? (before ++ r :: (between ++ a :: after)) f
        = folded? (before ++ r.recreate a :: (between ++ after)) f := by
    intro f hf
    have hskip : ∀ g : FileRecord, g.key = r.key → (g.key == f.key) = false := by
      intro g hg
      rw [beq_eq_false_iff_ne, hg]
      exact hf.symm
    apply folded?_congr
    unfold recreated?
    simp only [List.filter_append, List.filter_cons, hskip r rfl, hskip a hkey, hskip _ hfolded,
      Bool.false_eq_true, if_false]
  -- under the key of the pair the modification stands alone
  have halone : folded? (before ++ r.recreate a :: (between ++ after)) (r.recreate a)
      = some (r.recreate a) := by
    have honly : (before ++ r.recreate a :: (between ++ after)).filter (·.key == (r.recreate a).key)
        = [r.recreate a] := by
      rw [List.filter_append, List.filter_cons, if_pos (beq_self_eq_true _), List.filter_append,
        List.filter_eq_nil_iff.2 (by simpa [hfolded] using hbefore),
        List.filter_eq_nil_iff.2 (by simpa [hfolded] using hbetween),
        List.filter_eq_nil_iff.2 (by simpa [hfolded] using hafter)]
      rfl
    apply folded?_of_none
    unfold recreated?
    rw [honly, ite_self]
  have hcongr : ∀ fs : List FileRecord, (∀ f ∈ fs, f.key ≠ r.key) →
      fs.filterMap (folded? (before ++ r :: (between ++ a :: after)))
        = fs.filterMap (folded? (before ++ r.recreate a :: (between ++ after))) :=
    fun fs hfs => List.filterMap_congr fun f hf => hsame f (hfs f hf)
  rw [coalesce_eq, coalesce_eq, List.filterMap_append, List.filterMap_append,
    List.filterMap_cons_some (h.folded?_removal hne), List.filterMap_cons_some halone,
    List.filterMap_append, List.filterMap_append, List.filterMap_cons_none (h.folded?_addition hne),
    hcongr before hbefore, hcongr between hbetween, hcongr after hafter]

theorem coalesce_of_forall_not_recreated (h : ∀ r a, ¬ Recreated files r a) : coalesce files = files := by
  have hkeep : ∀ f ∈ files, folded? files f = some f := by
    intro f _
    apply folded?_of_none
    cases hpair : recreated? files f.key with
    | none => rfl
    | some pair => exact absurd (recreated?_eq_some hpair).1 (h _ _)
  rw [coalesce_eq, List.filterMap_congr hkeep, List.filterMap_some]

/-- What holds of files without a pair, and of files with one if it holds of those in which it is folded,
holds of all files. -/
theorem fold_induction {motive : List FileRecord → Prop}
    (settled : ∀ files, (∀ r a, ¬ Recreated files r a) → motive files)
    (fold : ∀ before r between a after,
      coalesce (before ++ r :: (between ++ a :: after))
        = coalesce (before ++ r.recreate a :: (between ++ after)) →
      motive (before ++ r.recreate a :: (between ++ after)) →
      motive (before ++ r :: (between ++ a :: after)))
    (files : List FileRecord) (hpath : ∀ f ∈ files, f.path ≠ []) : motive files := by
  induction hlength : files.length using Nat.strongRecOn generalizing files with
  | ind n ih =>
    by_cases hpair : ∃ r a, Recreated files r a
    · obtain ⟨r, a, h⟩ := hpair
      obtain ⟨before, between, after, rfl, hkey, hothers⟩ := h.exists_split
      have ha : a.path ≠ [] := hpath a (by simp)
      have hfolded : (r.recreate a).path ≠ [] := by rwa [FileRecord.path_recreate h.isAddition ha]
      refine fold before r between a after (coalesce_fold h ha hkey hothers) (ih _ ?_ _ ?_ rfl)
      · simp only [List.length_append, List.length_cons] at hlength ⊢
        omega
      · simp only [List.forall_mem_append, List.forall_mem_cons] at hpath ⊢
        exact ⟨hpath.1, hfolded, hpath.2.2.1, hpath.2.2.2.2⟩
    · exact settled files fun r a h => hpair ⟨r, a, h⟩

theorem forall_not_recreated_coalesce (hpath : ∀ f ∈ files, f.path ≠ []) (r a : FileRecord) :
    ¬ Recreated (coalesce files) r a := by
  refine fold_induction (motive := fun files => ∀ r a, ¬ Recreated (coalesce files) r a) ?_ ?_ files hpath r a
  · intro files h
    rwa [coalesce_of_forall_not_recreated h]
  · intro before r between a after heq ih
    rwa [heq]

/-- A weight that a modification has from both its parts is kept. -/
theorem total_map_coalesce {weight : FileRecord → Nat}
    (hweight : ∀ r a : FileRecord, weight (r.recreate a) = weight r + weight a)
    (hpath : ∀ f ∈ files, f.path ≠ []) :
    total ((coalesce files).map weight) = total (files.map weight) := by
  refine fold_induction (motive := fun files =>
    total ((coalesce files).map weight) = total (files.map weight)) ?_ ?_ files hpath
  · intro files h
    rw [coalesce_of_forall_not_recreated h]
  · intro before r between a after heq ih
    rw [heq, ih]
    simp only [List.map_append, List.map_cons, total_append, total_cons, hweight]
    omega

theorem FileRecord.additions_recreate (r a : FileRecord) :
    (r.recreate a).additions = r.additions + a.additions := by
  simp only [additions, recreate, List.map_append, total_append]

theorem FileRecord.deletions_recreate (r a : FileRecord) :
    (r.recreate a).deletions = r.deletions + a.deletions := by
  simp only [deletions, recreate, List.map_append, total_append]

/-- Folding recreated files loses no line, and leaves every other file as it is and where it is; each pair
becomes a modification where its removal stands. No pair is left, so folding again changes nothing. -/
theorem coalesce_folds_recreated_files (hpath : ∀ f ∈ files, f.path ≠ []) :
    total ((coalesce files).map FileRecord.additions) = total (files.map FileRecord.additions) ∧
      total ((coalesce files).map FileRecord.deletions) = total (files.map FileRecord.deletions) ∧
      Joins (Recreated files) files (coalesce files) ∧
      (∀ r a, ¬ Recreated (coalesce files) r a) ∧
      coalesce (coalesce files) = coalesce files := by
  have hsettled := forall_not_recreated_coalesce hpath
  exact ⟨total_map_coalesce FileRecord.additions_recreate hpath,
    total_map_coalesce FileRecord.deletions_recreate hpath, joins_coalesce hpath, hsettled,
    coalesce_of_forall_not_recreated hsettled⟩

/-- A record of a path with the line that it removes or adds. -/
def oneLineRecord (oldPath newPath : Option Text) (changeType : ChangeType) (line : Line) : FileRecord :=
  { oldPath, newPath, changeType, isBinary := false, isGenerated := false
    hunks := [{ header := ⟨1, 1, 1, 1, ""⟩, lines := [line] }] }

/-- A file that is removed and, behind others, added again under another spelling of its path; another one
is added before it is removed. -/
def spelledApart : List FileRecord :=
  [oneLineRecord (some "lib.py") none .removed (.removed "old" 1),
    oneLineRecord none (some "a.py") .added (.added "x" 1),
    oneLineRecord (some "n.md") (some "n.md") .modified (.context "y" 1 1),
    oneLineRecord none (some "./lib.py") .added (.added "new" 1),
    oneLineRecord (some "a.py") none .removed (.removed "x" 1)]

theorem coalesce_folds_recreated_files_apart :
    (∀ f ∈ spelledApart, f.path ≠ []) ∧
      (coalesce spelledApart).map (fun f => (f.path, f.additions, f.deletions))
        = [(("./lib.py" : Text), 1, 1), (("a.py" : Text), 1, 0), (("n.md" : Text), 0, 0),
          (("a.py" : Text), 0, 1)] ∧
      Joins (Recreated spelledApart) spelledApart (coalesce spelledApart) ∧
      coalesce (coalesce spelledApart) = coalesce spelledApart := by
  have hpath : ∀ f ∈ spelledApart, f.path ≠ [] := by decide +kernel
  obtain ⟨-, -, hjoins, -, hagain⟩ := coalesce_folds_recreated_files hpath
  exact ⟨hpath, by decide +kernel, hjoins, hagain⟩

end ChangeReview.Patch
