import ChangeReview.Analysis.OfPatch
import ChangeReview.Proofs.Change.Moves
import ChangeReview.Proofs.Session.Basic
import ChangeReview.Proofs.Symbol.Extraction

/-!
# An analysis accounts for every symbol

What the matching of the analysed files leaves unpaired is reported once: as a removal or an addition,
or as a side of a move. The search for moves sees only files whose path occurs once, so every
move finds its two files and the entries it replaces.
-/

namespace ChangeReview.Analysis

open ChangeReview.Symbol (Side Located alone matchAll moveOf)
open ChangeReview.Symbol.Go (functionAt)

/-- The symbols of both sides of a file, as they were compared. -/
structure Compared where
  path : Text
  old : List Symbol
  new : List Symbol

/-- The symbols of both sides of a file, unless the file is left out of the analysis. -/
def symbolsOf (range : Text) (contents : Option Contents) (f : Patch.FileRecord) :
    Action (Option Compared) :=
  if f.isGenerated || f.isBinary then return none
  else match Path.language? f.path, contents with
    | some language, some contents => do
      let oldSource ← side contents (RefRange.ofText range).old f.oldPath
      let newSource ← side contents (RefRange.ofText range).new f.newPath
      if (f.oldPath.isSome && oldSource.isNone) || (f.newPath.isSome && newSource.isNone) then return none
      else
        let old ← parseSide language f.oldPath oldSource
        let new ← parseSide language f.newPath newSource
        return if old.hasGap || new.hasGap then none
          else some { path := f.path, old := old.symbols, new := new.symbols }
    | _, _ => return none

/-- What a result says of the symbols that were compared. -/
inductive Reports : FileResult → Option Compared → Prop where
  | leftOut {r : FileResult} (hchanges : r.change.changes = []) (hremoved : r.removed = [])
      (hadded : r.added = []) : Reports r none
  | compared {r : FileResult} {file : FileChange} {language : Language} {old new : List Symbol}
      (hlanguage : file.language.isSome = true) (h : compareSides file language old new = .ok r) :
      Reports r (some { path := file.path, old, new })

variable {range : Text} {contents : Option Contents} {s t : Session}

theorem exists_symbolsOf (f : Patch.FileRecord) (s t : Session) (r : FileResult)
    (h : (ofRecord range contents f).on s = (.ok r, t)) :
    ∃ c, (symbolsOf range contents f).on s = (.ok c, t) ∧ Reports r c := by
  unfold ofRecord at h
  unfold symbolsOf
  dsimp only at h
  by_cases hgenerated : f.isGenerated = true
  · rw [if_pos hgenerated] at h
    cases h
    rw [if_pos (by simp [hgenerated])]
    exact ⟨none, rfl, .leftOut rfl rfl rfl⟩
  rw [if_neg hgenerated] at h
  by_cases hbinary : f.isBinary = true
  · rw [if_pos hbinary] at h
    cases h
    rw [if_pos (by simp [hbinary])]
    exact ⟨none, rfl, .leftOut rfl rfl rfl⟩
  rw [if_neg hbinary] at h
  rw [if_neg (by simp [hgenerated, hbinary])]
  cases hlanguage : Path.language? f.path with
  | none =>
    rw [hlanguage] at h
    cases h
    exact ⟨none, rfl, .leftOut rfl rfl rfl⟩
  | some language =>
    rw [hlanguage] at h
    cases contents with
    | none =>
      cases h
      exact ⟨none, rfl, .leftOut rfl rfl rfl⟩
    | some contents =>
      dsimp only at h ⊢
      obtain ⟨oldSource, s₁, hold, h⟩ := Action.exists_of_on_bind h
      obtain ⟨newSource, s₂, hnew, h⟩ := Action.exists_of_on_bind h
      rw [Action.on_bind hold, Action.on_bind hnew]
      split at h
      · rename_i hmissing
        cases h
        rw [if_pos hmissing]
        exact ⟨none, rfl, .leftOut rfl rfl rfl⟩
      · rename_i hpresent
        rw [if_neg hpresent]
        obtain ⟨old, s₃, hold, h⟩ := Action.exists_of_on_bind h
        obtain ⟨new, s₄, hnew, h⟩ := Action.exists_of_on_bind h
        rw [Action.on_bind hold, Action.on_bind hnew]
        split at h
        · rename_i hgap
          cases h
          rw [if_pos hgap]
          exact ⟨none, rfl, .leftOut rfl rfl rfl⟩
        · rename_i hwhole
          rw [if_neg hwhole]
          rw [Action.on_lift] at h
          obtain ⟨hr, rfl⟩ := Prod.mk.inj h
          exact ⟨_, rfl, .compared rfl hr⟩

/-! ## One file -/

/-- The entries that the unpaired symbols of a side should have. -/
def Compared.unpairedEntries (side : Side) (c : Compared) : List Entry :=
  (alone side (matchAll c.old c.new)).map (Symbol.entry c.path)

/-- The symbols that a result has left over on a side. -/
def FileResult.unpaired (side : Side) (r : FileResult) : List Symbol := side.pick r.removed r.added

theorem compareSides_eq {file : FileChange} {language : Language} {old new : List Symbol}
    {r : FileResult} (h : compareSides file language old new = .ok r) :
    ∃ cs, Change.classify (Signature.compare language) (matchAll old new) = .ok cs ∧
      r.change = { file with changes := cs } ∧ ∀ side, r.unpaired side = Symbol.unpairedOf side old new := by
  obtain ⟨cs, hcs, h⟩ := Except.eq_ok_of_bind h
  cases h
  exact ⟨cs, hcs, rfl, fun side => by cases side <;> rfl⟩

namespace Reports

variable {r : FileResult} {c : Option Compared}

/-- A result has the entries of the unpaired symbols. -/
theorem entries_eq (h : Reports r c) (side : Side) :
    Change.entries side r.change.path r.change.changes
      = (c.map (Compared.unpairedEntries side)).getD [] := by
  cases h with
  | leftOut hchanges =>
    rw [hchanges]
    rfl
  | compared _ h =>
    obtain ⟨cs, hcs, hchange, -⟩ := compareSides_eq h
    rw [hchange]
    exact Change.entries_of_classify side _ (fun m => Symbol.fileFrom_of_mem_matchAll) hcs

/-- What a result has left over for the search for moves is what it has entries for. -/
theorem map_unpaired_perm (h : Reports r c) (side : Side) :
    ((r.unpaired side).map (Symbol.entry r.change.path)).Perm
      (Change.entries side r.change.path r.change.changes) := by
  rw [h.entries_eq side]
  cases h with
  | leftOut _ hremoved hadded =>
    cases side with
    | old => rw [FileResult.unpaired, Side.pick, hremoved]; exact List.Perm.refl _
    | new => rw [FileResult.unpaired, Side.pick, hadded]; exact List.Perm.refl _
  | compared _ h =>
    obtain ⟨cs, -, hchange, hunpaired⟩ := compareSides_eq h
    rw [hchange, hunpaired side]
    exact (Symbol.unpairedOf_perm side _ _).map _

theorem movesIn_eq_nil (h : Reports r c) : FileChange.movesIn r.change = [] := by
  unfold FileChange.movesIn
  rw [List.map_eq_nil_iff, List.filter_eq_nil_iff]
  cases h with
  | leftOut hchanges => simp [hchanges]
  | compared _ h =>
    obtain ⟨cs, hcs, hchange, -⟩ := compareSides_eq h
    rw [hchange]
    intro d hd
    simpa using Change.not_moved_of_classify (fun m => Symbol.fileFrom_of_mem_matchAll) hcs d hd

/-- A file with symbols left over has a language. -/
theorem language_isSome (h : Reports r c) {side : Side} (hunpaired : r.unpaired side ≠ []) :
    r.change.language.isSome = true := by
  cases h with
  | leftOut _ hremoved hadded => cases side <;> simp_all [FileResult.unpaired, Side.pick]
  | compared hlanguage h =>
    obtain ⟨cs, -, hchange, -⟩ := compareSides_eq h
    rw [hchange]
    exact hlanguage

end Reports

/-! ## All files -/

variable {results : List FileResult} {compared : List (Option Compared)}

/-- The entries that the unpaired symbols of all files should have. -/
def unpairedEntries (side : Side) (compared : List (Option Compared)) : List Entry :=
  compared.reduceOption.flatMap (Compared.unpairedEntries side)

theorem entries_of_reports (h : List.Forall₂ Reports results compared) (side : Side) :
    FileChange.entries side (results.map FileResult.change) = unpairedEntries side compared := by
  induction h with
  | nil => rfl
  | @cons r c results compared hr _ ih =>
    unfold FileChange.entries unpairedEntries at ih ⊢
    rw [List.map_cons, List.flatMap_cons, hr.entries_eq side, ih]
    cases c <;> rfl

theorem reportedMoves_of_reports (h : List.Forall₂ Reports results compared) :
    FileChange.reportedMoves (results.map FileResult.change) = [] := by
  induction h with
  | nil => rfl
  | cons hr _ ih =>
    unfold FileChange.reportedMoves at ih ⊢
    rw [List.map_cons, List.flatMap_cons, hr.movesIn_eq_nil, ih, List.nil_append]

theorem reports_of_mem (h : List.Forall₂ Reports results compared) {r : FileResult} (hr : r ∈ results) :
    ∃ c, Reports r c := by
  induction h with
  | nil => cases hr
  | cons hrep _ ih =>
    rcases List.mem_cons.1 hr with rfl | hr
    · exact ⟨_, hrep⟩
    · exact ih hr

/-- The symbols that may have moved are found among the entries. -/
theorem locate_candidates_subperm (h : List.Forall₂ Reports results compared) (side : Side) :
    ((Symbol.locate (candidates results (FileResult.unpaired side))).map Located.entry).Subperm
      (FileChange.entries side (results.map FileResult.change)) := by
  unfold Symbol.locate candidates FileChange.entries
  rw [List.filterMap_eq_flatMap_toList, List.flatMap_assoc, List.map_flatMap, List.flatMap_map]
  apply flatMap_subperm
  intro r hr
  obtain ⟨c, hrep⟩ := reports_of_mem h hr
  dsimp only
  split
  · exact List.nil_subperm
  · rw [Option.toList_some, List.flatMap_singleton, List.map_map]
    exact (hrep.map_unpaired_perm side).subperm

/-- The file of a symbol that may have moved is the only one of its path. -/
theorem place_of_mem_locate (h : List.Forall₂ Reports results compared) (side : Side) {l : Located}
    (hl : l ∈ Symbol.locate (candidates results (FileResult.unpaired side))) :
    (FileChange.places (results.map FileResult.change)).filter (·.1 == l.file)
      = [(l.file, some l.language)] := by
  obtain ⟨⟨file, found⟩, hfile, hl⟩ := List.mem_flatMap.1 hl
  obtain ⟨symbol, -, rfl⟩ := List.mem_map.1 hl
  obtain ⟨r, hr, hcandidate⟩ := List.mem_filterMap.1 hfile
  obtain ⟨c, hrep⟩ := reports_of_mem h hr
  dsimp only at hcandidate
  split at hcandidate
  · cases hcandidate
  rename_i hsingle
  cases hcandidate
  simp only [Bool.or_eq_true, List.isEmpty_iff, bne_iff_ne, ne_eq, not_or, not_not] at hsingle
  obtain ⟨hunpaired, hcount⟩ := hsingle
  obtain ⟨language, hlanguage⟩ := Option.isSome_iff_exists.1 (hrep.language_isSome hunpaired)
  -- The path occurs once, so the files of the path are this one.
  rw [List.countP_eq_length_filter] at hcount
  obtain ⟨r', hr'⟩ := List.length_eq_one_iff.1 hcount
  have hmem : r ∈ results.filter fun other => other.change.path == r.change.path :=
    List.mem_filter.2 ⟨hr, beq_self_eq_true _⟩
  rw [hr', List.mem_singleton] at hmem
  subst hmem
  unfold FileChange.places
  rw [List.map_map, List.filter_map]
  simp only [Function.comp_def, hr', List.map_singleton, hlanguage, Option.getD_some]

theorem movedPairs_pick_subperm (side : Side) (olds news : List Located) :
    ((Symbol.movedPairs olds news).map fun p => side.pick p.1 p.2).Subperm (side.pick olds news) := by
  cases side with
  | old => exact Symbol.movedPairs_fst_subperm olds news
  | new => exact Symbol.movedPairs_snd_subperm olds news

/-! ## The analysis of a patch -/

theorem exists_results {diff : Text} {options : Options} {a : Analysis}
    (h : (ofPatch diff range contents options).on s = (.ok a, t)) :
    ∃ results, ((Patch.read options.skipGenerated Path.generatedPatterns diff).mapM
        (ofRecord range contents)).on s = (.ok results, t) ∧ withMoves results = .ok a.files := by
  unfold ofPatch at h
  obtain ⟨results, r, hresults, h⟩ := Action.exists_of_on_bind h
  obtain ⟨files, q, hlift, h⟩ := Action.exists_of_on_bind h
  rw [Action.on_lift] at hlift
  obtain ⟨hfiles, rfl⟩ := Prod.mk.inj hlift
  cases h
  exact ⟨results, hresults, hfiles⟩

/-- Each move that is found is reported once, in its destination; and the unpaired symbols of the analysed
files are, as entries, the sides of the moves together with the removals, respectively the additions,
that are reported. Nothing is lost, and nothing is reported twice. -/
theorem ofPatch_accounts_for_symbols {diff : Text} {options : Options} {a : Analysis}
    (h : (ofPatch diff range contents options).on s = (.ok a, t)) :
    ∃ (results : List FileResult) (compared : List (Option Compared)) (pairs : List (Located × Located)),
      ((Patch.read options.skipGenerated Path.generatedPatterns diff).mapM
        (ofRecord range contents)).on s = (.ok results, t) ∧
      ((Patch.read options.skipGenerated Path.generatedPatterns diff).mapM
        (symbolsOf range contents)).on s = (.ok compared, t) ∧
      Symbol.moves (candidates results FileResult.removed) (candidates results FileResult.added)
        = pairs.map moveOf ∧
      (FileChange.reportedMoves a.files).Perm
        (pairs.map fun p => (p.2.file, Change.ofMove p.1.file p.2.symbol)) ∧
      ∀ side : Side, (unpairedEntries side compared).Perm
        ((pairs.map fun p => (side.pick p.1 p.2).entry) ++ FileChange.entries side a.files) := by
  obtain ⟨results, hresults, hfiles⟩ := exists_results h
  obtain ⟨compared, hcompared, hreports⟩ := Action.exists_mapM_of_mapM exists_symbolsOf hresults
  set olds := Symbol.locate (candidates results FileResult.removed)
  set news := Symbol.locate (candidates results FileResult.added)
  have hmoves := Symbol.moves_eq (candidates results FileResult.removed)
    (candidates results FileResult.added)
  refine ⟨results, compared, Symbol.movedPairs olds news, hresults, hcompared, hmoves, ?_⟩
  have happlicable : ∀ p ∈ Symbol.movedPairs olds news,
      FileChange.Applicable (FileChange.places (results.map FileResult.change)) p := by
    intro p hp
    have hrelated := Symbol.related_of_mem_movedPairs hp
    have hold : p.1 ∈ olds := (Symbol.movedPairs_fst_subperm olds news).subset (List.mem_map_of_mem hp)
    have hnew : p.2 ∈ news := (Symbol.movedPairs_snd_subperm olds news).subset (List.mem_map_of_mem hp)
    exact ⟨place_of_mem_locate hreports .old hold, place_of_mem_locate hreports .new hnew,
      hrelated.language_eq⟩
  have hfound : ∀ side : Side, ((Symbol.movedPairs olds news).map fun p =>
      (side.pick p.1 p.2).entry).Subperm (FileChange.entries side (results.map FileResult.change)) := by
    intro side
    have hpart := map_subperm Located.entry (movedPairs_pick_subperm side olds news)
    rw [List.map_map] at hpart
    refine hpart.trans ?_
    cases side with
    | old => exact locate_candidates_subperm hreports .old
    | new => exact locate_candidates_subperm hreports .new
  unfold withMoves at hfiles
  rw [hmoves] at hfiles
  obtain ⟨hentries, hreported⟩ := FileChange.applyMoves_spec happlicable hfound hfiles
  refine ⟨?_, fun side => ?_⟩
  · rw [reportedMoves_of_reports hreports, List.append_nil] at hreported
    exact hreported
  · rw [← entries_of_reports hreports side]
    exact hentries side

/-! A file with two functions is deleted, and one of them is added in another file. -/

def relocation : Text :=
  "diff --git a/a.go b/a.go\ndeleted file mode 100644\ndiff --git a/b.go b/b.go\nnew file mode 100644\n"

def relocationContents : Contents := fun _ path =>
  return some (if path == "a.go" then "func F()\nfunc G()" else "func F()")

def relocationTrees : Session :=
  { trees := .ofList [
      ("func F()\nfunc G()",
        { kind := "source_file", start := 0, stop := 17, children := [functionAt 0, functionAt 9] }),
      ("func F()", { kind := "source_file", start := 0, stop := 8, children := [functionAt 0] })] }

/-- The function that is in both files is reported as moved, the other one as removed. -/
theorem ofPatch_accounts_for_symbols_relocated :
    ∃ (a : Analysis) (t : Session),
      (ofPatch relocation "x..y" (some relocationContents)).on relocationTrees = (.ok a, t) ∧
      FileChange.entries .old a.files = [⟨"a.go", "G", some "func G()", some 2⟩] ∧
      FileChange.entries .new a.files = [] ∧
      ∃ (compared : List (Option Compared)) (pairs : List (Located × Located)), pairs.length = 1 ∧
        (FileChange.reportedMoves a.files).Perm
          (pairs.map fun p => (p.2.file, Change.ofMove p.1.file p.2.symbol)) ∧
        ∀ side : Side, (unpairedEntries side compared).Perm
          ((pairs.map fun p => (side.pick p.1 p.2).entry) ++ FileChange.entries side a.files) := by
  have hrun : ((ofPatch relocation "x..y" (some relocationContents)).on relocationTrees).1.toOption.map
      (fun a => (FileChange.entries .old a.files, FileChange.entries .new a.files,
        (FileChange.reportedMoves a.files).length))
      = some ([⟨"a.go", "G", some "func G()", some 2⟩], [], 1) := by decide +kernel
  rcases h : (ofPatch relocation "x..y" (some relocationContents)).on relocationTrees with ⟨_ | a, t⟩
  · rw [h] at hrun
    cases hrun
  · rw [h] at hrun
    obtain ⟨hold, hnew⟩ := Prod.mk.inj (Option.some.inj hrun)
    obtain ⟨hnew, hmoves⟩ := Prod.mk.inj hnew
    obtain ⟨_, compared, pairs, -, -, -, hreported, hentries⟩ := ofPatch_accounts_for_symbols h
    refine ⟨a, t, rfl, hold, hnew, compared, pairs, ?_, hreported, hentries⟩
    rw [← hmoves, hreported.length_eq, List.length_map]

end ChangeReview.Analysis
