import ChangeReview.Proofs.Repository.Revealing
import ChangeReview.Proofs.Sorting
import ChangeReview.Summary.Tiers

/-!
# Summaries follow the order of review

Changes are sorted by priority, path and name. What this order does not tell apart stands in one file if
the paths differ, and keeps the order it has there. So the order of the files does not show: not in the
focus and the counts of a summary, and not in its texts where no change breaks.
-/

namespace ChangeReview

/-! ## Texts in order -/

namespace Text

theorem le_iff {t u : Text} : le t u = true ↔ lt t u = true ∨ t = u := by
  unfold le
  by_cases h : t = u
  · simp [h, lt_irrefl]
  · rw [Bool.not_eq_true', or_iff_left h]
    rcases lt_or_lt_of_ne h with hlt | hlt
    · refine iff_of_true (Bool.eq_false_iff.2 fun hgt => ?_) hlt
      exact Bool.false_ne_true ((lt_irrefl t).symm.trans (lt_trans hlt hgt))
    · refine iff_of_false (by simp [hlt]) fun hgt => ?_
      exact Bool.false_ne_true ((lt_irrefl t).symm.trans (lt_trans hgt hlt))

theorem le_trans (t u v : Text) (htu : le t u = true) (huv : le u v = true) : le t v = true := by
  rw [le_iff] at htu huv ⊢
  rcases htu with htu | rfl
  · rcases huv with huv | rfl
    · exact Or.inl (lt_trans htu huv)
    · exact Or.inl htu
  · exact huv

theorem le_total (t u : Text) : (le t u || le u t) = true := by
  rw [Bool.or_eq_true, le_iff, le_iff]
  by_cases h : t = u
  · exact Or.inl (Or.inr h)
  · exact (lt_or_lt_of_ne h).imp Or.inl Or.inl

theorem le_antisymm {t u : Text} (htu : le t u = true) (hut : le u t = true) : t = u := by
  by_contra h
  have htu := (le_iff.1 htu).resolve_right h
  have hut := (le_iff.1 hut).resolve_right (Ne.symm h)
  exact Bool.false_ne_true ((lt_irrefl t).symm.trans (lt_trans htu hut))

/-- The same texts are sorted alike. -/
theorem sort_eq_of_perm {ts us : List Text} (h : ts.Perm us) : sort ts = sort us := by
  refine mergeSort_eq_of_level_eq le_trans le_total fun a => ?_
  have hsame : ∀ vs, level le a vs = List.replicate (vs.count a) a := by
    intro vs
    rw [← List.filter_beq]
    refine List.filter_congr fun b _ => ?_
    rw [Bool.eq_iff_iff, Bool.and_eq_true, beq_iff_eq]
    constructor
    · exact fun hab => (le_antisymm hab.1 hab.2).symm
    · rintro rfl
      simp [le_iff]
  rw [hsame, hsame, h.count_eq]

/-- What stays when later repetitions are left out. -/
theorem distinct_eq_eraseDups (ts : List Text) : distinct ts = ts.eraseDups := by
  have hseen : ∀ seen : List Text,
      ts.foldl (fun seen t => if seen.contains t then seen else seen ++ [t]) seen
        = seen ++ (ts.filter fun t => !seen.contains t).eraseDups := by
    induction ts with
    | nil => simp
    | cons t ts ih =>
      intro seen
      rw [List.foldl_cons, ih]
      by_cases ht : seen.contains t = true
      · rw [if_pos ht, List.filter_cons_of_neg (by rw [ht]; exact Bool.false_ne_true)]
      · rw [if_neg ht, List.filter_cons_of_pos (by rw [Bool.eq_false_iff.2 ht]; rfl),
          List.eraseDups_cons, List.filter_filter, List.append_assoc, List.singleton_append]
        simp only [List.contains_append, List.contains_cons, List.contains_nil, Bool.or_false, Bool.not_or,
          Bool.and_comm]
  have h := hseen []
  simpa [distinct] using h

end Text

/-! ## The order of review -/

namespace PlacedChange

theorem le_iff {a b : PlacedChange} : le a b = true ↔ priority a.change < priority b.change ∨
    priority a.change = priority b.change ∧ (Text.lt a.path b.path = true ∨
      a.path = b.path ∧ Text.le a.change.name b.change.name = true) := by
  unfold le
  by_cases hpriority : priority a.change = priority b.change
  · by_cases hpath : a.path = b.path
    · simp [hpriority, hpath, Text.lt_irrefl]
    · simp [hpriority, hpath]
  · simp [hpriority]

theorem le_trans (a b c : PlacedChange) (hab : le a b = true) (hbc : le b c = true) : le a c = true := by
  rw [le_iff] at hab hbc ⊢
  rcases hab with hab | ⟨hab, hab'⟩
  · refine Or.inl ?_
    rcases hbc with hbc | ⟨hbc, -⟩ <;> omega
  · rcases hbc with hbc | ⟨hbc, hbc'⟩
    · exact Or.inl (hab ▸ hbc)
    · refine Or.inr ⟨hab.trans hbc, ?_⟩
      rcases hab' with hab' | ⟨hab', hname⟩
      · rcases hbc' with hbc' | ⟨hbc', -⟩
        · exact Or.inl (Text.lt_trans hab' hbc')
        · exact Or.inl (hbc' ▸ hab')
      · rcases hbc' with hbc' | ⟨hbc', hname'⟩
        · exact Or.inl (hab' ▸ hbc')
        · exact Or.inr ⟨hab'.trans hbc', Text.le_trans _ _ _ hname hname'⟩

theorem le_total (a b : PlacedChange) : (le a b || le b a) = true := by
  rw [Bool.or_eq_true, le_iff, le_iff]
  rcases Nat.lt_trichotomy (priority a.change) (priority b.change) with h | h | h
  · exact Or.inl (Or.inl h)
  · by_cases hpath : a.path = b.path
    · rcases Bool.or_eq_true_iff.1 (Text.le_total a.change.name b.change.name) with hname | hname
      · exact Or.inl (Or.inr ⟨h, Or.inr ⟨hpath, hname⟩⟩)
      · exact Or.inr (Or.inr ⟨h.symm, Or.inr ⟨hpath.symm, hname⟩⟩)
    · rcases Text.lt_or_lt_of_ne hpath with hlt | hlt
      · exact Or.inl (Or.inr ⟨h, Or.inl hlt⟩)
      · exact Or.inr (Or.inr ⟨h.symm, Or.inl hlt⟩)
  · exact Or.inr (Or.inl h)

/-- Changes on one level are in one file. -/
theorem path_eq_of_le {a b : PlacedChange} (hab : le a b = true) (hba : le b a = true) : a.path = b.path := by
  rw [le_iff] at hab hba
  by_contra h
  have hab := (hab.resolve_left fun hlt => by omega).2.resolve_right fun hsame => h hsame.1
  have hba := (hba.resolve_left fun hlt => by omega).2.resolve_right fun hsame => h hsame.1.symm
  exact Bool.false_ne_true ((Text.lt_irrefl _).symm.trans (Text.lt_trans hab hba))

/-- The changes of all files with their paths, in the order of the files. -/
def placed (files : List FileChange) : List PlacedChange :=
  files.flatMap fun file => file.changes.map fun change => ⟨file.path, change⟩

/-- A level lies in the files of one path. -/
theorem level_placed (a : PlacedChange) (files : List FileChange) :
    level le a (placed files) = level le a (placed (files.filter (·.path == a.path))) := by
  induction files with
  | nil => rfl
  | cons file files ih =>
    have happ : ∀ fs, level le a (placed (file :: fs))
        = level le a (file.changes.map fun change => ⟨file.path, change⟩) ++ level le a (placed fs) := by
      intro fs
      rw [placed, List.flatMap_cons, level, List.filter_append]
      rfl
    by_cases hpath : file.path = a.path
    · rw [List.filter_cons_of_pos (by simpa using hpath), happ, happ, ih]
    · rw [List.filter_cons_of_neg (by simpa using hpath), happ, ih]
      have hnil : level le a (file.changes.map fun change => ⟨file.path, change⟩) = [] := by
        rw [List.eq_nil_iff_forall_not_mem]
        intro b hb
        obtain ⟨hmem, hab, hba⟩ := mem_level.1 hb
        obtain ⟨change, -, rfl⟩ := List.mem_map.1 hmem
        exact hpath (path_eq_of_le hba hab)
      rw [hnil, List.nil_append]

end PlacedChange

/-- Files that are rearranged, all of different paths. -/
structure FilesRearranged (files files' : List FileChange) : Prop where
  perm : files.Perm files'
  nodup : (files.map (·.path)).Nodup

namespace FilesRearranged

variable {files files' : List FileChange}

theorem filter (h : FilesRearranged files files') (p : FileChange → Bool) :
    FilesRearranged (files.filter p) (files'.filter p) :=
  ⟨h.perm.filter p, h.nodup.sublist (List.filter_sublist.map _)⟩

/-- A path has at most one file. -/
theorem filter_path_eq (h : FilesRearranged files files') (path : Text) :
    files.filter (·.path == path) = files'.filter (·.path == path) := by
  have hone := h.filter (·.path == path)
  have hpath : ∀ f ∈ files.filter (·.path == path), f.path = path := fun f hf =>
    beq_iff_eq.1 (List.mem_filter.1 hf).2
  rcases hfiles : files.filter (·.path == path) with _ | ⟨f, _ | ⟨g, rest⟩⟩
  · rw [hfiles] at hone
    rw [hfiles, List.nil_perm.1 hone.perm]
  · rw [hfiles] at hone
    rw [hfiles, List.perm_singleton.1 hone.perm.symm]
  · rw [hfiles] at hpath hone
    have hsame : f.path = g.path := (hpath f (by simp)).trans (hpath g (by simp)).symm
    exact absurd (List.mem_map.2 ⟨g, by simp, hsame.symm⟩) (List.nodup_cons.1 hone.nodup).1

theorem sorted_eq (h : FilesRearranged files files') :
    PlacedChange.sorted files = PlacedChange.sorted files' := by
  refine mergeSort_eq_of_level_eq PlacedChange.le_trans PlacedChange.le_total fun a => ?_
  show level PlacedChange.le a (PlacedChange.placed files) = level PlacedChange.le a (PlacedChange.placed files')
  rw [PlacedChange.level_placed, PlacedChange.level_placed a files', h.filter_path_eq]

end FilesRearranged

/-! ## Focus and counts -/

namespace Summary

/-- How often a kind is counted, if at all. -/
theorem get?_counts (files : List FileChange) (kind : Text) :
    (ofFiles files).counts.get? kind
      = if (files.flatMap (·.changes)).countP (·.kind.toText == kind) = 0 then none
        else some ((files.flatMap (·.changes)).countP (·.kind.toText == kind)) := by
  have hall : ∀ (changes : List Change) (m : OrderedMap Text Nat),
      (changes.foldl (fun counts c => counts.update c.kind.toText 0 (· + 1)) m).get? kind
        = if changes.countP (·.kind.toText == kind) = 0 then m.get? kind
          else some ((m.get? kind).getD 0 + changes.countP (·.kind.toText == kind)) := by
    intro changes
    induction changes with
    | nil => simp
    | cons c changes ih =>
      intro m
      rw [List.foldl_cons, ih, OrderedMap.update, OrderedMap.get?_put, List.countP_cons]
      by_cases hkind : kind = c.kind.toText
      · subst hkind
        simp only [beq_self_eq_true, if_true, Option.getD_some, Nat.add_eq_zero_iff, Nat.one_ne_zero, and_false,
          if_false]
        generalize changes.countP _ = n
        split
        · rename_i hn
          rw [hn]
        · rw [Nat.add_right_comm, Nat.add_assoc]
      · have hne : (c.kind.toText == kind) = false := by simpa using Ne.symm hkind
        simp [hkind, hne]
  rw [ofFiles, hall]
  simp [OrderedMap.get?]

end Summary

/-! ## Texts -/

namespace Tiers

open PlacedChange

/-- What the texts tell of a breaking change. -/
def breakingData (c : Change) : Text × Option Text × Option Text := (c.name, c.beforeSignature, c.afterSignature)

variable {summary summary' : Summary} {changes : List PlacedChange} {files files' : List FileChange}

theorem isEmpty_eq_of_breakingData (h : summary.breaking.map breakingData = summary'.breaking.map breakingData) :
    summary.breaking.isEmpty = summary'.breaking.isEmpty := by
  rw [← List.isEmpty_map (f := breakingData), h, List.isEmpty_map]

theorem oneLineOf_congr (h : summary.breaking.map breakingData = summary'.breaking.map breakingData) :
    oneLineOf changes summary = oneLineOf changes summary' := by
  unfold oneLineOf
  cases hb : summary.breaking with
  | nil =>
    rw [hb, List.map_nil, eq_comm, List.map_eq_nil_iff] at h
    rw [h]
  | cons b rest =>
    rw [hb, List.map_cons, eq_comm, List.map_eq_cons_iff] at h
    obtain ⟨b', rest', hb', hdata, -⟩ := h
    rw [hb']
    have hname : b'.name = b.name := congrArg Prod.fst hdata
    simp only [hname]

theorem shortOf_congr (h : summary.breaking.map breakingData = summary'.breaking.map breakingData) :
    shortOf changes summary = shortOf changes summary' := by
  have hnames : ∀ s : Summary, (s.breaking.take 3).map (fun c => quoted c.name)
      = ((s.breaking.map breakingData).take 3).map fun data => quoted data.1 := by
    intro s
    rw [← List.map_take, List.map_map]
    rfl
  unfold shortOf
  rw [isEmpty_eq_of_breakingData h, hnames, hnames, h]

theorem breakingLines_congr (h : summary.breaking.map breakingData = summary'.breaking.map breakingData) :
    breakingLines summary.breaking = breakingLines summary'.breaking := by
  have hitems : ∀ s : Summary, s.breaking.map signatureItem = (s.breaking.map breakingData).map fun data =>
      "- " ++ quoted data.1 ++ (": " : Text) ++ shown data.2.1 ++ (" → " : Text) ++ shown data.2.2 := by
    intro s
    rw [List.map_map]
    rfl
  unfold breakingLines
  rw [isEmpty_eq_of_breakingData h, hitems, hitems, h]

/-- Files that the texts of their summaries do not tell apart. -/
structure Alike (options : SummaryOptions) (files files' : List FileChange) : Prop where
  production : sorted (files.filter fun f => !Path.isTest f.path)
    = sorted (files'.filter fun f => !Path.isTest f.path)
  tests : sorted (if options.includeTests then files.filter fun f => Path.isTest f.path else [])
    = sorted (if options.includeTests then files'.filter fun f => Path.isTest f.path else [])
  breaking : (Summary.ofFiles files).breaking.map breakingData = (Summary.ofFiles files').breaking.map breakingData
  unchanged : files.all (·.changes.isEmpty) = files'.all (·.changes.isEmpty)
  withoutChanges : files.all (·.changes.isEmpty) = true → withoutChanges files = withoutChanges files'
  testOnly : sorted (files.filter fun f => !Path.isTest f.path) = [] →
    (files.filter fun f => Path.isTest f.path).any (!·.changes.isEmpty)
      = (files'.filter fun f => Path.isTest f.path).any (!·.changes.isEmpty)
  warning : unsupportedWarning? files = unsupportedWarning? files'
  skipped : options.showSkipped = true → skippedLines files = skippedLines files'

theorem Alike.ofFiles_eq {options : SummaryOptions} (h : Alike options files files') :
    ofFiles files (Summary.ofFiles files) options = ofFiles files' (Summary.ofFiles files') options := by
  have hdetailed : detailedOf (files.filter fun f => !Path.isTest f.path)
        (if options.includeTests then files.filter fun f => Path.isTest f.path else []) files
        (Summary.ofFiles files) options.showSkipped
      = detailedOf (files'.filter fun f => !Path.isTest f.path)
        (if options.includeTests then files'.filter fun f => Path.isTest f.path else []) files'
        (Summary.ofFiles files') options.showSkipped := by
    unfold detailedOf
    rw [h.production, h.tests, breakingLines_congr h.breaking]
    cases hskipped : options.showSkipped with
    | false => rfl
    | true => rw [h.skipped hskipped]
  unfold ofFiles
  dsimp only
  rw [← h.unchanged]
  split
  · rename_i hall
    exact h.withoutChanges hall
  · rw [hdetailed, h.warning, oneLineOf_congr h.breaking, shortOf_congr h.breaking]
    cases hproduction : sorted (files.filter fun f => !Path.isTest f.path) with
    | nil => rw [← h.production, hproduction, h.testOnly hproduction]
    | cons c rest =>
      rw [← h.production, hproduction]
      rfl

end Tiers

namespace FilesRearranged

variable {files files' : List FileChange}

theorem unsupportedWarning?_eq (h : FilesRearranged files files') :
    Tiers.unsupportedWarning? files = Tiers.unsupportedWarning? files' := by
  have hperm := h.perm.filter (·.isUnsupported)
  have hendings : ∀ ending : FileChange → Text,
      Text.sort (Text.distinct ((files.filter (·.isUnsupported)).map ending))
        = Text.sort (Text.distinct ((files'.filter (·.isUnsupported)).map ending)) := fun ending =>
    Text.sort_eq_of_perm (keysOf_perm (hperm.map ending))
  unfold Tiers.unsupportedWarning?
  dsimp only
  rw [hendings, hperm.length_eq, hperm.isEmpty_eq]

theorem withoutChanges_eq (h : FilesRearranged files files') :
    Tiers.withoutChanges files = Tiers.withoutChanges files' := by
  unfold Tiers.withoutChanges
  rw [h.perm.countP_eq]

/-- Without breaking changes the texts do not tell how the files are arranged. -/
theorem alike (h : FilesRearranged files files') (hbreaking : ∀ f ∈ files, ∀ c ∈ f.changes, c.isBreaking = false)
    (includeTests : Bool) : Tiers.Alike { includeTests } files files' where
  production := (h.filter _).sorted_eq
  tests := by
    cases includeTests with
    | false => rfl
    | true => exact (h.filter _).sorted_eq
  breaking := by
    have hnone : ∀ fs : List FileChange, (∀ f ∈ fs, ∀ c ∈ f.changes, c.isBreaking = false) →
        (Summary.ofFiles fs).breaking = [] := by
      intro fs hfs
      refine List.filter_eq_nil_iff.2 fun c hc => ?_
      obtain ⟨f, hf, hc⟩ := List.mem_flatMap.1 hc
      rw [hfs f hf c hc]
      exact Bool.false_ne_true
    rw [hnone files hbreaking, hnone files' fun f hf => hbreaking f (h.perm.mem_iff.2 hf)]
  unchanged := h.perm.all_eq
  withoutChanges _ := h.withoutChanges_eq
  testOnly _ := (h.filter _).perm.any_eq
  warning := h.unsupportedWarning?_eq
  skipped hskipped := absurd hskipped Bool.false_ne_true

end FilesRearranged

/-- **Summaries follow the order of review.** Rearranging files of different paths, none of which has a
breaking change, keeps the focus and the counts of the summary and all its texts. The focus has at most five
labels, all different: the first ones of the changes sorted by priority, path and name, those that this order
does not tell apart as they come. -/
theorem Summary.independent_of_file_order {files files' : List FileChange} (hperm : files.Perm files')
    (hpaths : (files.map (·.path)).Nodup) (hbreaking : ∀ f ∈ files, ∀ c ∈ f.changes, c.isBreaking = false) :
    (ofFiles files).focus = (ofFiles files').focus ∧
    (∀ kind, (ofFiles files).counts.get? kind = (ofFiles files').counts.get? kind) ∧
    (∀ includeTests, Tiers.ofFiles files (ofFiles files) { includeTests }
      = Tiers.ofFiles files' (ofFiles files') { includeTests }) ∧
    (ofFiles files).focus.Nodup ∧ (ofFiles files).focus.length ≤ 5 ∧
    ∃ changes : List PlacedChange,
      changes.Perm (PlacedChange.placed files) ∧
      changes.Pairwise (fun a b => PlacedChange.le a b = true) ∧
      (∀ a, level PlacedChange.le a changes = level PlacedChange.le a (PlacedChange.placed files)) ∧
      (ofFiles files).focus = ((changes.map fun p => PlacedChange.focusLabel p.change).eraseDups).take 5 := by
  have hfiles : FilesRearranged files files' := ⟨hperm, hpaths⟩
  refine ⟨?_, fun kind => ?_, fun includeTests => (hfiles.alike hbreaking includeTests).ofFiles_eq, ?_, ?_,
    PlacedChange.sorted files, List.mergeSort_perm _ _,
    List.pairwise_mergeSort PlacedChange.le_trans PlacedChange.le_total _,
    fun a => level_mergeSort PlacedChange.le_trans PlacedChange.le_total a _, ?_⟩
  · rw [ofFiles, ofFiles, hfiles.sorted_eq]
  · rw [get?_counts, get?_counts, (hperm.flatMap_right _).countP_eq]
  · exact (Text.nodup_distinct _).sublist (List.take_sublist _ _)
  · exact List.length_take_le _ _
  · rw [← Text.distinct_eq_eraseDups]
    rfl

/-- Two removals of one name in a file. -/
def removals : FileChange where
  path := "b.py"
  changeType := .modified
  changes := [{ kind := .functionRemoved, name := "x" }, { kind := .classRemoved, name := "x" }]

/-- An addition in a file of an earlier path. -/
def addition : FileChange where
  path := "a.py"
  changeType := .modified
  changes := [{ kind := .functionAdded, name := "y" }]

/-- The removals come first wherever their file stands. -/
theorem Summary.independent_of_file_order_removals :
    (∀ includeTests, Tiers.ofFiles [removals, addition] (ofFiles [removals, addition]) { includeTests }
      = Tiers.ofFiles [addition, removals] (ofFiles [addition, removals]) { includeTests }) ∧
    (ofFiles [addition, removals]).focus =
      Text.list ["Removed \x60x\x60", "Removed class \x60x\x60", "New \x60y\x60"] := by
  have hall := independent_of_file_order (.swap addition removals []) (by decide) (by decide)
  have hsorted : PlacedChange.sorted [removals, addition] = PlacedChange.placed [removals, addition] :=
    List.mergeSort_of_pairwise (by decide +kernel)
  refine ⟨hall.2.2.1, hall.1.symm.trans ?_⟩
  rw [ofFiles, hsorted]
  decide +kernel

end ChangeReview
