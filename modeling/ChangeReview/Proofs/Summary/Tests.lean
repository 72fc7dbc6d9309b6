import ChangeReview.Proofs.Summary.Order
import ChangeReview.Proofs.Text.Basic

/-!
# What tests change in a summary

Tests are left out of the texts of a summary unless asked for, but the list of breaking changes is that of
all files. Where production files have changes, the changes of tests show in the texts by the breaking ones
among them and by nothing else.
-/

namespace ChangeReview.Tiers

open PlacedChange

/-- The file `g` is `f`, up to its changes if it is a test. -/
def SameOutsideTests (f g : FileChange) : Prop :=
  g = if Path.isTest f.path then { f with changes := g.changes } else f

theorem SameOutsideTests.refl (f : FileChange) : SameOutsideTests f f := by
  unfold SameOutsideTests
  split <;> rfl

theorem SameOutsideTests.replace {f : FileChange} (htest : Path.isTest f.path = true) (changes : List Change) :
    SameOutsideTests f { f with changes } := by
  unfold SameOutsideTests
  rw [if_pos htest]

/-- A file without its changes. -/
def bare (f : FileChange) : FileChange := { f with changes := [] }

/-- A class of files that is told without their changes. -/
theorem filter_bare {p : FileChange → Bool} (hp : ∀ f, p (bare f) = p f) (files : List FileChange) :
    (files.map bare).filter p = (files.filter p).map bare := by
  rw [List.filter_map]
  congr 2
  exact funext hp

theorem unsupportedWarning?_bare (files : List FileChange) :
    unsupportedWarning? (files.map bare) = unsupportedWarning? files := by
  unfold unsupportedWarning?
  rw [filter_bare fun _ => rfl]
  dsimp only
  rw [List.isEmpty_map, List.length_map, List.map_map]
  rfl

theorem skippedLines_bare (files : List FileChange) : skippedLines (files.map bare) = skippedLines files := by
  unfold skippedLines
  rw [filter_bare fun _ => rfl]
  dsimp only
  rw [List.isEmpty_map, List.map_map]
  rfl

section

variable {files files' : List FileChange} (hfiles : List.Forall₂ SameOutsideTests files files')

include hfiles

theorem production_eq :
    (files.filter fun f => !Path.isTest f.path) = files'.filter fun f => !Path.isTest f.path := by
  induction hfiles with
  | nil => rfl
  | cons hfirst _ ih =>
    rename_i f g _ _ _
    unfold SameOutsideTests at hfirst
    cases htest : Path.isTest f.path with
    | true =>
      rw [htest, if_pos rfl] at hfirst
      have hpath : g.path = f.path := by rw [hfirst]
      rw [List.filter_cons_of_neg (by simp [htest]), List.filter_cons_of_neg (by simp [hpath, htest]), ih]
    | false =>
      rw [htest, if_neg Bool.false_ne_true] at hfirst
      rw [hfirst, List.filter_cons_of_pos (by simp [htest]), List.filter_cons_of_pos (by simp [htest]), ih]

theorem map_bare_eq : files.map bare = files'.map bare := by
  induction hfiles with
  | nil => rfl
  | cons hfirst _ ih =>
    rw [List.map_cons, List.map_cons, ih]
    unfold SameOutsideTests at hfirst
    split at hfirst
    · rw [hfirst]
      rfl
    · rw [hfirst]

end

theorem all_isEmpty_eq_false {files : List FileChange} (hchanged : ∃ f ∈ files, f.changes ≠ []) :
    files.all (·.changes.isEmpty) = false := by
  obtain ⟨f, hf, hchanges⟩ := hchanged
  exact List.all_eq_false.2 ⟨f, hf, by simpa using hchanges⟩

/-- Some production file has a change. -/
def HasProduction (files : List FileChange) : Prop := ∃ f ∈ files, Path.isTest f.path = false ∧ f.changes ≠ []

section

variable {files : List FileChange} (h : HasProduction files)

include h

theorem HasProduction.all_isEmpty : files.all (·.changes.isEmpty) = false := by
  obtain ⟨f, hf, -, hchanges⟩ := h
  exact all_isEmpty_eq_false ⟨f, hf, hchanges⟩

theorem HasProduction.sorted_ne_nil : sorted (files.filter fun f => !Path.isTest f.path) ≠ [] := by
  obtain ⟨f, hf, htest, hchanges⟩ := h
  obtain ⟨c, hc⟩ := List.exists_mem_of_ne_nil _ hchanges
  refine List.ne_nil_of_mem (a := ⟨f.path, c⟩) (List.mem_mergeSort.2 (List.mem_flatMap.2 ⟨f, ?_, ?_⟩))
  · exact List.mem_filter.2 ⟨hf, by simp [htest]⟩
  · exact List.mem_map.2 ⟨c, hc, rfl⟩

theorem HasProduction.oneLine_eq (summary : Summary) (options : SummaryOptions) :
    (ofFiles files summary options).oneLine
      = oneLineOf (sorted (files.filter fun f => !Path.isTest f.path)) summary := by
  have hsome : (!(sorted (files.filter fun f => !Path.isTest f.path)).isEmpty) = true := by
    simpa using h.sorted_ne_nil
  unfold ofFiles
  dsimp only
  rw [h.all_isEmpty, if_neg Bool.false_ne_true, if_pos hsome]
  split <;> rfl

end

/-- The line tells whether there is a breaking change and the name of the first. -/
theorem oneLineOf_eq_iff {changes : List PlacedChange} (hchanges : changes ≠ []) {summary summary' : Summary} :
    oneLineOf changes summary = oneLineOf changes summary' ↔
      summary.breaking.head?.map (·.name) = summary'.breaking.head?.map (·.name) := by
  obtain ⟨top, rest, rfl⟩ := List.exists_cons_of_ne_nil hchanges
  have hapart : ∀ (name : Text),
      "BREAKING: " ++ quoted name ++ (" signature changed" : Text)
        ≠ verb top.change.kind ++ (" " : Text) ++ quoted top.change.name := by
    intro name heq
    have hverb : Text.Apart (verb top.change.kind) "BREAKING: " := by cases top.change.kind <;> decide
    have hstart := hverb.not_startsWith ((" " : Text) ++ quoted top.change.name)
    rw [← List.append_assoc, ← heq, List.append_assoc] at hstart
    exact Bool.false_ne_true (hstart.symm.trans (Text.startsWith_iff.2 (List.prefix_append _ _)))
  unfold oneLineOf
  cases hb : summary.breaking with
  | nil =>
    cases hb' : summary'.breaking with
    | nil => simp
    | cons b' _ => exact iff_of_false (Ne.symm (hapart b'.name)) (by simp)
  | cons b _ =>
    cases hb' : summary'.breaking with
    | nil => exact iff_of_false (hapart b.name) (by simp)
    | cons b' _ => simp [quoted]

/-- A test with a breaking change. -/
def breakingTest : FileChange where
  path := "tests/test_a.py"
  changeType := .modified
  changes := [{ kind := .signatureChanged, name := "t", beforeSignature := some "def t(a)"
                afterSignature := some "def t()", verdict := .breaking }]

theorem hasProduction_addition (test : FileChange) : HasProduction [addition, test] :=
  ⟨addition, List.mem_cons_self, by decide, List.cons_ne_nil _ _⟩

/-- A breaking change of a test is in the one line, before the change of the production file. -/
theorem breaking_test_in_one_line :
    List.Forall₂ SameOutsideTests [addition, bare breakingTest] [addition, breakingTest] ∧
    HasProduction [addition, bare breakingTest] ∧
    (ofFiles [addition, bare breakingTest] (Summary.ofFiles [addition, bare breakingTest]) {}).oneLine
      = "Add \x60y\x60" ∧
    (ofFiles [addition, breakingTest] (Summary.ofFiles [addition, breakingTest]) {}).oneLine
      = "BREAKING: \x60t\x60 signature changed" := by
  have hsorted : sorted ([addition, bare breakingTest].filter fun f => !Path.isTest f.path)
      = placed [addition] := by
    rw [List.filter_cons_of_pos (by decide), List.filter_cons_of_neg (by decide +kernel)]
    exact List.mergeSort_singleton _
  have htest : SameOutsideTests (bare breakingTest) breakingTest :=
    SameOutsideTests.replace (by decide +kernel) breakingTest.changes
  refine ⟨.cons (.refl _) (.cons htest .nil), hasProduction_addition _, ?_, ?_⟩
  · rw [(hasProduction_addition _).oneLine_eq, hsorted]
    decide +kernel
  · rw [(hasProduction_addition _).oneLine_eq]
    rfl

/-- **Tests show in the texts by breaking changes only.** Let a production file have a change, and let tests
not be asked for. Replacing the changes of the tests keeps all texts if it keeps the names and signatures of
the breaking changes. The one line stays exactly if the first breaking change of all files keeps its name, or
there is none before and after. -/
theorem tests_show_by_breaking_changes {files files' : List FileChange}
    (hfiles : List.Forall₂ SameOutsideTests files files') (hproduction : HasProduction files)
    (showSkipped : Bool) :
    ((Summary.ofFiles files).breaking.map breakingData = (Summary.ofFiles files').breaking.map breakingData →
      ofFiles files (Summary.ofFiles files) { showSkipped }
        = ofFiles files' (Summary.ofFiles files') { showSkipped }) ∧
    ((ofFiles files (Summary.ofFiles files) { showSkipped }).oneLine
        = (ofFiles files' (Summary.ofFiles files') { showSkipped }).oneLine ↔
      (Summary.ofFiles files).breaking.head?.map (·.name)
        = (Summary.ofFiles files').breaking.head?.map (·.name)) := by
  have hproduction' : HasProduction files' := by
    obtain ⟨f, hf, htest, hchanges⟩ := hproduction
    have hmem : f ∈ files.filter fun f => !Path.isTest f.path := List.mem_filter.2 ⟨hf, by simp [htest]⟩
    rw [production_eq hfiles] at hmem
    exact ⟨f, (List.mem_filter.1 hmem).1, htest, hchanges⟩
  refine ⟨fun hbreaking => Alike.ofFiles_eq ?_, ?_⟩
  · exact
      { production := by rw [production_eq hfiles]
        tests := rfl
        breaking := hbreaking
        unchanged := hproduction.all_isEmpty.trans hproduction'.all_isEmpty.symm
        withoutChanges := fun hall => absurd hall (by simp [hproduction.all_isEmpty])
        testOnly := fun hnone => absurd hnone hproduction.sorted_ne_nil
        warning := by
          rw [← unsupportedWarning?_bare files, map_bare_eq hfiles, unsupportedWarning?_bare]
        skipped := fun _ => by rw [← skippedLines_bare files, map_bare_eq hfiles, skippedLines_bare] }
  · rw [hproduction.oneLine_eq, hproduction'.oneLine_eq, ← production_eq hfiles,
      oneLineOf_eq_iff hproduction.sorted_ne_nil]

/-- Another change of a test that has a breaking one does not show. -/
theorem tests_show_by_breaking_changes_beside :
    ofFiles [addition, breakingTest] (Summary.ofFiles [addition, breakingTest]) {}
      = ofFiles [addition, { breakingTest with changes := addition.changes ++ breakingTest.changes }]
        (Summary.ofFiles [addition, { breakingTest with changes := addition.changes ++ breakingTest.changes }])
        {} := by
  have htest : Path.isTest breakingTest.path = true := by decide +kernel
  exact (tests_show_by_breaking_changes (.cons (.refl _) (.cons (.replace htest _) .nil))
    (hasProduction_addition _) false).1 (by decide +kernel)

end ChangeReview.Tiers
