import ChangeReview.Analysis.OfPatch
import ChangeReview.Proofs.Text.Basic
import ChangeReview.Reference.Search
import ChangeReview.Report.Envelope

/-!
# Warnings give their paths back

A warning is put together where a gap is met, and taken apart where it is reported. A path may hold
anything, also the words of a warning. It is found again because the endings of warnings exclude each
other, and because a snapshot without a blank cannot hold the mark that stands before it.
-/

namespace ChangeReview.Report

variable {ending other code message path ref : Text}

/-! ## Warnings that begin with a path -/

/-- No text ends with both, since neither ends with the other. -/
def Excludes (ending other : Text) : Prop :=
  Text.endsWith ending other = false ∧ Text.endsWith other ending = false

instance (ending other : Text) : Decidable (Excludes ending other) := inferInstanceAs (Decidable (_ ∧ _))

theorem Excludes.ofList (l m : List Char) (h : Excludes (l.map CodePoint.ofChar) (m.map CodePoint.ofChar)) :
    Excludes (Text.ofString (String.ofList l)) (Text.ofString (String.ofList m)) := by
  rwa [Text.ofString_ofList, Text.ofString_ofList]

theorem Excludes.before?_eq_none (h : Excludes ending other) (t : Text) :
    Text.before? other (t ++ ending) = none :=
  Text.before?_eq_none (Text.endsWith_append_eq_false h.1 h.2 t)

/-- A warning with one of the endings has the code of that ending and the path before it, if the endings
that are tried earlier exclude it. -/
theorem ofText_ending (earlier later : List (Text × Text))
    (hlist : pathWarnings = earlier ++ (ending, code) :: later)
    (hearlier : ∀ w ∈ earlier, Excludes ending w.1) (path : Text) :
    Warning.ofText (path ++ ending) = ⟨code, path ++ ending, some path⟩ := by
  have hnone : earlier.findSome? (fun w => (Text.before? w.1 (path ++ ending)).map fun file => (file, w.2))
      = none := by
    rw [List.findSome?_eq_none_iff]
    intro w hw
    rw [(hearlier w hw).before?_eq_none path]
    rfl
  unfold Warning.ofText
  rw [hlist, List.findSome?_append]
  simp only [hnone, Option.none_or, List.findSome?_cons, Text.before?_append, Option.map_some]

/-- The end of the other warnings. -/
def incompleteEnd : Text := "analysis incomplete"

theorem excludes_incompleteEnd : ∀ w ∈ pathWarnings, Excludes incompleteEnd w.1 := by
  unfold pathWarnings incompleteEnd
  simp only [List.forall_mem_cons]
  refine ⟨?_, ?_, ?_, by simp⟩
  · exact .ofList _ _ (by decide)
  · exact .ofList _ _ (by decide)
  · exact .ofList _ _ (by decide)

/-- The other warnings are taken apart as one about a candidate, if at all. -/
theorem ofText_incomplete (h : Text.endsWith message incompleteEnd = true) :
    Warning.ofText message = ⟨"analysis_gap", message, unreadablePath? message⟩ := by
  obtain ⟨t, rfl⟩ := Text.endsWith_iff.1 h
  have hnone : pathWarnings.findSome?
      (fun w => (Text.before? w.1 (t ++ incompleteEnd)).map fun file => (file, w.2)) = none := by
    rw [List.findSome?_eq_none_iff]
    intro w hw
    rw [(excludes_incompleteEnd w hw).before?_eq_none t]
    rfl
  unfold Warning.ofText
  simp only [hnone]

theorem endsWith_incompleteEnd (t : Text) (l : List Char)
    (h : Text.endsWith (l.map CodePoint.ofChar) incompleteEnd = true) :
    Text.endsWith (t ++ Text.ofString (String.ofList l)) incompleteEnd = true := by
  rw [Text.ofString_ofList]
  exact Text.endsWith_iff.2 ((Text.endsWith_iff.1 h).trans (List.suffix_append t _))

theorem unreadablePath?_incomplete : unreadablePath? Analysis.incompleteWarning = none := by
  have hnone : Text.endsWith Analysis.incompleteWarning unreadableEnd = false := by
    unfold Analysis.incompleteWarning unreadableEnd
    rw [Text.ofString_ofList, Text.ofString_ofList]
    decide
  unfold unreadablePath?
  rw [Text.before?_eq_none hnone]
  rfl

/-! ## Warnings about a snapshot -/

/-- The mark before a snapshot, without the blank at its end. -/
def unreadableWords : Text := ": reference candidate at snapshot"

theorem unreadablePath?_warning (hpath : path ≠ []) (href : ref ≠ []) (hblank : (' ' : CodePoint) ∉ ref) :
    unreadablePath? (ReferenceSearch.unreadableWarning path ref) = some path := by
  have hwarning : ReferenceSearch.unreadableWarning path ref
      = (path ++ (unreadableMark ++ ref)) ++ unreadableEnd := by
    simp only [ReferenceSearch.unreadableWarning, unreadableMark, unreadableEnd, List.append_assoc]
  have hmark : unreadableMark = unreadableWords ++ [(' ' : CodePoint)] := by
    unfold unreadableMark unreadableWords
    rw [Text.ofString_ofList, Text.ofString_ofList]
    rfl
  have hcut : Text.cutLast? unreadableMark (path ++ (unreadableMark ++ ref)) = some (path, ref) := by
    rw [hmark]
    exact Text.cutLast?_append hblank path
  have hparts : (path.isEmpty || ref.isEmpty) = false := by simp [hpath, href]
  unfold unreadablePath?
  rw [hwarning, Text.before?_append]
  simp only [Option.bind_eq_bind, Option.bind_some, hcut, hparts]
  rfl

/-- The warning that the files of a snapshot could not be listed, up to the snapshot. -/
def unlistedWords : Text := "reference file listing unavailable at snapshot"

/-- What follows the snapshot in that warning. -/
def unlistedEnd : Text := " — reference analysis incomplete"

/-- A snapshot named `unreadable` does not turn its listing into a candidate, since no ` is` stands before
it. -/
theorem unreadablePath?_unlisted (hblank : (' ' : CodePoint) ∉ ref) :
    unreadablePath? (ReferenceSearch.unlistedWarning ref) = none := by
  have hwarning : ReferenceSearch.unlistedWarning ref
      = (unlistedWords ++ (' ' : CodePoint) :: ref) ++ unlistedEnd := by
    have hwords : ("reference file listing unavailable at snapshot " : Text)
        = unlistedWords ++ [(' ' : CodePoint)] := by
      unfold unlistedWords
      rw [Text.ofString_ofList, Text.ofString_ofList]
      rfl
    simp only [ReferenceSearch.unlistedWarning, hwords, unlistedEnd, List.append_assoc, List.cons_append,
      List.nil_append]
  have hend : unreadableEnd
      = ((" is" : Text) ++ (' ' : CodePoint) :: ("unreadable" : Text)) ++ unlistedEnd := by
    unfold unreadableEnd unlistedEnd
    rw [Text.ofString_ofList, Text.ofString_ofList, Text.ofString_ofList, Text.ofString_ofList]
    rfl
  have hnone : Text.endsWith (ReferenceSearch.unlistedWarning ref) unreadableEnd = false := by
    rw [Bool.eq_false_iff]
    intro hends
    obtain ⟨t, ht⟩ := Text.endsWith_iff.1 hends
    rw [hwarning, hend, ← List.append_assoc, List.append_left_inj, ← List.append_assoc] at ht
    -- Both sides now end with a blank and a text without one, so they agree up to that blank.
    have hwords : t ++ " is" = unlistedWords := Text.append_cons_left_inj (by decide) hblank ht
    have his : Text.endsWith unlistedWords " is" = true := Text.endsWith_iff.2 ⟨t, hwords⟩
    unfold unlistedWords at his
    rw [Text.ofString_ofList, Text.ofString_ofList] at his
    exact absurd his (by decide)
  unfold unreadablePath?
  rw [Text.before?_eq_none hnone]
  rfl

/-! ## All warnings -/

/-- Each warning about a path is taken apart into that path, whatever the path holds, and a warning about
no path gives none. -/
theorem warnings_give_paths_back (path ref : Text) (href : ref ≠ []) (hblank : (' ' : CodePoint) ∉ ref) :
    Warning.ofText (Analysis.unavailableWarning path)
        = ⟨"analysis_gap", Analysis.unavailableWarning path, some path⟩ ∧
      Warning.ofText (Analysis.gapWarning path)
        = ⟨"parse_gap", Analysis.gapWarning path, some path⟩ ∧
      Warning.ofText (ReferenceSearch.gapWarning path)
        = ⟨"parse_gap", ReferenceSearch.gapWarning path, some path⟩ ∧
      (path ≠ [] → Warning.ofText (ReferenceSearch.unreadableWarning path ref)
        = ⟨"analysis_gap", ReferenceSearch.unreadableWarning path ref, some path⟩) ∧
      Warning.ofText Analysis.incompleteWarning
        = ⟨"analysis_gap", Analysis.incompleteWarning, none⟩ ∧
      Warning.ofText (ReferenceSearch.unlistedWarning ref)
        = ⟨"analysis_gap", ReferenceSearch.unlistedWarning ref, none⟩ := by
  have hunreadable : Text.endsWith (ReferenceSearch.unreadableWarning path ref) incompleteEnd = true := by
    unfold ReferenceSearch.unreadableWarning
    exact endsWith_incompleteEnd _ _ (by decide)
  have hincomplete : Text.endsWith Analysis.incompleteWarning incompleteEnd = true := by
    unfold Analysis.incompleteWarning incompleteEnd
    rw [Text.ofString_ofList, Text.ofString_ofList]
    decide
  have hunlisted : Text.endsWith (ReferenceSearch.unlistedWarning ref) incompleteEnd = true := by
    unfold ReferenceSearch.unlistedWarning
    exact endsWith_incompleteEnd _ _ (by decide)
  refine ⟨?_, ?_, ?_, ?_, ?_, ?_⟩
  · exact ofText_ending [] (pathWarnings.drop 1) rfl (by simp) path
  · refine ofText_ending (pathWarnings.take 1) (pathWarnings.drop 2) rfl ?_ path
    exact List.forall_mem_singleton.2 (.ofList _ _ (by decide))
  · refine ofText_ending (pathWarnings.take 2) [] rfl ?_ path
    refine List.forall_mem_cons.2 ⟨?_, List.forall_mem_singleton.2 ?_⟩
    · exact .ofList _ _ (by decide)
    · exact .ofList _ _ (by decide)
  · intro hpath
    rw [ofText_incomplete hunreadable, unreadablePath?_warning hpath href hblank]
  · rw [ofText_incomplete hincomplete, unreadablePath?_incomplete]
  · rw [ofText_incomplete hunlisted, unreadablePath?_unlisted hblank]

/-- A path made of the words of warnings. -/
def disguised : Text := "a.py: reference candidate at snapshot HEAD: parse gap — symbol analysis skipped"

theorem warnings_give_paths_back_disguised :
    disguised ≠ [] ∧ ("unreadable" : Text) ≠ [] ∧ (' ' : CodePoint) ∉ ("unreadable" : Text) ∧
      (Warning.ofText (ReferenceSearch.unreadableWarning disguised "unreadable")).file = some disguised ∧
      (Warning.ofText (ReferenceSearch.unlistedWarning "unreadable")).file = none := by
  have hpath : disguised ≠ [] := by
    unfold disguised
    rw [Text.ofString_ofList]
    simp
  have href : ("unreadable" : Text) ≠ [] := by decide
  have hblank : (' ' : CodePoint) ∉ ("unreadable" : Text) := by decide
  obtain ⟨-, -, -, hcandidate, -, hlisting⟩ := warnings_give_paths_back disguised "unreadable" href hblank
  refine ⟨hpath, href, hblank, ?_, ?_⟩
  · rw [hcandidate hpath]
  · rw [hlisting]

end ChangeReview.Report
