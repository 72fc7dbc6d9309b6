import ChangeReview.Proofs.Text.Visible
import ChangeReview.Report.Review

/-!
# The lines of a review

A review as text is made of printable lines, one below the other. How many there are follows from the
number of findings and of their references and gaps. No text of a finding can add a line or hide one.
-/

namespace ChangeReview

/-! ## Shapes -/

/-- How many references and gaps a finding has. -/
structure Finding.Shape where
  production : Nat
  tests : Nat
  gaps : Nat
deriving DecidableEq

namespace Finding

/-- The shape of a finding. -/
def shape (f : Finding) : Shape := ⟨f.production.length, f.tests.length, f.change.gaps.length⟩

/-- The number of lines that show the references of a finding. -/
def Shape.referenceLines (s : Shape) : Nat :=
  if s.production + s.tests = 0 then 0 else 1 + min 5 (s.production + s.tests)

/-- The number of lines of a finding, with the empty line after them. -/
def Shape.lines (s : Shape) : Nat := 5 + s.referenceLines + s.gaps + if s.tests = 0 then 0 else 1

end Finding

namespace Report

open Text (Printable printable_append printable_literal)

/-! ## Printable parts -/

theorem printable_plural (n : Int) {word : Text} (h : Printable word) : Printable (plural n word) := by
  have hending : Printable (if (n == 1) = true then ([] : Text)
      else if ((Text.list ["s", "x", "ch", "sh"]).any (Text.endsWith word)) = true then "es" else "s") := by
    split
    · exact Text.printable_nil
    split
    · exact printable_literal _ (by decide)
    · exact printable_literal _ (by decide)
  unfold plural
  simp only [printable_append]
  exact ⟨⟨⟨Text.printable_ofInt n, printable_literal _ (by decide)⟩, h⟩, hending⟩

theorem printable_byFile (references : List Reference) : ∀ t ∈ byFile references, Printable t := by
  intro t ht
  obtain ⟨⟨name, n⟩, -, rfl⟩ := List.mem_map.1 ht
  simp only [printable_append]
  refine ⟨⟨⟨Text.printable_terminalSafe name, ?_⟩, printable_plural n ?_⟩, ?_⟩
  all_goals exact printable_literal _ (by decide)

theorem printable_context (context : ReferenceContext) : Printable context.toText := by
  cases context <;> exact printable_literal _ (by decide)

theorem printable_referenceLine (r : Reference) : Printable (referenceLine r) := by
  unfold referenceLine
  simp only [printable_append, Text.printable_terminalSafe, Text.printable_ofInt, printable_context, and_true]
  and_intros
  all_goals exact printable_literal _ (by decide)

theorem printable_compatibilityLine (v : Verdict) : Printable (compatibilityLine v) := by
  cases v <;> exact printable_literal _ (by decide)

theorem printable_signatureDisplay (c : Change) : Printable (signatureDisplay c) := by
  unfold signatureDisplay
  dsimp only
  split
  · simp only [printable_append, Text.printable_terminalSafe, and_true, true_and]
    exact printable_literal _ (by decide)
  split
  · exact Text.printable_terminalSafe _
  · simp only [printable_append, Text.printable_terminalSafe, and_true]
    exact ⟨printable_literal _ (by decide), printable_literal _ (by decide)⟩

/-- A printable text that does not end with a blank. -/
structure IsPhrase (t : Text) : Prop where
  printable : Printable t
  ends : ∃ u c, t = u ++ [c] ∧ CodePoint.isBlank c = false

theorem isPhrase_literal (l : List Char) (hsigns : l.all Text.isSign = true)
    (hends : (l.getLast?.any fun c => !(CodePoint.ofChar c).isBlank) = true) :
    IsPhrase (Text.ofString (String.ofList l)) := by
  obtain ⟨c, hc, hblank⟩ := (Option.any_eq_true _ _).1 hends
  rw [Bool.not_eq_true'] at hblank
  obtain ⟨init, rfl⟩ := List.getLast?_eq_some_iff.1 hc
  refine ⟨printable_literal _ hsigns, init.map CodePoint.ofChar, CodePoint.ofChar c, ?_, hblank⟩
  rw [Text.ofString_ofList, List.map_append]
  rfl

theorem isPhrase_hint (category : Text) : IsPhrase (hint category) := by
  have hhints : ∀ h ∈ hints, IsPhrase (Text.ofString h.2) := by
    unfold hints
    simp only [List.forall_mem_cons]
    and_intros
    on_goal 17 => simp
    all_goals exact isPhrase_literal _ (by decide) (by decide)
  unfold hint
  generalize hfound : hints.find? _ = found
  cases found with
  | none => exact isPhrase_literal _ (by decide) (by decide)
  | some entry => exact hhints entry (List.mem_of_find?_eq_some hfound)

/-! ## Lines of a finding -/

theorem printable_impactLines (f : Finding) : ∀ l ∈ impactLines f, Printable l := by
  unfold impactLines
  dsimp only
  simp only [List.forall_mem_cons, List.forall_mem_append, List.cons_append]
  refine ⟨printable_compatibilityLine _, ?_, ?_⟩
  · split
    · simp
    · rw [List.forall_mem_cons]
      constructor
      · simp only [printable_append]
        refine ⟨⟨?_, printable_plural _ ?_⟩, ?_⟩
        all_goals exact printable_literal _ (by decide)
      · intro l hl
        obtain ⟨r, -, rfl⟩ := List.mem_map.1 hl
        exact printable_referenceLine r
  · intro l hl
    obtain ⟨gap, -, rfl⟩ := List.mem_map.1 hl
    exact printable_append.2 ⟨printable_literal _ (by decide), Text.printable_terminalSafe gap⟩

theorem length_impactLines (f : Finding) :
    (impactLines f).length = 1 + f.shape.referenceLines + f.shape.gaps := by
  unfold impactLines Finding.Shape.referenceLines Finding.shape
  dsimp only
  by_cases hnone : f.production ++ f.tests = []
  · have hlength := congrArg List.length hnone
    rw [List.length_append, List.length_nil] at hlength
    simp [hnone, hlength]
    omega
  · have hpos := List.length_pos_iff.2 hnone
    rw [List.length_append] at hpos
    have hfalse : (f.production ++ f.tests).isEmpty = false := by simpa using hnone
    rw [hfalse, if_neg Bool.false_ne_true, if_neg (by omega)]
    simp
    omega

theorem printable_findingLines (index : Nat) (f : Finding) : ∀ l ∈ findingLines index f, Printable l := by
  unfold findingLines
  simp only [List.forall_mem_append]
  refine ⟨⟨⟨?_, printable_impactLines f⟩, ?_⟩, ?_⟩
  · simp only [List.forall_mem_cons, printable_append, Text.printable_ofNat, Text.printable_terminalSafe,
      printable_signatureDisplay, and_true, true_and]
    refine ⟨⟨?_, ?_⟩, ⟨?_, ?_⟩, by simp⟩
    · exact printable_literal _ (by decide)
    · exact printable_literal _ (by decide)
    · exact printable_literal _ (by decide)
    · split
      · split
        · exact Text.printable_nil
        · exact printable_append.2 ⟨printable_literal _ (by decide), Text.printable_ofInt _⟩
      · exact Text.printable_nil
  · split
    · simp
    · intro l hl
      rw [List.mem_singleton.1 hl]
      refine printable_append.2 ⟨printable_literal _ (by decide), Text.printable_join ?_ (printable_byFile _)⟩
      exact printable_literal _ (by decide)
  · simp only [List.forall_mem_cons, printable_append]
    exact ⟨⟨printable_literal _ (by decide), (isPhrase_hint _).printable⟩, Text.printable_nil, by simp⟩

theorem length_findingLines (index : Nat) (f : Finding) : (findingLines index f).length = f.shape.lines := by
  have htests : (if f.tests.isEmpty then [] else [("   Test evidence: " : Text)
      ++ Text.join ", " (byFile f.tests)]).length = if f.shape.tests = 0 then 0 else 1 := by
    unfold Finding.shape
    cases f.tests with
    | nil => rfl
    | cons r rs => simp
  unfold findingLines Finding.Shape.lines
  simp only [List.length_append, length_impactLines, htests, List.length_cons, List.length_nil]
  omega

/-! ## Lines of a review -/

/-- The lines of findings that are numbered from `start` on. -/
def bodyLines (start : Nat) (findings : List Finding) : List Text :=
  (findings.zipIdx start).flatMap fun p => findingLines p.2 p.1

theorem printable_bodyLines (start : Nat) (findings : List Finding) :
    ∀ l ∈ bodyLines start findings, Printable l := by
  intro l hl
  obtain ⟨p, -, hl⟩ := List.mem_flatMap.1 hl
  exact printable_findingLines p.2 p.1 l hl

theorem length_bodyLines (start : Nat) (findings : List Finding) :
    (bodyLines start findings).length = total (findings.map fun f => f.shape.lines) := by
  unfold bodyLines
  induction findings generalizing start with
  | nil => rfl
  | cons f findings ih =>
    rw [List.zipIdx_cons, List.flatMap_cons, List.length_append, length_findingLines, ih, List.map_cons,
      total_cons]

/-- The last finding ends with its hint and an empty line. -/
theorem exists_bodyLines_eq {findings : List Finding} (h : findings ≠ []) (start : Nat) :
    ∃ lead phrase, bodyLines start findings = lead ++ [("   Review: " : Text) ++ phrase, []] ∧
      IsPhrase phrase := by
  obtain ⟨init, last, rfl⟩ := (List.eq_nil_or_concat findings).resolve_left h
  obtain ⟨lead, hlead⟩ : ∃ lead, findingLines (start + init.length) last
      = lead ++ [("   Review: " : Text) ++ hint last.category, []] := ⟨_, rfl⟩
  refine ⟨bodyLines start init ++ lead, hint last.category, ?_, isPhrase_hint _⟩
  unfold bodyLines
  rw [List.concat_eq_append, List.zipIdx_append, List.flatMap_append, List.append_assoc, ← hlead]
  simp

/-- The line feed at the end is trimmed, and nothing else. -/
theorem trimRight_lines {lead : List Text} (hlead : lead ≠ []) {phrase : Text} (h : IsPhrase phrase)
    (t : Text) :
    Text.trimRight (Text.join "\n" (lead ++ [t ++ phrase, []])) = Text.join "\n" (lead ++ [t ++ phrase]) := by
  obtain ⟨u, c, hphrase, hblank⟩ := h.ends
  have hfeed : ("\n" : Text) ++ [] = [('\n' : CodePoint)] := by decide
  have htext : Text.join "\n" (lead ++ [t ++ phrase])
      = (Text.join "\n" lead ++ (("\n" : Text) ++ (t ++ u))) ++ [c] := by
    rw [Text.join_concat hlead, hphrase]
    simp
  have hlines : lead ++ [t ++ phrase, []] = (lead ++ [t ++ phrase]) ++ [[]] := by simp
  rw [hlines, Text.join_concat (by simp), hfeed, htext, Text.trimRight, Text.dropRightWhile_concat,
    if_pos (by decide), Text.dropRightWhile_concat, hblank, if_neg Bool.false_ne_true]

/-- The first line of a review of `n` findings. -/
theorem printable_title (n : Nat) (one : Bool) :
    Printable ("⚠ DiffGuard: " ++ Text.ofNat n
      ++ (if one = true then (" change needs review" : Text) else " changes need review")) := by
  simp only [printable_append, Text.printable_ofNat, and_true]
  constructor
  · exact printable_literal _ (by decide)
  · split
    · exact printable_literal _ (by decide)
    · exact printable_literal _ (by decide)

/-- A review is made of printable lines, as many as the shapes of its findings tell. -/
theorem exists_reviewText_eq {findings : List Finding} (h : findings ≠ []) :
    ∃ ls, reviewText findings = Text.join "\n" ls ∧ (∀ l ∈ ls, Printable l) ∧
      ls.length = 1 + total (findings.map fun f => f.shape.lines) := by
  obtain ⟨lead, phrase, hbody, hphrase⟩ := exists_bodyLines_eq h 1
  obtain ⟨title, htitle, htext⟩ : ∃ title, Printable title ∧
      reviewText findings = Text.trimRight (Text.join "\n" (title :: [] :: bodyLines 1 findings)) := by
    unfold reviewText
    rw [if_neg (by simpa using h)]
    exact ⟨_, printable_title findings.length (findings.length == 1), rfl⟩
  have hprintable := printable_bodyLines 1 findings
  have hlength := length_bodyLines 1 findings
  rw [hbody] at hprintable hlength
  refine ⟨title :: [] :: lead ++ [("   Review: " : Text) ++ phrase], ?_, ?_, ?_⟩
  · rw [htext, hbody]
    exact trimRight_lines (List.cons_ne_nil title ([] :: lead)) hphrase _
  · simp only [List.forall_mem_append, List.forall_mem_cons, List.cons_append] at hprintable ⊢
    exact ⟨htitle, Text.printable_nil, hprintable.1, hprintable.2.1, by simp⟩
  · simp only [List.length_append, List.length_cons, List.length_nil] at hlength ⊢
    omega

theorem shown_reviewText (findings : List Finding) : Text.Shown (reviewText findings) := by
  by_cases h : findings = []
  · rw [h]
    exact Text.printable_nil.shown
  · obtain ⟨ls, htext, hprintable, -⟩ := exists_reviewText_eq h
    rw [htext]
    exact Text.shown_join hprintable

/-- How many line feeds a review has. -/
theorem count_reviewText (findings : List Finding) :
    (reviewText findings).count ('\n' : CodePoint) = total (findings.map fun f => f.shape.lines) := by
  by_cases h : findings = []
  · rw [h]
    rfl
  · obtain ⟨ls, htext, hprintable, hlength⟩ := exists_reviewText_eq h
    rw [htext, Text.count_join fun l hl => (hprintable l hl).oneLine, hlength]
    omega

/-- A review with a finding has a text. -/
theorem reviewText_isEmpty (findings : List Finding) : (reviewText findings).isEmpty = findings.isEmpty := by
  cases findings with
  | nil => rfl
  | cons f findings =>
    have hcount := count_reviewText (f :: findings)
    rw [List.map_cons, total_cons, Finding.Shape.lines] at hcount
    have hne : reviewText (f :: findings) ≠ [] := by
      intro hnil
      rw [hnil, List.count_nil] at hcount
      omega
    simpa using hne

end Report

end ChangeReview
