import ChangeReview.Proofs.Report.Lines
import ChangeReview.Proofs.Sorting
import ChangeReview.Report.SummaryText

/-!
# What a terminal is shown

A summary is built from files whose texts are printable, so its phrases and sections are printable lines.
With the lines of a review this gives what a terminal is shown: line feeds and printable code points, and as
many line feeds as the findings call for.
-/

namespace ChangeReview

open Text (printable_append printable_literal)

/-! ## Printable changes -/

/-- The texts of a change that a summary shows are printable. -/
structure Change.Printable (c : Change) : Prop where
  name : c.name.Printable
  before : ∀ t ∈ c.beforeSignature, t.Printable
  after : ∀ t ∈ c.afterSignature, t.Printable
  fileFrom : ∀ t ∈ c.fileFrom, t.Printable

theorem Change.printable_terminalSafe (c : Change) : c.terminalSafe.Printable := by
  have hoption : ∀ o : Option Text, ∀ t ∈ o.map Text.terminalSafe, t.Printable := by
    intro o t ht
    obtain ⟨u, -, rfl⟩ := Option.map_eq_some_iff.1 ht
    exact Text.printable_terminalSafe u
  exact ⟨Text.printable_terminalSafe _, hoption _, hoption _, hoption _⟩

/-- The texts of a file that a summary shows are printable. -/
structure FileChange.Printable (f : FileChange) : Prop where
  path : f.path.Printable
  changes : ∀ c ∈ f.changes, c.Printable

theorem FileChange.printable_terminalSafe (f : FileChange) : f.terminalSafe.Printable := by
  refine ⟨Text.printable_terminalSafe _, fun c hc => ?_⟩
  obtain ⟨d, -, rfl⟩ := List.mem_map.1 hc
  exact Change.printable_terminalSafe d

namespace PlacedChange

/-- The texts of a placed change that a summary shows are printable. -/
structure Printable (c : PlacedChange) : Prop where
  path : c.path.Printable
  change : c.change.Printable

theorem printable_of_mem_sorted {files : List FileChange} (h : ∀ f ∈ files, f.Printable) :
    ∀ c ∈ sorted files, c.Printable := by
  intro c hc
  obtain ⟨f, hf, hc⟩ := List.mem_flatMap.1 (List.mem_mergeSort.1 hc)
  obtain ⟨d, hd, rfl⟩ := List.mem_map.1 hc
  exact ⟨(h f hf).path, (h f hf).changes d hd⟩

theorem printable_quoted {name : Text} (h : name.Printable) : (quoted name).Printable := by
  unfold quoted
  simp only [printable_append]
  exact ⟨⟨printable_literal _ (by decide), h⟩, printable_literal _ (by decide)⟩

theorem printable_shown {o : Option Text} (h : ∀ t ∈ o, t.Printable) : (shown o).Printable := by
  cases o with
  | none => exact printable_literal _ (by decide)
  | some t => exact h t rfl

end PlacedChange

/-! ## Phrases -/

namespace Tiers

open PlacedChange

variable {changes : List PlacedChange} {summary : Summary} {files : List FileChange}

/-- Parts that a text has only at times. -/
theorem printable_unless {isLeftOut : Bool} {parts : List Text} (h : ∀ t ∈ parts, t.Printable) :
    ∀ t ∈ (if isLeftOut then [] else parts), t.Printable := by
  cases isLeftOut
  · simpa using h
  · simp

theorem printable_verb (kind : ChangeKind) : (verb kind).Printable := by
  cases kind <;> exact printable_literal _ (by decide)

theorem printable_kind (kind : ChangeKind) : kind.toText.Printable := by
  cases kind <;> exact printable_literal _ (by decide)

theorem printable_oneLineOf (hchanges : ∀ c ∈ changes, c.Printable)
    (hbreaking : ∀ c ∈ summary.breaking, c.Printable) : (oneLineOf changes summary).Printable := by
  unfold oneLineOf
  split
  · rename_i b _ heq
    have hb := hbreaking b (by simp [heq])
    simp only [printable_append]
    exact ⟨⟨printable_literal _ (by decide), printable_quoted hb.name⟩, printable_literal _ (by decide)⟩
  · rename_i top _ _
    have htop := hchanges top (by simp)
    simp only [printable_append]
    exact ⟨⟨printable_verb _, printable_literal _ (by decide)⟩, printable_quoted htop.change.name⟩
  · exact Text.printable_nil

theorem printable_behaviourText {c : Change} (h : c.Printable) : (behaviourText c).Printable := by
  unfold behaviourText
  simp only [printable_append]
  refine ⟨⟨⟨printable_quoted h.name, ?_⟩, ?_⟩, ?_⟩
  · exact printable_literal _ (by decide)
  · exact (printable_kind c.kind).of_subset (Text.afterLast_isSuffix _ _).subset
  · exact printable_literal _ (by decide)

theorem printable_structureText (changes : List PlacedChange) : (structureText changes).Printable := by
  have hcount : ∀ (n : Nat) {word : Text}, word.Printable → ∀ t ∈ [Text.ofNat n ++ word], t.Printable := by
    intro n word hword
    simp [hword]
  unfold structureText
  refine iteInduction (fun _ => printable_literal _ (by decide)) fun _ => ?_
  refine printable_append.2 ⟨printable_literal _ (by decide), ?_⟩
  refine Text.printable_join (printable_literal _ (by decide)) ?_
  refine List.forall_mem_append.2 ⟨printable_unless (hcount _ ?_), printable_unless (hcount _ ?_)⟩
  · exact printable_literal _ (by decide)
  · exact printable_literal _ (by decide)

theorem printable_shortOf (hchanges : ∀ c ∈ changes, c.Printable)
    (hbreaking : ∀ c ∈ summary.breaking, c.Printable) : (shortOf changes summary).Printable := by
  unfold shortOf
  refine Text.printable_join (printable_literal _ (by decide)) ?_
  refine iteInduction (motive := fun parts : List Text => ∀ t ∈ parts, t.Printable) (fun _ => ?_) fun _ =>
    List.forall_mem_append.2 ⟨printable_unless ?_, printable_unless ?_⟩
  · simpa using printable_structureText changes
  · simp only [List.forall_mem_singleton, printable_append]
    refine ⟨printable_literal _ (by decide), Text.printable_join (printable_literal _ (by decide)) ?_⟩
    intro t ht
    obtain ⟨c, hc, rfl⟩ := List.mem_map.1 ht
    exact printable_quoted (hbreaking c (List.mem_of_mem_take hc)).name
  · simp only [List.forall_mem_singleton]
    refine Text.printable_join (printable_literal _ (by decide)) ?_
    intro t ht
    obtain ⟨c, hc, rfl⟩ := List.mem_map.1 ht
    exact printable_behaviourText (hchanges c (List.mem_filter.1 (List.mem_of_mem_take hc)).1).change

/-! ## Sections -/

theorem printable_signatureItem {c : Change} (h : c.Printable) : (signatureItem c).Printable := by
  unfold signatureItem
  simp only [printable_append, printable_quoted h.name, printable_shown h.before, printable_shown h.after,
    and_true]
  exact ⟨⟨printable_literal _ (by decide), printable_literal _ (by decide)⟩, printable_literal _ (by decide)⟩

theorem printable_fileItem {c : PlacedChange} (h : c.Printable) : (fileItem c).Printable := by
  unfold fileItem
  simp only [printable_append, printable_quoted h.change.name, h.path, and_true]
  exact ⟨⟨printable_literal _ (by decide), printable_literal _ (by decide)⟩, printable_literal _ (by decide)⟩

theorem printable_moveItem {c : Change} (h : c.Printable) : (moveItem c).Printable := by
  unfold moveItem
  simp only [printable_append, printable_quoted h.name, printable_shown h.fileFrom, and_true]
  exact ⟨printable_literal _ (by decide), printable_literal _ (by decide)⟩

theorem printable_sections (h : ∀ c ∈ changes, c.Printable) :
    ∀ s ∈ sections changes, s.1.Printable ∧ ∀ item ∈ s.2, item.Printable := by
  have hpick : ∀ {p : PlacedChange → Bool} {item : PlacedChange → Text},
      (∀ c : PlacedChange, c.Printable → (item c).Printable) →
      ∀ t ∈ (changes.filter p).map item, t.Printable := by
    intro p item hitem t ht
    obtain ⟨c, hc, rfl⟩ := List.mem_map.1 ht
    exact hitem c (h c (List.mem_filter.1 hc).1)
  unfold sections
  simp only [List.forall_mem_cons]
  refine ⟨⟨?_, hpick fun _ => printable_fileItem⟩, ⟨?_, hpick fun _ hc => printable_signatureItem hc.change⟩,
    ⟨?_, hpick fun _ => printable_fileItem⟩, ⟨?_, hpick fun _ => printable_fileItem⟩,
    ⟨?_, hpick fun _ hc => printable_moveItem hc.change⟩, by simp⟩
  all_goals exact printable_literal _ (by decide)

theorem printable_sectionLines {secs : List (Text × List Text)}
    (h : ∀ s ∈ secs, s.1.Printable ∧ ∀ item ∈ s.2, item.Printable) (limit : Nat) :
    ∀ l ∈ (sectionLines limit secs).1, l.Printable := by
  induction secs generalizing limit with
  | nil => simp [sectionLines]
  | cons s secs ih =>
    obtain ⟨heading, items⟩ := s
    obtain ⟨⟨hheading, hitems⟩, hsecs⟩ := List.forall_mem_cons.1 h
    rw [sectionLines]
    split
    · exact ih hsecs limit
    split
    · simp
    · simp only [List.cons_append, List.forall_mem_cons, List.forall_mem_append, printable_append]
      refine ⟨⟨printable_literal _ (by decide), hheading⟩, ⟨fun l hl => ?_, Text.printable_nil, by simp⟩,
        ih hsecs _⟩
      exact hitems l (List.mem_of_mem_take hl)

theorem printable_breakingLines {breaking : List Change} (h : ∀ c ∈ breaking, c.Printable) :
    ∀ l ∈ breakingLines breaking, l.Printable := by
  unfold breakingLines
  apply printable_unless
  simp only [List.cons_append, List.forall_mem_cons, List.forall_mem_append]
  refine ⟨printable_literal _ (by decide), fun l hl => ?_, Text.printable_nil, by simp⟩
  obtain ⟨c, hc, rfl⟩ := List.mem_map.1 hl
  exact printable_signatureItem (h c hc)

theorem printable_skipReason (f : FileChange) : (skipReason f).Printable := by
  unfold skipReason
  split
  · exact printable_literal _ (by decide)
  split
  · exact printable_literal _ (by decide)
  · exact printable_literal _ (by decide)

theorem printable_skippedLines (h : ∀ f ∈ files, f.Printable) : ∀ l ∈ skippedLines files, l.Printable := by
  unfold skippedLines
  apply printable_unless
  simp only [List.cons_append, List.forall_mem_cons, List.forall_mem_append]
  refine ⟨printable_literal _ (by decide), fun l hl => ?_, Text.printable_nil, by simp⟩
  obtain ⟨f, hf, rfl⟩ := List.mem_map.1 hl
  simp only [printable_append, (h f (List.mem_filter.1 hf).1).path, printable_skipReason, and_true]
  exact ⟨⟨printable_literal _ (by decide), printable_literal _ (by decide)⟩, printable_literal _ (by decide)⟩

theorem shown_detailedOf {production tests : List FileChange} (hproduction : ∀ f ∈ production, f.Printable)
    (htests : ∀ f ∈ tests, f.Printable) (hfiles : ∀ f ∈ files, f.Printable)
    (hbreaking : ∀ c ∈ summary.breaking, c.Printable) (showSkipped : Bool) :
    (detailedOf production tests files summary showSkipped).Shown := by
  unfold detailedOf
  refine (Text.shown_join ?_).of_subset (Text.trim_subset _)
  simp only [List.forall_mem_append]
  refine ⟨⟨⟨⟨printable_breakingLines hbreaking, ?_⟩, printable_unless ?_⟩, printable_unless ?_⟩, ?_⟩
  · exact printable_sectionLines (printable_sections (printable_of_mem_sorted hproduction)) _
  · rw [List.forall_mem_cons]
    refine ⟨printable_literal _ (by decide), ?_⟩
    exact printable_sectionLines (printable_sections (printable_of_mem_sorted htests)) _
  · simp only [List.forall_mem_cons, printable_append, Text.printable_ofNat, and_true]
    exact ⟨⟨printable_literal _ (by decide), printable_literal _ (by decide)⟩, Text.printable_nil, by simp⟩
  · cases showSkipped
    · simp
    · exact printable_skippedLines hfiles

/-! ## All lengths -/

theorem extension_subset (path : Text) : Path.extension path ⊆ path := by
  have hname : Path.fileName path ⊆ path := (Text.afterLast_isSuffix _ _).subset
  unfold Path.extension
  split
  · rename_i stem ending hcut
    split
    · have hjoined := Text.eq_of_cutLast? hcut
      refine List.Subset.trans ?_ hname
      rw [hjoined]
      simp [Text.ofString]
    · simp
  · simp

theorem printable_pluralEnding (n : Nat) : (pluralEnding n).Printable := by
  unfold pluralEnding
  split
  · exact Text.printable_nil
  · exact printable_literal _ (by decide)

theorem printable_unsupportedWarning (h : ∀ f ∈ files, f.Printable) :
    ∀ w ∈ unsupportedWarning? files, w.Printable := by
  intro w hw
  unfold unsupportedWarning? at hw
  dsimp only at hw
  split at hw
  · cases hw
  · obtain rfl := Option.some.inj hw
    simp only [printable_append, Text.printable_ofNat, printable_pluralEnding, and_true]
    refine ⟨⟨⟨⟨printable_literal _ (by decide), printable_literal _ (by decide)⟩,
      printable_literal _ (by decide)⟩, ?_⟩, printable_literal _ (by decide)⟩
    refine Text.printable_join (printable_literal _ (by decide)) fun t ht => ?_
    obtain ⟨f, hf, rfl⟩ := List.mem_map.1 (Text.mem_distinct.1 (Text.mem_sort.1 ht))
    have hpath := (h f (List.mem_filter.1 hf).1).path
    split
    · exact hpath.of_subset (Text.afterLast_isSuffix _ _).subset
    · exact hpath.of_subset (extension_subset _)

/-- Every text of a summary is made of printable lines. -/
structure Shown (t : Tiers) : Prop where
  oneLine : t.oneLine.Shown
  short : t.short.Shown
  detailed : t.detailed.Shown

theorem shown_always {t : Text} (h : t.Printable) : (always t).Shown := ⟨h.shown, h.shown, h.shown⟩

theorem shown_withoutChanges (files : List FileChange) : (withoutChanges files).Shown := by
  unfold withoutChanges
  refine iteInduction (fun _ => ?_) fun _ => ?_
  · exact shown_always (printable_literal _ (by decide))
  · apply shown_always
    simp only [printable_append, Text.printable_ofNat, and_true]
    exact ⟨printable_literal _ (by decide), printable_literal _ (by decide)⟩

/-- A warning stands on lines of its own below a text. -/
theorem shown_below {t w : Text} (ht : t.Shown) (hw : w.Printable) : (t ++ ("\n" : Text) ++ w).Shown := by
  have hfeed : Text.Shown "\n" := by simp [Text.Shown, Text.ofString]
  exact Text.shown_append.2 ⟨Text.shown_append.2 ⟨ht, hfeed⟩, hw.shown⟩

theorem shown_ofFiles (hfiles : ∀ f ∈ files, f.Printable) (hbreaking : ∀ c ∈ summary.breaking, c.Printable)
    (options : SummaryOptions) : (ofFiles files summary options).Shown := by
  have hpart : ∀ p, ∀ f ∈ files.filter p, f.Printable := fun p f hf => hfiles f (List.mem_filter.1 hf).1
  have htests : ∀ f ∈ (if options.includeTests then files.filter fun f => Path.isTest f.path else []),
      f.Printable := by
    cases options.includeTests
    · simp
    · exact hpart _
  have hwarning : ∀ w ∈ (if options.showSkipped then none else unsupportedWarning? files), w.Printable := by
    cases options.showSkipped
    · exact printable_unsupportedWarning hfiles
    · simp
  have hdetailed := shown_detailedOf (hpart fun f => !Path.isTest f.path) htests hfiles hbreaking
    options.showSkipped
  unfold ofFiles
  refine iteInduction (fun _ => shown_withoutChanges files) fun _ => ?_
  extract_lets detailed
  split
  rename_i oneLine short heq
  have hphrases : oneLine.Printable ∧ short.Printable := by
    split at heq
    · obtain ⟨rfl, rfl⟩ := Prod.mk.inj heq
      have hchanges := printable_of_mem_sorted (hpart fun f => !Path.isTest f.path)
      exact ⟨printable_oneLineOf hchanges hbreaking, printable_shortOf hchanges hbreaking⟩
    split at heq
    · obtain ⟨rfl, rfl⟩ := Prod.mk.inj heq
      exact ⟨printable_literal _ (by decide), printable_literal _ (by decide)⟩
    · obtain ⟨rfl, rfl⟩ := Prod.mk.inj heq
      exact ⟨printable_literal _ (by decide), printable_literal _ (by decide)⟩
  split
  · rename_i w hw
    refine ⟨hphrases.1.shown, shown_below hphrases.2.shown (hwarning w hw), ?_⟩
    exact iteInduction (fun _ => (hwarning w hw).shown) fun _ => shown_below hdetailed (hwarning w hw)
  · exact ⟨hphrases.1.shown, hphrases.2.shown, hdetailed⟩

end Tiers

theorem Summary.printable_breaking {files : List FileChange} (h : ∀ f ∈ files, f.Printable) :
    ∀ c ∈ (Summary.ofFiles files).breaking, c.Printable := by
  intro c hc
  obtain ⟨f, hf, hc⟩ := List.mem_flatMap.1 (List.mem_filter.1 hc).1
  exact (h f hf).changes c hc

namespace Report

theorem shown_summaryText (a : Analysis) (tier : Tier) (options : SummaryOptions) :
    (summaryText a tier options).Shown := by
  have hfiles : ∀ f ∈ a.files.map FileChange.terminalSafe, f.Printable := by
    intro f hf
    obtain ⟨g, -, rfl⟩ := List.mem_map.1 hf
    exact FileChange.printable_terminalSafe g
  have htiers := Tiers.shown_ofFiles hfiles (Summary.printable_breaking hfiles) options
  cases tier with
  | oneLine => exact htiers.oneLine
  | short => exact htiers.short
  | detailed => exact htiers.detailed

/-- No text of a finding or of a file reaches a terminal as a control or as a line of its own. A review and
a summary of any length hold line feeds and printable code points only. The line feeds of a review are
counted by the shapes of its findings, so findings of the same shapes, whatever their texts, have as many. -/
theorem texts_add_no_controls_or_lines :
    (∀ findings : List Finding, ∀ c ∈ reviewText findings, c = '\n' ∨ c.isPrintable = true) ∧
    (∀ findings : List Finding,
      (reviewText findings).count ('\n' : CodePoint) = total (findings.map fun f => f.shape.lines)) ∧
    (∀ findings others : List Finding, findings.map Finding.shape = others.map Finding.shape →
      (reviewText findings).count ('\n' : CodePoint) = (reviewText others).count ('\n' : CodePoint)) ∧
    ∀ (a : Analysis) (tier : Tier) (options : SummaryOptions), ∀ c ∈ summaryText a tier options,
      c = '\n' ∨ c.isPrintable = true := by
  refine ⟨shown_reviewText, count_reviewText, fun findings others h => ?_, shown_summaryText⟩
  have hlines : ∀ fs : List Finding,
      fs.map (fun f => f.shape.lines) = (fs.map Finding.shape).map (·.lines) := by
    simp
  rw [count_reviewText, count_reviewText, hlines, hlines, h]

/-- The removal of a function, with a text for each of its fields. -/
def removal (path name : Text) : Finding :=
  let change : Change := { kind := .functionRemoved, name, gaps := [name] }
  { file := { path, changeType := .modified, changes := [change] }
    change
    category := name
    production := [⟨path, 1, name, .call, name, .low, name⟩]
    tests := [] }

/-- A path and a name with line feeds and an escape sequence. -/
def forgedRemoval : Finding := removal "a\nb.py" "f\n\x1b[2J"

/-- Line feeds and an escape sequence in a path and a name, against a plain path and name. -/
theorem texts_add_no_controls_or_lines_forged :
    (reviewText [forgedRemoval]).count ('\n' : CodePoint) =
      (reviewText [removal "b.py" "f"]).count ('\n' : CodePoint) ∧
    (reviewText [forgedRemoval]).count ('\n' : CodePoint) = 8 ∧
    (('⚠' : CodePoint) ∈ reviewText [forgedRemoval] ∧
      ('⚠' = ('\n' : CodePoint) ∨ ('⚠' : CodePoint).isPrintable = true)) ∧
    (('[' : CodePoint) ∈ summaryText { refRange := [], files := [forgedRemoval.file] } .detailed {} ∧
      ('[' = ('\n' : CodePoint) ∨ ('[' : CodePoint).isPrintable = true)) := by
  obtain ⟨hreview, hcount, hshape, hsummary⟩ := texts_add_no_controls_or_lines
  have hsign : ('⚠' : CodePoint) ∈ reviewText [forgedRemoval] := by decide +kernel
  have hbracket : ('[' : CodePoint)
      ∈ summaryText { refRange := [], files := [forgedRemoval.file] } .detailed {} := by
    decide +kernel
  exact ⟨hshape _ _ rfl, hcount _, ⟨hsign, hreview _ _ hsign⟩, hbracket, hsummary _ _ _ _ hbracket⟩

end Report

end ChangeReview
