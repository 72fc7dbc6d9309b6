import ChangeReview.Proofs.Report.Printable
import ChangeReview.Proofs.Summary.Tests

/-!
# What a detailed summary lists and hides

The detailed text is written line by line: all breaking changes, the other changes under headings up to a
limit, and how many more there are. The changes under headings and those that are hidden are together all
that were selected and do not break. The number at the end is that of the hidden ones and of the breaking
changes of tests, which are listed nevertheless.
-/

namespace ChangeReview

/-- The texts of a change that a summary shows have no line feeds. -/
structure Change.OneLine (c : Change) : Prop where
  name : c.name.OneLine
  before : ∀ t ∈ c.beforeSignature, t.OneLine
  after : ∀ t ∈ c.afterSignature, t.OneLine
  fileFrom : ∀ t ∈ c.fileFrom, t.OneLine

/-- The texts of a file that a summary shows have no line feeds. -/
structure FileChange.OneLine (f : FileChange) : Prop where
  path : f.path.OneLine
  changes : ∀ c ∈ f.changes, c.OneLine

namespace Tiers

open PlacedChange

/-! ## Lines -/

/-- A change that does not break, in a line. -/
def itemText (c : PlacedChange) : Text :=
  match c.change.kind with
  | .signatureChanged => signatureItem c.change
  | .moved => moveItem c.change
  | _ => fileItem c

/-- A line of a detailed summary. -/
inductive Line where
  | heading (title : Text)
  | breaking (c : Change)
  | item (c : PlacedChange)
  | more (n : Nat)
  | blank

namespace Line

/-- How a line is written. -/
def text : Line → Text
  | heading title => "## " ++ title
  | breaking c => signatureItem c
  | item c => itemText c
  | more n => "(and " ++ Text.ofNat n ++ (" more)" : Text)
  | blank => []

/-- The breaking change that a line lists. -/
def breaking? : Line → Option Change
  | breaking c => some c
  | _ => none

/-- The change that a line lists under a heading. -/
def item? : Line → Option PlacedChange
  | item c => some c
  | _ => none

/-- The number of further changes that a line gives. -/
def more? : Line → Option Nat
  | more n => some n
  | _ => none

end Line

/-- What lines tell: the breaking changes, the changes under headings and the numbers of further ones. -/
structure Tells (lines : List Line) (breaking : List Change) (items : List PlacedChange) (counts : List Nat) :
    Prop where
  breaking : lines.filterMap Line.breaking? = breaking
  items : lines.filterMap Line.item? = items
  counts : lines.filterMap Line.more? = counts
  start : lines.head? ≠ some .blank
  titles : ∀ title, .heading title ∈ lines → title.OneLine

theorem Tells.append {lines lines' : List Line} {breaking breaking' : List Change}
    {items items' : List PlacedChange} {counts counts' : List Nat} (h : Tells lines breaking items counts)
    (h' : Tells lines' breaking' items' counts') :
    Tells (lines ++ lines') (breaking ++ breaking') (items ++ items') (counts ++ counts') where
  breaking := by rw [List.filterMap_append, h.breaking, h'.breaking]
  items := by rw [List.filterMap_append, h.items, h'.items]
  counts := by rw [List.filterMap_append, h.counts, h'.counts]
  start := by
    cases lines with
    | nil => exact h'.start
    | cons line lines => exact h.start
  titles title htitle := (List.mem_append.1 htitle).elim (h.titles title) (h'.titles title)

theorem tells_nil : Tells [] [] [] [] := ⟨rfl, rfl, rfl, by simp, by simp⟩

theorem tells_heading {title : Text} (htitle : title.OneLine) : Tells [.heading title] [] [] [] :=
  ⟨rfl, rfl, rfl, by simp, by simpa using htitle⟩

/-- Lines with a heading before and a blank line behind them. -/
theorem Tells.enclose {lines : List Line} {breaking : List Change} {items : List PlacedChange}
    {counts : List Nat} (h : Tells lines breaking items counts) (title : Text) (htitle : title.OneLine) :
    Tells (.heading title :: lines ++ [.blank]) breaking items counts where
  breaking := by
    rw [List.cons_append, List.filterMap_cons, List.filterMap_append, h.breaking]
    simp [Line.breaking?]
  items := by
    rw [List.cons_append, List.filterMap_cons, List.filterMap_append, h.items]
    simp [Line.item?]
  counts := by
    rw [List.cons_append, List.filterMap_cons, List.filterMap_append, h.counts]
    simp [Line.more?]
  start := by simp
  titles := by
    intro other hother
    simp only [List.cons_append, List.mem_cons, List.mem_append, Line.heading.injEq, reduceCtorEq,
      List.not_mem_nil, or_false] at hother
    rcases hother with rfl | hother
    · exact htitle
    · exact h.titles other hother

theorem tells_items (items : List PlacedChange) : Tells (items.map .item) [] items [] where
  breaking := by rw [List.filterMap_map]; exact List.filterMap_eq_nil_iff.2 fun _ _ => rfl
  items := by rw [List.filterMap_map]; exact List.filterMap_some
  counts := by rw [List.filterMap_map]; exact List.filterMap_eq_nil_iff.2 fun _ _ => rfl
  start := by cases items <;> simp
  titles := by simp

theorem tells_breaking (breaking : List Change) : Tells (breaking.map .breaking) breaking [] [] where
  breaking := by rw [List.filterMap_map]; exact List.filterMap_some
  items := by rw [List.filterMap_map]; exact List.filterMap_eq_nil_iff.2 fun _ _ => rfl
  counts := by rw [List.filterMap_map]; exact List.filterMap_eq_nil_iff.2 fun _ _ => rfl
  start := by cases breaking <;> simp
  titles := by simp

theorem exists_breakingLines (breaking : List Change) :
    ∃ lines, breakingLines breaking = lines.map Line.text ∧ Tells lines breaking [] [] := by
  unfold breakingLines
  cases breaking with
  | nil => exact ⟨[], rfl, tells_nil⟩
  | cons c rest =>
    refine ⟨_, ?_, (tells_breaking (c :: rest)).enclose "Breaking Changes" (by decide)⟩
    simp only [List.isEmpty_cons, Bool.false_eq_true, if_false, List.map_append, List.map_cons, List.map_map]
    rfl

/-! ## Sections -/

/-- The heading of a kind of change. -/
def sectionTitle : ChangeKind → Text
  | .functionRemoved | .classRemoved => "Removed"
  | .signatureChanged => "Signature Changes"
  | .functionAdded | .classAdded => "Added"
  | .functionModified | .classModified => "Modified"
  | .moved => "Moved"

/-- The headings in their order. -/
def sectionTitles : List Text := Text.list ["Removed", "Signature Changes", "Added", "Modified", "Moved"]

/-- The changes that do not break. -/
def quiet (changes : List PlacedChange) : List PlacedChange := changes.filter fun c => !c.change.isBreaking

/-- The changes of the sections with their headings. -/
def groups (changes : List PlacedChange) : List (Text × List PlacedChange) :=
  sectionTitles.map fun title => (title, (quiet changes).filter (sectionTitle ·.change.kind == title))

theorem oneLine_of_mem_groups (changes : List PlacedChange) : ∀ group ∈ groups changes, group.1.OneLine :=
  List.forall_mem_map.2 (by decide : ∀ title ∈ sectionTitles, title.OneLine)

theorem sections_eq (changes : List PlacedChange) :
    sections changes = (groups changes).map fun group => (group.1, group.2.map itemText) := by
  have hpick : ∀ (p : ChangeKind → Bool) (item : PlacedChange → Text) (title : Text),
      (∀ kind, p kind = (sectionTitle kind == title)) → (∀ c, p c.change.kind = false ∨ item c = itemText c) →
      (changes.filter fun c => !c.change.isBreaking && p c.change.kind).map item
        = ((quiet changes).filter (sectionTitle ·.change.kind == title)).map itemText := by
    intro p item title hp hitem
    rw [quiet, List.filter_filter]
    simp only [← hp, Bool.and_comm (p _)]
    refine List.map_congr_left fun c hc => (hitem c).resolve_left ?_
    simp [(Bool.and_eq_true_iff.1 (List.mem_filter.1 hc).2).2]
  unfold sections groups sectionTitles
  simp only [Text.list, List.map_cons, List.map_nil]
  rw [hpick ChangeKind.isRemoval fileItem "Removed" (fun kind => by cases kind <;> decide),
    hpick (· == .signatureChanged) _ "Signature Changes" (fun kind => by cases kind <;> decide),
    hpick ChangeKind.isAddition fileItem "Added" (fun kind => by cases kind <;> decide),
    hpick ChangeKind.isModification fileItem "Modified" (fun kind => by cases kind <;> decide),
    hpick (· == .moved) _ "Moved" (fun kind => by cases kind <;> decide)]
  all_goals
    intro c
    unfold itemText
    cases c.change.kind <;>
      simp [ChangeKind.isRemoval, ChangeKind.isAddition, ChangeKind.isModification]

/-- The sections hold each change that does not break once. -/
theorem flatMap_groups_perm (changes : List PlacedChange) :
    ((groups changes).flatMap Prod.snd).Perm (quiet changes) := by
  rw [groups, List.flatMap_map]
  refine flatMap_filter_perm (fun c : PlacedChange => sectionTitle c.change.kind) (by decide) fun c _ => ?_
  cases c.change.kind <;> decide

/-- The sections show their first changes, up to the limit. -/
theorem exists_sectionLines (limit : Nat) {groups : List (Text × List PlacedChange)}
    (htitles : ∀ group ∈ groups, group.1.OneLine) :
    ∃ lines, sectionLines limit (groups.map fun group => (group.1, group.2.map itemText))
        = (lines.map Line.text, ((groups.flatMap Prod.snd).take limit).length) ∧
      Tells lines [] ((groups.flatMap Prod.snd).take limit) [] := by
  induction groups generalizing limit with
  | nil => exact ⟨[], by simp [sectionLines], by simpa using tells_nil⟩
  | cons group rest ih =>
    obtain ⟨title, items⟩ := group
    obtain ⟨htitle, hrest⟩ := List.forall_mem_cons.1 htitles
    rw [List.map_cons, sectionLines, List.flatMap_cons, List.isEmpty_map]
    dsimp only
    by_cases hitems : items = []
    · subst hitems
      exact ih limit hrest
    · rw [if_neg (by simpa using hitems)]
      by_cases hlimit : limit = 0
      · subst hlimit
        exact ⟨[], by simp, by simpa using tells_nil⟩
      · rw [if_neg (by simpa using hlimit)]
        obtain ⟨lines, hlines, htells⟩ := ih (limit - items.length) hrest
        have hleft : limit - ((items.map itemText).take limit).length = limit - items.length := by
          rw [List.length_take, List.length_map]
          omega
        rw [hleft, hlines, List.take_append]
        refine ⟨_, ?_, ((tells_items (items.take limit)).enclose title htitle).append htells⟩
        simp only [List.map_append, List.map_cons, List.map_map, List.map_take, List.length_append,
          List.length_take, List.length_map]
        rfl

/-! ## All lines -/

/-- The number of further changes, if there are any. -/
def further (n : Nat) : List Nat := if n = 0 then [] else [n]

theorem exists_furtherLines (n : Nat) :
    ∃ lines, (if n == 0 then [] else ["(and " ++ Text.ofNat n ++ (" more)" : Text), []]) = lines.map Line.text ∧
      Tells lines [] [] (further n) := by
  unfold further
  by_cases hn : n = 0
  · exact ⟨[], by simp [hn], by rw [if_pos hn]; exact tells_nil⟩
  · refine ⟨[.more n, .blank], by simp [hn, Line.text], ?_⟩
    rw [if_neg hn]
    exact ⟨rfl, rfl, rfl, by simp, by simp⟩

theorem length_quiet (changes : List PlacedChange) :
    (quiet changes).length + changes.countP (·.change.isBreaking) = changes.length := by
  rw [quiet, ← List.countP_eq_length_filter, List.length_eq_countP_add_countP (·.change.isBreaking),
    Nat.add_comm]
  simp

theorem quiet_sorted_perm (files : List FileChange) : (quiet (sorted files)).Perm (quiet (placed files)) :=
  (List.mergeSort_perm _ _).filter _

/-- The sections of tests, under a heading of their own if tests have changes. -/
theorem exists_testLines (limit : Nat) (changes : List PlacedChange) :
    ∃ lines, (if changes.isEmpty then []
        else ("## Test Changes" : Text) :: (sectionLines limit (sections changes)).1) = lines.map Line.text ∧
      (sectionLines limit (sections changes)).2 = (((groups changes).flatMap Prod.snd).take limit).length ∧
      Tells lines [] (((groups changes).flatMap Prod.snd).take limit) [] := by
  obtain ⟨lines, hlines, htells⟩ := exists_sectionLines limit (oneLine_of_mem_groups changes)
  rw [sections_eq, hlines]
  cases changes with
  | nil =>
    have hnone : (groups []).flatMap Prod.snd = [] := List.perm_nil.1 (flatMap_groups_perm [])
    exact ⟨[], rfl, rfl, by rw [hnone, List.take_nil]; exact tells_nil⟩
  | cons c rest =>
    exact ⟨.heading "Test Changes" :: lines, rfl, rfl, (tells_heading (by decide)).append htells⟩

/-- All breaking changes are listed, and of the others of the files all that are not hidden. The number of
further changes is that of the hidden ones and of the breaking ones of tests. -/
theorem exists_lines (production tests all : List FileChange) (summary : Summary) :
    ∃ (lines : List Line) (items hidden : List PlacedChange),
      detailedOf production tests all summary false = Text.trim (Text.join "\n" (lines.map Line.text)) ∧
      Tells lines summary.breaking items
        (further (hidden.length + (placed tests).countP (·.change.isBreaking))) ∧
      (items ++ hidden).Perm (quiet (placed production) ++ quiet (placed tests)) := by
  obtain ⟨breakingPart, hbreaking, hbreakingTells⟩ := exists_breakingLines summary.breaking
  obtain ⟨part, hpart, hpartTells⟩ :=
    exists_sectionLines sectionLimit (oneLine_of_mem_groups (sorted production))
  have hperm := flatMap_groups_perm (sorted production)
  have htestPerm := flatMap_groups_perm (sorted tests)
  generalize hp : (groups (sorted production)).flatMap Prod.snd = p at *
  -- The sections of tests get what production files left of the limit, or five places if nothing is left.
  obtain ⟨limit, hlimit⟩ : ∃ limit, limit
    = if (p.take sectionLimit).length < sectionLimit then sectionLimit - (p.take sectionLimit).length else 5 :=
    ⟨_, rfl⟩
  obtain ⟨testPart, htests, htestCount, htestTells⟩ := exists_testLines limit (sorted tests)
  generalize ht : (groups (sorted tests)).flatMap Prod.snd = t at *
  have hcount : (placed tests).countP (·.change.isBreaking) = (sorted tests).countP (·.change.isBreaking) :=
    ((List.mergeSort_perm _ _).countP_eq _).symm
  have hlength := length_quiet (sorted production)
  have htestLength := length_quiet (sorted tests)
  rw [← hperm.length_eq] at hlength
  rw [← htestPerm.length_eq] at htestLength
  -- Breaking changes are taken out of the number for production files, but not for tests.
  have hnumber : (sorted production).length - (p.take sectionLimit).length
        - (sorted production).countP (·.change.isBreaking) + ((sorted tests).length - (t.take limit).length)
      = (p.drop sectionLimit ++ t.drop limit).length + (placed tests).countP (·.change.isBreaking) := by
    rw [hcount, List.length_append, List.length_drop, List.length_drop, List.length_take, List.length_take]
    omega
  obtain ⟨last, hlast, hlastTells⟩ := exists_furtherLines
    ((p.drop sectionLimit ++ t.drop limit).length + (placed tests).countP (·.change.isBreaking))
  have htells := ((hbreakingTells.append hpartTells).append htestTells).append hlastTells
  refine ⟨breakingPart ++ part ++ testPart ++ last, p.take sectionLimit ++ t.take limit,
    p.drop sectionLimit ++ t.drop limit, ?_, ?_, ?_⟩
  · unfold detailedOf
    dsimp only
    rw [sections_eq (sorted production), hpart]
    dsimp only
    rw [← hlimit]
    rcases htest : sectionLines limit (sections (sorted tests)) with ⟨testLines, testCount⟩
    rw [htest] at htests htestCount
    dsimp only at htests htestCount ⊢
    rw [htestCount, hnumber, hbreaking, htests, hlast, if_neg Bool.false_ne_true, List.append_nil,
      List.map_append, List.map_append, List.map_append]
  · simpa only [List.append_nil, List.nil_append] using htells
  · have hall : (p.take sectionLimit ++ t.take limit
        ++ (p.drop sectionLimit ++ t.drop limit)).Perm (p ++ t) := by
      conv_rhs => rw [← List.take_append_drop sectionLimit p, ← List.take_append_drop limit t]
      rw [List.append_assoc, List.append_assoc, ← List.append_assoc (t.take limit),
        ← List.append_assoc (p.drop _)]
      exact (List.perm_append_comm.append_right _).append_left _
    exact hall.trans ((hperm.trans (quiet_sorted_perm _)).append (htestPerm.trans (quiet_sorted_perm _)))

/-! ## The line that counts -/

namespace Line

/-- Every line but the blank one starts with a mark of its own, and only the line that counts with a
parenthesis. -/
theorem exists_text (line : Line) : line = blank ∨ ∃ c r, line.text = c :: r ∧ c.isBlank = false ∧
    ((∃ n, line = more n) ∨ c ≠ '(') := by
  cases line with
  | heading title => exact Or.inr ⟨'#', _, rfl, by decide, Or.inr (by decide)⟩
  | breaking c => exact Or.inr ⟨'-', _, rfl, by decide, Or.inr (by decide)⟩
  | item c =>
    refine Or.inr ⟨'-', (itemText c).tail, ?_, by decide, Or.inr (by decide)⟩
    show itemText c = _
    unfold itemText
    split <;> rfl
  | more n => exact Or.inr ⟨'(', _, rfl, by decide, Or.inl ⟨n, rfl⟩⟩
  | blank => exact Or.inl rfl

theorem more_text_inj {n m : Nat} (h : (more n).text = (more m).text) : n = m := by
  have hnat : Text.ofNat n = Text.ofNat m := by simpa [text] using h
  simpa using congrArg Text.decimal? hnat

theorem trimRight_text_eq_iff {line : Line} {n : Nat} :
    line.text.trimRight = (more n).text ↔ line.text = (more n).text := by
  have hmore : ∀ m, (more m).text.trimRight = (more m).text := by
    intro m
    refine Text.trimRight_eq_self fun c hc => ?_
    rw [text, List.getLast?_append_of_ne_nil _ (by decide)] at hc
    revert c
    decide
  obtain ⟨tail, hn⟩ : ∃ tail : Text, (more n).text = ('(' : CodePoint) :: tail := ⟨_, rfl⟩
  rcases line.exists_text with rfl | ⟨c, r, htext, -, ⟨m, rfl⟩ | hother⟩
  · rw [hn]
    exact Iff.rfl
  · rw [hmore]
  · rw [hn, htext]
    refine iff_of_false (fun h => hother ?_) fun h => hother (List.cons.inj h).1
    have hlead := Text.trimRight_isPrefix (c :: r)
    rw [h, List.cons_prefix_cons] at hlead
    exact hlead.1.symm

theorem more_mem_iff {lines : List Line} {n : Nat} : more n ∈ lines ↔ n ∈ lines.filterMap more? := by
  refine ⟨fun h => List.mem_filterMap.2 ⟨_, h, rfl⟩, fun h => ?_⟩
  obtain ⟨line, hline, hn⟩ := List.mem_filterMap.1 h
  cases line with
  | more m =>
    obtain rfl : m = n := Option.some.inj hn
    exact hline
  | _ => cases hn

theorem mem_map_text_iff {lines : List Line} {n : Nat} : (more n).text ∈ lines.map text ↔ more n ∈ lines := by
  refine ⟨fun h => ?_, fun h => List.mem_map_of_mem h⟩
  obtain ⟨line, hline, htext⟩ := List.mem_map.1 h
  rcases line.exists_text with rfl | ⟨c, r, hc, -, ⟨m, rfl⟩ | hother⟩
  · cases htext
  · rwa [← more_text_inj htext]
  · rw [hc] at htext
    exact absurd (List.cons.inj htext).1 hother

end Line

theorem trimLeft_join_text {lines : List Line} (hstart : lines.head? ≠ some .blank) :
    (Text.join "\n" (lines.map Line.text)).trimLeft = Text.join "\n" (lines.map Line.text) := by
  cases lines with
  | nil => rfl
  | cons line rest =>
    obtain ⟨c, r, htext, hblank, -⟩ := line.exists_text.resolve_left (by simpa using hstart)
    obtain ⟨tail, htail⟩ : ∃ tail, Text.join "\n" ((line :: rest).map Line.text) = c :: tail := by
      rw [List.map_cons, htext]
      cases rest with
      | nil => exact ⟨r, List.intercalate_singleton⟩
      | cons next rest => exact ⟨_, List.intercalate_cons_cons⟩
    rw [htail, Text.trimLeft, List.dropWhile_cons_of_neg (by simp [hblank])]

/-- A text with a warning in a line of its own behind it. -/
def withWarning (warning : Option Text) (t : Text) : Text :=
  match warning with
  | some w => if t.isEmpty then w else t ++ ("\n" : Text) ++ w
  | none => t

/-- The line that counts is found in the text exactly if it was written. -/
theorem mem_lines_iff {lines : List Line} (hstart : lines.head? ≠ some .blank)
    (hlines : ∀ line ∈ lines, line.text.OneLine) {warning : Option Text}
    (hwarning : ∀ w ∈ warning, w.OneLine ∧ w.head? ≠ some ('(' : CodePoint)) (n : Nat) :
    (Line.more n).text ∈ Text.splitOn '\n'
        (withWarning warning (Text.trim (Text.join "\n" (lines.map Line.text)))) ↔ .more n ∈ lines := by
  obtain ⟨tail, hn⟩ : ∃ tail : Text, (Line.more n).text = ('(' : CodePoint) :: tail := ⟨_, rfl⟩
  obtain ⟨kept, htext, hempty, hone, hkept⟩ :=
    Text.exists_lines_of_trimRight (List.forall_mem_map.2 hlines)
  have hmem : (Line.more n).text ∈ kept ↔ .more n ∈ lines := by
    rw [hkept _ (by simp [hn]) (List.forall_mem_map.2 fun line _ => Line.trimRight_text_eq_iff),
      Line.mem_map_text_iff]
  have hother : ∀ w ∈ warning, (Line.more n).text ≠ w := by
    intro w hw heq
    apply (hwarning w hw).2
    rw [← heq, hn, List.head?_cons]
  rw [Text.trim, trimLeft_join_text hstart, ← hmem]
  -- A warning is joined to the lines only if there are any; else it is the whole text.
  by_cases hkeptNil : kept = []
  · rw [hempty.2 hkeptNil, hkeptNil]
    cases warning with
    | none => simp [withWarning, Text.splitOn, hn]
    | some w => simpa [withWarning, Text.splitOn_of_not_mem (hwarning w rfl).1] using hother w rfl
  · cases warning with
    | none => rw [withWarning, htext, Text.splitOn_join hkeptNil hone]
    | some w =>
      have hlast : ∀ l ∈ kept ++ [w], l.OneLine :=
        List.forall_mem_append.2 ⟨hone, List.forall_mem_singleton.2 (hwarning w rfl).1⟩
      rw [withWarning, if_neg (by simpa using mt hempty.1 hkeptNil), htext, List.append_assoc,
        ← Text.join_concat hkeptNil, Text.splitOn_join (by simp) hlast]
      simp [hother w rfl]

/-! ## Texts of one line -/

theorem oneLine_quoted {name : Text} (h : name.OneLine) : (quoted name).OneLine := by
  simp only [quoted, Text.oneLine_append]
  exact ⟨⟨by decide, h⟩, by decide⟩

theorem oneLine_shown {t : Option Text} (h : ∀ u ∈ t, u.OneLine) : (shown t).OneLine := by
  cases t with
  | none => decide
  | some u => exact h u rfl

theorem oneLine_signatureItem {c : Change} (h : c.OneLine) : (signatureItem c).OneLine := by
  simp only [signatureItem, Text.oneLine_append]
  exact ⟨⟨⟨⟨⟨by decide, oneLine_quoted h.name⟩, by decide⟩, oneLine_shown h.before⟩, by decide⟩,
    oneLine_shown h.after⟩

theorem oneLine_itemText {c : PlacedChange} (hpath : c.path.OneLine) (h : c.change.OneLine) :
    (itemText c).OneLine := by
  unfold itemText
  split
  · exact oneLine_signatureItem h
  · simp only [moveItem, Text.oneLine_append]
    exact ⟨⟨⟨by decide, oneLine_quoted h.name⟩, by decide⟩, oneLine_shown h.fileFrom⟩
  · simp only [fileItem, Text.oneLine_append]
    exact ⟨⟨⟨⟨by decide, oneLine_quoted h.name⟩, by decide⟩, hpath⟩, by decide⟩

theorem Tells.oneLine {lines : List Line} {breaking : List Change} {items : List PlacedChange}
    {counts : List Nat} (h : Tells lines breaking items counts) (hbreaking : ∀ c ∈ breaking, c.OneLine)
    (hitems : ∀ c ∈ items, c.path.OneLine ∧ c.change.OneLine) : ∀ line ∈ lines, line.text.OneLine := by
  intro line hline
  cases line with
  | heading title => exact Text.oneLine_append.2 ⟨by decide, h.titles title hline⟩
  | breaking c =>
    refine oneLine_signatureItem (hbreaking c ?_)
    rw [← h.breaking]
    exact List.mem_filterMap.2 ⟨_, hline, rfl⟩
  | item c =>
    have hc : c ∈ items := by
      rw [← h.items]
      exact List.mem_filterMap.2 ⟨_, hline, rfl⟩
    exact oneLine_itemText (hitems c hc).1 (hitems c hc).2
  | more n =>
    exact Text.oneLine_append.2 ⟨Text.oneLine_append.2 ⟨by decide, Text.oneLine_ofNat n⟩, by decide⟩
  | blank => exact List.not_mem_nil

theorem oneLine_of_mem_placed {files : List FileChange} (h : ∀ f ∈ files, f.OneLine) :
    ∀ c ∈ placed files, c.path.OneLine ∧ c.change.OneLine := by
  intro c hc
  obtain ⟨f, hf, hchange⟩ := List.mem_flatMap.1 hc
  obtain ⟨d, hd, rfl⟩ := List.mem_map.1 hchange
  exact ⟨(h f hf).path, (h f hf).changes d hd⟩

/-- The warning is one line, and it does not start like the line that counts. -/
theorem oneLine_unsupportedWarning {files : List FileChange} (h : ∀ f ∈ files, f.OneLine) :
    ∀ w ∈ unsupportedWarning? files, w.OneLine ∧ w.head? ≠ some ('(' : CodePoint) := by
  intro w hw
  unfold unsupportedWarning? at hw
  dsimp only at hw
  split at hw
  · cases hw
  · obtain rfl := Option.some.inj hw
    refine ⟨?_, by simpa [Text.ofString] using (by decide : ('⚠' : CodePoint) ≠ '(')⟩
    simp only [Text.oneLine_append]
    refine ⟨⟨⟨⟨⟨⟨by decide, Text.oneLine_ofNat _⟩, by decide⟩, ?_⟩, by decide⟩, fun hfeed => ?_⟩, by decide⟩
    · unfold pluralEnding
      split <;> decide
    · rcases Text.mem_join hfeed with hsep | ⟨t, ht, hmem⟩
      · exact absurd hsep (by decide)
      · obtain ⟨f, hf, rfl⟩ := List.mem_map.1 (Text.mem_distinct.1 (Text.mem_sort.1 ht))
        refine (h f (List.mem_filter.1 hf).1).path ?_
        split at hmem
        · exact (Text.afterLast_isSuffix _ _).subset hmem
        · exact extension_subset _ hmem

/-! ## All files -/

/-- The files whose changes the sections show. -/
def selected (includeTests : Bool) (files : List FileChange) : List FileChange :=
  files.filter fun f => includeTests || !Path.isTest f.path

theorem detailed_eq {files : List FileChange} (hchanged : ∃ f ∈ files, f.changes ≠ []) (includeTests : Bool) :
    (ofFiles files (Summary.ofFiles files) { includeTests }).detailed
      = withWarning (unsupportedWarning? files) (detailedOf (files.filter fun f => !Path.isTest f.path)
          (if includeTests then files.filter fun f => Path.isTest f.path else []) files (Summary.ofFiles files)
          false) := by
  unfold ofFiles withWarning
  dsimp only
  rw [all_isEmpty_eq_false hchanged, if_neg Bool.false_ne_true, if_neg Bool.false_ne_true]
  cases unsupportedWarning? files <;> rfl

theorem filter_selected (includeTests : Bool) (files : List FileChange) :
    ((selected includeTests files).filter fun f => Path.isTest f.path)
      = if includeTests then files.filter fun f => Path.isTest f.path else [] := by
  rw [selected, List.filter_filter]
  cases includeTests <;> simp

theorem quiet_selected_perm (includeTests : Bool) (files : List FileChange) :
    (quiet (placed (files.filter fun f => !Path.isTest f.path))
      ++ quiet (placed ((selected includeTests files).filter fun f => Path.isTest f.path))).Perm
        (quiet (placed (selected includeTests files))) := by
  have hproduction : (files.filter fun f => !Path.isTest f.path)
      = (selected includeTests files).filter fun f => !Path.isTest f.path := by
    rw [selected, List.filter_filter]
    cases includeTests <;> simp
  rw [hproduction, quiet, quiet, quiet, ← List.filter_append, placed, placed, placed, ← List.flatMap_append]
  refine (List.Perm.flatMap_right _ ?_).filter _
  simpa using List.filter_append_perm (fun f : FileChange => !Path.isTest f.path) (selected includeTests files)

theorem mem_further {n m : Nat} : m ∈ further n ↔ 0 < m ∧ m = n := by
  unfold further
  split <;> simp <;> omega

theorem changed_breakingTest : ∃ f ∈ [breakingTest], f.changes ≠ [] :=
  ⟨breakingTest, List.mem_singleton_self _, List.cons_ne_nil _ _⟩

/-- A breaking change of a test is listed, and it is counted as hidden. -/
theorem listed_breaking_test_counted :
    quiet (placed (selected true [breakingTest])) = [] ∧
    (ofFiles [breakingTest] (Summary.ofFiles [breakingTest]) { includeTests := true }).detailed
      = "## Breaking Changes\n- \x60t\x60: def t(a) → def t()\n\n## Test Changes\n(and 1 more)" := by
  have hsorted : sorted [breakingTest] = placed [breakingTest] := List.mergeSort_singleton _
  have hnone : sorted [] = [] := List.mergeSort_nil
  refine ⟨by decide +kernel, ?_⟩
  rw [detailed_eq changed_breakingTest, if_pos rfl, List.filter_cons_of_neg (by decide +kernel),
    List.filter_cons_of_pos (by decide +kernel)]
  unfold detailedOf
  dsimp only [List.filter_nil]
  rw [hsorted, hnone]
  decide +kernel

/-- **The line that counts.** Let some file have a change. The detailed text lists all breaking changes, and
of the other changes of the selected files all but the hidden ones. A last line gives how many are hidden,
together with the breaking changes of selected tests, which are listed nevertheless; it is missing if that
number is zero. Where no text has a line feed, the line is found in the text exactly so. -/
theorem detailed_counts_hidden {files : List FileChange} (hchanged : ∃ f ∈ files, f.changes ≠ [])
    (includeTests : Bool) :
    ∃ (lines : List Line) (hidden : List PlacedChange),
      let n := hidden.length
        + (placed ((selected includeTests files).filter fun f => Path.isTest f.path)).countP
          (·.change.isBreaking)
      (ofFiles files (Summary.ofFiles files) { includeTests }).detailed
        = withWarning (unsupportedWarning? files) (Text.trim (Text.join "\n" (lines.map Line.text))) ∧
      lines.filterMap Line.breaking? = (files.flatMap (·.changes)).filter (·.isBreaking) ∧
      (lines.filterMap Line.item? ++ hidden).Perm (quiet (placed (selected includeTests files))) ∧
      lines.filterMap Line.more? = further n ∧
      ((∀ f ∈ files, f.OneLine) → ∀ m,
        (Line.more m).text ∈ Text.splitOn '\n'
            (ofFiles files (Summary.ofFiles files) { includeTests }).detailed ↔
          0 < m ∧ m = n) := by
  obtain ⟨lines, items, hidden, htext, htells, hperm⟩ := exists_lines
    (files.filter fun f => !Path.isTest f.path)
    ((selected includeTests files).filter fun f => Path.isTest f.path) files (Summary.ofFiles files)
  have hselected := hperm.trans (quiet_selected_perm includeTests files)
  have hdetailed := detailed_eq hchanged includeTests
  rw [← filter_selected, htext] at hdetailed
  refine ⟨lines, hidden, hdetailed, htells.breaking, htells.items ▸ hselected, htells.counts, fun hone m => ?_⟩
  have hlines : ∀ line ∈ lines, line.text.OneLine := by
    refine htells.oneLine (fun c hc => ?_) fun c hc => ?_
    · obtain ⟨f, hf, hchange⟩ := List.mem_flatMap.1 (List.mem_filter.1 hc).1
      exact (hone f hf).changes c hchange
    · have hquiet := hselected.subset (List.mem_append_left _ hc)
      exact oneLine_of_mem_placed (fun f hf => hone f (List.mem_filter.1 hf).1) c (List.mem_filter.1 hquiet).1
  rw [hdetailed, mem_lines_iff htells.start hlines (oneLine_unsupportedWarning hone), Line.more_mem_iff,
    htells.counts, mem_further]

/-- Where all changes are listed, the breaking change of a test is what the line counts. -/
theorem detailed_counts_hidden_test :
    (∃ f ∈ [breakingTest], f.changes ≠ []) ∧
    (Line.more 1).text ∈ Text.splitOn '\n'
      (ofFiles [breakingTest] (Summary.ofFiles [breakingTest]) { includeTests := true }).detailed := by
  obtain ⟨lines, hidden, -, -, hperm, -, hcount⟩ := detailed_counts_hidden changed_breakingTest true
  have hquiet : quiet (placed (selected true [breakingTest])) = [] := by decide +kernel
  have hhidden : hidden = [] := (List.append_eq_nil_iff.1 (List.perm_nil.1 (hquiet ▸ hperm))).2
  have hone : ∀ f ∈ [breakingTest], f.OneLine := by
    refine List.forall_mem_singleton.2 ⟨by decide, List.forall_mem_singleton.2 ⟨by decide, ?_, ?_, ?_⟩⟩
    all_goals decide
  refine ⟨changed_breakingTest, (hcount hone 1).2 ⟨Nat.one_pos, ?_⟩⟩
  rw [hhidden]
  decide +kernel

end Tiers

end ChangeReview
