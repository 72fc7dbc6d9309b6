import ChangeReview.Patch.Records
import ChangeReview.Proofs.Patch.RoundTrip

/-!
# Raw records and what is read of them

The reader reads one record for each line that gives paths. The raw records are told apart at every line
break, the lines of the reader at line feeds only: the first lines of the raw records are pieces
of the reader's lines, and a raw record by itself is read exactly if its first line gives paths.
-/

namespace ChangeReview.Patch

open Text (OneLine startsWith splitOn linesWithBreaks)

/-! ## Each header comes to the reader -/

/-- `rest` is what is left of the lines behind some that open no record. -/
def Passes (lines rest : List Text) : Prop :=
  ∃ passed, lines = passed ++ rest ∧ ∀ l ∈ passed, startsWith l recordMark = false

theorem Passes.refl (lines : List Text) : Passes lines lines := ⟨[], rfl, by simp⟩

theorem Passes.cons {line : Text} {lines rest : List Text} (hline : startsWith line recordMark = false)
    (h : Passes lines rest) : Passes (line :: lines) rest := by
  obtain ⟨passed, rfl, hpassed⟩ := h
  exact ⟨line :: passed, rfl, List.forall_mem_cons.2 ⟨hline, hpassed⟩⟩

theorem Passes.trans {lines middle rest : List Text} (h : Passes lines middle) (h' : Passes middle rest) :
    Passes lines rest := by
  obtain ⟨passed, rfl, hpassed⟩ := h
  obtain ⟨passed', rfl, hpassed'⟩ := h'
  exact ⟨passed ++ passed', (List.append_assoc ..).symm, List.forall_mem_append.2 ⟨hpassed, hpassed'⟩⟩

theorem passes_readHead (h : Head) (lines : List Text) : Passes lines (readHead h lines).2 := by
  induction lines generalizing h with
  | nil => exact Passes.refl []
  | cons line rest ih =>
    rw [readHead]
    split
    · exact Passes.refl _
    · rename_i hmark
      rw [Bool.not_eq_true] at hmark
      split
      · exact (Passes.refl rest).cons hmark
      · split
        · exact Passes.refl _
        · exact (ih _).cons hmark

theorem passes_readLines (oldLine newLine : Nat) (lines : List Text) :
    Passes lines (readLines oldLine newLine lines).2 := by
  have hmark : ∀ {line : Text}, ¬(startsWith line recordMark || startsWith line "@@") = true →
      startsWith line recordMark = false := by
    intro line h
    rw [Bool.or_eq_true, not_or, Bool.not_eq_true] at h
    exact h.1
  fun_induction readLines oldLine newLine lines with
  | case1 => exact Passes.refl []
  | case2 => exact Passes.refl _
  | case3 _ _ rest _ h ih => exact ih.cons (hmark h)
  | case4 _ _ rest _ h => exact (Passes.refl rest).cons (hmark h)
  | case5 _ _ rest c content _ h ih => exact ih.cons (hmark h)
  | case6 _ _ rest c content _ _ h ih => exact ih.cons (hmark h)
  | case7 _ _ rest c content _ _ _ h ih => exact ih.cons (hmark h)
  | case8 _ _ rest c content _ _ _ h ih => exact ih.cons (hmark h)

theorem passes_readHunks (lines : List Text) : Passes lines (readHunks lines).2 := by
  fun_induction readHunks lines with
  | case1 => exact Passes.refl []
  | case2 => exact Passes.refl _
  | case3 line rest h _ ih => exact ih.cons (by simpa using h)
  | case4 line rest h header _ ih =>
    exact ((passes_readLines header.oldStart header.newStart rest).trans ih).cons (by simpa using h)

theorem passes_readContent (isBinary : Bool) (lines : List Text) :
    Passes lines (readContent isBinary lines).2 := by
  unfold readContent
  split
  · exact Passes.refl lines
  · exact passes_readHunks lines

theorem startsWith_of_headerPaths? {line : Text} (h : (headerPaths? line).isSome = true) :
    startsWith line recordMark = true := by
  unfold headerPaths? at h
  cases hafter : Text.after? recordMark line with
  | none =>
    rw [hafter] at h
    cases h
  | some payload =>
    rw [Text.after?_eq_some_iff.1 hafter]
    exact Text.startsWith_iff.2 (List.prefix_append _ _)

theorem Passes.countP_eq {lines rest : List Text} (h : Passes lines rest) :
    lines.countP (fun l => (headerPaths? l).isSome) = rest.countP fun l => (headerPaths? l).isSome := by
  obtain ⟨passed, rfl, hpassed⟩ := h
  have hnone : passed.countP (fun l => (headerPaths? l).isSome) = 0 := by
    rw [List.countP_eq_zero]
    intro l hl hsome
    exact Bool.false_ne_true ((hpassed l hl).symm.trans (startsWith_of_headerPaths? hsome))
  rw [List.countP_append, hnone, Nat.zero_add]

/-- A record is read for each line that gives paths, wherever the line stands. -/
theorem length_readRecords (isGenerated : Text → Bool) (lines : List Text) :
    (readRecords isGenerated lines).length = lines.countP fun l => (headerPaths? l).isSome := by
  fun_induction readRecords isGenerated lines with
  | case1 => rfl
  | case2 line rest h ih => rw [ih, List.countP_cons_of_neg (by simp [h])]
  | case3 line rest old new hpaths h content ih =>
    rw [List.length_cons, ih, List.countP_cons_of_pos (by simp [hpaths]),
      ((passes_readHead _ rest).trans (passes_readContent _ _)).countP_eq]

/-! ## Raw records as pieces of the text -/

theorem recordMark_plain : ∀ c ∈ recordMark, c.isLineBreak = false := by decide

/-- What stands before the first raw record, and the raw records. A record starts where its mark does at
the start of a line, which `fresh` tells of the start of the text. -/
def carve (fresh : Bool) : Text → Text × List Text
  | [] => ([], [])
  | c :: r =>
    let rest := carve c.isLineBreak r
    if fresh && startsWith (c :: r) recordMark then ([], (c :: rest.1) :: rest.2) else (c :: rest.1, rest.2)

/-- The same for lines. -/
def carveLines : List Text → Text × List Text
  | [] => ([], [])
  | line :: lines =>
    let rest := carveLines lines
    if startsWith line recordMark then ([], (line ++ rest.1) :: rest.2) else (line ++ rest.1, rest.2)

/-- A group of lines that a record starts. -/
def opens (group : List Text) : Bool := (group.head?.map (startsWith · recordMark)).getD false

/-- The text of the first group, if no record starts it. -/
def preamble : List (List Text) → Text
  | [] => []
  | group :: _ => if opens group then [] else group.flatten

theorem carveLines_eq (lines : List Text) :
    carveLines lines
      = (preamble (recordGroups lines), ((recordGroups lines).filter opens).map List.flatten) := by
  induction lines with
  | nil => rfl
  | cons line lines ih =>
    have hopens : ∀ group, opens (line :: group) = startsWith line recordMark := fun _ => rfl
    rw [carveLines, recordGroups, ih]
    dsimp only
    cases hgroups : recordGroups lines with
    | nil =>
      dsimp only [preamble]
      rw [List.filter_cons, hopens]
      split <;> simp
    | cons group groups =>
      dsimp only [preamble]
      rw [← opens]
      cases hgroup : opens group with
      | true =>
        rw [if_pos rfl, if_pos rfl]
        dsimp only [preamble]
        rw [List.filter_cons (x := [line]), hopens]
        split <;> simp
      | false =>
        rw [if_neg Bool.false_ne_true, if_neg Bool.false_ne_true]
        dsimp only [preamble]
        rw [List.filter_cons_of_neg (by simp [hgroup]), List.filter_cons, hopens]
        split <;> simp

theorem linesWithBreaks_plain {c : CodePoint} (h : c.isLineBreak = false) (r : Text) :
    linesWithBreaks (c :: r) = (c :: (linesWithBreaks r).headD []) :: (linesWithBreaks r).tail := by
  have hreturn : (c == CodePoint.ofChar '\r') = false := by
    rw [beq_eq_false_iff_ne]
    rintro rfl
    exact absurd h (by decide)
  rw [Text.linesWithBreaks.eq_def (c :: r)]
  dsimp only
  rw [hreturn, if_neg Bool.false_ne_true, h, if_neg Bool.false_ne_true]
  cases linesWithBreaks r <;> rfl

theorem linesWithBreaks_break {c : CodePoint} (h : c.isLineBreak = true) (r : Text) :
    linesWithBreaks (c :: r) = [c] :: linesWithBreaks r ∨
      ∃ s : Text, r = CodePoint.ofChar '\n' :: s ∧
        linesWithBreaks (c :: r) = [c, CodePoint.ofChar '\n'] :: linesWithBreaks s := by
  rw [Text.linesWithBreaks.eq_def (c :: r)]
  dsimp only
  by_cases hreturn : (c == CodePoint.ofChar '\r') = true
  · rw [if_pos hreturn]
    cases r with
    | nil => exact Or.inl rfl
    | cons d s =>
      dsimp only
      by_cases hfeed : (d == CodePoint.ofChar '\n') = true
      · rw [if_pos hfeed]
        rw [beq_iff_eq] at hfeed
        subst hfeed
        exact Or.inr ⟨s, rfl, rfl⟩
      · rw [if_neg hfeed]
        exact Or.inl rfl
  · rw [if_neg hreturn, if_pos h]
    exact Or.inl rfl

theorem startsWith_cons (c a : CodePoint) (t mark : Text) :
    startsWith (c :: t) (a :: mark) = (a == c && startsWith t mark) := rfl

theorem startsWith_break {c : CodePoint} (h : c.isLineBreak = true) (r : Text) :
    startsWith (c :: r) recordMark = false := by
  have hne : (CodePoint.ofChar 'd' == c) = false := by
    rw [beq_eq_false_iff_ne]
    rintro rfl
    exact absurd h (by decide)
  have hmark : recordMark = CodePoint.ofChar 'd' :: recordMark.tail := by decide
  rw [hmark, startsWith_cons, hne, Bool.false_and]

/-- A line starts with a text in which no line ends exactly when what follows does. -/
theorem startsWith_headD {mark : Text} (hmark : ∀ c ∈ mark, c.isLineBreak = false) (t : Text) :
    startsWith ((linesWithBreaks t).headD []) mark = startsWith t mark := by
  induction t generalizing mark with
  | nil => rfl
  | cons c r ih =>
    cases mark with
    | nil => rfl
    | cons a mark =>
      obtain ⟨ha, hmark⟩ := List.forall_mem_cons.1 hmark
      cases hc : c.isLineBreak with
      | false => rw [linesWithBreaks_plain hc, List.headD_cons, startsWith_cons, startsWith_cons, ih hmark]
      | true =>
        have hne : (a == c) = false := by
          rw [beq_eq_false_iff_ne]
          rintro rfl
          exact Bool.false_ne_true (ha.symm.trans hc)
        rcases linesWithBreaks_break hc r with h | ⟨s, rfl, h⟩ <;>
          rw [h, List.headD_cons, startsWith_cons, startsWith_cons, hne, Bool.false_and, Bool.false_and]

theorem carve_mark {c : CodePoint} {r : Text} (h : startsWith (c :: r) recordMark = true) :
    carve true (c :: r)
      = ([], (c :: (carve c.isLineBreak r).1) :: (carve c.isLineBreak r).2) := by
  rw [carve, h, Bool.and_self, if_pos rfl]

theorem carve_other {fresh : Bool} {c : CodePoint} {r : Text}
    (h : (fresh && startsWith (c :: r) recordMark) = false) :
    carve fresh (c :: r) = (c :: (carve c.isLineBreak r).1, (carve c.isLineBreak r).2) := by
  rw [carve, h, if_neg Bool.false_ne_true]

theorem carve_break {fresh : Bool} {c : CodePoint} (h : c.isLineBreak = true) (r : Text) :
    carve fresh (c :: r) = (c :: (carve true r).1, (carve true r).2) := by
  rw [carve_other (by rw [startsWith_break h, Bool.and_false]), h]

/-- Where a raw record starts is told by the text alone, without its lines. -/
theorem carve_eq (t : Text) :
    carve true t = carveLines (linesWithBreaks t) ∧
      carve false t = ((linesWithBreaks t).headD [] ++ (carveLines (linesWithBreaks t).tail).1,
        (carveLines (linesWithBreaks t).tail).2) := by
  induction t with
  | nil => exact ⟨rfl, rfl⟩
  | cons c r ih =>
    obtain ⟨htrue, hfalse⟩ := ih
    have hhead := startsWith_headD recordMark_plain (c :: r)
    cases hc : c.isLineBreak with
    | false =>
      rw [linesWithBreaks_plain hc] at hhead ⊢
      rw [List.headD_cons] at hhead
      refine ⟨?_, ?_⟩
      · rw [carve, carveLines, hc, hhead, hfalse, Bool.true_and]
        rfl
      · rw [carve_other (Bool.false_and _), hc, hfalse]
        rfl
    | true =>
      rw [carve_break hc, carve_break hc, htrue]
      rcases linesWithBreaks_break hc r with h | ⟨s, rfl, h⟩
      · have hline : startsWith [c] recordMark = false := startsWith_break hc []
        rw [h, carveLines, hline]
        exact ⟨rfl, rfl⟩
      · -- A carriage return and its line feed are one break, and two code points.
        have hline : startsWith [c, CodePoint.ofChar '\n'] recordMark = false := startsWith_break hc _
        have hfeed : linesWithBreaks (CodePoint.ofChar '\n' :: s)
            = [CodePoint.ofChar '\n'] :: linesWithBreaks s := by
          rw [Text.linesWithBreaks.eq_def (_ :: s)]
          rfl
        have hfeed' : startsWith [CodePoint.ofChar '\n'] recordMark = false := by decide
        rw [h, hfeed, carveLines, carveLines, hline, hfeed']
        exact ⟨rfl, rfl⟩

theorem openedRecords_eq (t : Text) : openedRecords t = (carve true t).2 := by
  rw [(carve_eq t).1, carveLines_eq]
  rfl

/-! ## Records and the lines of the reader -/

theorem headerLine_feed (r : Text) : headerLine (CodePoint.ofChar '\n' :: r) = [] := rfl

theorem headerLine_cons {c : CodePoint} (h : c ≠ CodePoint.ofChar '\n') (r : Text) :
    headerLine (c :: r) = c :: headerLine r := by
  have hafter : Text.after? "\n" (c :: r) = none := by
    rw [← Option.not_isSome_iff_eq_none, Option.isSome_iff_exists]
    rintro ⟨rest, hrest⟩
    exact h (List.cons.inj (Text.after?_eq_some_iff.1 hrest)).1
  rw [headerLine, headerLine, Text.upTo, Text.upTo, Text.cut?, hafter]
  cases Text.cut? "\n" r <;> rfl

theorem splitOn_cons {c : CodePoint} (h : c ≠ CodePoint.ofChar '\n') {r line : Text} {lines : List Text}
    (hr : splitOn '\n' r = line :: lines) : splitOn '\n' (c :: r) = (c :: line) :: lines := by
  rw [splitOn, if_neg (by simpa using h), hr]

/-- The first line of the reader is the first line of a record. -/
theorem splitOn_eq (t : Text) : ∃ lines, splitOn '\n' t = headerLine t :: lines := by
  induction t with
  | nil => exact ⟨[], rfl⟩
  | cons c r ih =>
    obtain ⟨lines, hlines⟩ := ih
    by_cases hc : c = CodePoint.ofChar '\n'
    · subst hc
      exact ⟨splitOn '\n' r, rfl⟩
    · exact ⟨lines, by rw [splitOn_cons hc hlines, headerLine_cons hc]⟩

theorem headerLine_isPrefix (t : Text) : headerLine t <+: t := by
  induction t with
  | nil => exact List.prefix_rfl
  | cons c r ih =>
    by_cases hc : c = CodePoint.ofChar '\n'
    · subst hc
      exact List.nil_prefix
    · rw [headerLine_cons hc]
      exact List.cons_prefix_cons.2 ⟨rfl, ih⟩

theorem oneLine_headerLine (t : Text) : OneLine (headerLine t) := by
  induction t with
  | nil => exact List.not_mem_nil
  | cons c r ih =>
    by_cases hc : c = CodePoint.ofChar '\n'
    · subst hc
      exact List.not_mem_nil
    · rw [headerLine_cons hc]
      exact List.not_mem_cons_of_ne_of_not_mem (Ne.symm hc) ih

theorem of_mem_splitOn {line t : Text} (h : line ∈ splitOn '\n' t) : OneLine line ∧ line <:+: t := by
  induction t with
  | nil =>
    obtain rfl := List.mem_singleton.1 h
    exact ⟨List.not_mem_nil, List.infix_rfl⟩
  | cons c r ih =>
    obtain ⟨lines, hlines⟩ := splitOn_eq (c :: r)
    rw [hlines, List.mem_cons] at h
    rcases h with rfl | h
    · exact ⟨oneLine_headerLine _, (headerLine_isPrefix _).isInfix⟩
    · have hlater : line ∈ splitOn '\n' r := by
        by_cases hc : c = CodePoint.ofChar '\n'
        · subst hc
          rwa [← (List.cons.inj hlines).2] at h
        · obtain ⟨rest, hrest⟩ := splitOn_eq r
          rw [splitOn_cons hc hrest] at hlines
          rw [hrest, (List.cons.inj hlines).2]
          exact List.mem_cons_of_mem _ h
      exact ⟨(ih hlater).1, List.infix_cons (ih hlater).2⟩

/-- A text in which no line ends stands in the first line if the text starts with it. -/
theorem startsWith_headerLine {mark : Text} (hmark : ∀ c ∈ mark, c.isLineBreak = false) (t : Text) :
    startsWith (headerLine t) mark = startsWith t mark := by
  induction t generalizing mark with
  | nil => rfl
  | cons c r ih =>
    cases mark with
    | nil => rfl
    | cons a mark =>
      obtain ⟨ha, hmark⟩ := List.forall_mem_cons.1 hmark
      by_cases hc : c = CodePoint.ofChar '\n'
      · have hne : (a == c) = false := by
          rw [beq_eq_false_iff_ne]
          rintro rfl
          exact absurd ha (by rw [hc]; decide)
        subst hc
        rw [headerLine_feed, startsWith_cons, hne, Bool.false_and]
        rfl
      · rw [headerLine_cons hc, startsWith_cons, startsWith_cons, ih hmark]

/-- The first lines of the records are the pieces of the reader's lines. -/
theorem carve_lines (fresh : Bool) {t : Text} {lines : List Text}
    (h : splitOn '\n' t = headerLine t :: lines) :
    headerLine (carve fresh t).1 = (carve fresh (headerLine t)).1 ∧
      (carve fresh t).2.map headerLine
        = (carve fresh (headerLine t)).2 ++ lines.flatMap fun l => (carve true l).2 := by
  induction t generalizing fresh lines with
  | nil =>
    obtain rfl : lines = [] := (List.cons.inj h).2.symm
    exact ⟨rfl, rfl⟩
  | cons c r ih =>
    obtain ⟨rest, hrest⟩ := splitOn_eq r
    by_cases hc : c = CodePoint.ofChar '\n'
    · subst hc
      obtain rfl : lines = splitOn '\n' r := (List.cons.inj h).2.symm
      rw [carve_break (by decide), headerLine_feed, headerLine_feed, hrest, List.flatMap_cons]
      exact ⟨rfl, (ih true hrest).2⟩
    · rw [splitOn_cons hc hrest, headerLine_cons hc] at h
      obtain rfl : rest = lines := (List.cons.inj h).2
      obtain ⟨hfirst, hrecords⟩ := ih c.isLineBreak hrest
      have hmark := startsWith_headerLine recordMark_plain (c :: r)
      rw [headerLine_cons hc] at hmark ⊢
      rw [carve, carve, hmark]
      split
      · exact ⟨rfl, by rw [List.map_cons, headerLine_cons hc, hfirst, hrecords]; rfl⟩
      · exact ⟨by rw [headerLine_cons hc, hfirst], hrecords⟩

theorem map_headerLine_openedRecords (t : Text) :
    (openedRecords t).map headerLine = (splitOn '\n' t).flatMap openedRecords := by
  obtain ⟨lines, hlines⟩ := splitOn_eq t
  have hopened : openedRecords = fun l => (carve true l).2 := funext openedRecords_eq
  rw [hlines, hopened, List.flatMap_cons]
  exact (carve_lines true hlines).2

/-! ## A raw record by itself -/

theorem carve_isPrefix (fresh : Bool) (t : Text) : (carve fresh t).1 <+: t := by
  induction t generalizing fresh with
  | nil => exact List.prefix_rfl
  | cons c r ih =>
    rw [carve]
    split
    · exact List.nil_prefix
    · exact List.cons_prefix_cons.2 ⟨rfl, ih _⟩

theorem startsWith_carve {mark : Text} (hmark : ∀ c ∈ mark, c.isLineBreak = false) {t : Text}
    (h : startsWith t mark = true) : startsWith (carve false t).1 mark = true := by
  induction mark generalizing t with
  | nil => rfl
  | cons a mark ih =>
    obtain ⟨ha, hmark⟩ := List.forall_mem_cons.1 hmark
    cases t with
    | nil => cases h
    | cons c r =>
      rw [startsWith_cons, Bool.and_eq_true, beq_iff_eq] at h
      obtain ⟨rfl, h⟩ := h
      rw [carve_other (Bool.false_and _), ha, startsWith_cons, beq_self_eq_true, Bool.true_and]
      exact ih hmark h

/-- No record starts in what is carved off, except at the start of each record. -/
theorem carve_carve (fresh : Bool) (t : Text) :
    carve fresh (carve fresh t).1 = ((carve fresh t).1, []) ∧
      ∀ r ∈ (carve fresh t).2, startsWith r recordMark = true ∧ carve true r = ([], [r]) := by
  induction t generalizing fresh with
  | nil => exact ⟨rfl, fun _ h => nomatch h⟩
  | cons c r ih =>
    obtain ⟨hfirst, hrecords⟩ := ih c.isLineBreak
    cases hstart : fresh && startsWith (c :: r) recordMark with
    | true =>
      rw [Bool.and_eq_true] at hstart
      obtain ⟨rfl, hstart⟩ := hstart
      have hkept : startsWith (c :: (carve c.isLineBreak r).1) recordMark = true := by
        have := startsWith_carve recordMark_plain hstart
        rwa [carve_other (Bool.false_and _)] at this
      rw [carve_mark hstart]
      refine ⟨rfl, List.forall_mem_cons.2 ⟨⟨hkept, ?_⟩, hrecords⟩⟩
      rw [carve_mark hkept, hfirst]
    | false =>
      have hkept : (fresh && startsWith (c :: (carve c.isLineBreak r).1) recordMark) = false := by
        rw [Bool.eq_false_iff] at hstart ⊢
        intro h
        rw [Bool.and_eq_true] at h
        refine hstart (Bool.and_eq_true _ _ ▸ ⟨h.1, ?_⟩)
        have hlead : (c :: (carve c.isLineBreak r).1) <+: c :: r :=
          List.cons_prefix_cons.2 ⟨rfl, carve_isPrefix _ r⟩
        exact Text.startsWith_iff.2 ((Text.startsWith_iff.1 h.2).trans hlead)
      rw [carve_other hstart]
      refine ⟨?_, hrecords⟩
      rw [carve_other hkept, hfirst]

theorem openedRecords_ne_nil {t : Text} (h : startsWith t recordMark = true) : openedRecords t ≠ [] := by
  cases t with
  | nil => cases h
  | cons c r =>
    rw [openedRecords_eq, carve_mark h]
    exact List.cons_ne_nil _ _

/-- A raw record is read as one file if its first line gives paths, and as none if not. -/
theorem length_read_of_mem {diff r : Text} (h : r ∈ openedRecords diff) :
    (read false [] r).length = if (headerPaths? (headerLine r)).isSome then 1 else 0 := by
  rw [openedRecords_eq] at h
  obtain ⟨hstart, hself⟩ := (carve_carve true diff).2 r h
  obtain ⟨lines, hlines⟩ := splitOn_eq r
  have hothers : ∀ l ∈ lines, startsWith l recordMark = false := by
    have hmap := map_headerLine_openedRecords r
    rw [openedRecords_eq, hself, hlines, List.flatMap_cons, List.map_singleton] at hmap
    have hfirst : openedRecords (headerLine r) ≠ [] :=
      openedRecords_ne_nil ((startsWith_headerLine recordMark_plain r).trans hstart)
    have hnone : lines.flatMap openedRecords = [] := by
      have hlength := congrArg List.length hmap
      rw [List.length_append, List.length_singleton] at hlength
      have hpos := List.length_pos_of_ne_nil hfirst
      exact List.eq_nil_of_length_eq_zero (by omega)
    intro l hl
    rw [Bool.eq_false_iff]
    exact fun hl' => openedRecords_ne_nil hl' (List.flatMap_eq_nil_iff.1 hnone l hl)
  have hcount : ∀ isGenerated, (readRecords isGenerated (splitOn '\n' r)).length
      = if (headerPaths? (headerLine r)).isSome then 1 else 0 := by
    intro isGenerated
    have hpasses : Passes lines [] := ⟨lines, (List.append_nil _).symm, hothers⟩
    rw [length_readRecords, hlines, List.countP_cons, hpasses.countP_eq, List.countP_nil, Nat.zero_add]
  rw [read, coalesce_eq_self, hcount]
  have hle := hcount fun path => !false && Path.isGenerated [] path
  generalize readRecords _ (splitOn '\n' r) = files at hle ⊢
  rcases files with _ | ⟨f, _ | ⟨g, files⟩⟩
  · simp
  · simp
  · rw [List.length_cons, List.length_cons] at hle
    split at hle <;> omega

theorem total_eq_length_iff {α : Type} (p : α → Bool) (items : List α) :
    total (items.map fun a => if p a then 1 else 0) = items.length ↔ ∀ a ∈ items, p a = true := by
  have hcount : total (items.map fun a => if p a then 1 else 0) = items.countP p := by
    induction items with
    | nil => rfl
    | cons a items ih => rw [List.map_cons, total_cons, ih, List.countP_cons, Nat.add_comm]
  rw [hcount, List.countP_eq_length]

/-- A record counts as unread where its first line gives no paths. -/
theorem hasUnread_iff_records (diff : Text) :
    hasUnread diff = true ↔ ∃ r ∈ openedRecords diff, headerPaths? (headerLine r) = none := by
  have hmap : (openedRecords diff).map (fun r => (read false [] r).length)
      = (openedRecords diff).map fun r => if (headerPaths? (headerLine r)).isSome then 1 else 0 :=
    List.map_congr_left fun r hr => length_read_of_mem hr
  rw [hasUnread, bne_iff_ne, ne_eq, hmap, total_eq_length_iff]
  simp [Option.isSome_iff_ne_none]

theorem hasUnread_iff_pieces (diff : Text) :
    hasUnread diff = true ↔
      ∃ line ∈ splitOn '\n' diff, ∃ piece ∈ openedRecords line, headerPaths? piece = none := by
  have hmem : ∀ first, first ∈ (openedRecords diff).map headerLine ↔
      ∃ line ∈ splitOn '\n' diff, first ∈ openedRecords line := by
    intro first
    rw [map_headerLine_openedRecords, List.mem_flatMap]
  rw [hasUnread_iff_records]
  constructor
  · rintro ⟨r, hr, hnone⟩
    obtain ⟨line, hline, hpiece⟩ := (hmem _).1 (List.mem_map_of_mem hr)
    exact ⟨line, hline, headerLine r, hpiece, hnone⟩
  · rintro ⟨line, hline, piece, hpiece, hnone⟩
    obtain ⟨r, hr, rfl⟩ := List.mem_map.1 ((hmem piece).2 ⟨line, hline, hpiece⟩)
    exact ⟨r, hr, hnone⟩

end ChangeReview.Patch
