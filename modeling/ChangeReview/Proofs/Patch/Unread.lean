import ChangeReview.Proofs.Patch.Records

/-!
# Records that are not read

The reader passes over a record where the line that opens it gives no paths. A patch with such a record is
always noticed: if another line break divides the line, its first piece gives no paths either. The
other way round, a line with another line break in it may be taken for records that it does not hold.
-/

namespace ChangeReview.Patch

open Text (OneLine startsWith splitOn)

/-! ## Paths of longer lines -/

theorem divisions_ne_nil_append {t : Text} (h : divisions t ≠ []) (more : Text) :
    divisions (t ++ more) ≠ [] := by
  obtain ⟨⟨old, new⟩, hmem⟩ := List.exists_mem_of_ne_nil _ h
  rw [mem_divisions] at hmem
  refine List.ne_nil_of_mem (mem_divisions.2 (?_ : _ = old ++ (" b/" ++ (new ++ more))))
  rw [hmem, List.append_assoc, List.append_assoc]

theorem closingQuote?_append {escaped : Bool} {t : Text} {close : Nat}
    (h : closingQuote? escaped t = some close) (more : Text) :
    closingQuote? escaped (t ++ more) = some close := by
  induction t generalizing escaped close with
  | nil => cases h
  | cons c r ih =>
    rw [List.cons_append]
    rw [closingQuote?] at h ⊢
    split
    · rw [if_pos ‹_›] at h
      exact h
    · rw [if_neg ‹_›] at h
      obtain ⟨inner, hinner, rfl⟩ := Option.map_eq_some_iff.1 h
      rw [ih hinner, Option.map_some]

theorem closingQuote?_lt {escaped : Bool} {t : Text} {close : Nat}
    (h : closingQuote? escaped t = some close) : close < t.length := by
  induction t generalizing escaped close with
  | nil => cases h
  | cons c r ih =>
    rw [closingQuote?] at h
    split at h
    · cases h
      exact Nat.zero_lt_succ _
    · obtain ⟨inner, hinner, rfl⟩ := Option.map_eq_some_iff.1 h
      exact Nat.succ_lt_succ (ih hinner)

theorem decode_eq_ok {token : Text} (h : (startsWith token "\"" && Text.endsWith token "\"") = false) :
    Path.decode token = .ok token := by
  rw [Path.decode, h, if_neg Bool.false_ne_true]

theorem eq_ok_of_toOption {result : Except Failure Text} {t : Text} (h : result.toOption = some t) :
    result = .ok t := by
  cases result with
  | error e => cases h
  | ok u => rw [Option.some.inj h]

theorem quotedPaths?_isSome_iff {payload : Text} :
    (quotedPaths? payload).isSome = true ↔
      ∃ close old new, closingQuote? false (payload.drop 1) = some close ∧
        Path.decode (payload.take (close + 2)) = .ok ("a/" ++ old) ∧
        Path.decode (Text.trimLeft (payload.drop (close + 2))) = .ok ("b/" ++ new) := by
  rw [Option.isSome_iff_exists]
  refine ⟨?_, ?_⟩
  · rintro ⟨paths, h⟩
    unfold quotedPaths? at h
    obtain ⟨close, hclose, h⟩ := Option.bind_eq_some_iff.1 h
    dsimp only at h
    split at h
    · cases h
    · obtain ⟨old, hold, h⟩ := Option.bind_eq_some_iff.1 h
      obtain ⟨new, hnew, h⟩ := Option.bind_eq_some_iff.1 h
      obtain ⟨oldPath, holdPath, h⟩ := Option.bind_eq_some_iff.1 h
      obtain ⟨newPath, hnewPath, h⟩ := Option.bind_eq_some_iff.1 h
      rw [Text.after?_eq_some_iff] at holdPath hnewPath
      subst holdPath hnewPath
      exact ⟨close, oldPath, newPath, hclose, eq_ok_of_toOption hold, eq_ok_of_toOption hnew⟩
  · rintro ⟨close, old, new, hclose, hold, hnew⟩
    refine ⟨(old, new), ?_⟩
    unfold quotedPaths?
    rw [hclose, Option.bind_eq_bind, Option.bind_some]
    dsimp only
    split
    · rename_i hempty
      rw [List.isEmpty_iff.1 hempty] at hnew
      cases hnew
    · rw [hold, hnew]
      dsimp only [Except.toOption]
      rw [Option.bind_eq_bind, Option.bind_some, Option.bind_some, Text.after?_append, Text.after?_append]
      rfl

/-- A token that ends in a line break is not in quotes. -/
theorem decode_of_break {token : Text} {b : CodePoint} (hb : b.isLineBreak = true)
    (hend : token = [] ∨ ∃ t, token = t ++ [b]) : Path.decode token = .ok token := by
  apply decode_eq_ok
  rcases hend with rfl | ⟨t, rfl⟩
  · rfl
  · have hlast : Text.endsWith (t ++ [b]) "\"" = false := by
      rw [Bool.eq_false_iff]
      intro h
      obtain ⟨u, hu⟩ := List.isSuffixOf_iff_suffix.1 h
      have := (List.append_inj' hu rfl).2
      obtain rfl : CodePoint.ofChar '"' = b := (List.cons.inj this).1
      exact absurd hb (by decide)
    rw [hlast, Bool.and_false]

/-- Quoted paths of a line that ends in a line break are found in every longer line. -/
theorem quotedPaths?_append {q : Text} {b : CodePoint} (hb : b.isLineBreak = true)
    (h : (quotedPaths? (q ++ [b])).isSome = true) (more : Text) :
    (quotedPaths? (q ++ [b] ++ more)).isSome = true := by
  set payload := q ++ [b] with hpayload
  rw [quotedPaths?_isSome_iff] at h ⊢
  obtain ⟨close, old, new, hclose, hold, hnew⟩ := h
  have hlt : close + 2 ≤ payload.length := by
    have := closingQuote?_lt hclose
    rw [List.length_drop] at this
    omega
  have hsuffix : Text.trimLeft (payload.drop (close + 2)) <:+ payload :=
    (List.dropWhile_suffix _).trans (List.drop_suffix _ _)
  have hend : Text.trimLeft (payload.drop (close + 2)) = [] ∨
      ∃ t, Text.trimLeft (payload.drop (close + 2)) = t ++ [b] := by
    rcases List.suffix_concat_iff.1 (hpayload ▸ hsuffix) with h | ⟨t, h, -⟩
    · exact Or.inl h
    · exact Or.inr ⟨t, h⟩
  rw [decode_of_break hb hend, Except.ok.injEq] at hnew
  refine ⟨close, old, new ++ more, ?_, ?_, ?_⟩
  · rw [List.drop_append_of_le_length (by omega)]
    exact closingQuote?_append hclose more
  · rw [List.take_append_of_le_length hlt, hold]
  · have htrim : Text.trimLeft (payload.drop (close + 2) ++ more) = "b/" ++ (new ++ more) := by
      rw [Text.trimLeft] at hnew ⊢
      rw [List.dropWhile_append, hnew]
      rfl
    rw [List.drop_append_of_le_length hlt, htrim, decode_eq_ok rfl]

theorem headerPaths?_isSome_iff {line : Text} :
    (headerPaths? line).isSome = true ↔ ∃ payload, line = recordMark ++ payload ∧
      ((startsWith payload "\"" = true ∧ (quotedPaths? payload).isSome = true) ∨
        ∃ paths, payload = "a/" ++ paths ∧ divisions paths ≠ []) := by
  have hquote : ∀ paths : Text, startsWith ("a/" ++ paths) "\"" = false := fun _ => rfl
  have hsome : ∀ (p : Text × Text → Bool) (all : List (Text × Text)),
      ((all.find? p).or all.getLast?).isSome = true ↔ all ≠ [] := by
    intro p all
    rw [Option.isSome_or, Bool.or_eq_true, List.getLast?_isSome]
    refine ⟨?_, Or.inr⟩
    rintro (h | h)
    · rintro rfl
      cases h
    · exact h
  unfold headerPaths?
  cases hafter : Text.after? recordMark line with
  | none =>
    constructor
    · intro h
      cases h
    · rintro ⟨payload, rfl, -⟩
      rw [Text.after?_append] at hafter
      cases hafter
  | some payload =>
    rw [Text.after?_eq_some_iff] at hafter
    subst hafter
    rw [Option.bind_eq_bind, Option.bind_some]
    split
    · rename_i hstart
      refine ⟨fun h => ⟨payload, rfl, Or.inl ⟨hstart, h⟩⟩, ?_⟩
      rintro ⟨payload', heq, h⟩
      obtain rfl := List.append_cancel_left heq
      rcases h with h | ⟨paths, rfl, -⟩
      · exact h.2
      · rw [hquote] at hstart
        cases hstart
    · rename_i hstart
      refine ⟨fun h => ?_, ?_⟩
      · obtain ⟨found, h⟩ := Option.isSome_iff_exists.1 h
        obtain ⟨paths, hpaths, h⟩ := Option.bind_eq_some_iff.1 h
        refine ⟨payload, rfl, Or.inr ⟨paths, Text.after?_eq_some_iff.1 hpaths, ?_⟩⟩
        exact (hsome _ _).1 (Option.isSome_iff_exists.2 ⟨found, h⟩)
      · rintro ⟨payload', heq, h⟩
        obtain rfl := List.append_cancel_left heq
        rcases h with h | ⟨paths, rfl, h⟩
        · exact absurd h.1 hstart
        · rw [Text.after?_append, Option.bind_some]
          exact (hsome _ _).2 h

/-- The paths of a line that ends in a line break are found in every longer line. -/
theorem headerPaths?_append {q : Text} {b : CodePoint} (hb : b.isLineBreak = true)
    (h : (headerPaths? (q ++ [b])).isSome = true) (more : Text) :
    (headerPaths? (q ++ [b] ++ more)).isSome = true := by
  rw [headerPaths?_isSome_iff] at h ⊢
  obtain ⟨payload, hline, h⟩ := h
  refine ⟨payload ++ more, by rw [hline, List.append_assoc], ?_⟩
  rcases h with ⟨hstart, h⟩ | ⟨paths, rfl, h⟩
  · -- The payload holds a quote at least, so that the line break ends it.
    have hend : ∃ t, payload = t ++ [b] := by
      have hsuffix : payload <:+ q ++ [b] := hline ▸ List.suffix_append _ _
      rcases List.suffix_concat_iff.1 hsuffix with rfl | ⟨t, ht, -⟩
      · cases hstart
      · exact ⟨t, ht⟩
    obtain ⟨t, rfl⟩ := hend
    exact Or.inl ⟨Text.startsWith_append hstart more, quotedPaths?_append hb h more⟩
  · exact Or.inr ⟨paths ++ more, List.append_assoc .., divisions_ne_nil_append h more⟩

/-! ## Records that are passed over -/

/-- The reader passes over a record of the patch: one of its lines opens a record and gives no paths. -/
def Discards (diff : Text) : Prop :=
  ∃ line ∈ splitOn '\n' diff, startsWith line recordMark = true ∧ headerPaths? line = none

instance (diff : Text) : Decidable (Discards diff) := inferInstanceAs (Decidable (∃ line ∈ _, _))

/-- What is carved off is the whole text, or it ends where a line does. -/
theorem carve_ends (fresh : Bool) (t : Text) :
    ((carve fresh t).1 = t ∧ (carve fresh t).2 = []) ∨ ((carve fresh t).1 = [] ∧ fresh = true) ∨
      ∃ q b, b.isLineBreak = true ∧ (carve fresh t).1 = q ++ [b] := by
  induction t generalizing fresh with
  | nil => exact Or.inl ⟨rfl, rfl⟩
  | cons c r ih =>
    cases hstart : fresh && startsWith (c :: r) recordMark with
    | true =>
      rw [Bool.and_eq_true] at hstart
      obtain ⟨rfl, hstart⟩ := hstart
      rw [carve_mark hstart]
      exact Or.inr (Or.inl ⟨rfl, rfl⟩)
    | false =>
      rw [carve_other hstart]
      dsimp only
      rcases ih c.isLineBreak with ⟨hall, hnone⟩ | ⟨hnil, hc⟩ | ⟨q, b, hb, hq⟩
      · exact Or.inl ⟨by rw [hall], hnone⟩
      · exact Or.inr (Or.inr ⟨[], c, hc, by rw [hnil]; rfl⟩)
      · exact Or.inr (Or.inr ⟨c :: q, b, hb, by rw [hq]; rfl⟩)

/-- The first piece of a line that opens a record. -/
theorem carve_mem_openedRecords {line : Text} (h : startsWith line recordMark = true) :
    (carve false line).1 ∈ openedRecords line := by
  cases line with
  | nil => cases h
  | cons c r =>
    rw [openedRecords_eq, carve_mark h, carve_other (Bool.false_and _)]
    exact List.mem_cons_self

/-- A line that opens a record and gives no paths has a first piece without paths. -/
theorem headerPaths?_carve_eq_none {line : Text} (h : headerPaths? line = none) :
    headerPaths? (carve false line).1 = none := by
  rw [← Option.not_isSome_iff_eq_none]
  intro hsome
  rcases carve_ends false line with ⟨hall, -⟩ | ⟨-, hfresh⟩ | ⟨q, b, hb, hq⟩
  · rw [hall, h] at hsome
    cases hsome
  · cases hfresh
  · obtain ⟨more, hmore⟩ := carve_isPrefix false line
    rw [hq] at hsome hmore
    have := headerPaths?_append hb hsome more
    rw [hmore, h] at this
    cases this

/-- Behind a line break that is not a line feed, no record seems to start. -/
def MarksAtFeeds (t : Text) : Prop :=
  ∀ before c rest, t = before ++ c :: rest → c.isLineBreak = true → c ≠ CodePoint.ofChar '\n' →
    startsWith rest recordMark = false

theorem MarksAtFeeds.of_isInfix {line t : Text} (h : MarksAtFeeds t) (hline : line <:+: t) :
    MarksAtFeeds line := by
  obtain ⟨pre, post, rfl⟩ := hline
  rintro before c rest rfl hc hfeed
  have hrest := h (pre ++ before) c (rest ++ post) (by simp) hc hfeed
  rw [Bool.eq_false_iff] at hrest ⊢
  exact fun hstart => hrest (Text.startsWith_append hstart post)

/-- A line without a mark inside is not divided. -/
theorem carve_of_marksAtFeeds {line : Text} (hline : OneLine line) (h : MarksAtFeeds line) {fresh : Bool}
    (hstart : (fresh && startsWith line recordMark) = false) : carve fresh line = (line, []) := by
  induction line generalizing fresh with
  | nil => rfl
  | cons c r ih =>
    obtain ⟨hc, hr⟩ := List.ne_and_not_mem_of_not_mem_cons hline
    have hlater : (c.isLineBreak && startsWith r recordMark) = false := by
      cases hbreak : c.isLineBreak with
      | false => rfl
      | true => exact h [] c r rfl hbreak (Ne.symm hc)
    rw [carve_other hstart, ih hr (h.of_isInfix (List.suffix_cons c r).isInfix) hlater]

theorem eq_of_mem_openedRecords {line piece : Text} (hline : OneLine line) (h : MarksAtFeeds line)
    (hpiece : piece ∈ openedRecords line) : piece = line ∧ startsWith line recordMark = true := by
  cases hstart : startsWith line recordMark with
  | false =>
    rw [openedRecords_eq, carve_of_marksAtFeeds hline h (by rw [hstart]; rfl)] at hpiece
    cases hpiece
  | true =>
    cases line with
    | nil => cases hstart
    | cons c r =>
      have hwhole := carve_of_marksAtFeeds hline h (Bool.false_and _)
      rw [carve_other (Bool.false_and _)] at hwhole
      obtain ⟨hfirst, hnone⟩ := Prod.mk.inj hwhole
      rw [openedRecords_eq, carve_mark hstart, hfirst, hnone] at hpiece
      exact ⟨List.mem_singleton.1 hpiece, rfl⟩

theorem countP_eq_countP_iff {α : Type} {p q : α → Bool} (h : ∀ a, p a = true → q a = true) (items : List α) :
    items.countP p = items.countP q ↔ ∀ a ∈ items, q a = true → p a = true := by
  induction items with
  | nil => simp
  | cons a items ih =>
    have hle : items.countP p ≤ items.countP q := List.countP_mono_left fun a _ => h a
    rw [List.forall_mem_cons, ← ih, List.countP_cons, List.countP_cons]
    cases hp : p a with
    | true => simp [h a hp]
    | false =>
      cases hq : q a with
      | true =>
        simp only [Bool.false_eq_true, if_false, if_true, imp_false, not_true, false_and, iff_false]
        omega
      | false => simp

/-- Fewer records are read than lines open one exactly where a record is passed over. -/
theorem discards_iff_length (diff : Text) (isGenerated : Text → Bool) :
    Discards diff ↔ (readRecords isGenerated (splitOn '\n' diff)).length
      ≠ (splitOn '\n' diff).countP (startsWith · recordMark) := by
  rw [length_readRecords, ne_eq, countP_eq_countP_iff fun line => startsWith_of_headerPaths?]
  simp [Discards, Option.isSome_iff_ne_none]

/-- The warning of an incomplete patch is given where a piece of a line opens a record without paths. So it is
given for each patch of which a record is passed over; for no other, if records only seem to start
behind line feeds. -/
theorem hasUnread_iff_discards (diff : Text) (isGenerated : Text → Bool) :
    (hasUnread diff = true ↔
      ∃ line ∈ splitOn '\n' diff, ∃ piece ∈ openedRecords line, headerPaths? piece = none) ∧
    (Discards diff → hasUnread diff = true) ∧
    (MarksAtFeeds diff → (hasUnread diff = true ↔ Discards diff)) ∧
    (Discards diff ↔ (readRecords isGenerated (splitOn '\n' diff)).length
      ≠ (splitOn '\n' diff).countP (startsWith · recordMark)) := by
  have hnoticed : Discards diff → hasUnread diff = true := by
    rintro ⟨line, hline, hstart, hnone⟩
    exact (hasUnread_iff_pieces diff).2
      ⟨line, hline, _, carve_mem_openedRecords hstart, headerPaths?_carve_eq_none hnone⟩
  refine ⟨hasUnread_iff_pieces diff, hnoticed, fun hmarks => ⟨fun h => ?_, hnoticed⟩,
    discards_iff_length diff isGenerated⟩
  obtain ⟨line, hline, piece, hpiece, hnone⟩ := (hasUnread_iff_pieces diff).1 h
  obtain ⟨hone, hinfix⟩ := of_mem_splitOn hline
  obtain ⟨rfl, hstart⟩ := eq_of_mem_openedRecords hone (hmarks.of_isInfix hinfix) hpiece
  exact ⟨piece, hline, hstart, hnone⟩

/-- A file with the mark of a record behind a form feed counts as a record that is not read. -/
theorem hasUnread_of_form_feed :
    let diff : Text :=
      "diff --git a/a.py b/a.py\n--- a/a.py\n+++ b/a.py\n@@ -1 +1 @@\n-x\n+\x0cdiff --git output\n"
    hasUnread diff = true ∧ ¬Discards diff := by
  decide +kernel +zetaReduce

end ChangeReview.Patch
