import ChangeReview.Proofs.Declaration.PieceLengths
import ChangeReview.Proofs.Text.Rows

/-!
# Where the loose tokens stand

The tokens of a text stand in it one behind the other, with nothing but white space and continued lines
between them, and each one's rows and columns are those of its code points. A line is followed piece by piece,
and the text line by line; a string left open at the end of a line is a token that is still to come.
-/

namespace ChangeReview.Declaration

namespace LooseToken

variable {t r : Text} {c : CodePoint} {n p base column row : Nat} {line : Text} {tokens : List LooseToken}
  {s : LineState} {locate : Nat → Nat × Nat} {out : List LooseToken × LineState}

/-! ## Tiles -/

/-- A token stands at offset `p`, where `locate` gives the row and the column of an offset: it starts with its
first code point, and ends one column behind its last. -/
structure StandsAt (locate : Nat → Nat × Nat) (p : Nat) (k : LooseToken) : Prop where
  text_ne_nil : k.text ≠ []
  start_eq : locate p = (k.row, k.column)
  end_eq : ((locate (p + k.text.length - 1)).1, (locate (p + k.text.length - 1)).2 + 1)
    = (k.endRow, k.endColumn)

/-- The tokens tile a text that starts at offset `p`: they stand in it one behind the other, and what is not
theirs is white space or a hidden line break. -/
inductive Tiles (locate : Nat → Nat × Nat) : Nat → Text → List LooseToken → Prop
  | nil (p : Nat) : Tiles locate p [] []
  | blank {p : Nat} {c : CodePoint} {t : Text} {tokens : List LooseToken} (hc : c.isBlank = true)
      (rest : Tiles locate (p + 1) t tokens) : Tiles locate p (c :: t) tokens
  | bend {p : Nat} {gap t : Text} {tokens : List LooseToken} (hgap : IsBend gap)
      (rest : Tiles locate (p + gap.length) t tokens) : Tiles locate p (gap ++ t) tokens
  | token {p : Nat} {k : LooseToken} {t : Text} {tokens : List LooseToken} (hk : StandsAt locate p k)
      (rest : Tiles locate (p + k.text.length) t tokens) : Tiles locate p (k.text ++ t) (k :: tokens)

theorem isBlank_of_isIndent (h : isIndent c = true) : c.isBlank = true := by
  simp only [isIndent, Bool.or_eq_true, beq_iff_eq] at h
  rcases h with (rfl | rfl) | h
  · rfl
  · rfl
  · simp [CodePoint.isBlank, h]

theorem Tiles.blanks {gap : Text} (hgap : ∀ c ∈ gap, c.isBlank = true)
    (h : Tiles locate (p + gap.length) t tokens) : Tiles locate p (gap ++ t) tokens := by
  induction gap generalizing p with
  | nil => exact h
  | cons c gap ih =>
    obtain ⟨hc, hgap⟩ := List.forall_mem_cons.1 hgap
    refine .blank hc (ih hgap ?_)
    rwa [List.length_cons, ← Nat.add_assoc, Nat.add_right_comm] at h

theorem Tiles.append {later : List LooseToken} (h : Tiles locate p t tokens)
    (hr : Tiles locate (p + t.length) r later) : Tiles locate p (t ++ r) (tokens ++ later) := by
  induction h with
  | nil => exact hr
  | blank hc _ ih =>
    rw [List.length_cons, Nat.add_comm _ 1, ← Nat.add_assoc] at hr
    exact .blank hc (ih hr)
  | bend hgap _ ih =>
    rw [List.length_append, ← Nat.add_assoc] at hr
    rw [List.append_assoc]
    exact .bend hgap (ih hr)
  | token hk _ ih =>
    rw [List.length_append, ← Nat.add_assoc] at hr
    rw [List.append_assoc]
    exact .token hk (ih hr)

/-- A token divides the text it stands in, and the tokens before and after it tile the two parts. -/
theorem Tiles.split {before after : List LooseToken} {k : LooseToken}
    (h : Tiles locate p t (before ++ k :: after)) :
    ∃ a b, t = a ++ (k.text ++ b) ∧ StandsAt locate (p + a.length) k ∧ Tiles locate p a before ∧
      Tiles locate (p + a.length + k.text.length) b after := by
  generalize htokens : before ++ k :: after = tokens at h
  induction h generalizing before with
  | nil => simp at htokens
  | @blank p c t tokens hc _ ih =>
    obtain ⟨a, b, rfl, hk, ha, hb⟩ := ih htokens
    refine ⟨c :: a, b, rfl, ?_, .blank hc ha, ?_⟩ <;>
      rwa [List.length_cons, Nat.add_comm _ 1, ← Nat.add_assoc]
  | @bend p gap t tokens hgap _ ih =>
    obtain ⟨a, b, rfl, hk, ha, hb⟩ := ih htokens
    refine ⟨gap ++ a, b, (List.append_assoc ..).symm, ?_, .bend hgap ha, ?_⟩ <;>
      rwa [List.length_append, ← Nat.add_assoc]
  | @token p k' t tokens hk' rest ih =>
    cases before with
    | nil =>
      cases htokens
      exact ⟨[], t, rfl, hk', .nil p, rest⟩
    | cons first before =>
      obtain ⟨rfl, hrest⟩ := List.cons_eq_cons.1 htokens
      obtain ⟨a, b, rfl, hk, ha, hb⟩ := ih hrest
      refine ⟨first.text ++ a, b, (List.append_assoc ..).symm, ?_, .token hk' ha, ?_⟩ <;>
        rwa [List.length_append, ← Nat.add_assoc]

/-! ## One line -/

/-- The part of an open string that was read. -/
def LineState.openText (s : LineState) : Text := (s.openString.map OpenString.text).getD []

theorem LineState.openText_of_none (h : s.openString = none) : s.openText = [] := by
  rw [openText, h]
  rfl

theorem LineState.openText_of_some {o : OpenString} (h : s.openString = some o) : s.openText = o.text := by
  rw [openText, h]
  rfl

/-- What was read of an open string ends at offset `p`, and started where the string says. -/
def LineState.Anchored (locate : Nat → Nat × Nat) (p : Nat) (s : LineState) : Prop :=
  ∀ o ∈ s.openString, o.text.length ≤ p ∧ locate (p - o.text.length) = (o.row, o.column)

theorem LineState.Anchored.length_openText_le (h : s.Anchored locate p) : s.openText.length ≤ p := by
  cases hopen : s.openString with
  | none => simp [openText_of_none hopen]
  | some o => exact openText_of_some hopen ▸ (h o hopen).1

/-- What is read of a text that starts at offset `p`: tokens, and the state behind it. The tokens and a tiling
of what follows, which takes up the string left open, make a tiling of both. -/
structure Reads (locate : Nat → Nat × Nat) (p : Nat) (t : Text) (row : Nat)
    (out : List LooseToken × LineState) : Prop where
  row_eq : out.2.row = row
  anchored : out.2.Anchored locate (p + t.length)
  tiles : ∀ r later, Tiles locate (p + t.length - out.2.openText.length) (out.2.openText ++ r) later →
    Tiles locate p (t ++ r) (out.1 ++ later)

theorem reads_nil (s : LineState) (hopen : s.openString = none) : Reads locate p [] s.row ([], s) := by
  refine ⟨rfl, ?_, ?_⟩
  · intro o ho
    rw [hopen] at ho
    cases ho
  · intro r later h
    rwa [LineState.openText_of_none hopen] at h

/-- A string that goes on behind the text. -/
theorem reads_open (s : LineState) (o : OpenString) (hstart : locate p = (o.row, o.column)) :
    Reads locate p o.text s.row ([], { s with openString := some o }) := by
  refine ⟨rfl, ?_, ?_⟩
  · intro o' ho'
    cases ho'
    refine ⟨Nat.le_add_left _ p, ?_⟩
    rwa [Nat.add_sub_cancel]
  · intro r later h
    rwa [LineState.openText_of_some rfl, Nat.add_sub_cancel] at h

/-- What tiles in front of a reading is read with it. -/
theorem Reads.after (front : List LooseToken) {gap : Text}
    (hfront : ∀ r later, Tiles locate (p + gap.length) r later → Tiles locate p (gap ++ r) (front ++ later))
    (h : Reads locate (p + gap.length) t row out) :
    Reads locate p (gap ++ t) row (front ++ out.1, out.2) := by
  have hstop : p + (gap ++ t).length = p + gap.length + t.length := by
    rw [List.length_append, Nat.add_assoc]
  refine ⟨h.row_eq, hstop ▸ h.anchored, fun r later hr => ?_⟩
  rw [hstop] at hr
  rw [List.append_assoc, List.append_assoc]
  exact hfront _ _ (h.tiles r later hr)

theorem Reads.token {k : LooseToken} (h : Reads locate (p + k.text.length) t row out)
    (hk : StandsAt locate p k) : Reads locate p (k.text ++ t) row (k :: out.1, out.2) :=
  .after [k] (fun _ _ hr => .token hk hr) h

theorem Reads.token_take {k : LooseToken} (h : Reads locate (p + n) (t.drop n) row out) (hn : n ≤ t.length)
    (htext : k.text = t.take n) (hk : StandsAt locate p k) : Reads locate p t row (k :: out.1, out.2) := by
  obtain rfl : k.text.length = n := by rw [htext, List.length_take_of_le hn]
  rw [← List.take_append_drop k.text.length t, ← htext]
  exact .token h hk

theorem reads_token (s : LineState) (hopen : s.openString = none) {k : LooseToken} (htext : k.text = t)
    (hk : StandsAt locate p k) : Reads locate p t s.row ([k], s) := by
  have h := Reads.token (reads_nil s hopen) hk
  rwa [List.append_nil, htext] at h

/-- The indentation of a text is a gap. -/
theorem reads_indented (line : Text)
    (h : Reads locate (p + (line.takeWhile isIndent).length) (line.drop (line.takeWhile isIndent).length) row
      out) : Reads locate p line row out := by
  have htake := List.prefix_iff_eq_take.1 (List.takeWhile_prefix isIndent (l := line))
  have hsplit : line.takeWhile isIndent ++ line.drop (line.takeWhile isIndent).length = line := by
    nth_rewrite 1 [htake]
    exact List.take_append_drop _ line
  have hread := Reads.after [] (fun _ _ hr => Tiles.blanks (fun c hc =>
    isBlank_of_isIndent (List.mem_takeWhile_imp hc)) hr) h
  rwa [hsplit] at hread

/-- The columns of a line that starts at an offset. -/
def LineAt (locate : Nat → Nat × Nat) (row base : Nat) (line : Text) : Prop :=
  ∀ c < line.length, locate (base + c) = (row, c)

theorem LineAt.standsAt (hline : LineAt locate row base line) {k : LooseToken} (hrow : k.row = row)
    (hcolumn : k.column = column) (hendRow : k.endRow = row) (hendColumn : k.endColumn = column + n)
    (htext : k.text = (line.drop column).take n) (hn : Within n (line.drop column)) :
    StandsAt locate (base + column) k := by
  have hlength : k.text.length = n := by rw [htext, List.length_take_of_le hn.2]
  obtain ⟨hpos, hle⟩ := hn
  rw [List.length_drop] at hle
  refine ⟨?_, ?_, ?_⟩
  · rw [← List.length_pos_iff, hlength]
    exact hpos
  · rw [hline column (by omega), hrow, hcolumn]
  · rw [hlength, show base + column + n - 1 = base + (column + n - 1) by omega, hline _ (by omega), hendRow,
      hendColumn, show column + n - 1 + 1 = column + n by omega]

/-- A step of a line takes its blanks and the piece behind them, so in the end the line is read. -/
theorem scanLine_reads (line : Text) (steps : Nat) (column : Nat) (s : LineState)
    (hline : LineAt locate s.row base line) (hopen : s.openString = none) (hcolumn : column ≤ line.length)
    (hsteps : line.length < steps + column) :
    Reads locate (base + column) (line.drop column) s.row (scanLine line steps column s) := by
  induction steps generalizing column s with
  | zero => omega
  | succ steps ih =>
    unfold scanLine
    extract_lets rest blanks start body token read
    have hfits := piece_fits body
    have hrest : rest.length = line.length - column := List.length_drop
    have hle : blanks ≤ rest.length := (List.takeWhile_sublist _).length_le
    have hbody : body = line.drop start := List.drop_drop
    have hlength : body.length = line.length - start := by rw [hbody, List.length_drop]
    have hskip {out : List LooseToken × LineState} (h : Reads locate (base + start) body s.row out) :
        Reads locate (base + column) (line.drop column) s.row out :=
      reads_indented rest (by rwa [Nat.add_assoc])
    -- a piece is not empty, so what is behind it takes fewer steps
    have hlater (n : Nat) (hn : Within n body) (s' : LineState) (hrow : s'.row = s.row)
        (hopen' : s'.openString = none) :
        Reads locate (base + start + n) (body.drop n) s.row (scanLine line steps (start + n) s') := by
      obtain ⟨hpos, hle⟩ := hn
      rw [hbody, List.drop_drop, Nat.add_assoc]
      exact hrow ▸ ih (start + n) s' (hrow ▸ hline) hopen' (by omega) (by omega)
    have hnext (kind : LooseKind) (n : Nat) (hn : Within n body) (s' : LineState) (hrow : s'.row = s.row)
        (hopen' : s'.openString = none) : Reads locate (base + start) body s.row
          (token kind n :: (scanLine line steps (start + n) s').1, (scanLine line steps (start + n) s').2) :=
      (hlater n hn s' hrow hopen').token_take hn.2 rfl
        (hline.standsAt rfl rfl rfl rfl (by rw [← hbody]) (hbody ▸ hn))
    have hread (kind : LooseKind) (n : Nat) (hn : Within n body) :
        Reads locate (base + start) body s.row (read kind n) := hnext kind n hn s rfl hopen
    have hstring (quote : CodePoint) (triple : Bool) (n : Nat) (hn : Within n body) :
        Reads locate (base + start) body s.row
          ([], { s with openString := some ⟨quote, triple, body, s.row, start⟩ }) := by
      have hpos := Nat.lt_of_lt_of_le hn.1 hn.2
      exact reads_open s ⟨quote, triple, body, s.row, start⟩ (hline start (by omega))
    split
    · rename_i hempty
      have hnil : line.drop column = [] := List.isEmpty_iff.1 hempty
      rw [hnil]
      exact reads_nil s hopen
    rename_i hempty
    cases hpiece : piece body with
    | finish =>
      rw [hpiece] at hfits
      have hnil : body = [] := hfits
      exact hskip (hnil ▸ reads_nil s hopen)
    | continuation n =>
      rw [hpiece] at hfits
      obtain ⟨hn, hbend⟩ := hfits
      have htake := List.length_take_of_le hn
      have hpos : 0 < n := by
        rcases hbend with h | h <;> rw [h] at htake <;> subst htake <;> decide
      have hlater := hlater n ⟨hpos, hn⟩ { s with continued := true } rfl hopen
      refine hskip ?_
      rw [← List.take_append_drop n body]
      refine .after [] (fun _ _ hr => .bend hbend hr) ?_
      rwa [htake]
    | comment n | numeral n | lineBreak n =>
      rw [hpiece] at hfits
      exact hskip (hread _ n hfits)
    | tripleQuote quote n =>
      rw [hpiece] at hfits
      dsimp only
      cases hclose : closeTriple? quote (body.drop n) with
      | none => exact hskip (hstring quote true n hfits)
      | some m =>
        have hwithin := within_closeTriple? hclose
        rw [Within, List.length_drop] at hwithin
        exact hskip (hread _ (n + m) ⟨by omega, by omega⟩)
    | lineString quote n =>
      rw [hpiece] at hfits
      dsimp only
      split
      · exact hskip (hstring quote false n hfits)
      · exact hskip (hread _ n hfits)
    | word n =>
      rw [hpiece] at hfits
      obtain ⟨c, r, hcons⟩ := List.exists_cons_of_length_pos (Nat.lt_of_lt_of_le hfits.1 hfits.2)
      rw [hcons]
      exact hskip (hread _ n hfits)
    | operator n =>
      rw [hpiece] at hfits
      exact hskip (hnext .operator n hfits { s with parens := _ } rfl hopen)
    | nothing =>
      -- the code point where the step began, a blank or not, is an error by itself
      have hpos : 0 < rest.length := List.length_pos_iff.2 (mt List.isEmpty_iff.2 hempty)
      have hlater := ih (column + 1) s hline hopen (by omega) (by omega)
      rw [← List.drop_drop] at hlater
      exact hlater.token_take hpos rfl (hline.standsAt rfl rfl rfl rfl rfl ⟨Nat.one_pos, hpos⟩)

/-! ## All lines -/

/-- A token that starts with an open string and ends on the line behind it. -/
theorem StandsAt.of_open {o : OpenString} {k : LooseToken} (hline : LineAt locate row base line)
    (hle : o.text.length ≤ base) (hstart : locate (base - o.text.length) = (o.row, o.column))
    (hn : Within n line) (hk : k.row = o.row ∧ k.column = o.column) (hend : k.endRow = row ∧ k.endColumn = n)
    (htext : k.text = o.text ++ line.take n) : StandsAt locate (base - o.text.length) k := by
  obtain ⟨hpos, hle'⟩ := hn
  have hlength : k.text.length = o.text.length + n := by
    rw [htext, List.length_append, List.length_take_of_le hle']
  refine ⟨?_, ?_, ?_⟩
  · rw [← List.length_pos_iff]
    omega
  · rw [hstart, hk.1, hk.2]
  · rw [hlength, show base - o.text.length + (o.text.length + n) - 1 = base + (n - 1) by omega,
      hline _ (by omega), hend.1, hend.2, Nat.sub_add_cancel hpos]

theorem scanContinued_reads (hne : line ≠ []) (s : LineState) (hline : LineAt locate s.row base line)
    (hanchored : s.Anchored locate base) :
    Reads locate (base - s.openText.length) (s.openText ++ line) s.row (scanContinued line s) := by
  unfold scanContinued
  split
  · rename_i hopen
    rw [LineState.openText_of_none hopen]
    exact scanLine_reads line (line.length + 1) 0 { s with continued := false } hline hopen
      (Nat.zero_le _) (by omega)
  rename_i o hopen
  obtain ⟨hle, hstart⟩ := hanchored o hopen
  rw [LineState.openText_of_some hopen]
  extract_lets close
  have hclose : ∀ n, close = some n → Within n line := by
    intro n h
    subst close
    split at h
    · exact within_closeTriple? h
    · exact within_closeSingle? h
  clear_value close
  cases close with
  | some n =>
    have hn := hclose n rfl
    have hread := scanLine_reads line (line.length + 1) n { s with openString := none } hline rfl hn.2
      (by omega)
    rw [show base + n = base - o.text.length + (o.text.length + n) by omega,
      ← List.drop_length_add_append] at hread
    refine hread.token_take ?_ (List.take_length_add_append n).symm
      (.of_open hline hle hstart hn ⟨rfl, rfl⟩ ⟨rfl, rfl⟩ rfl)
    rw [List.length_append]
    exact Nat.add_le_add_left hn.2 _
  | none =>
    dsimp only
    split
    · exact reads_token { s with openString := none } rfl rfl
        (.of_open hline hle hstart ⟨List.length_pos_iff.2 hne, Nat.le_refl _⟩ ⟨rfl, rfl⟩ ⟨rfl, rfl⟩
          (by rw [List.take_length]))
    · exact reads_open s { o with text := o.text ++ line } hstart

/-- The lines start one behind the other, on rows that follow each other. -/
def LinesAt (locate : Nat → Nat × Nat) : (row base : Nat) → List Text → Prop
  | _, _, [] => True
  | row, base, line :: lines =>
    LineAt locate row base line ∧ LinesAt locate (row + 1) (base + line.length) lines

/-- A line with a line feed, if any, only at its end. -/
def IsFeedLine (line : Text) : Prop := line ≠ [] ∧ CodePoint.ofChar '\n' ∉ line.dropLast

/-- Lines of which all but the last have a line feed. -/
structure FeedLines (lines : List Text) : Prop where
  line : ∀ line ∈ lines, IsFeedLine line
  fed : lines.Pairwise fun line _ => CodePoint.ofChar '\n' ∈ line

theorem FeedLines.tail {lines : List Text} (h : FeedLines (line :: lines)) : FeedLines lines :=
  ⟨(List.forall_mem_cons.1 h.line).2, (List.pairwise_cons.1 h.fed).2⟩

theorem scanLines?_tiles (lines : List Text) (s : LineState) (hlines : LinesAt locate s.row base lines)
    (hanchored : s.Anchored locate base) (hfeed : FeedLines lines) (h : scanLines? s lines = some tokens) :
    Tiles locate (base - s.openText.length) (s.openText ++ lines.flatten) tokens := by
  induction lines generalizing s base tokens with
  | nil =>
    unfold scanLines? at h
    split at h
    · cases h
    · rename_i hcond
      cases h
      have hopen : s.openString = none := by simp_all
      rw [LineState.openText_of_none hopen]
      exact .nil _
  | cons line lines ih =>
    obtain ⟨hline, hlines⟩ := hlines
    have hlater (out : List LooseToken × LineState) (later : List LooseToken)
        (hread : Reads locate (base - s.openText.length) (s.openText ++ line) s.row out)
        (hnext : scanLines? { out.2 with row := out.2.row + 1 } lines = some later) :
        Tiles locate (base - s.openText.length) (s.openText ++ (line :: lines).flatten) (out.1 ++ later) := by
      have hstop : base - s.openText.length + (s.openText ++ line).length = base + line.length := by
        have := hanchored.length_openText_le
        rw [List.length_append]
        omega
      have hanchored' := hread.anchored
      rw [List.flatten_cons, ← List.append_assoc]
      refine hread.tiles _ later ?_
      rw [hstop] at hanchored' ⊢
      exact ih { out.2 with row := out.2.row + 1 } (hread.row_eq ▸ hlines) hanchored' hfeed.tail hnext
    unfold scanLines? at h
    split at h
    · obtain ⟨later, hnext, rfl⟩ := Option.map_eq_some_iff.1 h
      have hne := (hfeed.line line List.mem_cons_self).1
      exact hlater _ later (scanContinued_reads hne s hline hanchored) hnext
    rename_i hcond
    have hopen : s.openString = none := by simp_all
    rw [LineState.openText_of_none hopen] at hlater ⊢
    extract_lets indent at h
    have hindent : indent.length ≤ line.length := (List.takeWhile_sublist _).length_le
    split at h
    · rename_i hdrop
      cases h
      -- a line of blanks has no line feed, so it is the last
      have hlast : lines = [] := by
        refine List.eq_nil_iff_forall_not_mem.2 fun later hmem => ?_
        have htake : line.takeWhile isIndent = line :=
          (List.takeWhile_prefix isIndent).eq_of_length_le (List.drop_eq_nil_iff.1 hdrop)
        have hmem' := (List.pairwise_cons.1 hfeed.fed).1 later hmem
        rw [← htake] at hmem'
        exact absurd (List.mem_takeWhile_imp hmem') (by decide)
      have hread : Reads locate base line s.row ([], s) :=
        reads_indented line (hdrop ▸ reads_nil s hopen)
      rw [hlast]
      refine hread.tiles [] [] ?_
      rw [LineState.openText_of_none hopen]
      exact .nil _
    rename_i c r hdrop
    have hwithin : Within (line.length - indent.length) (line.drop indent.length) := by
      have hlength := congrArg List.length hdrop
      rw [List.length_drop, List.length_cons] at hlength
      rw [Within, List.length_drop]
      omega
    split at h
    · obtain ⟨later, hnext, rfl⟩ := Option.map_eq_some_iff.1 h
      refine hlater ([_], s) later (reads_indented line (reads_token s hopen rfl ?_)) hnext
      refine hline.standsAt rfl rfl rfl ?_ ?_ hwithin
      · exact (Nat.add_sub_cancel' hindent).symm
      · rw [← List.length_drop, List.take_length]
    · obtain ⟨indents, -, h⟩ := Option.bind_eq_some_iff.1 h
      obtain ⟨later, hnext, h⟩ := Option.bind_eq_some_iff.1 h
      cases h
      refine hlater _ later (reads_indented line ?_) hnext
      exact scanLine_reads line (line.length + 1) indent.length { s with indents } hline hopen hindent
        (by omega)

/-! ## Rows and columns of a text -/

theorem flatten_feedLines (t : Text) : (feedLines t).flatten = t := by
  fun_induction feedLines t with
  | case1 => rfl
  | case2 c r _ ih => rw [List.flatten_cons, ih, List.singleton_append]
  | case3 c r _ hr ih =>
    rw [hr] at ih
    rw [← ih]
    rfl
  | case4 c r _ line lines hr ih =>
    rw [hr] at ih
    rw [← ih]
    rfl

theorem feedLines_spec (t : Text) : FeedLines (feedLines t) := by
  fun_induction feedLines t with
  | case1 => exact ⟨fun line h => absurd h List.not_mem_nil, .nil⟩
  | case2 c r hc ih =>
    refine ⟨List.forall_mem_cons.2 ⟨⟨List.cons_ne_nil c [], List.not_mem_nil⟩, ih.line⟩, ?_⟩
    refine List.pairwise_cons.2 ⟨fun _ _ => ?_, ih.fed⟩
    rw [beq_iff_eq.1 hc]
    exact List.mem_singleton_self _
  | case3 c r hc hr ih =>
    refine ⟨List.forall_mem_singleton.2 ⟨List.cons_ne_nil c [], List.not_mem_nil⟩, ?_⟩
    exact List.pairwise_singleton _ _
  | case4 c r hc line lines hr ih =>
    rw [hr] at ih
    obtain ⟨⟨hne, hfeed⟩, hlines⟩ := List.forall_mem_cons.1 ih.line
    obtain ⟨hfed, hrest⟩ := List.pairwise_cons.1 ih.fed
    refine ⟨List.forall_mem_cons.2 ⟨⟨List.cons_ne_nil c line, ?_⟩, hlines⟩, ?_⟩
    · rw [List.dropLast_cons_of_ne_nil hne, List.mem_cons, not_or]
      exact ⟨fun h => hc (beq_iff_eq.2 h.symm), hfeed⟩
    · exact List.pairwise_cons.2 ⟨fun later h => List.mem_cons_of_mem c (hfed later h), hrest⟩

theorem IsFeedLine.exists_concat (h : IsFeedLine line) (hmem : CodePoint.ofChar '\n' ∈ line) :
    ∃ a, line = a ++ [CodePoint.ofChar '\n'] ∧ CodePoint.ofChar '\n' ∉ a := by
  have hsplit := List.dropLast_append_getLast h.1
  rw [← hsplit, List.mem_append, List.mem_singleton] at hmem
  refine ⟨line.dropLast, ?_, h.2⟩
  rw [hmem.resolve_left h.2, hsplit]

theorem linesAt_locate (a : Text) (lines : List Text) (ha : a.lastRow = []) (hlines : FeedLines lines) :
    LinesAt (Text.locate (a ++ lines.flatten)) (a.count (CodePoint.ofChar '\n') + 1) a.length lines := by
  induction lines generalizing a with
  | nil => trivial
  | cons line lines ih =>
    have hline := hlines.line line List.mem_cons_self
    refine ⟨fun c hc => ?_, ?_⟩
    · have htake : (a ++ (line :: lines).flatten).take (a.length + c) = a ++ line.take c := by
        rw [List.flatten_cons, List.take_length_add_append, List.take_append_of_le_length (Nat.le_of_lt hc)]
      have hfeed : CodePoint.ofChar '\n' ∉ line.take c := by
        intro hmem
        refine hline.2 (List.dropLast_eq_take ▸ ?_)
        exact List.take_subset_take_left line (Nat.le_sub_one_of_lt hc) hmem
      rw [Text.locate, htake, Text.lastRow_append hfeed, ha, List.nil_append,
        List.length_take_of_le (Nat.le_of_lt hc), List.count_append, List.count_eq_zero_of_not_mem hfeed]
    · cases lines with
      | nil => trivial
      | cons later lines =>
        obtain ⟨init, hinit, hfeed⟩ :=
          hline.exists_concat ((List.pairwise_cons.1 hlines.fed).1 later List.mem_cons_self)
        have hended : (a ++ line).lastRow = [] := by
          rw [hinit, ← List.append_assoc]
          exact Text.lastRow_concat_feed
        have hnext := ih (a ++ line) hended hlines.tail
        have hcount : line.count (CodePoint.ofChar '\n') = 1 := by
          rw [hinit, List.count_append, List.count_eq_zero_of_not_mem hfeed]
          rfl
        rwa [List.append_assoc, ← List.flatten_cons, List.count_append, hcount, List.length_append] at hnext

/-- The tokens of a text tile it. -/
theorem tiles_of_scan? (h : scan? t = some tokens) : Tiles (Text.locate t) 0 t tokens := by
  have hlines := linesAt_locate [] (feedLines t) rfl (feedLines_spec t)
  rw [List.nil_append, flatten_feedLines] at hlines
  have htiles := scanLines?_tiles (feedLines t) {} hlines (fun o ho => by cases ho) (feedLines_spec t) h
  rwa [flatten_feedLines] at htiles

end LooseToken

end ChangeReview.Declaration
