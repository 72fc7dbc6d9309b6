import ChangeReview.Declaration.TypeParameters
import ChangeReview.Proofs.Declaration.TokenTiling

/-!
# Cutting out the type parameters

The clause that is cut out starts with an opening and ends with a closing bracket, and the tokens that are
kept are those of its text. The tokens count rows, which end at line feeds, but the offsets of the cut are
summed over lines, which end at any line break. So the cut falls short of the clause by the lines that stray
line breaks add to the rows before it.
-/

namespace ChangeReview.Declaration

open LooseToken (Tiles)
open Text (fullRows lastRow strayBreaks)

variable {t : Text} {tokens clause : List LooseToken} {i j : Nat}

/-! ## Offsets -/

/-- The number of rows before the row of an offset. -/
def rowsBefore (t : Text) (i : Nat) : Nat := (t.take i).count (CodePoint.ofChar '\n')

/-- The lines of the rows before the row of an offset. -/
def linesBefore (t : Text) (i : Nat) : List Text := (fullRows (t.take i)).linesWithBreaks

/-- By how much the offset of a row and a column falls short: as many lines are summed as there are rows
before, and the others are left out. -/
def shortfall (t : Text) (i : Nat) : Nat := total (((linesBefore t i).drop (rowsBefore t i)).map List.length)

theorem total_map_length (lines : List Text) : total (lines.map List.length) = lines.flatten.length := by
  induction lines with
  | nil => rfl
  | cons line lines ih => rw [List.map_cons, total_cons, ih, List.flatten_cons, List.length_append]

theorem length_linesBefore (t : Text) (i : Nat) :
    (linesBefore t i).length = rowsBefore t i + strayBreaks (fullRows (t.take i)) := by
  have hcount : (fullRows (t.take i)).count (CodePoint.ofChar '\n') = rowsBefore t i := by
    rw [rowsBefore]
    nth_rewrite 2 [← Text.fullRows_append_lastRow (t.take i)]
    rw [List.count_append, List.count_eq_zero_of_not_mem Text.feed_not_mem_lastRow, Nat.add_zero]
  rw [linesBefore, Text.length_linesWithBreaks (Text.lastRow_fullRows _), hcount]

theorem sourceOffset_locate (hi : i ≤ t.length) :
    sourceOffset t (t.locate i).1 (t.locate i).2 + shortfall t i = i := by
  have hrows := Text.fullRows_append_lastRow (t.take i)
  have hlines : t.linesWithBreaks
      = linesBefore t i ++ Text.linesWithBreaks (lastRow (t.take i) ++ t.drop i) := by
    rw [linesBefore, ← Text.linesWithBreaks_append (Text.lastRow_fullRows _), ← List.append_assoc, hrows,
      List.take_append_drop]
  have hle : rowsBefore t i ≤ (linesBefore t i).length := length_linesBefore t i ▸ Nat.le_add_right _ _
  have htotal : total (((linesBefore t i).take (rowsBefore t i)).map List.length) + shortfall t i
      = (fullRows (t.take i)).length := by
    rw [shortfall, ← total_append, ← List.map_append, List.take_append_drop, total_map_length, linesBefore,
      Text.flatten_linesWithBreaks]
  have hlength := congrArg List.length hrows
  rw [List.length_append, List.length_take_of_le hi] at hlength
  change total ((t.linesWithBreaks.take (rowsBefore t i)).map List.length) + (lastRow (t.take i)).length
    + shortfall t i = i
  rw [hlines, List.take_append_of_le_length hle]
  omega

theorem shortfall_eq_zero_iff : shortfall t i = 0 ↔ strayBreaks (fullRows (t.take i)) = 0 := by
  have hlength := length_linesBefore t i
  rw [shortfall, total_map_length, List.length_eq_zero_iff, List.flatten_eq_nil_iff]
  constructor
  · intro hempty
    have hdrop : (linesBefore t i).drop (rowsBefore t i) = [] :=
      List.eq_nil_iff_forall_not_mem.2 fun line hline =>
        Text.ne_nil_of_mem_linesWithBreaks _ line (List.mem_of_mem_drop hline) (hempty line hline)
    have hle := List.drop_eq_nil_iff.1 hdrop
    omega
  · intro hstray line hline
    rw [List.drop_eq_nil_of_le (by omega)] at hline
    cases hline

/-- The rows before an earlier offset have no more stray breaks. -/
theorem strayBreaks_fullRows_take (hij : i ≤ j) :
    strayBreaks (fullRows (t.take i)) ≤ strayBreaks (fullRows (t.take j)) := by
  have hsplit : t.take j = fullRows (t.take i) ++ (lastRow (t.take i) ++ (t.take j).drop i) := by
    rw [← List.append_assoc, Text.fullRows_append_lastRow]
    nth_rewrite 1 [← List.take_append_drop i (t.take j)]
    rw [List.take_take, Nat.min_eq_left hij]
  have hended := Text.lastRow_fullRows (t.take i)
  rw [hsplit, Text.fullRows_append hended, Text.strayBreaks_append hended]
  exact Nat.le_add_right _ _

/-! ## The clause -/

theorem throughBracket?_spec {depth : Int} (h : throughBracket? depth tokens = some clause) :
    ∃ a closing after, clause = a ++ [closing] ∧ closing.text = ("]" : Text) ∧ tokens = clause ++ after := by
  induction tokens generalizing depth clause with
  | nil => cases h
  | cons k rest ih =>
    have hlater (depth : Int) (h : (throughBracket? depth rest).map (k :: ·) = some clause) :
        ∃ a closing after, clause = a ++ [closing] ∧ closing.text = ("]" : Text) ∧
          k :: rest = clause ++ after := by
      obtain ⟨later, hlater, rfl⟩ := Option.map_eq_some_iff.1 h
      obtain ⟨a, closing, after, rfl, htext, rfl⟩ := ih hlater
      exact ⟨k :: a, closing, after, rfl, htext, rfl⟩
    rw [throughBracket?] at h
    split at h
    · exact hlater _ h
    · split at h
      · rename_i hclose
        split at h
        · cases h
          rw [Bool.and_eq_true, beq_iff_eq, beq_iff_eq] at hclose
          exact ⟨[], k, rest, rfl, hclose.2, rfl⟩
        · exact hlater _ h
      · exact hlater _ h

/-- A clause is a run of the tokens, from an opening to a closing bracket. -/
theorem typeParameterClause?_spec (h : typeParameterClause? tokens = some clause) :
    ∃ before opening inner closing after, tokens = before ++ opening :: (inner ++ closing :: after) ∧
      clause = opening :: (inner ++ [closing]) ∧ opening.text = ("[" : Text) ∧
      closing.text = ("]" : Text) := by
  unfold typeParameterClause? at h
  extract_lets significant at h
  have hsuffix (rest : List LooseToken) : significant rest <:+ rest := List.dropWhile_suffix _
  clear_value significant
  split at h
  · cases h
  rename_i keyword rest hkeyword
  have hrest : rest <:+ tokens := (List.suffix_cons keyword rest).trans (hkeyword ▸ List.dropWhile_suffix _)
  split at h
  · cases h
  rename_i name rest' hname
  have hrest' : rest' <:+ tokens := ((List.suffix_cons name rest').trans (hname ▸ hsuffix rest)).trans hrest
  split at h
  · cases h
  rename_i opening rest'' hopening
  obtain ⟨before, hbefore⟩ := (hopening ▸ hsuffix rest').trans hrest'
  split at h
  · rename_i hcond
    rw [Bool.and_eq_true, beq_iff_eq, beq_iff_eq] at hcond
    obtain ⟨a, closing, after, rfl, htext, hclause⟩ := throughBracket?_spec h
    cases a with
    | nil =>
      obtain ⟨rfl, -⟩ := List.cons_eq_cons.1 hclause
      exact absurd (hcond.2.symm.trans htext) (by decide)
    | cons first inner =>
      rw [List.cons_append, List.cons_append, List.append_assoc, List.singleton_append] at hclause
      obtain ⟨rfl, rfl⟩ := List.cons_eq_cons.1 hclause
      exact ⟨before, opening, inner, closing, after, hbefore.symm, rfl, hcond.2, htext⟩
  · cases h

/-- A bracketed part of a text, from offset `i` to offset `j`. -/
structure Bracketed (t : Text) (i j : Nat) : Prop where
  lt : i < j
  le : j ≤ t.length
  opens : t[i]? = some (CodePoint.ofChar '[')
  closes : t[j - 1]? = some (CodePoint.ofChar ']')

/-- Where a clause stands in a signature: the tokens before it, its own and those after it tile the parts of
the text before a bracketed part, in it and after it. -/
structure ClauseAt (signature : Text) (tokens clause : List LooseToken) (i j : Nat) : Prop
    extends Bracketed signature i j where
  tiles : ∃ before after, tokens = before ++ (clause ++ after) ∧
    Tiles signature.locate 0 (signature.take i) before ∧
    Tiles signature.locate i ((signature.take j).drop i) clause ∧
    Tiles signature.locate j (signature.drop j) after

/-- The offsets of a bracketed part, and the parts that they divide the text in. -/
theorem bracketed_of_eq {a b c : Text}
    (ht : t = a ++ CodePoint.ofChar '[' :: (b ++ CodePoint.ofChar ']' :: c)) :
    Bracketed t a.length (a.length + 1 + b.length + 1) ∧ t.take a.length = a ∧
      (t.take (a.length + 1 + b.length + 1)).drop a.length
        = CodePoint.ofChar '[' :: (b ++ [CodePoint.ofChar ']']) ∧
      t.drop (a.length + 1 + b.length + 1) = c := by
  have hinside : t = (a ++ CodePoint.ofChar '[' :: b) ++ CodePoint.ofChar ']' :: c := by
    rw [ht, List.append_assoc, List.cons_append]
  have hthrough : t = (a ++ CodePoint.ofChar '[' :: (b ++ [CodePoint.ofChar ']'])) ++ c := by
    rw [ht]
    simp
  have hlength : (a ++ CodePoint.ofChar '[' :: b).length = a.length + 1 + b.length := by
    rw [List.length_append, List.length_cons, Nat.add_comm b.length, Nat.add_assoc]
  have hlength' : (a ++ CodePoint.ofChar '[' :: (b ++ [CodePoint.ofChar ']'])).length
      = a.length + 1 + b.length + 1 := by
    rw [← List.cons_append, ← List.append_assoc, List.length_append, hlength]
    rfl
  refine ⟨⟨by omega, ?_, ?_, ?_⟩, ?_, ?_, ?_⟩
  · rw [hthrough, List.length_append, hlength']
    exact Nat.le_add_right _ _
  · rw [ht, List.getElem?_append_right (Nat.le_refl _), Nat.sub_self, List.getElem?_cons_zero]
  · rw [Nat.add_sub_cancel, ← hlength, hinside, List.getElem?_append_right (Nat.le_refl _), Nat.sub_self,
      List.getElem?_cons_zero]
  · rw [ht, List.take_left]
  · rw [← hlength', hthrough, List.take_left, List.drop_left]
  · rw [← hlength', hthrough, List.drop_left]

/-- The clause stands between its brackets, and their rows and columns are those of its ends. -/
theorem exists_clauseAt {signature : Text} (hscan : LooseToken.scan? signature = some tokens)
    (hclause : typeParameterClause? tokens = some clause) :
    ∃ i j opening closing, ClauseAt signature tokens clause i j ∧ clause.head? = some opening ∧
      clause.getLast? = some closing ∧ signature.locate i = (opening.row, opening.column) ∧
      signature.locate j = (closing.endRow, closing.endColumn) := by
  obtain ⟨before, opening, inner, closing, after, rfl, rfl, hopening, hclosing⟩ :=
    typeParameterClause?_spec hclause
  -- the opening bracket divides the text, the closing one what is behind it
  obtain ⟨a, rest, hsignature, hstart, hbefore, hrest⟩ := (LooseToken.tiles_of_scan? hscan).split
  obtain ⟨b, c, rfl, hstop, hinner, hafter⟩ := hrest.split
  have htiles := Tiles.token hstart (hinner.append (.token hstop (.nil _)))
  have hend := hstop.end_eq
  rw [hopening, hclosing, Nat.zero_add] at hend hafter
  rw [hopening, hclosing] at hsignature htiles
  rw [Nat.zero_add] at hstart htiles
  obtain ⟨hbracketed, hbefore', hclause', hafter'⟩ := bracketed_of_eq hsignature
  refine ⟨a.length, a.length + 1 + b.length + 1, opening, closing,
    ⟨hbracketed, before, after, by simp, ?_, ?_, ?_⟩, rfl, List.getLast?_concat (l := opening :: inner),
    hstart.start_eq, ?_⟩
  · rwa [hbefore']
  · rwa [hclause']
  · rwa [hafter']
  · exact (Text.locate_succ hbracketed.closes (by decide)).trans hend

/-! ## The cut -/

/-- A signature loses its type parameters between two offsets that fall short of the ends of their clause by
the lines that stray breaks add. Where no stray break stands in the rows before the closing bracket, the clause
is cut out as it stands. -/
theorem withoutTypeParameters_cuts_clause {signature : Text}
    (hscan : LooseToken.scan? signature = some tokens) (hne : (withoutTypeParameters signature).2 ≠ []) :
    ∃ i j clause, ClauseAt signature tokens clause i j ∧
      (withoutTypeParameters signature).2 = (clause.filter (·.kind != .layout)).map (·.text) ∧
      (withoutTypeParameters signature).1
        = signature.take (i - shortfall signature i) ++ signature.drop (j - shortfall signature j) ∧
      (shortfall signature j = 0 ↔ strayBreaks (fullRows (signature.take j)) = 0) ∧
      (strayBreaks (fullRows (signature.take j)) = 0 →
        (withoutTypeParameters signature).1 = signature.take i ++ signature.drop j) := by
  unfold withoutTypeParameters at hne ⊢
  rw [hscan, Option.bind_some] at hne ⊢
  cases hclause : typeParameterClause? tokens with
  | none =>
    rw [hclause] at hne
    exact absurd rfl hne
  | some clause =>
    obtain ⟨i, j, opening, closing, hat, hhead, hlast, hstart, hstop⟩ := exists_clauseAt hscan hclause
    have hi := sourceOffset_locate (Nat.le_trans (Nat.le_of_lt hat.lt) hat.le)
    have hj := sourceOffset_locate hat.le
    rw [hstart] at hi
    rw [hstop] at hj
    dsimp only at hi hj ⊢
    rw [hhead, hlast]
    have hcut : signature.take (sourceOffset signature opening.row opening.column)
          ++ signature.drop (sourceOffset signature closing.endRow closing.endColumn)
        = signature.take (i - shortfall signature i) ++ signature.drop (j - shortfall signature j) := by
      rw [← Nat.eq_sub_of_add_eq hi, ← Nat.eq_sub_of_add_eq hj]
    refine ⟨i, j, clause, hat, rfl, hcut, shortfall_eq_zero_iff, fun hstray => ?_⟩
    have hbefore := strayBreaks_fullRows_take (t := signature) (Nat.le_of_lt hat.lt)
    rw [hstray, Nat.le_zero] at hbefore
    dsimp only
    rw [hcut, shortfall_eq_zero_iff.2 hstray, shortfall_eq_zero_iff.2 hbefore, Nat.sub_zero, Nat.sub_zero]

/-- A signature behind a decorator on a row of its own. -/
def decorated : Text := "@d\r\ndef f[T](x)"

theorem withoutTypeParameters_cuts_clause_decorated :
    (LooseToken.scan? decorated).isSome = true ∧ (withoutTypeParameters decorated).2 ≠ [] ∧
      ∃ i j, Bracketed decorated i j ∧
        (withoutTypeParameters decorated).1 = decorated.take i ++ decorated.drop j := by
  have hsome : (LooseToken.scan? decorated).isSome = true := by decide +kernel
  have hne : (withoutTypeParameters decorated).2 ≠ [] := by decide +kernel
  obtain ⟨i, j, clause, hat, -, -, -, hcut⟩ :=
    withoutTypeParameters_cuts_clause (Option.some_get hsome).symm hne
  refine ⟨hsome, hne, i, j, hat.toBracketed, hcut ?_⟩
  have hstray := strayBreaks_fullRows_take (t := decorated) hat.le
  rw [List.take_length] at hstray
  exact Nat.le_zero.1 (Nat.le_trans hstray (by decide +kernel))

/-- A signature behind a decorator with a form feed in its string. -/
def formFed : Text := "@d(\"\x0c\")\ndef f[T](x)"

/-- The name is cut out, and the clause is not. -/
theorem clause_kept_behind_form_feed :
    (LooseToken.scan? formFed).isSome = true ∧
      withoutTypeParameters formFed = (("@d(\"\x0c\")\nde[T](x)" : Text), Text.list ["[", "T", "]"]) ∧
      ¬ ∃ i j, Bracketed formFed i j ∧ (withoutTypeParameters formFed).1 = formFed.take i ++ formFed.drop j := by
  have hcut : withoutTypeParameters formFed
      = (("@d(\"\x0c\")\nde[T](x)" : Text), Text.list ["[", "T", "]"]) := by decide +kernel
  refine ⟨by decide +kernel, hcut, ?_⟩
  rintro ⟨i, j, ⟨hlt, hle, hopens, hcloses⟩, htext⟩
  have hopening : ∀ i < formFed.length, formFed[i]? = some (CodePoint.ofChar '[') → i = 13 := by
    decide +kernel
  have hclosing : ∀ i < formFed.length, formFed[i]? = some (CodePoint.ofChar ']') → i = 15 := by
    decide +kernel
  have hi := hopening i (by omega) hopens
  have hj := hclosing (j - 1) (by omega) hcloses
  obtain rfl : j = 16 := by omega
  rw [hcut, hi] at htext
  exact absurd htext (by decide +kernel)

end ChangeReview.Declaration
