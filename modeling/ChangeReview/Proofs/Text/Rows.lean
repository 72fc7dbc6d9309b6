import Mathlib.Data.List.DropRight
import ChangeReview.Text.Basic

/-!
# Rows and lines

A text has two divisions: rows end at line feeds only, lines at every line break. What ends in a line feed can
be cut off for both, and has as many lines more than rows as it has line breaks that end no row.
-/

namespace ChangeReview.Text

variable {a b r : Text} {c : CodePoint}

/-- The part of a text behind its last line feed. -/
def lastRow (t : Text) : Text := t.rtakeWhile (· != '\n')

/-- The rows of a text that end in a line feed. -/
def fullRows (t : Text) : Text := t.rdropWhile (· != '\n')

/-- The row of an offset, counted from one, and its column. Rows end at line feeds. -/
def locate (t : Text) (i : Nat) : Nat × Nat :=
  ((t.take i).count (CodePoint.ofChar '\n') + 1, (lastRow (t.take i)).length)

/-- A line break that ends no row: it is not a line feed, nor a carriage return before one. -/
def isStrayBreak (c : CodePoint) (r : Text) : Bool :=
  c.isLineBreak && c != '\n' && !(c == '\r' && r.head? == some (CodePoint.ofChar '\n'))

/-- How many line breaks of a text end no row. -/
def strayBreaks : Text → Nat
  | [] => 0
  | c :: r => strayBreaks r + if isStrayBreak c r then 1 else 0

theorem fullRows_append_lastRow (t : Text) : fullRows t ++ lastRow t = t :=
  List.rdropWhile_append_rtakeWhile

theorem lastRow_append (hb : CodePoint.ofChar '\n' ∉ b) : lastRow (a ++ b) = lastRow a ++ b := by
  have hb' : ∀ c ∈ b.reverse, (c != CodePoint.ofChar '\n') = true := by
    intro c hc
    rw [bne_iff_ne]
    rintro rfl
    exact hb (List.mem_reverse.1 hc)
  rw [lastRow, lastRow, List.rtakeWhile, List.rtakeWhile, List.reverse_append,
    List.takeWhile_append_of_pos hb', List.reverse_append, List.reverse_reverse]

theorem lastRow_concat_feed : lastRow (a ++ [CodePoint.ofChar '\n']) = [] :=
  List.rtakeWhile_concat_neg _ _ _ (by decide)

theorem feed_not_mem_lastRow : CodePoint.ofChar '\n' ∉ lastRow a :=
  fun h => absurd (List.mem_rtakeWhile_imp h) (by decide)

theorem lastRow_fullRows (t : Text) : lastRow (fullRows t) = [] := by
  rw [lastRow, List.rtakeWhile_eq_nil_iff]
  exact fun hne => List.rdropWhile_last_not _ _ hne

/-- A text that ends in a line feed still does without its first code point, unless that was all of it. -/
theorem lastRow_cons_eq_nil (h : lastRow (c :: r) = []) :
    lastRow r = [] ∧ (r = [] → c = '\n') := by
  have hlast := List.rtakeWhile_eq_nil_iff.1 h
  refine ⟨List.rtakeWhile_eq_nil_iff.2 fun hne => ?_, ?_⟩
  · have := hlast (List.cons_ne_nil c r)
    rwa [List.getLast_cons hne] at this
  · rintro rfl
    simpa using hlast (List.cons_ne_nil c [])

theorem fullRows_append (ha : lastRow a = []) : fullRows (a ++ b) = a ++ fullRows b := by
  have hself : a.reverse.dropWhile (· != CodePoint.ofChar '\n') = a.reverse := by
    have hsplit := List.takeWhile_append_dropWhile (p := (· != CodePoint.ofChar '\n')) (l := a.reverse)
    rwa [List.reverse_eq_nil_iff.1 ha, List.nil_append] at hsplit
  rw [fullRows, fullRows, List.rdropWhile, List.rdropWhile, List.reverse_append, List.dropWhile_append, hself]
  split
  · rename_i hempty
    rw [List.isEmpty_iff.1 hempty, List.reverse_reverse, List.reverse_nil, List.append_nil]
  · rw [List.reverse_append, List.reverse_reverse]

/-- The next column of a row. -/
theorem locate_succ {t : Text} {i : Nat} (h : t[i]? = some c) (hc : c ≠ '\n') :
    t.locate (i + 1) = ((t.locate i).1, (t.locate i).2 + 1) := by
  have hfeed : CodePoint.ofChar '\n' ∉ [c] := by
    rw [List.mem_singleton]
    exact Ne.symm hc
  rw [locate, locate, List.take_add_one, h, Option.toList_some, lastRow_append hfeed, List.count_append,
    List.count_eq_zero_of_not_mem hfeed, List.length_append, List.length_singleton]

theorem flatten_linesWithBreaks (t : Text) : t.linesWithBreaks.flatten = t := by
  fun_induction linesWithBreaks t <;> simp_all

theorem ne_nil_of_mem_linesWithBreaks (t : Text) : ∀ line ∈ t.linesWithBreaks, line ≠ [] := by
  fun_induction linesWithBreaks t <;> simp_all

theorem linesWithBreaks_append (ha : lastRow a = []) :
    linesWithBreaks (a ++ b) = linesWithBreaks a ++ linesWithBreaks b := by
  fun_induction linesWithBreaks a with
  | case1 => rfl
  | case2 c hc =>
    rw [beq_iff_eq.1 hc] at ha
    exact absurd ha (by decide)
  | case3 c hc d s hd ih =>
    have hs := (lastRow_cons_eq_nil (lastRow_cons_eq_nil ha).1).1
    rw [List.cons_append, List.cons_append, linesWithBreaks.eq_def, List.cons_append, ← ih hs]
    dsimp only
    rw [if_pos hc, if_pos hd]
  | case4 c hc d s hd ih =>
    have hs := (lastRow_cons_eq_nil ha).1
    rw [List.cons_append, List.cons_append, linesWithBreaks.eq_def, List.cons_append, ← ih hs]
    dsimp only
    rw [if_pos hc, if_neg hd]
    rfl
  | case5 c r hreturn hc ih =>
    have hr := (lastRow_cons_eq_nil ha).1
    rw [List.cons_append, linesWithBreaks.eq_def, List.cons_append, ← ih hr]
    dsimp only
    rw [if_neg hreturn, if_pos hc]
  | case6 c r hreturn hc hnil ih =>
    have hr : r = [] := by rw [← flatten_linesWithBreaks r, hnil]; rfl
    rw [(lastRow_cons_eq_nil ha).2 hr] at hc
    exact absurd rfl hc
  | case7 c r hreturn hc line lines hcons ih =>
    have hr := (lastRow_cons_eq_nil ha).1
    rw [List.cons_append, linesWithBreaks.eq_def]
    dsimp only
    rw [if_neg hreturn, if_neg hc, ih hr, hcons]
    rfl

theorem strayBreaks_cons_of_true (h : isStrayBreak c r = true) :
    strayBreaks (c :: r) = strayBreaks r + 1 := by
  rw [strayBreaks, h, if_pos rfl]

theorem strayBreaks_cons_of_false (h : isStrayBreak c r = false) : strayBreaks (c :: r) = strayBreaks r := by
  rw [strayBreaks, h]
  rfl

theorem length_linesWithBreaks (ha : lastRow a = []) :
    (linesWithBreaks a).length = a.count (CodePoint.ofChar '\n') + strayBreaks a := by
  fun_induction linesWithBreaks a with
  | case1 => rfl
  | case2 c hc =>
    rw [beq_iff_eq.1 hc] at ha
    exact absurd ha (by decide)
  | case3 c hc d s hd ih =>
    have hs := (lastRow_cons_eq_nil (lastRow_cons_eq_nil ha).1).1
    obtain ⟨rfl, rfl⟩ := And.intro (beq_iff_eq.1 hc) (beq_iff_eq.1 hd)
    rw [List.length_cons, ih hs, strayBreaks_cons_of_false rfl, strayBreaks_cons_of_false rfl,
      List.count_cons_of_ne (by decide), List.count_cons_self, Nat.add_right_comm]
  | case4 c hc d s hd ih =>
    have hs := (lastRow_cons_eq_nil ha).1
    obtain rfl := beq_iff_eq.1 hc
    have hne : CodePoint.ofChar '\r' ≠ CodePoint.ofChar '\n' := by decide
    have hstray : isStrayBreak '\r' (d :: s) = true := by
      have hbreak : (CodePoint.ofChar '\r').isLineBreak = true := by decide
      simp_all [isStrayBreak]
    rw [List.length_cons, ih hs, strayBreaks_cons_of_true hstray, List.count_cons_of_ne hne, Nat.add_assoc]
  | case5 c r hreturn hc ih =>
    have hr := (lastRow_cons_eq_nil ha).1
    rw [List.length_cons, ih hr]
    by_cases hfeed : c = '\n'
    · subst hfeed
      rw [List.count_cons_self, strayBreaks_cons_of_false rfl, Nat.add_right_comm]
    · have hstray : isStrayBreak c r = true := by simp_all [isStrayBreak]
      rw [List.count_cons_of_ne hfeed, strayBreaks_cons_of_true hstray, Nat.add_assoc]
  | case6 c r hreturn hc hnil ih =>
    have hr : r = [] := by rw [← flatten_linesWithBreaks r, hnil]; rfl
    rw [(lastRow_cons_eq_nil ha).2 hr] at hc
    exact absurd rfl hc
  | case7 c r hreturn hc line lines hcons ih =>
    have hr := (lastRow_cons_eq_nil ha).1
    have hfeed : c ≠ '\n' := by
      rintro rfl
      exact hc rfl
    have hstray : isStrayBreak c r = false := by simp_all [isStrayBreak]
    rw [List.count_cons_of_ne hfeed, strayBreaks_cons_of_false hstray, ← ih hr, hcons]
    rfl

theorem strayBreaks_append (ha : lastRow a = []) : strayBreaks (a ++ b) = strayBreaks a + strayBreaks b := by
  induction a with
  | nil => exact (Nat.zero_add _).symm
  | cons c r ih =>
    obtain ⟨hr, hc⟩ := lastRow_cons_eq_nil ha
    have hstray : isStrayBreak c (r ++ b) = isStrayBreak c r := by
      cases r with
      | nil => rw [hc rfl]; rfl
      | cons d r => rfl
    rw [List.cons_append, strayBreaks, strayBreaks, hstray, ih hr, Nat.add_right_comm]

end ChangeReview.Text
