import ChangeReview.Proofs.Lexeme.Comparable
import ChangeReview.Proofs.Lexeme.Spaced

/-!
# Words and marks

A scan reads a word as one lexeme or several, and each of them starts with a word code point. What else
it finds in a text of words, blanks and punctuation are the marks between the words. They do not depend on
the state of the scan (`Marked`), so they are found from right to left, one piece of the text at a time.
-/

namespace ChangeReview.Lexeme

variable {language : Language} {seen t w r : Text} {position : Nat} {c : CodePoint} {s : State}
  {ms : List Lexeme}

/-! ## Words -/

/-- A word, or a part of one. -/
def isWordy (l : Lexeme) : Bool := !l.isSealed && (l.text.head?.map CodePoint.isWord).getD false

theorem endsWord_cons (hc : c.endsWord = true) : ∀ a ∈ (c :: r).head?, a.endsWord = true := by
  simpa using hc

theorem afterIdentifier_word (hr : ∀ a ∈ r.head?, a.endsWord = true) (w : Text) :
    ∃ x y, w = x ++ y ∧ afterIdentifier (w ++ r) = y ++ r := by
  refine ⟨w.takeWhile CodePoint.continuesIdentifier, w.dropWhile CodePoint.continuesIdentifier,
    List.takeWhile_append_dropWhile.symm, ?_⟩
  have hstays : r.dropWhile CodePoint.continuesIdentifier = r :=
    dropWhile_eq_self fun a ha => by rw [CodePoint.not_continuesIdentifier (hr a ha)]; exact Bool.false_ne_true
  unfold afterIdentifier
  rw [List.dropWhile_append]
  split
  · rename_i hempty
    rw [List.isEmpty_iff.1 hempty, hstays, List.nil_append]
  · rfl

theorem afterNumber_word (hw : ∀ a ∈ w, a.isWord = true) (hr : ∀ a ∈ r.head?, a.endsWord = true)
    (last : CodePoint) : ∃ x y, w = x ++ y ∧ afterNumber last (w ++ r) = y ++ r := by
  induction w generalizing last with
  | nil =>
    refine ⟨[], [], rfl, ?_⟩
    rcases r with _ | ⟨a, r⟩
    · rfl
    · have ha := hr a rfl
      have hletter := CodePoint.not_isLetterOrNumber ha
      simp only [CodePoint.endsWord, Bool.and_eq_true, bne_iff_ne, Bool.not_eq_true'] at ha
      obtain ⟨⟨⟨hword, hpoint⟩, hplus⟩, hminus⟩ := ha
      have hline : a ≠ '_' := by
        rintro rfl
        cases hword
      simp [afterNumber, hletter, hpoint, hplus, hminus, hline]
  | cons a w ih =>
    obtain ⟨ha, hw⟩ := List.forall_mem_cons.1 hw
    have hsign : (a == '+' || a == '-') = false := by
      simp [CodePoint.ne_of_isWord ha (by decide : CodePoint.isWord '+' = false),
        CodePoint.ne_of_isWord ha (by decide : CodePoint.isWord '-' = false)]
    obtain ⟨x, y, rfl, hrest⟩ := ih hw a
    rw [List.cons_append, afterNumber, hsign, Bool.false_and]
    split
    · exact ⟨a :: x, y, rfl, hrest⟩
    · exact ⟨[], a :: (x ++ y), rfl, rfl⟩

/-- No operator starts with a word code point. -/
theorem operator?_word (hc : c.isWord = true) : operator? (c :: r) = none := by
  have hfirst : ∀ o ∈ operators, ∃ a ∈ o.head?, a.isWord = false := by decide
  refine List.find?_eq_none.2 fun o ho hstart => ?_
  obtain ⟨a, ha, hword⟩ := hfirst o ho
  obtain ⟨o, rfl⟩ := List.head?_eq_some_iff.1 ha
  have hac : a = c := (List.cons_prefix_cons.1 (Text.startsWith_iff.1 hstart)).1
  rw [hac, hc] at hword
  cases hword

/-- A lexeme that starts in a word does not reach over its end. -/
theorem scanOne_word (language : Language) (hc : c.isWord = true) (hw : ∀ a ∈ w, a.isWord = true)
    (hr : ∀ a ∈ r.head?, a.endsWord = true) (seen : Text) (s : State) :
    (scanOne language seen c (w ++ r) s).isSealed = false ∧
      ∃ x y, w = x ++ y ∧ (scanOne language seen c (w ++ r) s).rest = y ++ r := by
  have hne : ∀ d : CodePoint, d.isWord = false → (c == d) = false := fun d hd =>
    beq_false_of_ne (CodePoint.ne_of_isWord hc hd)
  have hplain : scanOne language seen c (w ++ r) s
      = if c.startsIdentifier then scanWord c (w ++ r) s
        else if c.isDigit then
          .literal c (w ++ r) (afterNumber c (w ++ r)) (length_afterNumber_le c (w ++ r)) s false
        else .operator c (w ++ r) 0 (s.observeToken [c]) := by
    rw [scanOne, scanPlain, scanOperator, operator?_word hc]
    simp (disch := decide) only [hne, CodePoint.isQuote_of_isWord hc, Bool.false_and, Bool.and_false,
      Bool.or_false, Bool.or_self, Bool.false_eq_true, if_false]
  rw [hplain]
  split
  · exact ⟨rfl, afterIdentifier_word hr w⟩
  split
  · exact ⟨rfl, afterNumber_word hw hr c⟩
  · exact ⟨rfl, [], w, rfl, rfl⟩

/-! ## Punctuation -/

/-- A code point joins neither of its neighbours: no operator goes on behind it, or it is one of several
closing angle brackets. -/
def Single (seen : Text) (c : CodePoint) (r : Text) : Prop :=
  (∀ b ∈ r.head?, continuesOperator b = false) ∨ c = '>' ∧ (seen.head? = some c ∨ r.head? = some c)

theorem scanOperator_single (h : Single seen c r) (language : Language) (s : State) :
    ∃ s', scanOperator language seen c r s = .operator c r 0 s' := by
  unfold scanOperator
  split
  · exact ⟨_, rfl⟩
  split
  · exact ⟨_, rfl⟩
  rename_i hdouble
  rcases h with h | ⟨rfl, h⟩
  · rw [operator?_single h]
    exact ⟨_, rfl⟩
  · refine absurd ?_ hdouble
    rcases h with h | h
    · rw [h]
      rfl
    · rw [h]
      simp

theorem single_nil : Single seen c [] := Or.inl (by simp)

theorem single_cons {b : CodePoint} (hb : continuesOperator b = false) : Single seen c (b :: r) :=
  Or.inl (by simpa using hb)

/-- No operator goes on with a word. -/
theorem continuesOperator_of_isWord (hc : c.isWord = true) : continuesOperator c = false :=
  CodePoint.contains_of_isWord (by decide) hc

/-- Punctuation does not join a word behind it. -/
theorem single_word (h : ∃ a u, w = a :: u ∧ a.isWord = true) (seen : Text) (c : CodePoint) (r : Text) :
    Single seen c (w ++ r) := by
  obtain ⟨a, u, rfl, ha⟩ := h
  exact single_cons (continuesOperator_of_isWord ha)

/-! ## Marks -/

/-- Punctuation at a position. -/
def mark (c : CodePoint) (position : Nat) : Lexeme := { text := [c], start := position }

/-- The lexemes that are no words. -/
def marks (lexemes : List Lexeme) : List Lexeme := lexemes.filter (!·.isWordy)

/-- In whatever state a scan reaches the text, the marks of the text are `ms`. -/
def Marked (language : Language) (seen : Text) (position : Nat) (t : Text) (ms : List Lexeme) : Prop :=
  ∀ s, marks (scanFrom language seen position t s) = ms

theorem Marked.congr {seen' : Text} {position' : Nat} (h : Marked language seen position t ms)
    (hseen : seen = seen') (hposition : position = position') : Marked language seen' position' t ms :=
  hseen ▸ hposition ▸ h

theorem text_subset {l : Lexeme} (h : l ∈ scanFrom language seen position t s) : l.text ⊆ t := by
  induction seen, position, t, s using scan_induction language with
  | nil seen position s =>
    rw [scanFrom_nil] at h
    cases h
  | blank seen position c r s hc ih =>
    rw [scanFrom_blank language seen position r s hc] at h
    exact List.subset_cons_of_subset c (ih h)
  | lexeme seen position c r s hc ih =>
    rw [scanFrom_lexeme language seen position r s hc] at h
    rcases List.mem_cons.1 h with rfl | h
    · exact (List.take_prefix _ _).subset
    · exact List.subset_cons_of_subset c
        (List.Subset.trans (ih h) (scanOne_isSuffix language seen c r s).subset)

/-- A code point that is not in a text is no mark of it. -/
theorem Marked.text_ne (h : Marked language seen position t ms) (hc : c ∉ t) : ∀ l ∈ ms, l.text ≠ [c] := by
  intro l hl htext
  rw [← h {}] at hl
  exact hc (text_subset (List.mem_of_mem_filter hl) (htext ▸ List.mem_singleton_self c))

theorem marked_nil : Marked language seen position [] [] := by
  intro s
  rw [scanFrom_nil]
  rfl

theorem Marked.blank (hc : c.isBlank = true) (h : Marked language (c :: seen) (position + 1) r ms) :
    Marked language seen position (c :: r) ms := by
  intro s
  rw [scanFrom_blank language seen position r s hc]
  exact h _

theorem Marked.blanks (hw : ∀ a ∈ w, a.isBlank = true)
    (h : Marked language (w.reverse ++ seen) (position + w.length) r ms) :
    Marked language seen position (w ++ r) ms := by
  induction w generalizing seen position with
  | nil => exact h
  | cons a w ih =>
    obtain ⟨ha, hw⟩ := List.forall_mem_cons.1 hw
    refine Marked.blank ha (ih hw (h.congr (by simp) ?_))
    rw [List.length_cons]
    omega

theorem Marked.word (hw : ∀ a ∈ w, a.isWord = true) (hr : ∀ a ∈ r.head?, a.endsWord = true)
    (h : Marked language (w.reverse ++ seen) (position + w.length) r ms) :
    Marked language seen position (w ++ r) ms := by
  intro s
  -- The word may be several lexemes; what is left behind the first is a shorter word.
  induction hn : w.length using Nat.strong_induction_on generalizing w seen position s with
  | _ n ih =>
    rcases w with _ | ⟨c, w⟩
    · exact h s
    · obtain ⟨hc, hw⟩ := List.forall_mem_cons.1 hw
      have hblank : ¬ c.isBlank = true := by
        rw [CodePoint.isBlank_of_isWord hc]
        exact Bool.false_ne_true
      obtain ⟨hsealed, x, y, rfl, hrest⟩ := scanOne_word language hc hw hr seen s
      have htext : ((scanOne language seen c (x ++ y ++ r) s).lexeme position).text = c :: x := by
        refine List.append_cancel_right (?_ : _ ++ (y ++ r) = c :: x ++ (y ++ r))
        calc _ = c :: (x ++ y ++ r) := hrest ▸ lexeme_text_append language seen c (x ++ y ++ r) s position
          _ = c :: x ++ (y ++ r) := by rw [List.append_assoc, List.cons_append]
      have hwordy : ((scanOne language seen c (x ++ y ++ r) s).lexeme position).isWordy = true := by
        rw [isWordy, htext]
        simp [Found.lexeme, hsealed, hc]
      rw [List.cons_append, scanFrom_lexeme language seen position _ s hblank]
      dsimp only
      rw [marks, List.filter_cons_of_neg (by rw [hwordy]; exact Bool.false_ne_true), hrest]
      refine ih y.length ?_ (fun a ha => hw a (List.mem_append_right x ha)) ?_ _ rfl
      · rw [← hn, List.length_cons, List.length_append]
        omega
      · rw [stop, htext]
        simpa [Found.lexeme, Nat.add_assoc, Nat.add_comm, Nat.add_left_comm] using h

/-- Punctuation is a mark. -/
theorem Marked.mark (hc : c ∈ punctuation) (hr : Single seen c r)
    (h : Marked language (c :: seen) (position + 1) r ms) :
    Marked language seen position (c :: r) (mark c position :: ms) := by
  intro s
  have hall : ∀ c ∈ punctuation, c.isBlank = false ∧ c.isWord = false := by decide
  obtain ⟨hblank, hword⟩ := hall c hc
  obtain ⟨s', hfound⟩ := scanOperator_single hr language s
  have htext : consumed (c :: r) r = [c] := by simp [consumed]
  rw [scanFrom_lexeme language seen position r s (by rw [hblank]; exact Bool.false_ne_true),
    scanOne_punctuation hc, hfound]
  simp only [Found.lexeme, Found.operator, List.drop_zero, htext, stop]
  rw [marks, List.filter_cons_of_pos (by simp [isWordy, hword])]
  exact congrArg _ (h s')

/-- A closing angle bracket and an equals sign are one mark, unless another bracket stands before them. -/
theorem Marked.fused (hseen : seen.head? ≠ some ('>' : CodePoint))
    (h : Marked language ('=' :: '>' :: seen) (position + 2) r ms) :
    Marked language seen position ('>' :: '=' :: r) ({ text := ">=", start := position } :: ms) := by
  intro s
  have hoperator : operator? ('>' :: '=' :: r) = some (">=" : Text) := rfl
  have hfound : scanOperator language seen '>' ('=' :: r) s
      = .operator '>' ('=' :: r) 1 (s.observeToken ">=") := by
    have hopens : (('>' : CodePoint) == '<') = false := rfl
    have hnext : ((('=' : CodePoint) :: r).head? == some ('>' : CodePoint)) = false := rfl
    simp only [scanOperator, hoperator, hopens, hnext, beq_false_of_ne hseen, Bool.and_false, Bool.false_and,
      Bool.or_self, Bool.false_eq_true, if_false]
    rfl
  have htext : consumed ('>' :: '=' :: r) r = (">=" : Text) := by
    show ([('>' : CodePoint), '='] ++ r).take (r.length + 2 - r.length) = [('>' : CodePoint), '=']
    rw [Nat.add_sub_cancel_left]
    rfl
  rw [scanFrom_lexeme language seen position _ s (by decide), scanOne_punctuation (by decide), hfound]
  simp only [Found.lexeme, Found.operator, List.drop_succ_cons, List.drop_zero, htext, stop]
  rw [marks, List.filter_cons_of_pos rfl]
  exact congrArg _ (h _)

end ChangeReview.Lexeme
