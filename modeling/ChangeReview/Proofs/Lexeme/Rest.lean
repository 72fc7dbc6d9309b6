import ChangeReview.Lexeme.Scan

/-!
# What a scanner leaves

Every scanner returns an end of the text it was given: it skips, but never changes or reorders. So what
it has read and what it leaves make up the text again (`consumed_append`). A template and the
expressions in it are read by scanners that call each other, so their lemmas do the same.
-/

namespace ChangeReview.Lexeme

/-! ## Single lexemes -/

theorem afterNumber_isSuffix (last : CodePoint) (t : Text) : afterNumber last t <:+ t := by
  induction t generalizing last with
  | nil => exact List.suffix_rfl
  | cons c r ih =>
    unfold afterNumber
    split
    · exact (ih c).trans (List.suffix_cons c r)
    · split
      · exact (ih c).trans (List.suffix_cons c r)
      · exact List.suffix_rfl

theorem afterBlockComment_isSuffix (t : Text) : afterBlockComment t <:+ t := by
  fun_induction afterBlockComment t with
  | case1 => exact List.suffix_rfl
  | case2 => exact List.nil_suffix
  | case3 c d r _ => exact (List.suffix_cons d r).trans (List.suffix_cons c _)
  | case4 c d r _ ih => exact ih.trans (List.suffix_cons c _)

theorem afterQuote_isSuffix (quote : CodePoint) (raw escaped : Bool) (t : Text) :
    afterQuote quote raw escaped t <:+ t := by
  induction t generalizing escaped with
  | nil => exact List.suffix_rfl
  | cons c r ih =>
    unfold afterQuote
    split
    · exact List.suffix_cons c r
    · exact (ih _).trans (List.suffix_cons c r)

theorem afterRegex?_isSuffix {escaped inClass : Bool} {t rest : Text}
    (h : afterRegex? escaped inClass t = some rest) : rest <:+ t := by
  induction t generalizing escaped inClass with
  | nil => simp [afterRegex?] at h
  | cons c r ih =>
    have hstep : ∀ {escaped inClass : Bool}, afterRegex? escaped inClass r = some rest →
        rest <:+ c :: r := fun h => (ih h).trans (List.suffix_cons c r)
    unfold afterRegex? at h
    split at h
    · cases h
    split at h
    · exact hstep h
    split at h
    · exact hstep h
    split at h
    · exact hstep h
    split at h
    · exact hstep h
    split at h
    · exact hstep h
    · cases h
      exact (List.dropWhile_suffix _).trans (List.suffix_cons c r)

section Plain

variable (language : Language) (seen : Text) (c : CodePoint) (r : Text) (s : State)

theorem scanSlash_isSuffix : (scanSlash language c r s).rest <:+ r := by
  have hdivide : (if Text.startsWith r "=" then Found.operator c r 1 (s.observeToken "/=")
      else .operator c r 0 (s.observeToken "/")).rest <:+ r := by
    split
    · exact List.drop_suffix 1 r
    · exact List.drop_suffix 0 r
  unfold scanSlash
  dsimp only
  split
  · split
    · rename_i rest h
      exact afterRegex?_isSuffix h
    · exact hdivide
  · exact hdivide

theorem scanOperator_isSuffix : (scanOperator language seen c r s).rest <:+ r := by
  unfold scanOperator
  split
  · exact List.drop_suffix 0 r
  split
  · exact List.drop_suffix 0 r
  split
  · exact List.drop_suffix _ r
  · exact List.drop_suffix 0 r

theorem scanPlain_isSuffix : (scanPlain language seen c r s).rest <:+ r := by
  unfold scanPlain
  split
  · exact List.dropWhile_suffix _
  split
  · exact (afterBlockComment_isSuffix _).trans (List.drop_suffix 1 r)
  split
  · exact afterQuote_isSuffix _ _ _ r
  split
  · exact scanSlash_isSuffix language c r s
  split
  · exact List.dropWhile_suffix _
  split
  · exact afterNumber_isSuffix c r
  · exact scanOperator_isSuffix language seen c r s

end Plain

/-! ## Templates -/

mutual

/-- One step of a scan leaves an end of what follows the first code point. -/
theorem scanOne_isSuffix (language : Language) (seen : Text) (c : CodePoint) (r : Text)
    (s : State) : (scanOne language seen c r s).rest <:+ r := by
  unfold scanOne
  split
  · exact afterTemplate_isSuffix (c :: seen) r
  · exact scanPlain_isSuffix language seen c r s
termination_by 2 * (r.length + 1)
decreasing_by omega

theorem afterTemplate_isSuffix (seen t : Text) : (afterTemplate seen t).1 <:+ t := by
  rcases t with _ | ⟨c, _ | ⟨d, r⟩⟩
  · simp only [afterTemplate, List.suffix_rfl]
  · rw [afterTemplate]
    exact List.nil_suffix
  · have hskip : r <:+ c :: d :: r := List.suffix_append [c, d] r
    rw [afterTemplate]
    split
    · exact List.suffix_cons c _
    split
    · exact (afterTemplate_isSuffix (d :: c :: seen) r).trans hskip
    split
    -- an expression, and behind its brace the rest of the template
    · have hinner := (afterInterpolation (d :: c :: seen) 1 r { goal := .operand }).2
      exact ((afterTemplate_isSuffix _ _).trans (afterInterpolation_isSuffix _ 1 r _)).trans hskip
    · exact (afterTemplate_isSuffix (c :: seen) (d :: r)).trans (List.suffix_cons c _)
termination_by 2 * t.length
decreasing_by
  all_goals
    simp only [List.length_cons]
    omega

theorem afterInterpolation_isSuffix (seen : Text) (depth : Nat) (t : Text) (s : State) :
    (afterInterpolation seen depth t s).1 <:+ t := by
  rcases t with _ | ⟨c, r⟩
  · simp only [afterInterpolation, List.suffix_rfl]
  · rw [afterInterpolation]
    split
    · exact (afterInterpolation_isSuffix (c :: seen) depth r _).trans (List.suffix_cons c r)
    split
    · exact List.suffix_cons c r
    · have hshorter := (scanOne .typescript seen c r s).shorter
      have hrest := scanOne_isSuffix .typescript seen c r s
      exact ((afterInterpolation_isSuffix _ _ _ _).trans hrest).trans (List.suffix_cons c r)
termination_by 2 * t.length + 1
decreasing_by
  · simp only [List.length_cons]
    omega
  · omega
  · simp only [List.length_cons]
    omega

end

/-- What was read and what is left make up the text. -/
theorem consumed_append {t rest : Text} (h : rest <:+ t) : consumed t rest ++ rest = t := by
  obtain ⟨lead, rfl⟩ := h
  simp [consumed]

end ChangeReview.Lexeme
