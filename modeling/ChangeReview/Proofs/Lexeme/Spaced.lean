import ChangeReview.Lexeme.Scan
import ChangeReview.Proofs.Text.Words

/-!
# Scanners before a blank

A scanner that ends before the rest of a text ends there as well if blanks are put into the rest, or
before it. A closed string or comment ends where it is closed, whatever follows; names, numbers and
operators take no blank in. Only a comment up to the end of its line takes blanks in that come right
behind it.
-/

namespace ChangeReview.Lexeme

variable {x z z' r : Text} {c : CodePoint}

/-! ## Blanks put in -/

/-- `t'` is `t` with blanks put in somewhere before its end. -/
def Spaced (t t' : Text) : Prop :=
  ∃ y w v, t = y ++ v ∧ t' = y ++ (w ++ v) ∧ v ≠ [] ∧ w ≠ [] ∧ ∀ b ∈ w, b.isBlank = true

theorem Spaced.ne_nil (h : Spaced z z') : z ≠ [] := by
  obtain ⟨y, w, v, rfl, -, hv, -, -⟩ := h
  simp [hv]

/-- The first code point stays, or a blank comes before it. -/
theorem Spaced.head (h : Spaced z z') : z'.head? = z.head? ∨ ∃ b, b.isBlank = true ∧ z'.head? = some b := by
  obtain ⟨y, w, v, rfl, rfl, -, hw, hblank⟩ := h
  rcases y with _ | ⟨a, y⟩
  · obtain ⟨b, w', rfl⟩ := List.exists_cons_of_ne_nil hw
    exact Or.inr ⟨b, hblank b List.mem_cons_self, rfl⟩
  · exact Or.inl rfl

/-- The code point after the first one stays the same, or a blank comes in its place. -/
theorem Spaced.head_append (h : Spaced z z') (x : Text) :
    (x ++ z').head? = (x ++ z).head? ∨ x = [] ∧ ∃ b, b.isBlank = true ∧ z'.head? = some b := by
  rcases x with _ | ⟨a, x⟩
  · rcases h.head with hsame | hblank
    · exact Or.inl hsame
    · exact Or.inr ⟨rfl, hblank⟩
  · exact Or.inl rfl

/-- What has no blank in it and stands before the blanks stood there without them. -/
theorem Spaced.isPrefix {o : Text} (h : Spaced z z') (ho : ∀ a ∈ o, a.isBlank = false)
    (hlead : o <+: x ++ z') : o <+: x ++ z := by
  obtain ⟨y, w, v, rfl, rfl, -, hw, hblank⟩ := h
  obtain ⟨b, w', rfl⟩ := List.exists_cons_of_ne_nil hw
  rw [← List.append_assoc] at hlead ⊢
  have hfit : o <+: x ++ y := by
    rcases List.prefix_or_prefix_of_prefix hlead (List.prefix_append _ _) with hfit | ⟨t, rfl⟩
    · exact hfit
    · rcases t with _ | ⟨a, t⟩
      · simp
      · have hab : a = b := (List.cons_prefix_cons.1 ((List.prefix_append_right_inj _).1 hlead)).1
        have hno := ho a (by simp)
        rw [hab, hblank b List.mem_cons_self] at hno
        cases hno
  exact hfit.trans (List.prefix_append _ v)

/-! ## Scanners before a blank -/

theorem ne_of_length_le {t : Text} (h : t.length ≤ r.length) : t ≠ c :: r := by
  rintro rfl
  exact Nat.not_succ_le_self _ h

/-- Where a run of code points of a class ends, all before it are in the class and the next is not. -/
theorem of_dropWhile_eq_right {p : CodePoint → Bool} (hx : (x ++ z).dropWhile p = z) :
    (∀ a ∈ x, p a = true) ∧ ∀ a, z.head? = some a → ¬ p a = true := by
  induction x with
  | nil =>
    refine ⟨by simp, fun a ha hp => ?_⟩
    obtain ⟨r, rfl⟩ := List.head?_eq_some_iff.1 ha
    rw [List.nil_append, List.dropWhile_cons_of_pos hp] at hx
    exact ne_of_length_le (length_dropWhile_le p r) hx
  | cons a x ih =>
    rw [List.cons_append] at hx
    by_cases ha : p a = true
    · rw [List.dropWhile_cons_of_pos ha] at hx
      obtain ⟨hall, hend⟩ := ih hx
      exact ⟨List.forall_mem_cons.2 ⟨ha, hall⟩, hend⟩
    · rw [List.dropWhile_cons_of_neg ha] at hx
      exact absurd hx.symm (ne_of_length_le (by simp))

theorem dropWhile_eq_self {p : CodePoint → Bool} (h : ∀ a, z.head? = some a → ¬ p a = true) :
    z.dropWhile p = z := by
  rcases z with _ | ⟨a, z⟩
  · rfl
  · exact List.dropWhile_cons_of_neg (h a rfl)

theorem afterIdentifier_spaced (h : Spaced z z') (hx : afterIdentifier (x ++ z) = z) :
    afterIdentifier (x ++ z') = z' := by
  obtain ⟨hall, hend⟩ := of_dropWhile_eq_right hx
  unfold afterIdentifier
  rw [List.dropWhile_append_of_pos hall]
  refine dropWhile_eq_self fun a ha => ?_
  rcases h.head with hsame | ⟨b, hblank, hb⟩
  · exact hend a (hsame.symm.trans ha)
  · cases hb.symm.trans ha
    rw [CodePoint.not_continuesIdentifier (CodePoint.endsWord_of_isBlank hblank)]
    exact Bool.false_ne_true

theorem afterNumber_stays {last : CodePoint} (h : afterNumber last (c :: r) = c :: r) (r' : Text) :
    afterNumber last (c :: r') = c :: r' := by
  unfold afterNumber at h ⊢
  split at h
  · exact absurd h (ne_of_length_le (length_afterNumber_le c r))
  rename_i hword
  split at h
  · exact absurd h (ne_of_length_le (length_afterNumber_le c r))
  rename_i hsign
  rw [if_neg hword, if_neg hsign]

theorem afterNumber_blank {last : CodePoint} (h : c.isBlank = true) : afterNumber last (c :: r) = c :: r := by
  have hend := CodePoint.endsWord_of_isBlank h
  have hword := CodePoint.not_isLetterOrNumber hend
  simp only [CodePoint.endsWord, CodePoint.isWord, h, Bool.and_eq_true, bne_iff_ne] at hend
  have hline : (c == '_') = false := by
    rw [beq_eq_false_iff_ne]
    rintro rfl
    cases h
  simp [afterNumber, hword, hline, hend]

theorem afterNumber_spaced {last : CodePoint} (h : Spaced z z') (hx : afterNumber last (x ++ z) = z) :
    afterNumber last (x ++ z') = z' := by
  induction x generalizing last with
  | nil =>
    obtain ⟨a, r, rfl⟩ := List.exists_cons_of_ne_nil h.ne_nil
    rcases z' with _ | ⟨b, r'⟩
    · rfl
    rcases h.head with heq | ⟨b', hblank, hb'⟩
    · cases heq
      exact afterNumber_stays hx r'
    · cases hb'
      exact afterNumber_blank hblank
  | cons a x ih =>
    rw [List.cons_append] at hx ⊢
    unfold afterNumber at hx ⊢
    split at hx
    · rename_i ha
      rw [if_pos ha]
      exact ih hx
    rename_i ha
    split at hx
    · rename_i ha'
      rw [if_neg ha, if_pos ha']
      exact ih hx
    · exact absurd hx.symm (ne_of_length_le (by simp))

/-- A string that is closed is closed before any rest. -/
theorem afterQuote_closed {quote : CodePoint} {raw escaped : Bool} (hz : z ≠ [])
    (hx : afterQuote quote raw escaped (x ++ z) = z) (z' : Text) :
    afterQuote quote raw escaped (x ++ z') = z' := by
  induction x generalizing escaped with
  | nil =>
    obtain ⟨a, r, rfl⟩ := List.exists_cons_of_ne_nil hz
    rw [List.nil_append, afterQuote] at hx
    split at hx
    · exact absurd hx (ne_of_length_le (Nat.le_refl _))
    · exact absurd hx (ne_of_length_le (length_afterQuote_le _ _ _ r))
  | cons a x ih =>
    rw [List.cons_append, afterQuote] at hx ⊢
    split at hx
    · rename_i ha
      rw [if_pos ha, List.append_left_eq_self.1 hx, List.nil_append]
    · rename_i ha
      rw [if_neg ha]
      exact ih hx

/-- A comment that is closed is closed before any rest. -/
theorem afterBlockComment_closed (hz : z ≠ []) (hx : afterBlockComment (x ++ z) = z) (z' : Text) :
    afterBlockComment (x ++ z') = z' := by
  have hstart : ∀ a r, afterBlockComment (a :: r) ≠ a :: r := by
    intro a r
    rcases r with _ | ⟨b, r⟩
    · simp [afterBlockComment]
    · rw [afterBlockComment]
      split
      · exact ne_of_length_le (by simp)
      · exact ne_of_length_le (length_afterBlockComment_le _)
  obtain ⟨d, r, rfl⟩ := List.exists_cons_of_ne_nil hz
  induction x with
  | nil => exact absurd hx (hstart d r)
  | cons a x ih =>
    rcases x with _ | ⟨b, x⟩
    · rw [List.singleton_append, afterBlockComment] at hx
      split at hx
      · exact absurd hx (ne_of_length_le (Nat.le_refl _))
      · exact absurd hx (hstart d r)
    · rw [List.cons_append, List.cons_append, afterBlockComment] at hx ⊢
      split at hx
      · rename_i hclose
        rw [if_pos hclose, List.append_left_eq_self.1 hx, List.nil_append]
      · rename_i hclose
        rw [if_neg hclose]
        exact ih hx

theorem operators_unspaced : ∀ o ∈ operators, 2 ≤ o.length ∧ ∀ a ∈ o, a.isBlank = false := by decide

/-- An operator that ends before the blanks is found again. -/
theorem operator?_spaced (h : Spaced z z') (hfit : ∀ o, operator? (x ++ z) = some o → o.length ≤ x.length) :
    operator? (x ++ z') = operator? (x ++ z) := by
  have hback : ∀ o ∈ operators, Text.startsWith (x ++ z') o = true → Text.startsWith (x ++ z) o = true := by
    intro o ho hstart
    exact Text.startsWith_iff.2 (h.isPrefix (operators_unspaced o ho).2 (Text.startsWith_iff.1 hstart))
  cases hfind : operator? (x ++ z) with
  | none =>
    unfold operator? at hfind ⊢
    rw [List.find?_eq_none] at hfind ⊢
    exact fun o ho hstart => hfind o ho (hback o ho hstart)
  | some o =>
    have hlength := hfit o hfind
    unfold operator? at hfind ⊢
    obtain ⟨hstart, earlier, later, hlist, hnone⟩ := List.find?_eq_some_iff_append.1 hfind
    refine List.find?_eq_some_iff_append.2 ⟨?_, earlier, later, hlist, ?_⟩
    · have hx : o <+: x := List.prefix_of_prefix_length_le (Text.startsWith_iff.1 hstart)
        (List.prefix_append x z) hlength
      exact Text.startsWith_iff.2 (hx.trans (List.prefix_append x z'))
    · intro a ha
      have hno := hnone a ha
      simp only [Bool.not_eq_true'] at hno ⊢
      rw [Bool.eq_false_iff] at hno ⊢
      exact fun hstart' => hno (hback a (hlist ▸ List.mem_append_left _ ha) hstart')

/-- A code point that may come second in an operator. -/
def continuesOperator (c : CodePoint) : Bool := (Text.ofString "=&*.?|^+->:").contains c

theorem operator?_single (h : ∀ b ∈ r.head?, continuesOperator b = false) : operator? (c :: r) = none := by
  have hsecond : ∀ o ∈ operators, ∃ b ∈ o.tail.head?, continuesOperator b = true := by decide
  refine List.find?_eq_none.2 fun o ho hstart => ?_
  obtain ⟨b, hb, hcontinues⟩ := hsecond o ho
  obtain ⟨rest, hrest⟩ := Text.startsWith_iff.1 hstart
  obtain ⟨o', ho'⟩ := List.head?_eq_some_iff.1 hb
  rcases o with _ | ⟨a, o⟩
  · cases ho'
  · have hr : r.head? = some b := by
      rw [← (List.cons.inj hrest).2, show o = b :: o' from ho']
      rfl
    rw [h b hr] at hcontinues
    cases hcontinues

/-- No operator goes on with a blank. -/
theorem continuesOperator_of_isBlank (h : c.isBlank = true) : continuesOperator c = false := by
  have hall : ∀ a ∈ (Text.ofString "=&*.?|^+->:"), a.isBlank = false := by decide
  refine Bool.eq_false_iff.2 fun hcontinues => ?_
  rw [hall c (List.contains_iff_mem.1 hcontinues)] at h
  cases h

theorem operator?_blank {b : CodePoint} (hblank : b.isBlank = true) (hr : r.head? = some b) :
    operator? (c :: r) = none := by
  refine operator?_single fun a ha => ?_
  rw [Option.mem_def, hr, Option.some_inj] at ha
  exact ha ▸ continuesOperator_of_isBlank hblank

theorem drop_spaced {k : Nat} (hz : z ≠ []) (hx : (x ++ z).drop k = z) (z' : Text) : (x ++ z').drop k = z' := by
  have hpos : 0 < z.length := List.length_pos_iff.2 hz
  have hlength := congrArg List.length hx
  rw [List.length_drop, List.length_append] at hlength
  have hk : k = x.length := by omega
  rw [hk, List.drop_left]

/-- The blanks are taken in by a comment up to the end of its line, if they come right behind it. -/
theorem afterLineComment_spaced (h : Spaced z z') (hx : afterLineComment .go (x ++ z) = z) :
    afterLineComment .go (x ++ z') = z' ∨
      z.head? = some ('\n' : CodePoint) ∧
        ∃ w, (∀ b ∈ w, b.isBlank = true) ∧ afterLineComment .go (x ++ z') = w ++ z := by
  have hgo : ∀ t, afterLineComment .go t = t.dropWhile (· != ('\n' : CodePoint)) := fun _ => rfl
  rw [hgo] at hx
  obtain ⟨hall, hend⟩ := of_dropWhile_eq_right hx
  rw [hgo, List.dropWhile_append_of_pos hall]
  obtain ⟨y, w, v, rfl, rfl, hv, -, hblank⟩ := h
  rcases y with _ | ⟨a, y⟩
  · have hv' := dropWhile_eq_self hend
    obtain ⟨a, v, rfl⟩ := List.exists_cons_of_ne_nil hv
    refine Or.inr ⟨?_, w.dropWhile (· != ('\n' : CodePoint)), ?_, ?_⟩
    · simpa using hend a rfl
    · exact fun b hb => hblank b ((List.dropWhile_suffix _).subset hb)
    · rw [List.nil_append] at hv' ⊢
      rw [List.dropWhile_append, hv']
      split
      · rename_i hnil
        rw [List.isEmpty_iff.1 hnil]
        rfl
      · rfl
  · exact Or.inl (dropWhile_eq_self hend)

end ChangeReview.Lexeme
