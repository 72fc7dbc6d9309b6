import ChangeReview.Declaration.LooseToken
import ChangeReview.Proofs.Text.Basic

/-!
# Lengths of loose tokens

Every piece that a line gives is a part of the line, and only the end of the line is empty. A scan that goes
on behind a piece therefore comes to the end of its line.
-/

namespace ChangeReview.Declaration

namespace Numeral

variable (isDigit : CodePoint → Bool) (t : Text)

theorem digitsLength_le : digitsLength isDigit t ≤ t.length := by
  fun_induction digitsLength isDigit t <;> simp only [List.length_cons, List.length_nil] at * <;> omega

theorem decimalLength_le : decimalLength t ≤ t.length := digitsLength_le _ t

theorem exponentLength_le : exponentLength t ≤ t.length := by
  unfold exponentLength
  split
  · rename_i e r
    split
    · extract_lets sign
      have hdigits := decimalLength_le (r.drop sign)
      rw [List.length_drop] at hdigits
      clear_value sign
      split <;> simp only [List.length_cons] <;> omega
    · exact Nat.zero_le _
  · exact Nat.zero_le _

theorem pointLength_le : pointLength t ≤ t.length := by
  have hwhole := decimalLength_le t
  rw [pointLength]
  dsimp only
  split
  · rename_i p r hdrop
    have hlength := congrArg List.length hdrop
    rw [List.length_drop, List.length_cons] at hlength
    have hfraction := decimalLength_le r
    split
    · exact Nat.zero_le _
    · split <;> omega
  · exact Nat.zero_le _

theorem floatLength_le : floatLength t ≤ t.length := by
  have hpoint := pointLength_le t
  have hwhole := decimalLength_le t
  rw [floatLength]
  split
  · dsimp only
    have hexponent := exponentLength_le (t.drop (decimalLength t))
    rw [List.length_drop] at hexponent
    split
    · exact Nat.zero_le _
    · split <;> omega
  · rename_i n hn
    have hexponent := exponentLength_le (t.drop (n + 1))
    rw [List.length_drop] at hexponent
    omega

theorem basedLength_le : basedLength isDigit t ≤ t.length := by
  cases t with
  | nil => exact Nat.le_refl 0
  | cons c r =>
    have hrest := digitsLength_le isDigit r
    have hall := digitsLength_le isDigit (c :: r)
    rw [basedLength]
    split
    · split <;> simp only [List.length_cons] <;> omega
    · exact hall

theorem integerLength_le : integerLength t ≤ t.length := by
  have hdecimal := decimalLength_le t
  unfold integerLength
  split
  · rename_i z b r
    split
    · exact hdecimal
    · extract_lets digits
      have hdigits : digits ≤ r.length := by
        show (if _ then _ else _) ≤ _
        split
        · exact basedLength_le _ r
        · split
          · exact basedLength_le _ r
          · split
            · exact basedLength_le _ r
            · exact Nat.zero_le _
      split
      · exact digitsLength_le _ _
      · simp only [List.length_cons]
        omega
  · exact hdecimal

theorem lt_of_startsImaginary {n : Nat} (h : startsImaginary (t.drop n) = true) : n < t.length := by
  rcases Nat.lt_or_ge n t.length with hlt | hle
  · exact hlt
  · rw [List.drop_eq_nil_of_le hle] at h
    cases h

theorem length_le : length t ≤ t.length := by
  have hfloat := floatLength_le t
  rw [length]
  split
  · rename_i h
    exact lt_of_startsImaginary t (Bool.and_eq_true _ _ ▸ h).2
  · split
    · split
      · rename_i h
        exact lt_of_startsImaginary t h
      · exact hfloat
    · exact integerLength_le t

end Numeral

namespace LooseToken

variable {t r : Text} {c d quote : CodePoint} {n : Nat}

/-- A length that is not zero and not past the end of a text. -/
def Within (n : Nat) (t : Text) : Prop := 0 < n ∧ n ≤ t.length

theorem within_one : Within 1 (c :: r) := by simp [Within]

theorem Within.cons (h : Within n r) : Within (n + 1) (c :: r) := by
  simp only [Within, List.length_cons] at h ⊢
  omega

theorem within_lineStringLength? (h : lineStringLength? quote t = some n) : Within n t := by
  fun_induction lineStringLength? quote t generalizing n with
  | case1 => cases h
  | case2 => cases h; exact within_one
  | case3 => cases h
  | case4 => cases h
  | case5 => cases h; exact within_one.cons
  | case6 c _ _ _ d r' _ hd =>
    cases h
    obtain ⟨r, rfl⟩ := Text.startsWith_iff.1 (Bool.and_eq_true _ _ ▸ hd).2
    exact within_one.cons.cons
  | case7 c _ _ _ d r' _ _ ih =>
    obtain ⟨m, hm, rfl⟩ := Option.map_eq_some_iff.1 h
    exact (ih hm).cons.cons
  | case8 c r _ _ _ ih =>
    obtain ⟨m, hm, rfl⟩ := Option.map_eq_some_iff.1 h
    exact (ih hm).cons

theorem within_closeSingle? (h : closeSingle? quote t = some n) : Within n t := by
  fun_induction closeSingle? quote t generalizing n with
  | case1 => cases h
  | case2 => cases h; exact within_one
  | case3 => cases h
  | case4 => cases h
  | case5 c _ _ d r' _ ih =>
    obtain ⟨m, hm, rfl⟩ := Option.map_eq_some_iff.1 h
    exact (ih hm).cons.cons
  | case6 c r _ _ ih =>
    obtain ⟨m, hm, rfl⟩ := Option.map_eq_some_iff.1 h
    exact (ih hm).cons

theorem within_closeTriple? (h : closeTriple? quote t = some n) : Within n t := by
  fun_induction closeTriple? quote t generalizing n with
  | case1 => cases h
  | case2 c r hc =>
    cases h
    obtain ⟨rest, rfl⟩ := Text.startsWith_iff.1 (Bool.and_eq_true _ _ ▸ hc).2
    exact within_one.cons.cons
  | case3 => cases h
  | case4 => cases h
  | case5 c _ d r' _ _ ih =>
    obtain ⟨m, hm, rfl⟩ := Option.map_eq_some_iff.1 h
    exact (ih hm).cons.cons
  | case6 c r _ _ ih =>
    obtain ⟨m, hm, rfl⟩ := Option.map_eq_some_iff.1 h
    exact (ih hm).cons

theorem operators_ne_nil : ∀ operator ∈ operators, operator ≠ [] := by decide +kernel

/-- A backslash and the line break that it hides. -/
def IsBend (gap : Text) : Prop := gap = (['\\', '\n'] : Text) ∨ gap = (['\\', '\r', '\n'] : Text)

/-- Each piece has a length within its text, and a continued line ends in a hidden break. -/
def Piece.Fits (t : Text) : Piece → Prop
  | .finish => t = []
  | .continuation n => n ≤ t.length ∧ IsBend (t.take n)
  | .comment n | .numeral n | .lineBreak n | .operator n | .word n => Within n t
  | .tripleQuote _ n | .lineString _ n => Within n t
  | .nothing => t ≠ []

theorem within_of_startsWith (h : Text.startsWith (t.drop n) r = true) (hr : r ≠ []) :
    Within (n + r.length) t := by
  have hle := (Text.startsWith_iff.1 h).length_le
  have hpos := List.length_pos_iff.2 hr
  rw [List.length_drop] at hle
  constructor <;> omega

theorem piece_fits (t : Text) : (piece t).Fits t := by
  unfold piece
  split
  · rfl
  rename_i c r
  split
  · rename_i h
    rw [Bool.and_eq_true, beq_iff_eq] at h
    obtain ⟨rfl, hstart⟩ := h
    obtain ⟨rest, rfl⟩ := Text.startsWith_iff.1 hstart
    exact ⟨by simp [Text.ofString], Or.inl rfl⟩
  split
  · rename_i h
    rw [Bool.and_eq_true, beq_iff_eq] at h
    obtain ⟨rfl, hstart⟩ := h
    obtain ⟨rest, rfl⟩ := Text.startsWith_iff.1 hstart
    exact ⟨by simp [Text.ofString], Or.inr rfl⟩
  split
  · rename_i h
    rw [beq_iff_eq] at h
    subst h
    refine ⟨?_, (List.takeWhile_sublist _).length_le⟩
    rw [List.takeWhile_cons_of_pos (by decide)]
    exact Nat.succ_pos _
  extract_lets lead quote triple lineString
  have htriple : triple = true → Within (lead.getD 0 + 3) (c :: r) := by
    subst triple
    clear_value lead quote
    cases lead with
    | none => exact fun h => absurd h Bool.false_ne_true
    | some n => exact fun h => within_of_startsWith h (List.cons_ne_nil _ _)
  have hline : ∀ n, lineString = some n → Within n (c :: r) := by
    intro n h
    obtain ⟨lead, -, h⟩ := Option.bind_eq_some_iff.1 h
    obtain ⟨m, hm, rfl⟩ := Option.map_eq_some_iff.1 h
    have hwithin := within_lineStringLength? hm
    rw [Within, List.length_drop] at hwithin
    constructor <;> omega
  have hnumeral := Numeral.length_le (c :: r)
  clear_value triple lineString
  split
  · exact htriple ‹_›
  split
  · rename_i n hn
    rw [hn] at hnumeral
    exact ⟨Nat.succ_pos n, hnumeral⟩
  split
  · exact within_one
  split
  · rename_i h
    obtain ⟨rest, rfl⟩ := Text.startsWith_iff.1 (Bool.and_eq_true _ _ ▸ h).2
    exact within_one.cons
  split
  · rename_i operator h
    have hstart : Text.startsWith ((c :: r).drop 0) operator = true := List.find?_some h
    have hwithin := within_of_startsWith hstart (operators_ne_nil operator (List.mem_of_find?_eq_some h))
    rwa [Nat.zero_add] at hwithin
  cases lineString with
  | some n => exact hline n rfl
  | none =>
    dsimp only
    split
    · exact List.cons_ne_nil c r
    · rename_i n h
      have hword := (List.takeWhile_sublist isWord (l := c :: r)).length_le
      rw [h] at hword
      exact ⟨Nat.succ_pos n, hword⟩

end LooseToken

end ChangeReview.Declaration
