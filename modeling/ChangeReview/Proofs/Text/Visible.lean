import ChangeReview.Proofs.Text.Basic
import ChangeReview.Text.Visible

/-!
# Texts that can be shown

A text for a terminal holds printable code points only, and a text for a document no surrogates,
whatever the text they are made of. What cannot be shown is written by its number, in digits that read
back as that number.
-/

namespace ChangeReview

/-! ## Hexadecimal digits -/

namespace CodePoint

/-- The digit of a number below sixteen. -/
def hexDigit (d : Nat) : CodePoint := ofChar (Nat.digitChar d)

theorem hexValue?_hexDigit : ∀ d < 16, (hexDigit d).hexValue? = some d := by decide

theorem isPrintable_of_ascii {c : CodePoint} (h : 0x20 ≤ c.val ∧ c.val ≤ 0x7E) : c.isPrintable = true := by
  have hascii : c.isAscii = true := by
    rw [isAscii, decide_eq_true_eq]
    omega
  rw [isPrintable, if_pos hascii]
  simp [h.1, h.2]

theorem hexDigit_ascii : ∀ d < 16, 0x20 ≤ (hexDigit d).val ∧ (hexDigit d).val ≤ 0x7E := by decide

end CodePoint

namespace Text

open CodePoint (hexDigit)

theorem hex_one {n : Nat} (h : n < 16) : hex 1 n = [hexDigit n] := by
  simp [hex, Nat.toDigits_of_lt_base h, hexDigit]

/-- A wider numeral has one more digit at its end. -/
theorem hex_succ {width : Nat} (hwidth : 0 < width) (n : Nat) :
    hex (width + 1) n = hex width (n / 16) ++ [hexDigit (n % 16)] := by
  by_cases hn : n < 16
  · have hzero : n / 16 = 0 := by omega
    have hsame : n % 16 = n := by omega
    have hfill : List.replicate width (CodePoint.ofChar '0')
        = List.replicate (width - 1) (CodePoint.ofChar '0') ++ [CodePoint.ofChar '0'] := by
      rw [← List.replicate_succ', Nat.sub_add_cancel hwidth]
    rw [hzero, hsame]
    simp [hex, Nat.toDigits_of_lt_base hn, hexDigit, hfill]
  · have hdigits := Nat.toDigits_of_base_le (show 1 < 16 by decide) (Nat.le_of_not_lt hn)
    simp [hex, hdigits, hexDigit]

theorem hex_four {n : Nat} (h : n < 0x10000) :
    hex 4 n = [hexDigit (n / 4096), hexDigit (n / 256 % 16), hexDigit (n / 16 % 16), hexDigit (n % 16)] := by
  rw [hex_succ (by decide), hex_succ (by decide), hex_succ (by decide), hex_one (by omega)]
  have h256 : n / 16 / 16 = n / 256 := by omega
  have h4096 : n / 16 / 16 / 16 = n / 4096 := by omega
  rw [h4096, h256]
  rfl

theorem mem_hex {width n : Nat} {c : CodePoint} (h : c ∈ hex width n) : ∃ d < 16, c = hexDigit d := by
  have hdigits : ∀ n, ∀ e ∈ Nat.toDigits 16 n, ∃ d < 16, e = Nat.digitChar d := by
    intro n
    induction n using Nat.strongRecOn with
    | ind n ih =>
      intro e he
      by_cases hn : n < 16
      · rw [Nat.toDigits_of_lt_base hn, List.mem_singleton] at he
        exact ⟨n, hn, he⟩
      · rw [Nat.toDigits_of_base_le (by decide) (Nat.le_of_not_lt hn), List.mem_append,
          List.mem_singleton] at he
        rcases he with he | he
        · exact ih (n / 16) (by omega) e he
        · exact ⟨n % 16, by omega, he⟩
  unfold hex at h
  rw [List.mem_append] at h
  rcases h with h | h
  · exact ⟨0, by decide, (List.mem_replicate.1 h).2⟩
  · obtain ⟨e, he, rfl⟩ := List.mem_map.1 h
    obtain ⟨d, hd, rfl⟩ := hdigits n e he
    exact ⟨d, hd, rfl⟩

/-! ## Plain texts -/

variable {t u : Text}

/-- Every code point of the text is a visible one of ASCII, or a blank. -/
def Plain (t : Text) : Prop := ∀ c ∈ t, 0x20 ≤ c.val ∧ c.val ≤ 0x7E

@[simp] theorem plain_append : Plain (t ++ u) ↔ Plain t ∧ Plain u := List.forall_mem_append

/-- Plain lines, one below the other. -/
def PlainLines (t : Text) : Prop := ∀ c ∈ t, c = '\n' ∨ (0x20 ≤ c.val ∧ c.val ≤ 0x7E)

theorem Plain.lines (h : Plain t) : PlainLines t := fun c hc => Or.inr (h c hc)

theorem plainLines_append : PlainLines (t ++ u) ↔ PlainLines t ∧ PlainLines u := List.forall_mem_append

theorem plain_literal (l : List Char) (h : l.all (fun c => 0x20 ≤ c.toNat && c.toNat ≤ 0x7E) = true) :
    Plain (ofString (String.ofList l)) := by
  intro c hc
  rw [ofString_ofList] at hc
  obtain ⟨d, hd, rfl⟩ := List.mem_map.1 hc
  simpa using List.all_eq_true.1 h d hd

theorem plain_hex (width n : Nat) : Plain (hex width n) := by
  intro c hc
  obtain ⟨d, hd, rfl⟩ := mem_hex hc
  exact CodePoint.hexDigit_ascii d hd

theorem val_of_mem_ofNat {n : Nat} {c : CodePoint} (h : c ∈ ofNat n) : 0x30 ≤ c.val ∧ c.val ≤ 0x39 := by
  obtain ⟨d, hd, rfl⟩ := List.mem_map.1 h
  exact Char.isDigit_iff_toNat.1 (Nat.isDigit_of_mem_toDigits (by decide) (by decide) hd)

theorem plain_ofNat (n : Nat) : Plain (ofNat n) := by
  intro c hc
  obtain ⟨hlow, hhigh⟩ := val_of_mem_ofNat hc
  omega

theorem plain_ofInt (n : Int) : Plain (ofInt n) := by
  cases n with
  | ofNat n => exact plain_ofNat n
  | negSucc n => exact List.forall_mem_cons.2 ⟨by decide, plain_ofNat (n + 1)⟩

theorem plain_numbered (c : CodePoint) : Plain c.numbered := by
  unfold CodePoint.numbered
  split
  · exact plain_append.2 ⟨plain_literal _ (by decide), plain_hex _ _⟩
  split
  · exact plain_append.2 ⟨plain_literal _ (by decide), plain_hex _ _⟩
  · exact plain_append.2 ⟨plain_literal _ (by decide), plain_hex _ _⟩

theorem plain_carried (c : CodePoint) : Plain c.carried :=
  plain_append.2 ⟨plain_literal _ (by decide), plain_hex _ _⟩

/-! ## Printable texts -/

/-- Every code point of the text is printable. -/
def Printable (t : Text) : Prop := ∀ c ∈ t, c.isPrintable = true

/-- Every code point of the text is printable or a line feed. -/
def Shown (t : Text) : Prop := ∀ c ∈ t, c = '\n' ∨ c.isPrintable = true

theorem Plain.printable (h : Plain t) : Printable t := fun c hc => CodePoint.isPrintable_of_ascii (h c hc)

theorem Printable.shown (h : Printable t) : Shown t := fun c hc => Or.inr (h c hc)

/-- A line feed is not printable. -/
theorem Printable.oneLine (h : Printable t) : OneLine t := by
  intro hfeed
  exact absurd (h _ hfeed) (by decide)

@[simp] theorem printable_nil : Printable [] := by simp [Printable]

@[simp] theorem printable_append : Printable (t ++ u) ↔ Printable t ∧ Printable u := List.forall_mem_append

theorem Printable.of_subset (hu : Printable u) (h : t ⊆ u) : Printable t := fun c hc => hu c (h hc)

theorem Shown.of_subset (hu : Shown u) (h : t ⊆ u) : Shown t := fun c hc => hu c (h hc)

theorem shown_append : Shown (t ++ u) ↔ Shown t ∧ Shown u := List.forall_mem_append

theorem printable_join {sep : Text} {ts : List Text} (hsep : Printable sep) (h : ∀ t ∈ ts, Printable t) :
    Printable (join sep ts) := by
  intro c hc
  rcases mem_join hc with hc | ⟨t, ht, hc⟩
  · exact hsep c hc
  · exact h t ht c hc

/-- Printable lines one below the other. -/
theorem shown_join {ls : List Text} (h : ∀ l ∈ ls, Printable l) : Shown (join "\n" ls) := by
  intro c hc
  rcases mem_join hc with hc | ⟨l, hl, hc⟩
  · exact Or.inl (by simpa [ofString] using hc)
  · exact Or.inr (h l hl c hc)

/-- The code points of a literal: ASCII, and the signs that reports use. -/
def isSign (c : Char) : Bool := (0x20 ≤ c.toNat && c.toNat ≤ 0x7E) || c == '→' || c == '—' || c == '⚠'

theorem isPrintable_of_range {c : CodePoint} {i first last : Nat}
    (h : printableRanges[i]? = some (first, last)) (hc : 0x80 ≤ first ∧ first ≤ c.val ∧ c.val ≤ last) :
    c.isPrintable = true := by
  have hascii : ¬ c.isAscii = true := by
    rw [CodePoint.isAscii, decide_eq_true_eq]
    omega
  obtain ⟨hi, hrange⟩ := Array.getElem?_eq_some_iff.1 h
  rw [CodePoint.isPrintable, if_neg hascii, inRanges, Array.any_eq_true]
  exact ⟨i, hi, by simp [hrange, hc.2.1, hc.2.2]⟩

theorem isPrintable_of_isSign {c : Char} (h : isSign c = true) : (CodePoint.ofChar c).isPrintable = true := by
  have harrow : printableRanges[252]? = some (0x2190, 0x2426) := by decide +kernel
  have hdash : printableRanges[244]? = some (0x2010, 0x2027) := by decide +kernel
  have hwarning : printableRanges[254]? = some (0x2460, 0x2B73) := by decide +kernel
  simp only [isSign, Bool.or_eq_true, Bool.and_eq_true, decide_eq_true_eq, beq_iff_eq] at h
  rcases h with ((h | rfl) | rfl) | rfl
  · exact CodePoint.isPrintable_of_ascii h
  · exact isPrintable_of_range harrow (by decide)
  · exact isPrintable_of_range hdash (by decide)
  · exact isPrintable_of_range hwarning (by decide)

theorem printable_literal (l : List Char) (h : l.all isSign = true) :
    Printable (ofString (String.ofList l)) := by
  intro c hc
  rw [ofString_ofList] at hc
  obtain ⟨d, hd, rfl⟩ := List.mem_map.1 hc
  exact isPrintable_of_isSign (List.all_eq_true.1 h d hd)

@[simp] theorem printable_ofNat (n : Nat) : Printable (ofNat n) := (plain_ofNat n).printable

@[simp] theorem printable_ofInt (n : Int) : Printable (ofInt n) := (plain_ofInt n).printable

/-! ## Texts for a terminal -/

@[simp] theorem printable_terminalSafe (t : Text) : Printable t.terminalSafe := by
  have hone : ∀ c : CodePoint, Printable c.terminalSafe := by
    intro c
    unfold CodePoint.terminalSafe
    split
    · exact printable_literal _ (by decide)
    split
    · exact printable_literal _ (by decide)
    split
    · exact printable_literal _ (by decide)
    split
    · exact (plain_carried c).printable
    split
    · rename_i hc
      intro d hd
      rwa [List.mem_singleton.1 hd]
    · exact (plain_numbered c).printable
  intro c hc
  obtain ⟨d, -, hc⟩ := List.mem_flatMap.1 hc
  exact hone d c hc

/-! ## Texts for a document -/

/-- No code point of the text is a surrogate. -/
def Proper (t : Text) : Prop := ∀ c ∈ t, c.isSurrogate = false

theorem Proper.of_subset (hu : Proper u) (h : t ⊆ u) : Proper t := fun c hc => hu c (h hc)

theorem Plain.proper (h : Plain t) : Proper t := by
  intro c hc
  obtain ⟨-, hhigh⟩ := h c hc
  unfold CodePoint.isSurrogate
  rw [Bool.and_eq_false_iff, decide_eq_false_iff_not]
  exact Or.inl (by omega)

/-- A character is no surrogate. -/
theorem proper_ofString (s : String) : Proper (ofString s) := by
  intro c hc
  obtain ⟨d, -, rfl⟩ := List.mem_map.1 hc
  have hvalid : d.toNat < 0xD800 ∨ 0xDFFF < d.toNat ∧ d.toNat < 0x110000 := d.valid
  unfold CodePoint.isSurrogate
  rw [CodePoint.ofChar_val, Bool.and_eq_false_iff, decide_eq_false_iff_not, decide_eq_false_iff_not]
  omega

theorem proper_surrogateFree (t : Text) : Proper t.surrogateFree := by
  have hone : ∀ c : CodePoint, Proper c.surrogateFree := by
    intro c
    unfold CodePoint.surrogateFree
    split
    · exact (plain_carried c).proper
    split
    · exact (plain_numbered c).proper
    · rename_i hc
      intro d hd
      rw [List.mem_singleton.1 hd]
      exact Bool.eq_false_iff.2 hc
  intro c hc
  obtain ⟨d, -, hc⟩ := List.mem_flatMap.1 hc
  exact hone d c hc

/-- A text without surrogates stays as it is. -/
theorem Proper.surrogateFree_eq (h : Proper t) : t.surrogateFree = t := by
  have hone : ∀ c : CodePoint, c.isSurrogate = false → c.surrogateFree = [c] := by
    intro c hc
    have hbyte : ¬ c.isEscapedByte = true := by
      intro hbyte
      simp only [CodePoint.isEscapedByte, CodePoint.isSurrogate, Bool.and_eq_true, Bool.and_eq_false_iff,
        decide_eq_true_eq, decide_eq_false_iff_not] at hbyte hc
      omega
    rw [CodePoint.surrogateFree, if_neg hbyte, if_neg (by simp [hc])]
  unfold surrogateFree
  induction t with
  | nil => rfl
  | cons c t ih =>
    obtain ⟨hc, ht⟩ := List.forall_mem_cons.1 h
    rw [List.flatMap_cons, hone c hc, ih ht]
    rfl

end Text

end ChangeReview
