import ChangeReview.Lexeme.Leaf
import ChangeReview.Proofs.Text.Basic

/-!
# Words and blanks

Word code points are those that a name of some language may hold: letters, digits, `_` and `$` in ASCII,
and all beyond ASCII but the blanks. Whatever a scanner takes into an identifier or a number is a word
code point, a point or a sign, so a blank ends both.
-/

namespace ChangeReview.CodePoint

open ChangeReview.Text

variable {c : CodePoint}

/-- A code point that may stand in a name. -/
def isWord (c : CodePoint) : Bool :=
  !c.isBlank && (!c.isAscii || c.isAsciiLetter || c.isAsciiDigit || c == '_' || c == '$')

/-- The blanks beyond ASCII. -/
def wideBlanks : List Nat :=
  [0x85, 0xA0, 0x1680, 0x2000, 0x2001, 0x2002, 0x2003, 0x2004, 0x2005, 0x2006, 0x2007, 0x2008, 0x2009,
    0x200A, 0x2028, 0x2029, 0x202F, 0x205F, 0x3000]

theorem mem_wideBlanks (hascii : c.isAscii = false) (hblank : c.isBlank = true) : c.val ∈ wideBlanks := by
  simp only [isAscii, decide_eq_false_iff_not] at hascii
  simp only [isBlank, Bool.or_eq_true, Bool.and_eq_true, decide_eq_true_eq, beq_iff_eq] at hblank
  simp only [wideBlanks, List.mem_cons, List.not_mem_nil, or_false]
  omega

/-- Whether a table holds none of the blanks beyond ASCII. -/
def blankFree (ranges : Array (Nat × Nat)) : Bool :=
  wideBlanks.all fun n => ranges.toList.all fun range => Nat.blt n range.1 || Nat.blt range.2 n

theorem isBlank_of_inRanges {ranges : Array (Nat × Nat)} (hranges : blankFree ranges = true)
    (hascii : c.isAscii = false) (h : inRanges ranges c.val = true) : c.isBlank = false := by
  rw [Bool.eq_false_iff]
  intro hblank
  obtain ⟨i, hi, hrange⟩ := Array.any_eq_true.1 h
  have hfree := List.all_eq_true.1 hranges c.val (mem_wideBlanks hascii hblank)
  have hout := List.all_eq_true.1 hfree ranges[i] (Array.getElem_mem_toList hi)
  simp only [Bool.and_eq_true, decide_eq_true_eq] at hrange
  simp only [Bool.or_eq_true, Nat.blt_eq] at hout
  omega

theorem isBlank_of_mem_letters (hascii : c.isAscii = false) (h : inRanges letterRanges c.val = true) :
    c.isBlank = false := isBlank_of_inRanges (by decide +kernel) hascii h

theorem isWord_of_not_ascii (hascii : c.isAscii = false) (hblank : c.isBlank = false) : c.isWord = true := by
  simp [isWord, hascii, hblank]

theorem isWord_of_ascii (hascii : c.isAscii = true)
    (h : (c.isAsciiLetter || c.isAsciiDigit || c == '_' || c == '$') = true) : c.isWord = true := by
  have hblank : c.isBlank = false := by
    simp only [isAscii, decide_eq_true_eq] at hascii
    simp only [isAsciiLetter, isAsciiDigit, Bool.or_eq_true, Bool.and_eq_true, decide_eq_true_eq,
      beq_iff_eq] at h
    simp only [isBlank, Bool.or_eq_false_iff, Bool.and_eq_false_iff, decide_eq_false_iff_not,
      beq_eq_false_iff_ne]
    have hsmall : 0x30 ≤ c.val ∨ c.val = 0x24 := by
      rcases h with ((h | h) | rfl) | rfl
      · omega
      · omega
      · exact Or.inl (by decide)
      · exact Or.inr (by decide)
    omega
  simp only [Bool.or_assoc] at h
  simp [isWord, hascii, hblank, h, Bool.or_assoc]

theorem isWord_of_isLetterOrNumber (h : c.isLetterOrNumber = true) : c.isWord = true := by
  unfold isLetterOrNumber at h
  cases hascii : c.isAscii with
  | true =>
    rw [hascii, if_pos rfl] at h
    exact isWord_of_ascii hascii (by simp only [h, Bool.true_or])
  | false =>
    rw [hascii, if_neg Bool.false_ne_true, Bool.or_eq_true] at h
    refine isWord_of_not_ascii hascii ?_
    rcases h with h | h
    · exact isBlank_of_mem_letters hascii h
    · exact isBlank_of_inRanges (by decide +kernel) hascii h

theorem isWord_of_continuesIdentifier (h : c.continuesIdentifier = true) : c.isWord = true := by
  unfold continuesIdentifier isNameContinue isNameStart at h
  cases hascii : c.isAscii with
  | true =>
    rw [hascii, if_pos rfl] at h
    refine isWord_of_ascii hascii ?_
    simp only [Bool.or_eq_true] at h ⊢
    tauto
  | false =>
    have hdollar : (c == '$') = false := by
      rw [beq_eq_false_iff_ne]
      rintro rfl
      cases hascii
    rw [hascii, hdollar] at h
    simp only [Bool.false_or, Bool.false_eq_true, if_false, Bool.or_eq_true, Bool.and_eq_true] at h
    refine isWord_of_not_ascii hascii ?_
    rcases h with (⟨h, -⟩ | h) | h
    · exact isBlank_of_mem_letters hascii h
    · exact isBlank_of_inRanges (by decide +kernel) hascii h
    · exact isBlank_of_inRanges (by decide +kernel) hascii h

/-- A code point at which an identifier and a number end. -/
def endsWord (c : CodePoint) : Bool := !c.isWord && c != '.' && c != '+' && c != '-'

theorem endsWord_of_isBlank (h : c.isBlank = true) : c.endsWord = true := by
  have hne : ∀ d : CodePoint, d.isBlank = false → (c != d) = true := by
    rintro d hd
    rw [bne_iff_ne]
    rintro rfl
    exact Bool.false_ne_true (hd.symm.trans h)
  have hword : c.isWord = false := by simp [isWord, h]
  simp only [endsWord, hword, hne '.' (by decide), hne '+' (by decide), hne '-' (by decide), Bool.not_false,
    Bool.and_self]

theorem not_continuesIdentifier (h : c.endsWord = true) : c.continuesIdentifier = false := by
  rw [Bool.eq_false_iff]
  intro hc
  simp [endsWord, isWord_of_continuesIdentifier hc] at h

theorem not_isLetterOrNumber (h : c.endsWord = true) : c.isLetterOrNumber = false := by
  rw [Bool.eq_false_iff]
  intro hc
  simp [endsWord, isWord_of_isLetterOrNumber hc] at h

variable {d : CodePoint}

theorem ne_of_isWord (h : c.isWord = true) (hd : d.isWord = false) : c ≠ d := by
  rintro rfl
  exact Bool.false_ne_true (hd.symm.trans h)

theorem contains_of_isWord {t : Text} (ht : ∀ d ∈ t, d.isWord = false) (h : c.isWord = true) :
    t.contains c = false := by
  rw [Bool.eq_false_iff]
  intro hc
  exact ne_of_isWord h (ht c (List.contains_iff_mem.1 hc)) rfl

theorem isBlank_of_isWord (h : c.isWord = true) : c.isBlank = false := by
  simp only [isWord, Bool.and_eq_true, Bool.not_eq_true'] at h
  exact h.1

theorem isQuote_of_isWord (h : c.isWord = true) : c.isQuote = false := by
  have hne : ∀ d : CodePoint, d.isWord = false → (c == d) = false := fun d hd => beq_false_of_ne (ne_of_isWord h hd)
  simp (disch := decide) only [isQuote, hne, Bool.or_self]

end ChangeReview.CodePoint

namespace ChangeReview

/-- A word: one or more word code points. Every identifier is one. -/
structure Word where
  text : Text
  nonempty : text ≠ []
  word : ∀ c ∈ text, c.isWord = true

theorem Word.text_injective : Function.Injective Word.text := by
  rintro ⟨t, _, _⟩ ⟨u, _, _⟩ h
  cases h
  rfl

theorem Word.exists_cons (w : Word) : ∃ c r, w.text = c :: r ∧ c.isWord = true := by
  obtain ⟨c, r, h⟩ := List.exists_cons_of_ne_nil w.nonempty
  exact ⟨c, r, h, w.word c (h ▸ List.mem_cons_self)⟩

end ChangeReview
