import Mathlib.Data.List.TakeDrop
import ChangeReview.Json.Reader
import ChangeReview.Json.Writer
import ChangeReview.Proofs.Text.Visible

/-!
# Strings and numerals read back

A step of the reader takes the escape of one code point and gives that code point, so a quoted string is read
back if it has no surrogates. The escape of every code point is ASCII. A numeral is read back if what
follows it cannot go on with it.
-/

namespace ChangeReview

theorem CodePoint.ofNat_eq {c : CodePoint} {n : Nat} (h : n = c.val) : CodePoint.ofNat n = c := by
  subst h
  exact dif_pos c.isLt

namespace Json

/-! ## Strings -/

theorem readUnit_hex {n : Nat} (h : n < 0x10000) (rest : Text) :
    readUnit (Text.hex 4 n ++ rest) = some (n, rest) := by
  have hdigit := CodePoint.hexValue?_hexDigit
  have hvalue : (n / 4096 * 16 + n / 256 % 16) * 256 + n / 16 % 16 * 16 + n % 16 = n := by omega
  rw [Text.hex_four h]
  simp only [List.cons_append, List.nil_append, readUnit]
  rw [hdigit _ (by omega), hdigit _ (by omega), hdigit _ (by omega), hdigit _ (by omega)]
  simp [hvalue]

/-- A unit that is no first half of a pair stands for itself. -/
theorem readEscapedUnit_hex {c : CodePoint} (hc : c.isSurrogate = false) (h : c.val < 0x10000) (rest : Text) :
    readEscapedUnit (Text.hex 4 c.val ++ rest) = some (c, rest) := by
  have hhigh : ¬ (decide (0xD800 ≤ c.val) && decide (c.val < 0xDC00)) = true := by
    unfold CodePoint.isSurrogate at hc
    simp only [Bool.and_eq_false_iff, decide_eq_false_iff_not] at hc
    simp only [Bool.and_eq_true, decide_eq_true_eq]
    omega
  unfold readEscapedUnit
  rw [readUnit_hex h]
  simp only [Option.bind_eq_bind, Option.bind_some]
  rw [if_neg hhigh, CodePoint.ofNat_eq rfl]
  rfl

/-- Two halves stand for one code point above the basic plane. -/
theorem readEscapedUnit_pair {high low : Nat} (hhigh : 0xD800 ≤ high ∧ high < 0xDC00)
    (hlow : 0xDC00 ≤ low ∧ low < 0xE000) (rest : Text) :
    readEscapedUnit (Text.hex 4 high ++ (unitEscape low ++ rest))
      = some (CodePoint.ofNat (0x10000 + (high - 0xD800) * 0x400 + (low - 0xDC00)), rest) := by
  unfold readEscapedUnit unitEscape
  rw [readUnit_hex (by omega), List.append_assoc]
  simp only [Option.bind_eq_bind, Option.bind_some]
  rw [if_pos (by simp [hhigh]), Text.after?_append, Option.bind_some, readUnit_hex (by omega)]
  simp only
  rw [if_pos (by simp [hlow])]
  rfl

theorem readString_short {e c : CodePoint} (he : shortEscape? e = some c) (hu : ¬ (e == 'u') = true)
    (steps : Nat) (rest : Text) : readString (steps + 1) ('\\' :: e :: rest)
      = (readString steps rest).map (Prod.map (c :: ·) id) := by
  rw [readString, if_neg (by decide), if_pos (by decide)]
  simp only
  rw [if_neg hu, he]
  cases readString steps rest <;> rfl

theorem readString_unit {c : CodePoint} {t rest : Text} (h : readEscapedUnit t = some (c, rest)) (steps : Nat) :
    readString (steps + 1) ('\\' :: 'u' :: t)
      = (readString steps rest).map (Prod.map (c :: ·) id) := by
  rw [readString, if_neg (by decide), if_pos (by decide)]
  simp only
  rw [if_pos (by decide), h]
  simp only [Option.bind_eq_bind, Option.bind_some]
  cases readString steps rest <;> rfl

theorem readString_plain {c : CodePoint} (hquote : ¬ (c == '"') = true) (hslash : ¬ (c == '\\') = true)
    (h : 0x20 ≤ c.val) (steps : Nat) (rest : Text) : readString (steps + 1) (c :: rest)
      = (readString steps rest).map (Prod.map (c :: ·) id) := by
  rw [readString.eq_def]
  simp only
  rw [if_neg hquote, if_neg hslash, if_neg (by omega)]
  cases readString steps rest <;> rfl

/-- One step reads one code point back. -/
theorem readString_escape {c : CodePoint} (hc : c.isSurrogate = false) (steps : Nat) (rest : Text) :
    readString (steps + 1) (escape c ++ rest)
      = (readString steps rest).map (Prod.map (c :: ·) id) := by
  have hnamed : ∀ {d e : CodePoint}, (c == d) = true → shortEscape? e = some d → ¬ (e == 'u') = true →
      readString (steps + 1) ('\\' :: e :: rest)
        = (readString steps rest).map (Prod.map (c :: ·) id) := by
    intro d e hd he hu
    rw [beq_iff_eq.1 hd]
    exact readString_short he hu steps rest
  have hnumbered : ∀ {n : Nat} {e : CodePoint}, (c.val == n) = true →
      shortEscape? e = some (CodePoint.ofNat n) → ¬ (e == 'u') = true → readString (steps + 1) ('\\' :: e :: rest)
        = (readString steps rest).map (Prod.map (c :: ·) id) := by
    intro n e hn he hu
    rw [CodePoint.ofNat_eq (beq_iff_eq.1 hn).symm] at he
    exact readString_short he hu steps rest
  unfold escape
  iterate 5
    split
    · exact hnamed ‹_› rfl (by decide)
  iterate 2
    split
    · exact hnumbered ‹_› rfl (by decide)
  split
  · rename_i hvisible
    simp only [Bool.and_eq_true, decide_eq_true_eq] at hvisible
    exact readString_plain ‹_› ‹_› hvisible.1 steps rest
  split
  · rename_i hbasic
    exact readString_unit (readEscapedUnit_hex hc hbasic rest) steps
  · -- the halves get names: with their sums in place the arithmetic would be unfolded
    have hlast := c.isLt
    obtain ⟨high, hhigh⟩ : ∃ high, high = 0xD800 + (c.val - 0x10000) / 0x400 := ⟨_, rfl⟩
    obtain ⟨low, hlow⟩ : ∃ low, low = 0xDC00 + (c.val - 0x10000) % 0x400 := ⟨_, rfl⟩
    simp only
    rw [← hhigh, ← hlow]
    have hpair : readEscapedUnit (Text.hex 4 high ++ (unitEscape low ++ rest)) = some (c, rest) := by
      rw [readEscapedUnit_pair (by omega) (by omega), CodePoint.ofNat_eq (c := c) (by omega)]
    have htext : unitEscape high ++ unitEscape low ++ rest
        = ('\\' : CodePoint) :: ('u' : CodePoint) :: (Text.hex 4 high ++ (unitEscape low ++ rest)) := by
      simp [unitEscape, Text.ofString]
    rw [htext]
    exact readString_unit hpair steps

theorem readString_quoted {t : Text} (h : t.Proper) {steps : Nat} (hsteps : t.length < steps) (rest : Text) :
    readString steps (t.flatMap escape ++ ('"' : CodePoint) :: rest) = some (t, rest) := by
  induction t generalizing steps with
  | nil =>
    obtain ⟨steps, rfl⟩ : ∃ n, steps = n + 1 := ⟨steps - 1, by rw [List.length_nil] at hsteps; omega⟩
    rfl
  | cons c t ih =>
    obtain ⟨hc, ht⟩ := List.forall_mem_cons.1 h
    rw [List.length_cons] at hsteps
    obtain ⟨steps, rfl⟩ : ∃ n, steps = n + 1 := ⟨steps - 1, by omega⟩
    rw [List.flatMap_cons, List.append_assoc, readString_escape hc, ih ht (by omega)]
    rfl

theorem quote_eq (t : Text) : quote t = ('"' : CodePoint) :: (t.flatMap escape ++ [('"' : CodePoint)]) := by
  simp [quote, Text.ofString]

theorem quote_append (t rest : Text) :
    quote t ++ rest = ('"' : CodePoint) :: (t.flatMap escape ++ ('"' : CodePoint) :: rest) := by
  simp [quote_eq]

theorem unitEscape_ne_nil (n : Nat) : unitEscape n ≠ [] := by simp [unitEscape, Text.ofString]

theorem escape_ne_nil (c : CodePoint) : escape c ≠ [] := by
  unfold escape
  iterate 7
    split
    · simp [Text.ofString]
  split
  · exact List.cons_ne_nil c []
  split
  · exact unitEscape_ne_nil _
  · exact List.append_ne_nil_of_left_ne_nil (unitEscape_ne_nil _) _

theorem length_le_flatMap_escape (t : Text) : t.length ≤ (t.flatMap escape).length := by
  induction t with
  | nil => simp
  | cons c t ih =>
    have hc := List.length_pos_of_ne_nil (escape_ne_nil c)
    rw [List.flatMap_cons, List.length_cons, List.length_append]
    omega

/-- A string up to its closing quote, as the reader takes it with the text that is left. -/
theorem readString_quote {t : Text} (h : t.Proper) (rest : Text) :
    readString ((t.flatMap escape ++ ('"' : CodePoint) :: rest).length + 1)
      (t.flatMap escape ++ ('"' : CodePoint) :: rest) = some (t, rest) := by
  have hlength := length_le_flatMap_escape t
  refine readString_quoted h ?_ rest
  rw [List.length_append]
  omega

/-! ## Plain strings -/

theorem plain_unitEscape (n : Nat) : (unitEscape n).Plain :=
  Text.plain_append.2 ⟨Text.plain_literal _ (by decide), Text.plain_hex 4 n⟩

/-- Whatever a code point is, its escape is ASCII. -/
theorem plain_escape (c : CodePoint) : (escape c).Plain := by
  unfold escape
  iterate 7
    split
    · exact Text.plain_literal _ (by decide)
  split
  · rename_i hvisible
    simp only [Bool.and_eq_true, decide_eq_true_eq] at hvisible
    simpa [Text.Plain] using hvisible
  split
  · exact plain_unitEscape _
  · exact Text.plain_append.2 ⟨plain_unitEscape _, plain_unitEscape _⟩

theorem plain_quote (t : Text) : (quote t).Plain := by
  unfold quote
  simp only [Text.plain_append]
  refine ⟨⟨Text.plain_literal _ (by decide), fun c hc => ?_⟩, Text.plain_literal _ (by decide)⟩
  obtain ⟨d, -, hc⟩ := List.mem_flatMap.1 hc
  exact plain_escape d c hc

/-! ## Numerals -/

/-- What may follow a value: a comma, a new line, or nothing. -/
def Closes (rest : Text) : Prop := ∀ c ∈ rest.head?, c = ',' ∨ c = '\n'

theorem isAsciiDigit_of_mem_ofNat {n : Nat} {c : CodePoint} (h : c ∈ Text.ofNat n) : c.isAsciiDigit = true := by
  obtain ⟨hlow, hhigh⟩ := Text.val_of_mem_ofNat h
  simp [CodePoint.isAsciiDigit, hlow, hhigh]

theorem not_digit_of_closes {c : CodePoint} {rest : Text} (h : Closes (c :: rest)) :
    c.isAsciiDigit = false ∧ (c == '.') = false ∧ (c == 'e' || c == 'E') = false := by
  rcases h c rfl with rfl | rfl <;> decide

theorem readDigits_append {digits rest : Text} (h : ∀ c ∈ digits, c.isAsciiDigit = true) (hrest : Closes rest) :
    readDigits (digits ++ rest) = (digits, rest) := by
  have hstop : rest.takeWhile CodePoint.isAsciiDigit = [] ∧ rest.dropWhile CodePoint.isAsciiDigit = rest := by
    cases rest with
    | nil => exact ⟨rfl, rfl⟩
    | cons c rest => simp [(not_digit_of_closes hrest).1]
  rw [readDigits, List.span_eq_takeWhile_dropWhile, List.takeWhile_append_of_pos h,
    List.dropWhile_append_of_pos h, hstop.1, hstop.2, List.append_nil]

theorem digitsValue_ofNat (n : Nat) : digitsValue (Text.ofNat n) = n := by
  have hfold : ∀ (ds : List Char) (n : Nat),
      (ds.map CodePoint.ofChar).foldl (fun n c => n * 10 + (c.val - 0x30)) n = Nat.ofDigitChars 10 ds n := by
    intro ds
    induction ds with
    | nil => exact fun n => rfl
    | cons d ds ih =>
      intro n
      rw [List.map_cons, List.foldl_cons, ih, Nat.ofDigitChars_cons, Nat.mul_comm 10]
      rfl
  rw [digitsValue, Text.ofNat, hfold, Nat.ofDigitChars_ten_toDigits]

/-- A numeral begins with a zero only if it is the zero. -/
theorem exists_head_ofNat {n : Nat} (h : 0 < n) : ∃ c rest, Text.ofNat n = c :: rest ∧ c ≠ '0' := by
  induction n using Nat.strongRecOn with
  | ind n ih =>
    by_cases hn : n < 10
    · have hdigit : ∀ n < 10, 0 < n → CodePoint.ofChar (Nat.digitChar n) ≠ '0' := by decide
      refine ⟨CodePoint.ofChar (Nat.digitChar n), [], ?_, hdigit n hn h⟩
      rw [Text.ofNat, Nat.toDigits_of_lt_base hn]
      rfl
    · obtain ⟨c, rest, heq, hc⟩ := ih (n / 10) (by omega) (by omega)
      refine ⟨c, rest ++ [CodePoint.ofChar (Nat.digitChar (n % 10))], ?_, hc⟩
      rw [Text.ofNat] at heq ⊢
      rw [Nat.toDigits_of_base_le (by decide) (by omega), List.map_append, heq]
      rfl

theorem readMagnitude_ofNat (negative : Bool) (n : Nat) {rest : Text} (hrest : Closes rest) :
    readMagnitude negative (Text.ofNat n ++ rest) = some (.int (if negative then -(n : Int) else n), rest) := by
  have hwhole : (if (Text.ofNat n).startsWith "0" = true then (Text.ofNat n).take 1 else Text.ofNat n)
      = Text.ofNat n := by
    by_cases hn : n = 0
    · subst hn
      rfl
    · obtain ⟨c, t, heq, hc⟩ := exists_head_ofNat (Nat.pos_of_ne_zero hn)
      rw [heq, if_neg]
      simp [Text.startsWith, Text.ofString, hc.symm]
  have hne : ¬ (Text.ofNat n).isEmpty = true := by simp [Text.ofNat, Nat.toDigits_ne_nil]
  have hfraction : readFraction rest = none := by
    cases rest with
    | nil => rfl
    | cons c rest => simp [readFraction, (not_digit_of_closes hrest).2.1]
  have hexponent : readExponent rest = none := by
    cases rest with
    | nil => rfl
    | cons c rest =>
      rw [readExponent.eq_def]
      exact if_neg (by simp [(not_digit_of_closes hrest).2.2])
  unfold readMagnitude
  simp only [readDigits_append (fun _ => isAsciiDigit_of_mem_ofNat) hrest, hwhole, List.drop_left, if_neg hne,
    hfraction, hexponent, digitsValue_ofNat, Option.map_none, Option.getD_none]
  rfl

theorem after?_of_ne {d : Char} {lead : List Char} {c : CodePoint} (h : CodePoint.ofChar d ≠ c) (t : Text) :
    Text.after? (Text.ofString (String.ofList (d :: lead))) (c :: t) = none := by
  rw [Text.ofString_ofList, List.map_cons, Text.after?, if_neg (by simp [h])]

theorem ne_of_digit {c d : CodePoint} (hc : c.isAsciiDigit = true) (hd : d.isAsciiDigit = false) : d ≠ c := by
  rintro rfl
  simp [hc] at hd

theorem exists_digit_ofNat (n : Nat) : ∃ c t, Text.ofNat n = c :: t ∧ c.isAsciiDigit = true := by
  have hne : Text.ofNat n ≠ [] := by simp [Text.ofNat, Nat.toDigits_ne_nil]
  obtain ⟨c, t, heq⟩ := List.exists_cons_of_ne_nil hne
  exact ⟨c, t, heq, isAsciiDigit_of_mem_ofNat (heq ▸ List.mem_cons_self)⟩

/-- No word begins like a number. -/
theorem readWord_ofInt (n : Int) {rest : Text} (hrest : Closes rest) :
    readWord (Text.ofInt n ++ rest) = some (.int n, rest) := by
  cases n with
  | ofNat n =>
    obtain ⟨c, t, heq, hc⟩ := exists_digit_ofNat n
    have hvalue := readMagnitude_ofNat false n hrest
    rw [Text.ofInt]
    rw [heq, List.cons_append] at hvalue ⊢
    unfold readWord
    dsimp only
    rw [List.findSome?_eq_none_iff.2, after?_of_ne (ne_of_digit hc (by decide))]
    · exact hvalue
    · simp only [List.forall_mem_cons, Option.map_eq_none_iff]
      refine ⟨?_, ?_, ?_, ?_, ?_, ?_, by simp⟩
      all_goals exact after?_of_ne (ne_of_digit hc (by decide)) _
  | negSucc n =>
    obtain ⟨c, t, heq, hc⟩ := exists_digit_ofNat (n + 1)
    have hvalue := readMagnitude_ofNat true (n + 1) hrest
    have hsign : Text.after? "-" (('-' : CodePoint) :: c :: (t ++ rest)) = some (c :: (t ++ rest)) := rfl
    have hinfinite : Text.after? "-Infinity" (('-' : CodePoint) :: c :: (t ++ rest)) = none := by
      rw [Text.ofString_ofList, List.map_cons, Text.after?, if_pos (beq_self_eq_true _), List.map_cons,
        Text.after?, if_neg]
      simpa using ne_of_digit hc (by decide)
    rw [Text.ofInt]
    rw [heq, List.cons_append] at hvalue
    rw [heq, List.cons_append, List.cons_append]
    unfold readWord
    dsimp only
    rw [List.findSome?_eq_none_iff.2, hsign]
    · exact hvalue
    · simp only [List.forall_mem_cons, Option.map_eq_none_iff]
      refine ⟨?_, ?_, ?_, ?_, ?_, hinfinite, by simp⟩
      all_goals exact after?_of_ne (by decide) _

end Json

end ChangeReview
