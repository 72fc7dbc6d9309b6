import ChangeReview.Path.Quoted
import ChangeReview.Proofs.Text.Encoding

/-!
# Reading a quoted path back

An octet inside quotes is read in one step: as a character of its own, or as one of the octets that are
decoded together. A character of its own is ASCII, so that cutting the octets there decodes them as
the whole would be. Hence a path that was decoded from any octets is read back from its quoted form.
-/

namespace ChangeReview.Path

open ChangeReview.Bytes (decodeCarrying)

variable {b : UInt8} {octets bs : Bytes} {rest : Text}

/-- An octet that stands for itself inside quotes. -/
def IsPlain (b : UInt8) : Prop :=
  (0x20 ≤ b.toNat ∧ b.toNat ≤ 0x7E) ∧ b.toNat ≠ 0x22 ∧ b.toNat ≠ 0x5C

/-- The digit of a number below eight. -/
def digit (n : Nat) : CodePoint := CodePoint.ofNat (0x30 + n)

theorem ofNat_val {n : Nat} (h : n < 0x110000) : (CodePoint.ofNat n).val = n := by
  rw [CodePoint.ofNat, dif_pos h]

theorem digit_val {n : Nat} (h : n < 8) : (digit n).val = 0x30 + n := ofNat_val (by omega)

/-- The three digits of an octet. -/
def digits (b : UInt8) : Text := [digit (b.toNat / 64), digit (b.toNat / 8 % 8), digit (b.toNat % 8)]

/-- An octet is written as itself or by a backslash and three digits. -/
theorem quoteOctet_cases (b : UInt8) :
    (IsPlain b ∧ quoteOctet b = [CodePoint.ofNat b.toNat]) ∨
      quoteOctet b = ('\\' : CodePoint) :: digits b := by
  unfold quoteOctet
  dsimp only
  split
  · rename_i h
    simp only [Bool.and_eq_true, decide_eq_true_eq, bne_iff_ne, and_assoc] at h
    exact Or.inl ⟨⟨⟨h.1, h.2.1⟩, h.2.2⟩, rfl⟩
  · exact Or.inr rfl

/-! ## One octet -/

theorem isOctal_digit {n : Nat} (h : n < 8) : isOctal (digit n) = true := by
  simp only [isOctal, digit_val h, Bool.and_eq_true, decide_eq_true_eq]
  omega

theorem octalLength_digits (b : UInt8) (rest : Text) : octalLength (digits b ++ rest) = 3 := by
  have hlt := b.toNat_lt
  simp [octalLength, digits, isOctal_digit (show b.toNat / 64 < 8 by omega),
    isOctal_digit (show b.toNat / 8 % 8 < 8 by omega), isOctal_digit (show b.toNat % 8 < 8 by omega)]

theorem octalValue_digits (b : UInt8) : octalValue (digits b) = b.toNat := by
  have hlt := b.toNat_lt
  simp only [octalValue, digits, List.foldl_cons, List.foldl_nil]
  rw [digit_val (by omega), digit_val (by omega), digit_val (by omega)]
  omega

theorem IsPlain.ne_backslash (h : IsPlain b) : CodePoint.ofNat b.toNat ≠ CodePoint.ofChar '\\' := by
  intro heq
  have hval := congrArg CodePoint.val heq
  rw [ofNat_val (by have := h.1.2; omega)] at hval
  exact h.2.2 hval

theorem digit_ne_backslash {n : Nat} (h : n < 8) : digit n ≠ CodePoint.ofChar '\\' := by
  intro heq
  have hval : 0x30 + n = 0x5C := (digit_val h).symm.trans (congrArg CodePoint.val heq)
  omega

theorem unquote_plain (h : IsPlain b) (octets : Bytes) (rest : Text) :
    unquote octets (CodePoint.ofNat b.toNat :: rest)
      = (unquote [] rest).map fun t => decodeCarrying octets.reverse ++ CodePoint.ofNat b.toNat :: t := by
  rw [unquote.eq_def]
  dsimp only
  rw [if_pos (bne_iff_ne.2 h.ne_backslash)]
  cases unquote [] rest <;> rfl

theorem unquote_escaped (b : UInt8) (octets : Bytes) (rest : Text) :
    unquote octets ('\\' :: (digits b ++ rest)) = unquote (b :: octets) rest := by
  have hlt := b.toNat_lt
  have hoctal : isOctal (digit (b.toNat / 64)) = true := isOctal_digit (by omega)
  have hlength := octalLength_digits b rest
  have htake : (digits b ++ rest).take 3 = digits b := rfl
  rw [unquote.eq_def]
  simp only [digits, List.cons_append, List.nil_append] at hlength htake ⊢
  simp only [hoctal, hlength, htake]
  rw [← digits]
  simp only [octalValue_digits, UInt8.ofNat_toNat]
  rw [if_neg (by decide), if_pos trivial, if_neg (by omega)]
  rfl

/-! ## All octets -/

/-- The octets just read and those that are left are decoded as one. -/
theorem unquote_flatMap (octets bs : Bytes) :
    unquote octets (bs.flatMap quoteOctet) = .ok (decodeCarrying (octets.reverse ++ bs)) := by
  induction bs generalizing octets with
  | nil => rw [List.flatMap_nil, unquote, List.append_nil]
  | cons b bs ih =>
    rw [List.flatMap_cons]
    rcases quoteOctet_cases b with ⟨hplain, h⟩ | h
    · rw [h, List.singleton_append, unquote_plain hplain, ih,
        Bytes.decodeCarrying_append_ascii (Nat.lt_of_le_of_lt hplain.1.2 (by decide))]
      rfl
    · rw [h, List.cons_append, unquote_escaped, ih, List.reverse_cons, List.append_assoc,
        List.singleton_append]

/-- Octets in quotes. -/
def quoted (bs : Bytes) : Text := '"' :: (bs.flatMap quoteOctet ++ [('"' : CodePoint)])

theorem quote_decodeCarrying (bs : Bytes) : quote (decodeCarrying bs) = .ok (quoted bs) := by
  unfold quote
  rw [Text.encodeCarrying_decodeCarrying]
  rfl

theorem decode_quoted (bs : Bytes) : decode (quoted bs) = .ok (decodeCarrying bs) := by
  have hstart : Text.startsWith (quoted bs) "\"" = true := rfl
  have hend : Text.endsWith (quoted bs) "\"" = true := by
    rw [Text.endsWith, List.isSuffixOf_iff_suffix]
    exact ⟨('"' : CodePoint) :: bs.flatMap quoteOctet, rfl⟩
  have hinside : ((quoted bs).drop 1).dropLast = bs.flatMap quoteOctet := List.dropLast_concat
  rw [decode, hstart, hend, hinside]
  exact unquote_flatMap [] bs

/-- Whatever stands inside quotes is printable ASCII, and neither quote nor line feed. -/
theorem mem_flatMap_quoteOctet {c : CodePoint} (h : c ∈ bs.flatMap quoteOctet) :
    (0x20 ≤ c.val ∧ c.val ≤ 0x7E) ∧ c.val ≠ 0x22 := by
  obtain ⟨b, -, hc⟩ := List.mem_flatMap.1 h
  have hlt := b.toNat_lt
  rcases quoteOctet_cases b with ⟨hplain, heq⟩ | heq
  · rw [heq, List.mem_singleton] at hc
    rw [hc, ofNat_val (by omega)]
    exact ⟨hplain.1, hplain.2.1⟩
  · rw [heq] at hc
    simp only [digits, List.mem_cons, List.not_mem_nil, or_false] at hc
    rcases hc with rfl | rfl | rfl | rfl
    · decide
    all_goals
      rw [digit_val (by omega)]
      omega

end ChangeReview.Path
