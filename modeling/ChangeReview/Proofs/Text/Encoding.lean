import ChangeReview.Text.Encoding
import Mathlib.Data.List.Basic

/-!
# Bytes and the texts they write

The sequence of a code point is read back as it, and what is read is the sequence of its code point. So
bytes that are carried through a text come back; a byte of ASCII divides what stands around it; and a
text whose bytes occur among those of another occurs in it.
-/

namespace ChangeReview

namespace Bytes

variable {b : UInt8} {r tails : Bytes} {c : CodePoint} {least lead count : Nat}

/-! ## Sequences -/

theorem assemble?_eq_some_iff : assemble? least lead tails = some c ↔
    c.val = tails.foldl (fun n b => n * 64 + b.toNat % 64) lead ∧ (∀ x ∈ tails, isTail x = true) ∧
      least ≤ c.val ∧ c.isSurrogate = false := by
  unfold assemble?
  dsimp only
  generalize tails.foldl (fun n b => n * 64 + b.toNat % 64) lead = value
  have hlt := c.isLt
  split
  · rename_i h
    constructor
    · intro hc
      split at hc
      · rename_i hall
        cases hc
        simpa [and_assoc] using hall
      · cases hc
    · rintro ⟨rfl, hall⟩
      rw [if_pos (by simpa [and_assoc] using hall)]
  · rename_i h
    constructor
    · intro hc
      cases hc
    · rintro ⟨rfl, -⟩
      exact absurd hlt h

/-- What the first byte of a sequence tells: the least code point of its length, the bits that it gives
itself, and the number of bytes that follow. -/
inductive Leads (n : Nat) : (least lead count : Nat) → Prop where
  | one (h : n < 0x80) : Leads n 0 n 0
  | two (h : 0xC0 ≤ n ∧ n < 0xE0) : Leads n 0x80 (n - 0xC0) 1
  | three (h : 0xE0 ≤ n ∧ n < 0xF0) : Leads n 0x800 (n - 0xE0) 2
  | four (h : 0xF0 ≤ n ∧ n < 0xF8) : Leads n 0x10000 (n - 0xF0) 3

theorem first?_eq_some_iff : first? b r = some (c, count) ↔
    ∃ least lead, Leads b.toNat least lead count ∧ count ≤ r.length ∧
      assemble? least lead (r.take count) = some c := by
  have hsequence : ∀ least lead n : Nat,
      (if (r.take n).length = n then (assemble? least lead (r.take n)).map (·, n) else none)
        = some (c, count) ↔
        n = count ∧ count ≤ r.length ∧ assemble? least lead (r.take count) = some c := by
    intro least lead n
    have hlength : (r.take n).length = n ↔ n ≤ r.length := by rw [List.length_take]; omega
    by_cases hn : n ≤ r.length
    · rw [if_pos (hlength.2 hn), Option.map_eq_some_iff]
      constructor
      · rintro ⟨d, hd, heq⟩
        cases heq
        exact ⟨rfl, hn, hd⟩
      · rintro ⟨rfl, -, hc⟩
        exact ⟨c, hc, rfl⟩
    · rw [if_neg (mt hlength.1 hn)]
      constructor
      · intro h
        cases h
      · rintro ⟨rfl, hle, -⟩
        exact absurd hle hn
  unfold first?
  dsimp only
  constructor
  · intro h
    split at h
    · obtain ⟨rfl, h⟩ := (hsequence _ _ _).1 h
      exact ⟨_, _, .one (by omega), h⟩
    split at h
    · cases h
    split at h
    · obtain ⟨rfl, h⟩ := (hsequence _ _ _).1 h
      exact ⟨_, _, .two (by omega), h⟩
    split at h
    · obtain ⟨rfl, h⟩ := (hsequence _ _ _).1 h
      exact ⟨_, _, .three (by omega), h⟩
    split at h
    · obtain ⟨rfl, h⟩ := (hsequence _ _ _).1 h
      exact ⟨_, _, .four (by omega), h⟩
    · cases h
  · rintro ⟨least, lead, hleads, h⟩
    cases hleads with
    | one hn => rw [if_pos hn, hsequence]; exact ⟨rfl, h⟩
    | two hn =>
      rw [if_neg (by omega), if_neg (by omega), if_pos hn.2, hsequence]
      exact ⟨rfl, h⟩
    | three hn =>
      rw [if_neg (by omega), if_neg (by omega), if_neg (by omega), if_pos hn.2, hsequence]
      exact ⟨rfl, h⟩
    | four hn =>
      rw [if_neg (by omega), if_neg (by omega), if_neg (by omega), if_neg (by omega), if_pos hn.2, hsequence]
      exact ⟨rfl, h⟩

theorem isTail_iff : isTail b = true ↔ 0x80 ≤ b.toNat ∧ b.toNat < 0xC0 := by
  rw [isTail, Bool.and_eq_true, decide_eq_true_eq, decide_eq_true_eq]

theorem eq_ofNat {n : Nat} (h : n = b.toNat) : b = UInt8.ofNat n := by
  rw [h, UInt8.ofNat_toNat]

/-- A sequence that is read is the one of its code point, which is no surrogate. -/
theorem eq_utf8_of_first? (h : first? b r = some (c, count)) :
    b :: r.take count = c.utf8 ∧ c.isSurrogate = false ∧ count ≤ r.length := by
  obtain ⟨least, lead, hleads, hcount, hassemble⟩ := first?_eq_some_iff.1 h
  obtain ⟨hval, htails, hleast, hsurrogate⟩ := assemble?_eq_some_iff.1 hassemble
  refine ⟨?_, hsurrogate, hcount⟩
  have hlength : (r.take count).length = count := by rw [List.length_take, Nat.min_eq_left hcount]
  generalize r.take count = tails at hval htails hlength
  unfold CodePoint.utf8
  dsimp only
  cases hleads with
  | one hn =>
    obtain rfl := List.length_eq_zero_iff.1 hlength
    rw [List.foldl_nil] at hval
    rw [if_pos (by omega), ← eq_ofNat hval]
  | two hn =>
    obtain ⟨x, rfl⟩ := List.length_eq_one_iff.1 hlength
    have hx := isTail_iff.1 (htails x (by simp))
    simp only [List.foldl_cons, List.foldl_nil] at hval
    rw [if_neg (by omega), if_pos (by omega), List.cons.injEq, List.cons.injEq]
    exact ⟨eq_ofNat (by omega), eq_ofNat (by omega), rfl⟩
  | three hn =>
    obtain ⟨x, y, rfl⟩ := List.length_eq_two.1 hlength
    have hx := isTail_iff.1 (htails x (by simp))
    have hy := isTail_iff.1 (htails y (by simp))
    simp only [List.foldl_cons, List.foldl_nil] at hval
    rw [if_neg (by omega), if_neg (by omega), if_pos (by omega), List.cons.injEq, List.cons.injEq,
      List.cons.injEq]
    exact ⟨eq_ofNat (by omega), eq_ofNat (by omega), eq_ofNat (by omega), rfl⟩
  | four hn =>
    obtain ⟨x, y, z, rfl⟩ := List.length_eq_three.1 hlength
    have hx := isTail_iff.1 (htails x (by simp))
    have hy := isTail_iff.1 (htails y (by simp))
    have hz := isTail_iff.1 (htails z (by simp))
    simp only [List.foldl_cons, List.foldl_nil] at hval
    rw [if_neg (by omega), if_neg (by omega), if_neg (by omega), List.cons.injEq, List.cons.injEq,
      List.cons.injEq, List.cons.injEq]
    exact ⟨eq_ofNat (by omega), eq_ofNat (by omega), eq_ofNat (by omega), eq_ofNat (by omega), rfl⟩

theorem Leads.isTail_eq_false (h : Leads b.toNat least lead count) : isTail b = false := by
  rw [Bool.eq_false_iff, ne_eq, isTail_iff]
  cases h <;> omega

/-- The byte that follows with the last six bits of a number. -/
def tailOf (n : Nat) : UInt8 := UInt8.ofNat (0x80 + n % 64)

theorem toNat_tailOf (n : Nat) : (tailOf n).toNat = 0x80 + n % 64 := by
  rw [tailOf, UInt8.toNat_ofNat']
  omega

theorem isTail_of_mem_map {ns : List Nat} : ∀ x ∈ ns.map tailOf, isTail x = true := by
  intro x hx
  obtain ⟨n, -, rfl⟩ := List.mem_map.1 hx
  rw [isTail_iff, toNat_tailOf]
  omega

/-- A first byte that tells the number of its tails is read with them, if the code point is put together
from their bits. -/
theorem first?_map_tailOf {ns : List Nat} (hc : c.isSurrogate = false)
    (hleads : Leads b.toNat least lead ns.length)
    (hval : c.val = ns.foldl (fun value n => value * 64 + n % 64) lead) (hleast : least ≤ c.val)
    (r : Bytes) : first? b (ns.map tailOf ++ r) = some (c, (ns.map tailOf).length) := by
  have hbits : ∀ n : Nat, (0x80 + n % 64) % 64 = n % 64 := by omega
  rw [List.length_map]
  refine first?_eq_some_iff.2 ⟨least, lead, hleads, by simp, ?_⟩
  rw [List.take_left' (List.length_map ..), assemble?_eq_some_iff, List.foldl_map]
  simp only [toNat_tailOf, hbits]
  exact ⟨hval, isTail_of_mem_map, hleast, hc⟩

/-- The sequence of a code point is a first byte and its tails, and is read as that code point. -/
theorem utf8_spec (hc : c.isSurrogate = false) : ∃ b tails, c.utf8 = b :: tails ∧ isTail b = false ∧
    (∀ x ∈ tails, isTail x = true) ∧ ∀ r, first? b (tails ++ r) = some (c, tails.length) := by
  have hlt := c.isLt
  have hread : ∀ (n : Nat) (ns : List Nat) (least lead : Nat), n < 256 → Leads n least lead ns.length →
      c.val = ns.foldl (fun value n => value * 64 + n % 64) lead → least ≤ c.val →
      ∃ b tails, UInt8.ofNat n :: ns.map tailOf = b :: tails ∧ isTail b = false ∧
        (∀ x ∈ tails, isTail x = true) ∧ ∀ r, first? b (tails ++ r) = some (c, tails.length) := by
    intro n ns least lead hn hleads hval hleast
    have hb : (UInt8.ofNat n).toNat = n := by rw [UInt8.toNat_ofNat']; omega
    rw [← hb] at hleads
    exact ⟨_, _, rfl, hleads.isTail_eq_false, isTail_of_mem_map, first?_map_tailOf hc hleads hval hleast⟩
  unfold CodePoint.utf8
  dsimp only
  split
  · exact hread c.val [] 0 c.val (by omega) (.one (by omega)) rfl (by omega)
  split
  · refine hread (0xC0 + c.val / 64) [c.val / 1] 0x80 _ (by omega) (.two (by omega)) ?_ (by omega)
    simp only [List.foldl_cons, List.foldl_nil]
    omega
  split
  · refine hread (0xE0 + c.val / 4096) [c.val / 64, c.val / 1] 0x800 _ (by omega) (.three (by omega)) ?_
      (by omega)
    simp only [List.foldl_cons, List.foldl_nil]
    omega
  · refine hread (0xF0 + c.val / 262144) [c.val / 4096, c.val / 64, c.val / 1] 0x10000 _ (by omega)
      (.four (by omega)) ?_ (by omega)
    simp only [List.foldl_cons, List.foldl_nil]
    omega

theorem first?_of_ascii (h : b.toNat < 0x80) (r : Bytes) :
    first? b r = some (CodePoint.ofNat b.toNat, 0) := by
  have hval : (CodePoint.ofNat b.toNat).val = b.toNat := by
    rw [CodePoint.ofNat, dif_pos (by omega)]
  have hc : (CodePoint.ofNat b.toNat).isSurrogate = false := by
    rw [CodePoint.isSurrogate, hval]
    simp
    omega
  have hone : Leads b.toNat 0 b.toNat ([] : List Nat).length := .one h
  exact first?_map_tailOf hc hone hval (by omega) r

theorem first?_append_ascii {x : UInt8} {xs ys : Bytes} (h : b.toNat < 0x80) :
    first? x (xs ++ b :: ys) = first? x xs := by
  ext ⟨c, count⟩
  rw [first?_eq_some_iff, first?_eq_some_iff]
  constructor
  · rintro ⟨least, lead, hleads, hcount, hassemble⟩
    -- A byte of ASCII is no tail, so the sequence ends before it.
    have hle : count ≤ xs.length := by
      by_contra hlt
      have hmem : b ∈ (xs ++ b :: ys).take count := by
        rw [List.take_append, List.mem_append]
        right
        obtain ⟨k, hk⟩ : ∃ k, count - xs.length = k + 1 := ⟨count - xs.length - 1, by omega⟩
        rw [hk, List.take_succ_cons]
        exact List.mem_cons_self
      have htail := (assemble?_eq_some_iff.1 hassemble).2.1 b hmem
      have := isTail_iff.1 htail
      omega
    refine ⟨least, lead, hleads, hle, ?_⟩
    rwa [List.take_append_of_le_length hle] at hassemble
  · rintro ⟨least, lead, hleads, hcount, hassemble⟩
    refine ⟨least, lead, hleads, by rw [List.length_append]; omega, ?_⟩
    rwa [List.take_append_of_le_length hcount]

/-! ## Units -/

theorem units_of_some (h : first? b r = some (c, count)) :
    units (b :: r) = .inl c :: units (r.drop count) := by
  rw [units, h]

theorem units_of_none (h : first? b r = none) : units (b :: r) = .inr b :: units r := by
  rw [units, h]

theorem units_append_ascii (h : b.toNat < 0x80) (xs ys : Bytes) :
    units (xs ++ b :: ys) = units xs ++ .inl (CodePoint.ofNat b.toNat) :: units ys := by
  fun_induction units xs with
  | case1 => rw [List.nil_append, units_of_some (first?_of_ascii h ys), List.drop_zero]; rfl
  | case2 x xs c count hx ih =>
    have hcount := (eq_utf8_of_first? hx).2.2
    rw [List.cons_append, units_of_some ((first?_append_ascii h).trans hx),
      List.drop_append_of_le_length hcount, ih, List.cons_append]
  | case3 x xs hx ih =>
    rw [List.cons_append, units_of_none ((first?_append_ascii h).trans hx), ih, List.cons_append]

theorem decodeCarrying_append_ascii (h : b.toNat < 0x80) (xs ys : Bytes) :
    decodeCarrying (xs ++ b :: ys) = decodeCarrying xs ++ CodePoint.ofNat b.toNat :: decodeCarrying ys := by
  unfold decodeCarrying
  rw [units_append_ascii h, List.map_append, List.map_cons]

theorem decodeCarrying_cons_ascii (h : b.toNat < 0x80) (bytes : Bytes) :
    decodeCarrying (b :: bytes) = CodePoint.ofNat b.toNat :: decodeCarrying bytes := by
  unfold decodeCarrying
  rw [units_of_some (first?_of_ascii h bytes), List.drop_zero, List.map_cons]

/-- The bytes of a unit. -/
def unitBytes : CodePoint ⊕ UInt8 → Bytes
  | .inl c => c.utf8
  | .inr b => [b]

/-- What the units of bytes are: no surrogates, and bytes outside of ASCII. -/
def ProperUnit : CodePoint ⊕ UInt8 → Prop
  | .inl c => c.isSurrogate = false
  | .inr b => 0x80 ≤ b.toNat

/-- The units of bytes are all of them. -/
theorem flatMap_units (bytes : Bytes) : (units bytes).flatMap unitBytes = bytes := by
  fun_induction units bytes with
  | case1 => rfl
  | case2 b r c count h ih =>
    rw [List.flatMap_cons, ih, unitBytes, ← (eq_utf8_of_first? h).1, List.cons_append,
      List.take_append_drop]
  | case3 b r h ih => rw [List.flatMap_cons, ih, unitBytes, List.singleton_append]

theorem proper_of_mem_units {bytes : Bytes} : ∀ unit ∈ units bytes, ProperUnit unit := by
  fun_induction units bytes with
  | case1 => simp
  | case2 b r c count h ih => exact List.forall_mem_cons.2 ⟨(eq_utf8_of_first? h).2.1, ih⟩
  | case3 b r h ih =>
    refine List.forall_mem_cons.2 ⟨?_, ih⟩
    by_contra hlt
    rw [first?_of_ascii (Nat.lt_of_not_le hlt)] at h
    cases h

end Bytes

namespace Text

open ChangeReview.Bytes (carrier decodeCarrying decodeFrom eq_utf8_of_first? flatMap_units
  proper_of_mem_units unitBytes units utf8_spec)

/-- What a surrogate stands for if it carries a byte, and the sequence of any other code point. -/
def carriedBytes (c : CodePoint) : Bytes :=
  if c.isEscapedByte then [UInt8.ofNat (c.val - 0xDC00)] else c.utf8

theorem encodeCarrying_eq_ok {t : Text}
    (h : ∀ c ∈ t, c.isSurrogate = false ∨ c.isEscapedByte = true) :
    encodeCarrying t = .ok (t.flatMap carriedBytes) := by
  have hnone : t.findIdx? (fun c => c.isSurrogate && !c.isEscapedByte) = none := by
    rw [List.findIdx?_eq_none_iff]
    intro c hc
    rcases h c hc with h | h <;> simp [h]
  unfold encodeCarrying
  dsimp only
  rw [hnone]
  rfl

theorem carriedBytes_of_not_surrogate {c : CodePoint} (h : c.isSurrogate = false) :
    carriedBytes c = c.utf8 := by
  have hescaped : c.isEscapedByte = false := by
    simp only [CodePoint.isSurrogate, CodePoint.isEscapedByte, Bool.and_eq_false_iff,
      decide_eq_false_iff_not] at h ⊢
    omega
  rw [carriedBytes, hescaped, if_neg Bool.false_ne_true]

theorem carrier_val (b : UInt8) : (carrier b).val = 0xDC00 + b.toNat := by
  have := b.toNat_lt
  rw [carrier, CodePoint.ofNat, dif_pos (by omega)]

theorem isEscapedByte_carrier {b : UInt8} (h : 0x80 ≤ b.toNat) : (carrier b).isEscapedByte = true := by
  have := b.toNat_lt
  simp only [CodePoint.isEscapedByte, carrier_val, Bool.and_eq_true, decide_eq_true_eq]
  omega

theorem carriedBytes_carrier {b : UInt8} (h : 0x80 ≤ b.toNat) : carriedBytes (carrier b) = [b] := by
  rw [carriedBytes, if_pos (isEscapedByte_carrier h), carrier_val, Nat.add_sub_cancel_left, UInt8.ofNat_toNat]

/-- A text of bytes has no surrogates but those that carry bytes. -/
theorem proper_of_mem_decodeCarrying {bytes : Bytes} {c : CodePoint} (hc : c ∈ decodeCarrying bytes) :
    c.isSurrogate = false ∨ c.isEscapedByte = true := by
  obtain ⟨unit, hunit, rfl⟩ := List.mem_map.1 hc
  have h := proper_of_mem_units unit hunit
  cases unit with
  | inl c => exact Or.inl h
  | inr b => exact Or.inr (isEscapedByte_carrier h)

/-- Bytes that are carried through a text come back. -/
theorem encodeCarrying_decodeCarrying (bytes : Bytes) :
    encodeCarrying (decodeCarrying bytes) = .ok bytes := by
  have hunits : (decodeCarrying bytes).flatMap carriedBytes = (units bytes).flatMap unitBytes := by
    unfold decodeCarrying
    rw [List.flatMap_map]
    apply List.flatMap_congr
    intro unit hunit
    have h := proper_of_mem_units unit hunit
    cases unit with
    | inl c => exact carriedBytes_of_not_surrogate h
    | inr b => exact carriedBytes_carrier h
  rw [encodeCarrying_eq_ok fun _ => proper_of_mem_decodeCarrying, hunits, flatMap_units]

/-! ## UTF-8 without carried bytes -/

theorem encode_eq_ok_iff {t : Text} {bytes : Bytes} :
    encode t = .ok bytes ↔ (∀ c ∈ t, c.isSurrogate = false) ∧ bytes = t.flatMap CodePoint.utf8 := by
  unfold encode checkEncodable
  cases h : t.findIdx? CodePoint.isSurrogate with
  | none =>
    rw [List.findIdx?_eq_none_iff] at h
    constructor
    · intro hok
      cases hok
      exact ⟨h, rfl⟩
    · rintro ⟨-, rfl⟩
      rfl
  | some position =>
    constructor
    · intro hok
      cases hok
    · rintro ⟨hnone, -⟩
      rw [List.findIdx?_eq_none_iff.2 hnone] at h
      cases h

theorem encode_of_not_any {t : Text} (h : ¬ t.any CodePoint.isSurrogate = true) :
    encode t = .ok (t.flatMap CodePoint.utf8) := by
  rw [encode_eq_ok_iff]
  simpa using h

theorem decodeFrom_eq_ok {position : Nat} {bytes : Bytes} {t : Text}
    (h : decodeFrom position bytes = .ok t) :
    bytes = t.flatMap CodePoint.utf8 ∧ ∀ c ∈ t, c.isSurrogate = false := by
  fun_induction decodeFrom position bytes generalizing t with
  | case1 => cases h; simp
  | case2 position b r c count hfirst ih =>
    cases hrest : decodeFrom (position + 1 + count) (r.drop count) with
    | error e => rw [hrest] at h; cases h
    | ok rest =>
      rw [hrest] at h
      cases h
      obtain ⟨hbytes, hall⟩ := ih hrest
      obtain ⟨hutf8, hc, -⟩ := eq_utf8_of_first? hfirst
      refine ⟨?_, List.forall_mem_cons.2 ⟨hc, hall⟩⟩
      rw [List.flatMap_cons, ← hutf8, ← hbytes, List.cons_append, List.take_append_drop]
  | case3 => cases h

theorem units_utf8 {t : Text} (h : ∀ c ∈ t, c.isSurrogate = false) :
    units (t.flatMap CodePoint.utf8) = t.map .inl := by
  induction t with
  | nil => rw [List.flatMap_nil, units, List.map_nil]
  | cons c t ih =>
    obtain ⟨hc, ht⟩ := List.forall_mem_cons.1 h
    obtain ⟨b, tails, hutf8, -, -, hread⟩ := utf8_spec hc
    rw [List.flatMap_cons, hutf8, List.cons_append, Bytes.units_of_some (hread _), List.drop_left, ih ht,
      List.map_cons]

theorem mapM_getLeft?_eq_some_iff {us : List (CodePoint ⊕ UInt8)} {t : Text} :
    us.mapM Sum.getLeft? = some t ↔ us = t.map .inl := by
  induction us generalizing t with
  | nil => cases t <;> simp
  | cons unit us ih =>
    cases unit with
    | inl c =>
      cases t with
      | nil => simp [List.mapM_cons, Option.bind_eq_some_iff]
      | cons d t => simp [List.mapM_cons, Option.bind_eq_some_iff, ← ih, and_comm]
    | inr b => cases t <;> simp [List.mapM_cons]

/-- Bytes have a text exactly if they are its UTF-8 sequences. -/
theorem decode?_eq_some_iff {bytes : Bytes} {t : Text} : Bytes.decode? bytes = some t ↔ encode t = .ok bytes := by
  have hdecode : Bytes.decode? bytes = (units bytes).mapM Sum.getLeft? := by
    unfold Bytes.decode?
    congr 1
    funext unit
    cases unit <;> rfl
  rw [hdecode, mapM_getLeft?_eq_some_iff, encode_eq_ok_iff]
  constructor
  · intro h
    have hproper : ∀ unit ∈ units bytes, Bytes.ProperUnit unit := proper_of_mem_units
    rw [h] at hproper
    refine ⟨fun c hc => hproper _ (List.mem_map_of_mem hc), ?_⟩
    rw [← flatMap_units bytes, h, List.flatMap_map]
    rfl
  · rintro ⟨hproper, rfl⟩
    exact units_utf8 hproper

theorem utf8_append_inj {c d : CodePoint} {x y : Bytes} (hc : c.isSurrogate = false)
    (hd : d.isSurrogate = false) (h : c.utf8 ++ x = d.utf8 ++ y) : c = d ∧ x = y := by
  obtain ⟨b, tails, hutf8, -, -, hread⟩ := utf8_spec hc
  obtain ⟨b', tails', hutf8', -, -, hread'⟩ := utf8_spec hd
  rw [hutf8, hutf8', List.cons_append, List.cons_append, List.cons.injEq] at h
  obtain ⟨rfl, h⟩ := h
  have heq := hread x
  rw [h, hread' y] at heq
  obtain ⟨rfl, -⟩ := Prod.mk.inj (Option.some.inj heq)
  rw [hutf8] at hutf8'
  cases hutf8'
  exact ⟨rfl, List.append_cancel_left h⟩

/-- A text whose bytes start with those of another starts with it. -/
theorem isPrefix_of_utf8 {t u : Text} {post : Bytes} (ht : ∀ c ∈ t, c.isSurrogate = false)
    (hu : ∀ c ∈ u, c.isSurrogate = false)
    (h : t.flatMap CodePoint.utf8 = u.flatMap CodePoint.utf8 ++ post) : u <+: t := by
  induction u generalizing t with
  | nil => exact List.nil_prefix
  | cons d u ih =>
    obtain ⟨hd, hu'⟩ := List.forall_mem_cons.1 hu
    cases t with
    | nil =>
      obtain ⟨b, tails, hutf8, -⟩ := utf8_spec hd
      rw [List.flatMap_cons, hutf8] at h
      cases h
    | cons c t =>
      obtain ⟨hc, ht⟩ := List.forall_mem_cons.1 ht
      rw [List.flatMap_cons, List.flatMap_cons, List.append_assoc] at h
      obtain ⟨rfl, hrest⟩ := utf8_append_inj hc hd h
      exact (List.prefix_cons_inj c).2 (ih ht hu' hrest)

/-- A text whose bytes occur in those of another occurs in it: no sequence starts inside another. -/
theorem isInfix_of_utf8 {t u : Text} {pre post : Bytes} (ht : ∀ c ∈ t, c.isSurrogate = false)
    (hu : ∀ c ∈ u, c.isSurrogate = false)
    (h : t.flatMap CodePoint.utf8 = pre ++ (u.flatMap CodePoint.utf8 ++ post)) : u <:+: t := by
  cases u with
  | nil => exact List.nil_infix
  | cons d u =>
    obtain ⟨lead, tails, hutf8, hlead, -⟩ := utf8_spec (hu d List.mem_cons_self)
    induction t generalizing pre with
    | nil =>
      rw [List.flatMap_cons, hutf8] at h
      simp at h
    | cons c t ih =>
      obtain ⟨hc, ht'⟩ := List.forall_mem_cons.1 ht
      obtain ⟨first, rest, hfirst, -, hrest, -⟩ := utf8_spec hc
      cases pre with
      | nil => exact (isPrefix_of_utf8 ht hu h).isInfix
      | cons b pre =>
        rw [List.flatMap_cons, hfirst, List.cons_append, List.cons_append, List.cons.injEq] at h
        obtain ⟨-, h⟩ := h
        rcases List.append_eq_append_iff.1 h with ⟨more, rfl, hmore⟩ | ⟨more, rfl, hmore⟩
        · -- The occurrence starts behind the first code point.
          exact (ih ht' hmore).trans (List.suffix_cons c t).isInfix
        · cases more with
          | nil =>
            have hstart : t.flatMap CodePoint.utf8 = [] ++ ((d :: u).flatMap CodePoint.utf8 ++ post) := by
              simpa using hmore.symm
            exact (ih ht' hstart).trans (List.suffix_cons c t).isInfix
          | cons x more =>
            -- It cannot start at a tail.
            rw [List.flatMap_cons, hutf8, List.cons_append, List.cons_append, List.cons_append,
              List.cons.injEq] at hmore
            obtain ⟨rfl, -⟩ := hmore
            rw [hrest lead (by simp)] at hlead
            cases hlead

end Text
end ChangeReview
