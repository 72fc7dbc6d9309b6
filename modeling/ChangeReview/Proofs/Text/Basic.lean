import ChangeReview.Text.Basic
import Mathlib.Data.List.Basic
import Mathlib.Data.List.DropRight

/-!
# Reading written text back

What a text begins or ends with is found again, and so is the last of its separators; a part of a text
does not reach over a code point that it does not hold; lines that each end in a line feed are split apart
again, and a numeral is read as its number.
-/

namespace ChangeReview.Text

variable {lead t u r : Text}

/-- A literal by its characters, in which it is evaluated at once. -/
theorem ofString_ofList (l : List Char) : ofString (String.ofList l) = l.map CodePoint.ofChar := by
  rw [ofString, String.toList_ofList]

/-! ## The front of a text -/

theorem after?_eq_some_iff : after? lead t = some r ↔ t = lead ++ r := by
  induction lead generalizing t with
  | nil => rw [after?, Option.some_inj, List.nil_append]
  | cons a lead ih =>
    cases t with
    | nil => simp [after?]
    | cons b t =>
      rw [after?, List.cons_append, List.cons.injEq]
      split
      · rename_i h
        rw [ih, beq_iff_eq.1 h]
        simp
      · rename_i h
        simp only [beq_iff_eq, reduceCtorEq, false_iff, not_and] at h ⊢
        exact fun heq => absurd heq.symm h

@[simp] theorem after?_append (lead t : Text) : after? lead (lead ++ t) = some t :=
  after?_eq_some_iff.2 rfl

theorem startsWith_iff : startsWith t lead = true ↔ lead <+: t := List.isPrefixOf_iff_prefix

theorem startsWith_append (h : startsWith t lead = true) (r : Text) : startsWith (t ++ r) lead = true :=
  startsWith_iff.2 ((startsWith_iff.1 h).trans (List.prefix_append t r))

/-- Neither text begins with the other, so that they differ at some place. -/
def Apart (t u : Text) : Prop := startsWith t u = false ∧ startsWith u t = false

instance (t u : Text) : Decidable (Apart t u) := inferInstanceAs (Decidable (_ ∧ _))

theorem Apart.not_startsWith (h : Apart t u) (r : Text) : startsWith (t ++ r) u = false := by
  rw [Bool.eq_false_iff]
  intro hstart
  rcases List.prefix_or_prefix_of_prefix (startsWith_iff.1 hstart) (List.prefix_append t r) with hu | ht
  · exact Bool.false_ne_true (h.1.symm.trans (startsWith_iff.2 hu))
  · exact Bool.false_ne_true (h.2.symm.trans (startsWith_iff.2 ht))

theorem Apart.beq_eq_false (h : Apart t u) (r : Text) : (t ++ r == u) = false := by
  rw [beq_eq_false_iff_ne]
  rintro rfl
  exact Bool.false_ne_true (h.2.symm.trans (startsWith_iff.2 (List.prefix_append t r)))

/-! ## The end of a text -/

theorem endsWith_iff {tail : Text} : endsWith t tail = true ↔ tail <:+ t := List.isSuffixOf_iff_suffix

/-- Of two texts at the end of a text, one ends with the other. -/
theorem endsWith_append_eq_false {tail : Text} (hu : endsWith u tail = false) (htail : endsWith tail u = false)
    (t : Text) : endsWith (t ++ u) tail = false := by
  rw [Bool.eq_false_iff]
  intro hend
  rcases List.suffix_or_suffix_of_suffix (endsWith_iff.1 hend) (List.suffix_append t u) with h | h
  · exact Bool.false_ne_true (hu.symm.trans (endsWith_iff.2 h))
  · exact Bool.false_ne_true (htail.symm.trans (endsWith_iff.2 h))

@[simp] theorem before?_append (t tail : Text) : before? tail (t ++ tail) = some t := by
  have hend : endsWith (t ++ tail) tail = true := endsWith_iff.2 (List.suffix_append t tail)
  rw [before?, if_pos hend]
  simp

theorem before?_eq_none {tail : Text} (h : endsWith t tail = false) : before? tail t = none := by
  rw [before?, h, if_neg Bool.false_ne_true]

theorem eq_of_cutLast? {sep before rest : Text} (h : cutLast? sep t = some (before, rest)) :
    t = before ++ (sep ++ rest) := by
  induction t generalizing before with
  | nil =>
    rw [cutLast?] at h
    split at h
    · rename_i hsep
      cases h
      rw [List.isEmpty_iff.1 hsep]
      rfl
    · cases h
  | cons c t ih =>
    rw [cutLast?] at h
    split at h
    · rename_i before' rest' hcut
      cases h
      rw [ih hcut]
      rfl
    · obtain ⟨rest', hafter, heq⟩ := Option.map_eq_some_iff.1 h
      cases heq
      show c :: t = sep ++ rest
      exact after?_eq_some_iff.1 hafter

/-- A separator whose last code point does not occur in `r` would have to end before `r`. -/
theorem cutLast?_eq_none {x : CodePoint} (hx : x ∉ r) (ht : t.length ≤ lead.length) :
    cutLast? (lead ++ [x]) (t ++ r) = none := by
  cases hcut : cutLast? (lead ++ [x]) (t ++ r) with
  | none => rfl
  | some parts =>
    obtain ⟨before, rest⟩ := parts
    have heq : t ++ r = (before ++ lead) ++ (x :: rest) := by
      rw [eq_of_cutLast? hcut]
      simp
    have hmem : x ∈ r := by
      rcases List.append_eq_append_iff.1 heq with ⟨more, hmore, hr⟩ | ⟨more, hmore, hr⟩
      · rw [hr]
        simp
      · have hlength := congrArg List.length hmore
        simp only [List.length_append] at hlength
        have hnil : more = [] := List.length_eq_zero_iff.1 (by omega)
        rw [hnil, List.nil_append] at hr
        rw [← hr]
        exact List.mem_cons_self
    exact absurd hmem hx

/-- A text is cut at a separator that was put into it, if none starts behind its first code point. -/
theorem cutLast?_append_of_eq_none {sep : Text} {x : CodePoint} (h : cutLast? (x :: sep) (sep ++ r) = none)
    (t : Text) : cutLast? (x :: sep) (t ++ (x :: sep ++ r)) = some (t, r) := by
  induction t with
  | nil =>
    have hafter : after? (x :: sep) (x :: (sep ++ r)) = some r := after?_append (x :: sep) r
    rw [List.nil_append, List.cons_append, cutLast?, h]
    dsimp only
    rw [hafter]
    rfl
  | cons c t ih => rw [List.cons_append, cutLast?, ih]

/-- A text is cut at a separator that was put into it, if the last code point of the separator does not
occur behind it. -/
theorem cutLast?_append {x : CodePoint} (hx : x ∉ r) (t : Text) :
    cutLast? (lead ++ [x]) (t ++ (lead ++ [x] ++ r)) = some (t, r) := by
  obtain ⟨c, tail, hsep⟩ := List.exists_cons_of_ne_nil (show lead ++ [x] ≠ [] by simp)
  have hlength : tail.length ≤ lead.length := by
    have := congrArg List.length hsep
    simp at this
    omega
  have hnone : cutLast? (lead ++ [x]) (tail ++ r) = none := cutLast?_eq_none hx hlength
  rw [hsep] at hnone ⊢
  exact cutLast?_append_of_eq_none hnone t

/-- A text has one last occurrence of a code point. -/
theorem append_cons_left_inj {x : CodePoint} {v : Text} (hr : x ∉ r) (hv : x ∉ v)
    (h : t ++ x :: r = u ++ x :: v) : t = u := by
  have hcut : ∀ t r : Text, x ∉ r → cutLast? [x] (t ++ x :: r) = some (t, r) := by
    intro t r hr
    show cutLast? ([] ++ [x]) (t ++ ([] ++ [x] ++ r)) = some (t, r)
    exact cutLast?_append hr t
  have heq := hcut t r hr
  rw [h, hcut u v hv] at heq
  exact (Prod.mk.inj (Option.some.inj heq)).1.symm

/-! ## Trimming -/

theorem dropRightWhile_concat (p : CodePoint → Bool) (t : Text) (c : CodePoint) :
    dropRightWhile p (t ++ [c]) = if p c then dropRightWhile p t else t ++ [c] := by
  unfold dropRightWhile
  induction t with
  | nil => simp
  | cons d t ih =>
    rw [List.cons_append, List.foldr_cons, ih]
    by_cases hc : p c = true
    · simp [hc]
    · simp [hc]

theorem dropRightWhile_eq (p : CodePoint → Bool) (t : Text) : dropRightWhile p t = t.rdropWhile p := by
  induction t using List.reverseRecOn with
  | nil => rfl
  | append_singleton t c ih => rw [dropRightWhile_concat, List.rdropWhile_concat, ih]

theorem trimRight_isPrefix (t : Text) : t.trimRight <+: t := by
  rw [trimRight, dropRightWhile_eq]
  exact List.rdropWhile_prefix _ _

theorem trim_subset (t : Text) : t.trim ⊆ t :=
  List.Subset.trans (trimRight_isPrefix _).subset (List.dropWhile_suffix _).subset

/-- A text that neither starts nor ends with a blank. -/
structure Trimmed (t : Text) : Prop where
  start : ∀ c ∈ t.head?, c.isBlank = false
  stop : ∀ c ∈ t.getLast?, c.isBlank = false

theorem trimRight_eq_self (h : ∀ c ∈ t.getLast?, c.isBlank = false) : t.trimRight = t := by
  rcases List.eq_nil_or_concat t with rfl | ⟨t, c, rfl⟩
  · rfl
  · have hc : c.isBlank = false := h c (by simp)
    rw [List.concat_eq_append, trimRight, dropRightWhile_concat, hc, if_neg Bool.false_ne_true]

theorem trimmed_append (ht : t ≠ []) (hu : u ≠ []) (hstart : ∀ c ∈ t.head?, c.isBlank = false)
    (hstop : ∀ c ∈ u.getLast?, c.isBlank = false) : Trimmed (t ++ u) where
  start := by
    rw [List.head?_append_of_ne_nil t ht]
    exact hstart
  stop := by
    rw [List.getLast?_append_of_ne_nil t hu]
    exact hstop

/-- Blanks before a text without blanks at its ends are trimmed off. -/
theorem Trimmed.trim_append (h : Trimmed t) (hne : t ≠ []) (hu : ∀ c ∈ u, c.isBlank = true) :
    (u ++ t).trim = t := by
  obtain ⟨c, r, rfl⟩ := List.exists_cons_of_ne_nil hne
  have hleft : (u ++ c :: r).trimLeft = c :: r := by
    rw [trimLeft, List.dropWhile_append_of_pos hu,
      List.dropWhile_cons_of_neg (by rw [h.start c rfl]; exact Bool.false_ne_true)]
  rw [trim, hleft, trimRight_eq_self h.stop]

theorem Trimmed.trim_eq (h : Trimmed t) (hne : t ≠ []) : t.trim = t :=
  h.trim_append (u := []) hne (List.forall_mem_nil _)

/-! ## Parts of a text -/

theorem includes_iff {part : Text} : includes t part = true ↔ part <:+: t := by
  unfold includes
  induction t with
  | nil =>
    rw [cut?, List.infix_nil]
    cases part <;> simp
  | cons c r ih =>
    rw [cut?, List.infix_cons_iff, ← ih, ← startsWith_iff]
    cases hafter : after? part (c :: r) with
    | some rest => simp [startsWith_iff, after?_eq_some_iff.1 hafter]
    | none =>
      have hstart : startsWith (c :: r) part = false := by
        rw [Bool.eq_false_iff, ne_eq, startsWith_iff]
        rintro ⟨rest, hrest⟩
        rw [← hrest, after?_append] at hafter
        cases hafter
      simp [hstart]

theorem cutLast?_eq_none_of_not_infix {sep : Text} (h : ¬ sep <:+: t) : cutLast? sep t = none := by
  cases hcut : cutLast? sep t with
  | none => rfl
  | some parts =>
    obtain ⟨before, rest⟩ := parts
    exact absurd ⟨before, rest, by rw [List.append_assoc]; exact (eq_of_cutLast? hcut).symm⟩ h

/-- A part does not start at a code point other than its first. -/
theorem infix_of_infix_cons {sep : Text} {x a : CodePoint} (ha : x ≠ a) (h : x :: sep <:+: a :: t) :
    x :: sep <:+: t := by
  rcases List.infix_cons_iff.1 h with h | h
  · exact absurd (List.cons_prefix_cons.1 h).1 ha
  · exact h

/-- A part does not start in a text without its first code point. -/
theorem infix_of_infix_append {sep : Text} {x : CodePoint} (hx : x ∉ t) (h : x :: sep <:+: t ++ r) :
    x :: sep <:+: r := by
  induction t with
  | nil => exact h
  | cons a t ih =>
    rw [List.mem_cons, not_or] at hx
    exact ih hx.2 (infix_of_infix_cons hx.1 h)

/-- A code point that a part does not hold divides the places where the part may stand. -/
theorem infix_append_cons_iff {sep : Text} {x : CodePoint} (hx : x ∉ sep) :
    sep <:+: t ++ x :: r ↔ sep <:+: t ∨ sep <:+: r := by
  constructor
  · intro h
    induction t with
    | nil =>
      rcases List.infix_cons_iff.1 h with h | h
      · rcases sep with _ | ⟨a, sep⟩
        · exact Or.inl List.infix_rfl
        · exact absurd ((List.cons_prefix_cons.1 h).1 ▸ List.mem_cons_self) hx
      · exact Or.inr h
    | cons c t ih =>
      rcases List.infix_cons_iff.1 h with h | h
      · have hfit : sep <+: c :: t := by
          rcases List.prefix_or_prefix_of_prefix h
            (⟨r, by simp⟩ : c :: t ++ [x] <+: c :: (t ++ x :: r)) with hshort | hlong
          · rcases List.prefix_concat_iff.1 hshort with rfl | hfit
            · exact absurd (by simp) hx
            · exact hfit
          · exact absurd (hlong.subset (by simp)) hx
        exact Or.inl hfit.isInfix
      · rcases ih h with h | h
        · exact Or.inl (List.infix_cons h)
        · exact Or.inr h
  · rintro (h | h)
    · exact h.trans (List.infix_append [] t (x :: r))
    · exact h.trans ⟨t ++ [x], [], by simp⟩

/-- Between two texts without it, a code point ends a part only where it stands between them. -/
theorem infix_concat_iff {sep : Text} {x : CodePoint} (ht : x ∉ t) (hr : x ∉ r) :
    sep ++ [x] <:+: t ++ x :: r ↔ sep <:+ t := by
  constructor
  · rintro ⟨a, b, h⟩
    have hparts : t ++ x :: r = (a ++ sep) ++ x :: b := by
      rw [← h]
      simp
    exact ⟨a, ((List.append_cons_inj_of_notMem ht hr).1 hparts).1.symm⟩
  · rintro ⟨a, rfl⟩
    exact ⟨a, r, by simp⟩

theorem afterLast_isSuffix (sep t : Text) : afterLast sep t <:+ t := by
  unfold afterLast
  cases h : cutLast? sep t with
  | none => exact List.suffix_rfl
  | some parts =>
    obtain ⟨before, rest⟩ := parts
    show rest <:+ t
    exact ⟨before ++ sep, by rw [List.append_assoc]; exact (eq_of_cutLast? h).symm⟩

theorem mem_join {sep : Text} {ts : List Text} {c : CodePoint} (h : c ∈ join sep ts) :
    c ∈ sep ∨ ∃ t ∈ ts, c ∈ t := by
  unfold join at h
  induction ts with
  | nil => cases h
  | cons t ts ih =>
    cases ts with
    | nil =>
      rw [List.intercalate_singleton] at h
      exact Or.inr ⟨t, List.mem_cons_self, h⟩
    | cons u ts =>
      rw [List.intercalate_cons_cons, List.mem_append, List.mem_append] at h
      rcases h with (h | h) | h
      · exact Or.inr ⟨t, List.mem_cons_self, h⟩
      · exact Or.inl h
      · rcases ih h with h | ⟨v, hv, h⟩
        · exact Or.inl h
        · exact Or.inr ⟨v, List.mem_cons_of_mem t hv, h⟩

theorem join_concat {sep : Text} {ts : List Text} (hts : ts ≠ []) (t : Text) :
    join sep (ts ++ [t]) = join sep ts ++ (sep ++ t) := by
  unfold join
  induction ts with
  | nil => exact absurd rfl hts
  | cons u ts ih =>
    cases ts with
    | nil => simp [List.intercalate_cons_cons]
    | cons v ts =>
      rw [List.cons_append, List.cons_append, List.intercalate_cons_cons, ← List.cons_append,
        ih (by simp), List.intercalate_cons_cons, List.append_assoc, List.append_assoc, List.append_assoc]

/-- A part of the joined texts is in one of them, if it holds no comma and does not start in a gap. -/
theorem infix_of_infix_join {a : CodePoint} {l gap : Text} (ha : a ∉ gap) (hcomma : (',' : CodePoint) ∉ a :: l)
    {ts : List Text} (h : a :: l <:+: join ((',' : CodePoint) :: gap) ts) : ∃ t ∈ ts, a :: l <:+: t := by
  induction ts with
  | nil => exact absurd (List.eq_nil_of_infix_nil h) (List.cons_ne_nil a l)
  | cons t ts ih =>
    cases ts with
    | nil => exact ⟨t, List.mem_cons_self, by simpa [join] using h⟩
    | cons u ts =>
      have hjoin : join ((',' : CodePoint) :: gap) (t :: u :: ts)
          = t ++ (',' : CodePoint) :: (gap ++ join ((',' : CodePoint) :: gap) (u :: ts)) := by
        simp [join, List.intercalate_cons_cons]
      rw [hjoin, infix_append_cons_iff hcomma] at h
      rcases h with h | h
      · exact ⟨t, List.mem_cons_self, h⟩
      · obtain ⟨t', ht', h⟩ := ih (infix_of_infix_append ha h)
        exact ⟨t', List.mem_cons_of_mem t ht', h⟩

theorem filter_join (p : CodePoint → Bool) (sep : Text) (ts : List Text) :
    (join sep ts).filter p = join (sep.filter p) (ts.map (List.filter p)) := by
  unfold join
  induction ts with
  | nil => rfl
  | cons t ts ih =>
    cases ts with
    | nil => simp
    | cons u ts => simpa [List.intercalate_cons_cons] using ih

/-- Texts without the code point that joins them are found again. -/
theorem join_injective {x : CodePoint} {ts us : List Text} (hts : ∀ t ∈ ts, t ≠ [] ∧ x ∉ t)
    (hus : ∀ t ∈ us, t ≠ [] ∧ x ∉ t) (h : join [x] ts = join [x] us) : ts = us := by
  have hnil : ∀ vs : List Text, (∀ t ∈ vs, t ≠ [] ∧ x ∉ t) → join [x] vs = [] → vs = [] := by
    intro vs hvs hjoin
    rcases vs with _ | ⟨t, vs⟩
    · rfl
    · refine absurd ?_ (hvs t List.mem_cons_self).1
      rcases vs with _ | ⟨u, vs⟩
      · simpa [join] using hjoin
      · simp [join, List.intercalate_cons_cons] at hjoin
  by_cases hempty : ts = []
  · rw [hempty, hnil us hus (by rw [← h, hempty]; rfl)]
  · have hempty' : us ≠ [] := fun hu => hempty (hnil ts hts (by rw [h, hu]; rfl))
    have hsplit := congrArg (List.splitOn x) h
    rwa [join, join, List.splitOn_intercalate x (fun t ht => (hts t ht).2) hempty,
      List.splitOn_intercalate x (fun t ht => (hus t ht).2) hempty'] at hsplit

/-! ## Lines -/

/-- A text without a line feed. -/
def OneLine (t : Text) : Prop := ('\n' : CodePoint) ∉ t

instance (t : Text) : Decidable (OneLine t) := inferInstanceAs (Decidable (¬ _))

theorem oneLine_append : OneLine (t ++ u) ↔ OneLine t ∧ OneLine u := by
  simp only [OneLine, List.mem_append, not_or]

/-- The lines, each ended by a line feed. -/
def unlines (ls : List Text) : Text := ls.flatMap (· ++ [('\n' : CodePoint)])

theorem splitOn_ne_nil (sep : CodePoint) (t : Text) : splitOn sep t ≠ [] := by
  cases t with
  | nil => exact List.cons_ne_nil _ _
  | cons c t =>
    unfold splitOn
    split
    · exact List.cons_ne_nil _ _
    · split <;> exact List.cons_ne_nil _ _

theorem mem_of_mem_splitOn {sep c : CodePoint} {part : Text} (hpart : part ∈ splitOn sep t) (hc : c ∈ part) :
    c ∈ t := by
  induction t generalizing part with
  | nil =>
    rw [List.mem_singleton.1 hpart] at hc
    exact hc
  | cons d t ih =>
    unfold splitOn at hpart
    split at hpart
    · rcases List.mem_cons.1 hpart with rfl | hpart
      · exact absurd hc List.not_mem_nil
      · exact List.mem_cons_of_mem d (ih hpart hc)
    · split at hpart
      case h_1 hnil => exact absurd hnil (splitOn_ne_nil sep t)
      case h_2 piece pieces hpieces =>
        rcases List.mem_cons.1 hpart with rfl | hpart
        · rcases List.mem_cons.1 hc with rfl | hc
          · exact List.mem_cons_self
          · exact List.mem_cons_of_mem d (ih (hpieces ▸ List.mem_cons_self) hc)
        · exact List.mem_cons_of_mem d (ih (hpieces ▸ List.mem_cons_of_mem piece hpart) hc)

theorem splitOn_append_cons {sep : CodePoint} (h : sep ∉ t) (r : Text) :
    splitOn sep (t ++ sep :: r) = t :: splitOn sep r := by
  induction t with
  | nil => rw [List.nil_append, splitOn, if_pos (beq_self_eq_true sep)]
  | cons c t ih =>
    rw [List.mem_cons, not_or] at h
    rw [List.cons_append, splitOn, if_neg (by simpa using Ne.symm h.1), ih h.2]

theorem splitOn_unlines {ls : List Text} (h : ∀ l ∈ ls, OneLine l) :
    splitOn '\n' (unlines ls) = ls ++ [[]] := by
  induction ls with
  | nil => rfl
  | cons l ls ih =>
    obtain ⟨hl, hls⟩ := List.forall_mem_cons.1 h
    unfold unlines at ih ⊢
    rw [List.flatMap_cons, List.append_assoc, List.singleton_append, splitOn_append_cons hl, ih hls,
      List.cons_append]

/-- Lines that are joined have one line feed fewer than there are lines. -/
theorem count_join {ls : List Text} (h : ∀ l ∈ ls, OneLine l) :
    (join "\n" ls).count ('\n' : CodePoint) = ls.length - 1 := by
  unfold join
  induction ls with
  | nil => rfl
  | cons l ls ih =>
    obtain ⟨hl, hls⟩ := List.forall_mem_cons.1 h
    have hnone : l.count ('\n' : CodePoint) = 0 := List.count_eq_zero.2 hl
    cases ls with
    | nil => rw [List.intercalate_singleton, hnone]; rfl
    | cons l' ls =>
      have hfeed : ("\n" : Text).count ('\n' : CodePoint) = 1 := by decide
      have hrest := ih hls
      rw [List.length_cons] at hrest
      rw [List.intercalate_cons_cons, List.count_append, List.count_append, hnone, hfeed, hrest,
        List.length_cons, List.length_cons]
      omega

theorem splitOn_of_not_mem {sep : CodePoint} (h : sep ∉ t) : splitOn sep t = [t] := by
  induction t with
  | nil => rfl
  | cons c t ih =>
    rw [List.mem_cons, not_or] at h
    rw [splitOn, if_neg (by simpa using Ne.symm h.1), ih h.2]

theorem splitOn_join {ls : List Text} (hne : ls ≠ []) (h : ∀ l ∈ ls, OneLine l) :
    splitOn '\n' (join "\n" ls) = ls := by
  unfold join
  induction ls with
  | nil => exact absurd rfl hne
  | cons l ls ih =>
    obtain ⟨hl, hls⟩ := List.forall_mem_cons.1 h
    cases ls with
    | nil => rw [List.intercalate_singleton, splitOn_of_not_mem hl]
    | cons l' ls =>
      rw [List.intercalate_cons_cons, List.append_assoc]
      exact (splitOn_append_cons hl _).trans (congrArg _ (ih (List.cons_ne_nil _ _) hls))

theorem trimRight_append (t u : Text) :
    (t ++ u).trimRight = if u.trimRight.isEmpty then t.trimRight else t ++ u.trimRight := by
  simp only [trimRight, dropRightWhile_eq, List.rdropWhile, List.reverse_append, List.dropWhile_append,
    List.isEmpty_reverse]
  split
  · rfl
  · rw [List.reverse_append, List.reverse_reverse]

/-- Trimming joined lines drops the blank ones at the end and trims the last one left. -/
theorem trimRight_join (ls : List Text) :
    (∀ l ∈ ls, l.trimRight = []) ∧ (join "\n" ls).trimRight = [] ∨
      ∃ front l back, ls = front ++ l :: back ∧ l.trimRight ≠ [] ∧ (∀ b ∈ back, b.trimRight = []) ∧
        (join "\n" ls).trimRight = join "\n" (front ++ [l.trimRight]) := by
  induction ls using List.reverseRecOn with
  | nil => exact Or.inl ⟨List.forall_mem_nil _, rfl⟩
  | append_singleton ls l ih =>
    by_cases hempty : ls = []
    · subst hempty
      by_cases hl : l.trimRight = []
      · exact Or.inl ⟨by simpa using hl, by simpa [join] using hl⟩
      · exact Or.inr ⟨[], l, [], rfl, hl, List.forall_mem_nil _, by simp [join]⟩
    · rw [join_concat hempty, trimRight_append, trimRight_append]
      by_cases hl : l.trimRight = []
      · have hfeed : ("\n" : Text).trimRight = [] := by decide
        rw [hl, hfeed]
        rcases ih with ⟨hall, hjoin⟩ | ⟨front, m, back, rfl, hm, hback, hjoin⟩
        · exact Or.inl ⟨List.forall_mem_append.2 ⟨hall, by simpa using hl⟩, hjoin⟩
        · refine Or.inr ⟨front, m, back ++ [l], by simp, hm, ?_, hjoin⟩
          exact List.forall_mem_append.2 ⟨hback, by simpa using hl⟩
      · refine Or.inr ⟨ls, l, [], rfl, hl, List.forall_mem_nil _, ?_⟩
        rw [join_concat hempty]
        simp [hl]

/-- The lines of a trimmed text: those of the text but for blank lines at the end, the last one trimmed. -/
theorem exists_lines_of_trimRight {ls : List Text} (h : ∀ l ∈ ls, OneLine l) :
    ∃ kept : List Text, (join "\n" ls).trimRight = join "\n" kept ∧
      ((join "\n" ls).trimRight = [] ↔ kept = []) ∧ (∀ l ∈ kept, OneLine l) ∧
      ∀ t, t ≠ [] → (∀ l ∈ ls, l.trimRight = t ↔ l = t) → (t ∈ kept ↔ t ∈ ls) := by
  rcases trimRight_join ls with ⟨hall, hjoin⟩ | ⟨front, l, back, rfl, hl, hback, hjoin⟩
  · refine ⟨[], hjoin, by simp [hjoin], List.forall_mem_nil _, fun t ht hkeep => ?_⟩
    refine iff_of_false List.not_mem_nil fun hmem => ht ?_
    rw [← hall t hmem]
    exact ((hkeep t hmem).2 rfl).symm
  · obtain ⟨hfront, hlast⟩ := List.forall_mem_append.1 h
    refine ⟨front ++ [l.trimRight], hjoin, ?_, ?_, fun t ht hkeep => ?_⟩
    · refine iff_of_false (fun hnil => hl ?_) (by simp)
      rw [hjoin] at hnil
      by_cases hempty : front = []
      · simpa [hempty, join] using hnil
      · rw [join_concat hempty] at hnil
        exact (List.append_eq_nil_iff.1 (List.append_eq_nil_iff.1 hnil).2).2
    · refine List.forall_mem_append.2 ⟨hfront, List.forall_mem_singleton.2 fun hfeed => ?_⟩
      exact hlast l List.mem_cons_self ((trimRight_isPrefix l).subset hfeed)
    · have hkeepl := hkeep l (by simp)
      have hnot : t ∉ back := fun hmem => ht (by
        rw [← hback t hmem]
        exact ((hkeep t (by simp [hmem])).2 rfl).symm)
      simp only [List.mem_append, List.mem_cons, List.not_mem_nil, or_false, hnot, eq_comm (a := t), hkeepl]

/-! ## Numerals -/

theorem digit_ofChar {c : Char} (h : c.isDigit = true) :
    (CodePoint.ofChar c).isDigit = true ∧
      (CodePoint.ofChar c).decimalValue? = some (c.toNat - '0'.toNat) := by
  obtain ⟨hlow, hhigh⟩ := Char.isDigit_iff_toNat.1 h
  have hval : (CodePoint.ofChar c).val = c.toNat := rfl
  have hzero : '0'.toNat = 0x30 := rfl
  have hnine : '9'.toNat = 0x39 := rfl
  have hascii : (CodePoint.ofChar c).isAscii = true := by
    rw [CodePoint.isAscii, decide_eq_true_eq, hval]
    omega
  have hdigit : (CodePoint.ofChar c).isAsciiDigit = true := by
    rw [CodePoint.isAsciiDigit, Bool.and_eq_true, decide_eq_true_eq, decide_eq_true_eq, hval]
    omega
  rw [CodePoint.isDigit, CodePoint.decimalValue?, if_pos hascii, if_pos hascii, if_pos hdigit]
  exact ⟨hdigit, rfl⟩

theorem isDigit_of_mem_ofNat {n : Nat} {c : CodePoint} (h : c ∈ ofNat n) : c.isDigit = true := by
  obtain ⟨d, hd, rfl⟩ := List.mem_map.1 h
  exact (digit_ofChar (Nat.isDigit_of_mem_toDigits (by decide) (by decide) hd)).1

theorem oneLine_ofNat (n : Nat) : OneLine (ofNat n) := by
  intro h
  exact absurd (isDigit_of_mem_ofNat h) (by decide)

/-- Reading digits carries on from the number read before them. -/
theorem foldl_digits {ds : List Char} (h : ∀ d ∈ ds, d.isDigit = true) (n : Nat) :
    (ds.map CodePoint.ofChar).foldl (fun value c => do return (← value) * 10 + (← c.decimalValue?)) (some n)
      = some (Nat.ofDigitChars 10 ds n) := by
  induction ds generalizing n with
  | nil => rfl
  | cons d ds ih =>
    obtain ⟨hd, hds⟩ := List.forall_mem_cons.1 h
    rw [List.map_cons, List.foldl_cons, Nat.ofDigitChars_cons, ← ih hds, (digit_ofChar hd).2, Nat.mul_comm 10]
    rfl

@[simp] theorem decimal?_ofNat (n : Nat) : decimal? (ofNat n) = some n := by
  have hne : (ofNat n).isEmpty = false := by simp [ofNat, Nat.toDigits_ne_nil]
  rw [decimal?, hne, if_neg Bool.false_ne_true, ofNat,
    foldl_digits (fun d => Nat.isDigit_of_mem_toDigits (by decide) (by decide)),
    Nat.ofDigitChars_ten_toDigits]

end ChangeReview.Text
