import ChangeReview.Proofs.Signature.Splitting

/-!
# Generic types

A type is a name or a name applied to types. The marks of a type are its angle brackets and the commas
between its arguments; every bracket is recognised as one that opens or closes type arguments, so a list is
split nowhere inside a type.
-/

namespace ChangeReview.Signature

open Lexeme (Marked)

variable {seen whole r : Text} {position index depth : Nat} {previous : Option CodePoint}

mutual

/-- A type: a name, or a name applied to types. -/
inductive TypeTerm where
  | name (w : Word)
  | apply (g : Word) (arguments : TypeArguments)

/-- One type or more. -/
inductive TypeArguments where
  | last (t : TypeTerm)
  | more (t : TypeTerm) (others : TypeArguments)

end

mutual

def TypeTerm.text : TypeTerm → Text
  | .name w => w.text
  | .apply g arguments => g.text ++ ('<' : CodePoint) :: (arguments.text ++ [('>' : CodePoint)])

def TypeArguments.text : TypeArguments → Text
  | .last t => t.text
  | .more t others => t.text ++ (',' : CodePoint) :: others.text

end

/-- The last of the types is a name. -/
def TypeArguments.endsInName : TypeArguments → Bool
  | .last (.name _) => true
  | .last (.apply _ _) => false
  | .more _ others => others.endsInName

/-- The bracket that closes the type stands alone. -/
def TypeTerm.closesAlone : TypeTerm → Bool
  | .name _ => false
  | .apply _ arguments => arguments.endsInName

/-! ## What types look like -/

theorem TypeTerm.exists_cons (t : TypeTerm) : ∃ c r, t.text = c :: r ∧ c.isWord = true := by
  cases t with
  | name w => exact w.exists_cons
  | apply g arguments =>
    obtain ⟨c, r, hg, hc⟩ := g.exists_cons
    exact ⟨c, _, by rw [TypeTerm.text, hg, List.cons_append], hc⟩

theorem TypeArguments.exists_cons (arguments : TypeArguments) :
    ∃ c r, arguments.text = c :: r ∧ c.isWord = true := by
  cases arguments with
  | last t => exact t.exists_cons
  | more t others =>
    obtain ⟨c, r, ht, hc⟩ := t.exists_cons
    exact ⟨c, _, by rw [TypeArguments.text, ht, List.cons_append], hc⟩

/-- A code point of a type. -/
def isTypeCode (c : CodePoint) : Bool := c.isWord || c == '<' || c == '>' || c == ','

theorem isTypeCode_of_word (w : Word) : ∀ c ∈ w.text, isTypeCode c = true := by
  intro c hc
  rw [isTypeCode, w.word c hc]
  rfl

mutual

theorem TypeTerm.isTypeCode (t : TypeTerm) : ∀ c ∈ t.text, Signature.isTypeCode c = true := by
  cases t with
  | name w => exact isTypeCode_of_word w
  | apply g arguments =>
    simp only [TypeTerm.text, List.forall_mem_append, List.forall_mem_cons]
    exact ⟨isTypeCode_of_word g, rfl, arguments.isTypeCode, rfl, List.forall_mem_nil _⟩

theorem TypeArguments.isTypeCode (arguments : TypeArguments) :
    ∀ c ∈ arguments.text, Signature.isTypeCode c = true := by
  cases arguments with
  | last t => exact t.isTypeCode
  | more t others =>
    simp only [TypeArguments.text, List.forall_mem_append, List.forall_mem_cons]
    exact ⟨t.isTypeCode, rfl, others.isTypeCode⟩

end

/-- The bracket that closes a type stands behind another one unless the last argument is a name. -/
theorem TypeArguments.head?_reverse (arguments : TypeArguments) (seen : Text) :
    (arguments.text.reverse ++ seen).head? = some ('>' : CodePoint) ↔ arguments.endsInName = false := by
  match arguments with
  | .last (.name w) =>
    refine iff_of_false ?_ (by simp [endsInName])
    obtain ⟨c, r, hr⟩ := List.exists_cons_of_ne_nil (List.reverse_ne_nil_iff.2 w.nonempty)
    have hc : c.isWord = true := w.word c (List.mem_reverse.1 (hr ▸ List.mem_cons_self))
    rw [TypeArguments.text, TypeTerm.text, hr]
    intro heq
    rw [Option.some.inj heq] at hc
    cases hc
  | .last (.apply g inner) =>
    refine iff_of_true ?_ rfl
    simp [TypeArguments.text, TypeTerm.text]
  | .more t others =>
    rw [TypeArguments.text, List.reverse_append, List.reverse_cons, List.append_assoc, List.append_assoc]
    exact others.head?_reverse _

/-! ## The marks of a type -/

mutual

/-- The marks of a type that stands at a position. -/
def TypeTerm.marks (position : Nat) : TypeTerm → List Lexeme
  | .name _ => []
  | .apply g arguments =>
    .mark '<' (position + g.text.length)
      :: (arguments.marks (position + g.text.length + 1)
        ++ [.mark '>' (position + g.text.length + 1 + arguments.text.length)])

def TypeArguments.marks (position : Nat) : TypeArguments → List Lexeme
  | .last t => t.marks position
  | .more t others =>
    t.marks position
      ++ .mark ',' (position + t.text.length) :: others.marks (position + t.text.length + 1)

end

/-- What may come behind a type. -/
def FollowsType (r : Text) : Prop := ∀ c ∈ r.head?, c = '>' ∨ c = ',' ∨ c = ')' ∨ c = '='

theorem FollowsType.endsWord (h : FollowsType r) : ∀ c ∈ r.head?, c.endsWord = true := by
  intro c hc
  rcases h c hc with rfl | rfl | rfl | rfl <;> rfl

/-- A closing bracket before what may follow a type stands by itself, unless an equals sign comes and no
other bracket stands before it. -/
theorem FollowsType.single (h : FollowsType r)
    (hequals : r.head? = some ('=' : CodePoint) → seen.head? = some ('>' : CodePoint)) :
    Lexeme.Single seen '>' r := by
  cases hr : r.head? with
  | none => exact Or.inl (by simp [hr])
  | some c =>
    rcases h c hr with rfl | rfl | rfl | rfl
    · exact Or.inr ⟨rfl, Or.inr hr⟩
    · exact Or.inl (by rw [hr]; decide)
    · exact Or.inl (by rw [hr]; decide)
    · exact Or.inr ⟨rfl, Or.inl (hequals hr)⟩

mutual

theorem TypeTerm.marked (t : TypeTerm) (seen : Text) (position : Nat) (r : Text) (ms : List Lexeme)
    (hr : FollowsType r) (hequals : r.head? = some ('=' : CodePoint) → t.closesAlone = false)
    (h : Marked .typescript (t.text.reverse ++ seen) (position + t.text.length) r ms) :
    Marked .typescript seen position (t.text ++ r) (t.marks position ++ ms) := by
  cases t with
  | name w => exact Marked.word w.word hr.endsWord h
  | apply g arguments =>
    have hlast : Marked .typescript (arguments.text.reverse ++ ('<' : CodePoint) :: (g.text.reverse ++ seen))
        (position + g.text.length + 1 + arguments.text.length) ('>' :: r)
        (.mark '>' (position + g.text.length + 1 + arguments.text.length) :: ms) := by
      refine Marked.mark (by decide) (hr.single fun heq => (arguments.head?_reverse _).2 (hequals heq)) ?_
      simpa [TypeTerm.text, Nat.add_assoc, Nat.add_comm, Nat.add_left_comm] using h
    have hinner := arguments.marked ('<' :: (g.text.reverse ++ seen)) (position + g.text.length + 1) ('>' :: r) _
      (by simp [FollowsType]) (by simp; decide) hlast
    have hopen := Marked.mark (c := '<') (by decide) (Lexeme.single_word arguments.exists_cons _ _ _) hinner
    simpa [TypeTerm.text, TypeTerm.marks] using Marked.word g.word (Lexeme.endsWord_cons rfl) hopen

theorem TypeArguments.marked (arguments : TypeArguments) (seen : Text) (position : Nat) (r : Text)
    (ms : List Lexeme) (hr : FollowsType r) (hequals : r.head? ≠ some ('=' : CodePoint))
    (h : Marked .typescript (arguments.text.reverse ++ seen) (position + arguments.text.length) r ms) :
    Marked .typescript seen position (arguments.text ++ r) (arguments.marks position ++ ms) := by
  cases arguments with
  | last t => exact t.marked seen position r ms hr (fun heq => absurd heq hequals) h
  | more t others =>
    have hinner := others.marked (',' :: (t.text.reverse ++ seen)) (position + t.text.length + 1) r ms hr hequals
      (by simpa [TypeArguments.text, Nat.add_assoc, Nat.add_comm, Nat.add_left_comm] using h)
    have hfirst := t.marked seen position (',' :: (others.text ++ r)) _ (by simp [FollowsType])
      (fun h => absurd h (by simp; decide))
      (Marked.mark (by decide) (Lexeme.single_word others.exists_cons _ _ _) hinner)
    simpa [TypeArguments.text, TypeArguments.marks] using hfirst

end

/-! ## Where a type closes -/

/-- A text that the search for a closing angle bracket passes over. -/
def PassesAngles (t : Text) : Prop :=
  ∀ index previous depth r, previous ≠ some ('=' : CodePoint) → ∃ previous', previous' ≠ some ('=' : CodePoint) ∧
    Lexeme.angleClose?.go index none false previous (depth + 1) (t ++ r)
      = Lexeme.angleClose?.go (index + t.length) none false previous' (depth + 1) r

theorem PassesAngles.append {t u : Text} (ht : PassesAngles t) (hu : PassesAngles u) : PassesAngles (t ++ u) := by
  intro index previous depth r hprevious
  obtain ⟨p, hp, hleft⟩ := ht index previous depth (u ++ r) hprevious
  obtain ⟨q, hq, hright⟩ := hu (index + t.length) p depth r hp
  exact ⟨q, hq, by rw [List.append_assoc, hleft, hright, List.length_append, Nat.add_assoc]⟩

theorem passesAngles_of_plain {t : Text}
    (h : ∀ c ∈ t, c.isQuote = false ∧ c ≠ '<' ∧ c ≠ '>' ∧ c ≠ '=') : PassesAngles t := by
  induction t with
  | nil => exact fun index previous depth r hprevious => ⟨previous, hprevious, rfl⟩
  | cons c t ih =>
    obtain ⟨⟨hquote, hopen, hclose, hequals⟩, ht⟩ := List.forall_mem_cons.1 h
    refine PassesAngles.append (t := [c]) ?_ (ih ht)
    intro index previous depth r _
    exact ⟨some c, by simpa using hequals, by simp [Lexeme.angleClose?.go, hquote, hopen, hclose]⟩

theorem passesAngles_word (w : Word) : PassesAngles w.text := by
  refine passesAngles_of_plain fun c hc => ?_
  have hword := w.word c hc
  exact ⟨CodePoint.isQuote_of_isWord hword, CodePoint.ne_of_isWord hword (by decide),
    CodePoint.ne_of_isWord hword (by decide), CodePoint.ne_of_isWord hword (by decide)⟩

theorem angleClose?_close (hprevious : previous ≠ some ('=' : CodePoint)) :
    Lexeme.angleClose?.go index none false previous depth ('>' :: r)
      = if depth ≤ 1 then some index
        else Lexeme.angleClose?.go (index + 1) none false (some ('>' : CodePoint)) (depth - 1) r := by
  have hclose : (('>' : CodePoint) == '>' && previous != some ('=' : CodePoint)) = true := by
    simpa using hprevious
  rw [Lexeme.angleClose?.go, hclose]
  rfl

theorem PassesAngles.enclosed {t : Text} (h : PassesAngles t) :
    PassesAngles (('<' : CodePoint) :: (t ++ [('>' : CodePoint)])) := by
  intro index previous depth r _
  have hopen : some ('<' : CodePoint) ≠ some ('=' : CodePoint) := by decide
  obtain ⟨p, hp, hinner⟩ := h (index + 1) (some ('<' : CodePoint)) (depth + 1) (('>' : CodePoint) :: r) hopen
  rw [angleClose?_close hp, if_neg (by omega)] at hinner
  refine ⟨some ('>' : CodePoint), by decide, ?_⟩
  have hlength : index + (('<' : CodePoint) :: (t ++ [('>' : CodePoint)])).length = index + 1 + t.length + 1 := by
    simp only [List.length_cons, List.length_append, List.length_nil]
    omega
  rw [hlength, List.cons_append, List.append_assoc]
  exact hinner

/-- The bracket that closes the one at the start is found behind what is passed over. -/
theorem PassesAngles.angleClose? {t : Text} (h : PassesAngles t) (r : Text) :
    Lexeme.angleClose? (('<' : CodePoint) :: (t ++ ('>' : CodePoint) :: r)) = some (1 + t.length) := by
  have hopen : some ('<' : CodePoint) ≠ some ('=' : CodePoint) := by decide
  obtain ⟨p, hp, hinner⟩ := h 1 (some ('<' : CodePoint)) 0 (('>' : CodePoint) :: r) hopen
  rw [angleClose?_close hp, if_pos (by omega)] at hinner
  exact hinner

mutual

theorem TypeTerm.passesAngles (t : TypeTerm) : PassesAngles t.text := by
  cases t with
  | name w => exact passesAngles_word w
  | apply g arguments => exact (passesAngles_word g).append arguments.passesAngles.enclosed

theorem TypeArguments.passesAngles (arguments : TypeArguments) : PassesAngles arguments.text := by
  cases arguments with
  | last t => exact t.passesAngles
  | more t others =>
    have hcomma : PassesAngles [(',' : CodePoint)] := passesAngles_of_plain (by decide)
    exact t.passesAngles.append (hcomma.append others.passesAngles)

end

/-- The bracket behind a name opens type arguments, if a default has not begun. -/
theorem opensGeneric_apply (g : Word) (arguments : TypeArguments)
    (htext : whole.drop position = g.text ++ ('<' : CodePoint) :: (arguments.text ++ ('>' : CodePoint) :: r)) :
    opensGeneric whole (position + g.text.length) false = true := by
  have hpos : 0 < g.text.length := List.length_pos_iff.2 g.nonempty
  obtain ⟨a, rest, ha, hword⟩ := arguments.exists_cons
  have hdrop : whole.drop (position + g.text.length)
      = ('<' : CodePoint) :: (arguments.text ++ ('>' : CodePoint) :: r) := drop_behind htext
  have hbefore : ∃ b, whole[position + g.text.length - 1]? = some b ∧ b.isWord = true := by
    refine ⟨g.text.getLast g.nonempty, ?_, g.word _ (List.getLast_mem g.nonempty)⟩
    rw [Nat.add_sub_assoc hpos, ← List.getElem?_drop, htext, List.getElem?_append_left (by omega),
      List.getLast_eq_getElem, List.getElem?_eq_getElem]
  have hafter : whole[position + g.text.length + 1]? = some a := by
    rw [← List.getElem?_drop, hdrop, ha]
    rfl
  obtain ⟨b, hb, hbword⟩ := hbefore
  have hindex : (position + g.text.length == 0) = false := by
    rw [beq_eq_false_iff_ne]
    omega
  have hstart : (Text.ofString "=<>!+-*/%&|^?:,)\x7d").contains a = false :=
    CodePoint.contains_of_isWord (by decide) hword
  have hname : (Text.ofString "=<>!+-*/%&|^?:,(\x7b").contains b = false :=
    CodePoint.contains_of_isWord (by decide) hbword
  simp only [opensGeneric, hindex, hb, hafter, hstart, hname, hdrop, arguments.passesAngles.angleClose?,
    CodePoint.isBlank_of_isWord hbword, Bool.not_false, Bool.and_self, Bool.true_or, Bool.false_eq_true,
    if_true, if_false]

/-! ## Types are split nowhere -/

mutual

theorem TypeTerm.splitRest (t : TypeTerm) (position : Nat) (r : Text) (s : SplitState) (ms : List Lexeme)
    (htext : whole.drop position = t.text ++ r) (hdefault : s.inDefault = false) (hdepth : 0 ≤ s.depth) :
    splitRest .typescript whole s (t.marks position ++ ms) = Signature.splitRest .typescript whole s ms := by
  cases t with
  | name w => rfl
  | apply g arguments =>
    have htext' : whole.drop position
        = g.text ++ ('<' : CodePoint) :: (arguments.text ++ ('>' : CodePoint) :: r) := by
      rw [htext, TypeTerm.text]
      simp
    have hopens : opensGeneric whole (position + g.text.length) s.inDefault = true := by
      rw [hdefault]
      exact opensGeneric_apply g arguments htext'
    have hinner := arguments.splitRest (position + g.text.length + 1) (('>' : CodePoint) :: r)
      { s with depth := s.depth + 1, angleDepth := s.angleDepth + 1 }
      (.mark '>' (position + g.text.length + 1 + arguments.text.length) :: ms) (drop_behind_cons htext') hdefault
      (Int.lt_add_one_of_le hdepth)
    rw [TypeTerm.marks, List.cons_append, List.append_assoc, splitRest_angle hopens, List.singleton_append, hinner,
      splitRest_angle_close rfl rfl]

theorem TypeArguments.splitRest (arguments : TypeArguments) (position : Nat) (r : Text) (s : SplitState)
    (ms : List Lexeme) (htext : whole.drop position = arguments.text ++ r) (hdefault : s.inDefault = false)
    (hdepth : 0 < s.depth) :
    splitRest .typescript whole s (arguments.marks position ++ ms) = Signature.splitRest .typescript whole s ms := by
  cases arguments with
  | last t => exact t.splitRest position r s ms htext hdefault (Int.le_of_lt hdepth)
  | more t others =>
    have htext' : whole.drop position = t.text ++ (',' : CodePoint) :: (others.text ++ r) := by
      rw [htext, TypeArguments.text, List.append_assoc, List.cons_append]
    rw [TypeArguments.marks, List.append_assoc, t.splitRest _ _ _ _ htext' hdefault (by omega), List.cons_append,
      splitRest_inner_comma (by omega), others.splitRest _ _ _ _ (drop_behind_cons htext') hdefault hdepth]

end

end ChangeReview.Signature
