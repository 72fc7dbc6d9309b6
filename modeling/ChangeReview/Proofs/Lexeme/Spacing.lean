import ChangeReview.Proofs.Lexeme.Comparable
import ChangeReview.Proofs.Lexeme.Spaced

/-!
# Blanks between lexemes of Go

Blanks that are put between two lexemes of a Go signature leave its content as it was. A lexeme of Go is of
a kind that the code points around its first one tell, and no state decides how far it reaches
(`scanOne_go`). So a scan finds the same lexemes behind the blanks, except between two angle brackets, and
the lexemes before them end where they did.
-/

namespace ChangeReview.Lexeme

variable {seen seen' x z z' r : Text} {c : CodePoint} {position position' : Nat} {s s' : State}
  {previous previous' next : Option CodePoint}

/-! ## Kinds of lexemes -/

/-- The kinds of lexemes of Go, by how they are read. -/
inductive GoKind where
  | lineComment
  | blockComment
  | string
  | division
  | word
  | number
  | angle
  | operator
deriving DecidableEq

/-- The kind of the lexeme that starts with a code point, given the ones beside it. -/
def goKind (previous : Option CodePoint) (c : CodePoint) (next : Option CodePoint) : GoKind :=
  if c == '/' && next == some ('/' : CodePoint) then .lineComment
  else if c == '/' && next == some ('*' : CodePoint) then .blockComment
  else if c.isQuote then .string
  else if c == '/' then .division
  else if c.startsIdentifier then .word
  else if c.isDigit || (c == '.' && (next.map CodePoint.isDigit).getD false) then .number
  else if (c == '<' || c == '>') && (previous == some c || next == some c) then .angle
  else .operator

namespace GoKind

/-- A kind of comment. -/
def isComment : GoKind → Bool
  | .lineComment | .blockComment => true
  | _ => false

/-- What a lexeme of a kind leaves of `c :: r`. -/
def rest (c : CodePoint) (r : Text) : GoKind → Text
  | .lineComment => afterLineComment .go r
  | .blockComment => afterBlockComment (r.drop 1)
  | .string => afterQuote c (c == '`') false r
  | .division => r.drop (if r.head? == some ('=' : CodePoint) then 1 else 0)
  | .word => afterIdentifier r
  | .number => afterNumber c r
  | .angle => r
  | .operator => r.drop (((operator? (c :: r)).getD [c]).length - 1)

end GoKind

theorem startsWith_singleton (d : CodePoint) (t : Text) : Text.startsWith t [d] = (t.head? == some d) := by
  cases t with
  | nil => rfl
  | cons a t => simp [Text.startsWith, List.isPrefixOf, eq_comm, Bool.beq_eq_decide_eq]

theorem scanSlash_go (c : CodePoint) (r : Text) (s : State) :
    (scanSlash .go c r s).rest = GoKind.division.rest c r ∧ (scanSlash .go c r s).isComment = false := by
  have hgo : Language.isScript .go = false := rfl
  have heq : Text.startsWith r "=" = (r.head? == some ('=' : CodePoint)) := startsWith_singleton '=' r
  unfold scanSlash GoKind.rest
  simp only [hgo, heq, Bool.false_and, Bool.false_eq_true, if_false]
  split
  · exact ⟨rfl, rfl⟩
  · exact ⟨rfl, rfl⟩

theorem scanOperator_go (seen : Text) (c : CodePoint) (r : Text) (s : State) :
    (scanOperator .go seen c r s).rest =
        (if (c == '<' || c == '>') && (seen.head? == some c || r.head? == some c) then GoKind.angle
          else .operator).rest c r ∧
      (scanOperator .go seen c r s).isComment = false := by
  have hgo : (Language.go == Language.typescript) = false := rfl
  unfold scanOperator
  simp only [hgo, Bool.false_and, Bool.false_eq_true, if_false]
  split
  · exact ⟨rfl, rfl⟩
  · unfold GoKind.rest
    dsimp only
    split
    · rename_i h
      rw [h]
      exact ⟨rfl, rfl⟩
    · rename_i h
      rw [h]
      exact ⟨rfl, rfl⟩

/-- A step in Go depends on no state, and on one code point before it. -/
theorem scanOne_go (seen : Text) (c : CodePoint) (r : Text) (s : State) :
    (scanOne .go seen c r s).rest = (goKind seen.head? c r.head?).rest c r ∧
      (scanOne .go seen c r s).isComment = (goKind seen.head? c r.head?).isComment := by
  have hgo : (Language.go != Language.go) = false := rfl
  have hslash : Text.startsWith r "/" = (r.head? == some ('/' : CodePoint)) := startsWith_singleton '/' r
  have hstar : Text.startsWith r "*" = (r.head? == some ('*' : CodePoint)) := startsWith_singleton '*' r
  unfold scanOne scanPlain goKind
  simp only [hgo, hslash, hstar, Bool.and_false, Bool.false_eq_true, if_false]
  split
  · exact ⟨rfl, rfl⟩
  split
  · exact ⟨rfl, rfl⟩
  split
  · exact ⟨rfl, rfl⟩
  split
  · exact scanSlash_go c r s
  split
  · exact ⟨rfl, rfl⟩
  split
  · exact ⟨rfl, rfl⟩
  · obtain ⟨hrest, hcomment⟩ := scanOperator_go seen c r s
    refine ⟨hrest, ?_⟩
    rw [hcomment]
    split
    · rfl
    · rfl

/-! ## A step before a blank -/

theorem next_of_lineComment (h : goKind previous c next = .lineComment) : next = some ('/' : CodePoint) := by
  unfold goKind at h
  split at h
  · rename_i hline
    exact beq_iff_eq.1 (Bool.and_eq_true_iff.1 hline).2
  · repeat' split at h
    all_goals cases h

theorem next_of_blockComment (h : goKind previous c next = .blockComment) : next = some ('*' : CodePoint) := by
  unfold goKind at h
  split at h
  · cases h
  split at h
  · rename_i hblock
    exact beq_iff_eq.1 (Bool.and_eq_true_iff.1 hblock).2
  · repeat' split at h
    all_goals cases h

theorem goKind_eq_string_iff : goKind previous c next = .string ↔ c.isQuote = true := by
  constructor
  · intro h
    unfold goKind at h
    split at h
    · cases h
    split at h
    · cases h
    split at h
    · assumption
    · repeat' split at h
      all_goals cases h
  · intro h
    have hslash : (c == '/') = false := by
      rw [beq_eq_false_iff_ne]
      rintro rfl
      cases h
    simp only [goKind, hslash, h, Bool.false_and, Bool.false_eq_true, if_false, if_true]

theorem goKind_congr (h : c = '<' ∨ c = '>' → (previous = some c ↔ previous' = some c))
    (next : Option CodePoint) : goKind previous c next = goKind previous' c next := by
  have hangle : ((c == '<' || c == '>') && (previous == some c || next == some c))
      = ((c == '<' || c == '>') && (previous' == some c || next == some c)) := by
    by_cases hc : (c == '<' || c == '>') = true
    · have hprevious := h (by simpa using hc)
      rw [hc, Bool.true_and, Bool.true_and]
      congr 1
      rw [Bool.eq_iff_iff, beq_iff_eq, beq_iff_eq, hprevious]
    · rw [Bool.not_eq_true] at hc
      rw [hc, Bool.false_and, Bool.false_and]
  unfold goKind
  rw [hangle]

namespace GoKind

variable {kind : GoKind} {b : CodePoint}

/-- A comment takes in the second code point of its mark. -/
theorem rest_lt (h : goKind previous c r.head? = kind) (hcomment : kind.isComment = true) :
    (kind.rest c r).length < r.length := by
  cases kind with
  | lineComment =>
    obtain ⟨r', rfl⟩ := List.head?_eq_some_iff.1 (next_of_lineComment h)
    exact Nat.lt_succ_of_le (length_dropWhile_le _ r')
  | blockComment =>
    obtain ⟨r', rfl⟩ := List.head?_eq_some_iff.1 (next_of_blockComment h)
    exact Nat.lt_succ_of_le (length_afterBlockComment_le r')
  | _ => cases hcomment

theorem isComment_of_blank (previous : Option CodePoint) (c : CodePoint) (hblank : b.isBlank = true) :
    (goKind previous c (some b)).isComment = false := by
  rw [Bool.eq_false_iff]
  intro hcomment
  cases hkind : goKind previous c (some b) with
  | lineComment =>
    cases next_of_lineComment hkind
    cases hblank
  | blockComment =>
    cases next_of_blockComment hkind
    cases hblank
  | _ =>
    rw [hkind] at hcomment
    cases hcomment

/-- Right before a blank, all but strings and comments end. -/
theorem rest_of_blank (hblank : b.isBlank = true) (hb : r.head? = some b)
    (hcomment : kind.isComment = false) (hstring : kind ≠ .string) : kind.rest c r = r := by
  cases kind with
  | lineComment => cases hcomment
  | blockComment => cases hcomment
  | string => exact absurd rfl hstring
  | division =>
    have hnext : (r.head? == some ('=' : CodePoint)) = false := by
      rw [hb, beq_eq_false_iff_ne]
      rintro ⟨⟩
      cases hblank
    rw [rest, hnext]
    rfl
  | word =>
    refine dropWhile_eq_self fun a ha => ?_
    cases hb.symm.trans ha
    rw [CodePoint.not_continuesIdentifier (CodePoint.endsWord_of_isBlank hblank)]
    exact Bool.false_ne_true
  | number =>
    obtain ⟨r', rfl⟩ := List.head?_eq_some_iff.1 hb
    exact afterNumber_blank hblank
  | angle => rfl
  | operator =>
    rw [rest, operator?_blank hblank hb]
    rfl

/-- A lexeme of a given kind that ends before the blanks, or before what follows them, ends there with the
blanks as well. -/
theorem rest_spaced (hkind : kind ≠ .lineComment) (h : Spaced z z') (hrest : kind.rest c (x ++ z) = z) :
    kind.rest c (x ++ z') = z' := by
  have hz := h.ne_nil
  cases kind with
  | lineComment => exact absurd rfl hkind
  | blockComment =>
    rcases x with _ | ⟨a, x⟩
    · obtain ⟨a, r, rfl⟩ := List.exists_cons_of_ne_nil hz
      exact absurd hrest (ne_of_length_le (length_afterBlockComment_le _))
    · exact afterBlockComment_closed hz hrest z'
  | string => exact afterQuote_closed hz hrest z'
  | division =>
    rcases h.head_append x with hsame | ⟨rfl, b, hblank, hb⟩
    · rw [rest, hsame]
      exact drop_spaced hz hrest z'
    · exact rest_of_blank hblank hb rfl nofun
  | word => exact afterIdentifier_spaced h hrest
  | number => exact afterNumber_spaced h hrest
  | angle =>
    have hx : x = [] := List.append_left_eq_self.1 hrest
    rw [hx]
    rfl
  | operator =>
    have hoperator : operator? (c :: (x ++ z')) = operator? (c :: (x ++ z)) := by
      refine operator?_spaced (x := c :: x) h fun o ho => ?_
      rw [List.cons_append] at ho
      have hlength := congrArg List.length hrest
      rw [rest, ho, Option.getD_some, List.length_drop, List.length_append] at hlength
      have hpos := List.length_pos_iff.2 hz
      rw [List.length_cons]
      omega
    rw [rest, hoperator]
    exact drop_spaced hz hrest z'

end GoKind

/-- A step that ends before the blanks, or before what follows them, does so with them as well, unless it
reads a comment that takes them in. -/
theorem scanOne_spaced (s s' : State) (h : Spaced z z') (hseen : seen.head? = seen'.head?)
    (hrest : (scanOne .go seen c (x ++ z) s).rest = z) :
    (scanOne .go seen' c (x ++ z') s').isComment = (scanOne .go seen c (x ++ z) s).isComment ∧
      ((scanOne .go seen' c (x ++ z') s').rest = z' ∨
        (scanOne .go seen c (x ++ z) s).isComment = true ∧ z.head? = some ('\n' : CodePoint) ∧
          ∃ w, (∀ b ∈ w, b.isBlank = true) ∧ (scanOne .go seen' c (x ++ z') s').rest = w ++ z) := by
  rw [(scanOne_go seen c (x ++ z) s).1] at hrest
  rw [(scanOne_go seen c (x ++ z) s).2, (scanOne_go seen' c (x ++ z') s').1,
    (scanOne_go seen' c (x ++ z') s').2, ← hseen]
  rcases h.head_append x with hsame | ⟨rfl, b, hblank, hb⟩
  · rw [hsame]
    refine ⟨rfl, ?_⟩
    by_cases hkind : goKind seen.head? c (x ++ z).head? = .lineComment
    · rw [hkind] at hrest ⊢
      rcases afterLineComment_spaced h hrest with hends | ⟨hbreak, htaken⟩
      · exact Or.inl hends
      · exact Or.inr ⟨rfl, hbreak, htaken⟩
    · exact Or.inl (GoKind.rest_spaced hkind h hrest)
  · rw [List.nil_append] at hrest ⊢
    rw [List.nil_append, hb]
    have hcomment : (goKind seen.head? c z.head?).isComment = false := by
      rw [Bool.eq_false_iff]
      intro hcomment
      have hlt := GoKind.rest_lt rfl hcomment
      rw [hrest] at hlt
      exact Nat.lt_irrefl _ hlt
    have hcomment' := GoKind.isComment_of_blank seen.head? c hblank
    refine ⟨hcomment'.trans hcomment.symm, Or.inl ?_⟩
    by_cases hstring : goKind seen.head? c (some b) = .string
    · rw [goKind_eq_string_iff.2 (goKind_eq_string_iff.1 hstring)] at hrest
      rw [hstring]
      exact GoKind.rest_spaced (x := []) nofun h hrest
    · exact GoKind.rest_of_blank hblank hb hcomment' hstring

/-! ## The content of a scan -/

/-- The texts of the lexemes that a scan goes on to find, without comments. -/
def contentFrom (language : Language) (seen : Text) (position : Nat) (t : Text) (s : State) : List Text :=
  ((scanFrom language seen position t s).filter (!·.isComment)).map (·.text)

theorem contentFrom_blank (seen : Text) (position : Nat) (r : Text) (s : State) (hc : c.isBlank = true) :
    contentFrom .go seen position (c :: r) s = contentFrom .go (c :: seen) (position + 1) r s := by
  unfold contentFrom
  rw [scanFrom_blank .go seen position r s hc]
  rfl

theorem contentFrom_lexeme (seen : Text) (position : Nat) (r : Text) (s : State) (hc : ¬ c.isBlank = true) :
    contentFrom .go seen position (c :: r) s =
      let found := scanOne .go seen c r s
      let l := found.lexeme position
      (if found.isComment then [] else [l.text])
        ++ contentFrom .go (l.text.reverse ++ seen) l.stop found.rest found.state := by
  unfold contentFrom
  rw [scanFrom_lexeme .go seen position r s hc]
  dsimp only
  cases h : (scanOne .go seen c r s).isComment with
  | true =>
    rw [List.filter_cons_of_neg (by simp [Found.lexeme, h])]
    rfl
  | false =>
    rw [List.filter_cons_of_pos (by simp [Found.lexeme, h])]
    rfl

theorem head?_reverse_append {t : Text} (ht : t ≠ []) (seen seen' : Text) :
    (t.reverse ++ seen).head? = (t.reverse ++ seen').head? := by
  obtain ⟨b, r, hr⟩ := List.exists_cons_of_ne_nil (List.reverse_ne_nil_iff.2 ht)
  rw [hr]
  rfl

/-- What a scan of Go goes on to find depends on the code point before it only, and on that only before an
angle bracket. -/
theorem contentFrom_congr {t : Text}
    (h : ∀ a, t.head? = some a → a = '<' ∨ a = '>' → (seen.head? = some a ↔ seen'.head? = some a)) :
    contentFrom .go seen position t s = contentFrom .go seen' position' t s' := by
  induction seen, position, t, s using scan_induction .go generalizing seen' position' s' with
  | nil seen position s =>
    unfold contentFrom
    rw [scanFrom_nil, scanFrom_nil]
  | blank seen position c r s hc ih =>
    rw [contentFrom_blank seen position r s hc, contentFrom_blank seen' position' r s' hc]
    exact ih fun a _ _ => Iff.rfl
  | lexeme seen position c r s hc ih =>
    have hkind := goKind_congr (h c rfl) r.head?
    have hrest : (scanOne .go seen' c r s').rest = (scanOne .go seen c r s).rest := by
      rw [(scanOne_go seen c r s).1, (scanOne_go seen' c r s').1, hkind]
    have hcomment : (scanOne .go seen' c r s').isComment = (scanOne .go seen c r s).isComment := by
      rw [(scanOne_go seen c r s).2, (scanOne_go seen' c r s').2, hkind]
    have htext : ∀ p, ((scanOne .go seen' c r s').lexeme p).text
        = ((scanOne .go seen c r s).lexeme position).text := by
      intro p
      simp only [Found.lexeme, hrest]
    rw [contentFrom_lexeme seen position r s hc, contentFrom_lexeme seen' position' r s' hc]
    dsimp only at ih ⊢
    rw [hcomment, htext, hrest]
    congr 1
    refine ih fun a _ _ => ?_
    rw [head?_reverse_append (lexeme_text_ne_nil (scanOne .go seen c r s) position) seen seen']

/-! ## Blanks between two lexemes -/

section Insertion

variable {u v w : Text}

theorem contentFrom_skip (hw : ∀ b ∈ w, b.isBlank = true) (t : Text) :
    contentFrom .go seen position (w ++ t) s
      = contentFrom .go (w.reverse ++ seen) (position + w.length) t s := by
  induction w generalizing seen position with
  | nil => rfl
  | cons b w ih =>
    obtain ⟨hb, hw⟩ := List.forall_mem_cons.1 hw
    rw [List.cons_append, contentFrom_blank seen position _ s hb, ih hw, List.reverse_cons,
      List.append_assoc, List.length_cons, Nat.add_assoc, Nat.add_comm 1]
    rfl

/-- Blanks before a lexeme part it from the code point before it, which matters between two angle brackets
only. -/
theorem contentFrom_front (hw : ∀ b ∈ w, b.isBlank = true) (hne : w ≠ [])
    (hpair : ∀ a : CodePoint, a = '<' ∨ a = '>' → ¬ (seen.head? = some a ∧ v.head? = some a)) :
    contentFrom .go seen' position' (w ++ v) s' = contentFrom .go seen position v s := by
  rw [contentFrom_skip hw]
  refine contentFrom_congr fun a ha hangle => iff_of_false ?_ fun h => hpair a hangle ⟨h, ha⟩
  obtain ⟨b, r, hr⟩ := List.exists_cons_of_ne_nil (List.reverse_ne_nil_iff.2 hne)
  have hb : b.isBlank = true := hw b (List.mem_reverse.1 (hr ▸ List.mem_cons_self))
  rw [hr]
  rintro ⟨⟩
  rcases hangle with rfl | rfl
  · cases hb
  · cases hb

theorem lexeme_text_of_rest (found : Found (c :: (x ++ z))) (h : found.rest = z) (position : Nat) :
    (found.lexeme position).text = c :: x := by
  have hlength : (c :: (x ++ z)).length - z.length = (c :: x).length := by
    simp only [List.length_cons, List.length_append]
    omega
  show (c :: (x ++ z)).take ((c :: (x ++ z)).length - found.rest.length) = c :: x
  rw [h, hlength, ← List.cons_append, List.take_left]

/-- A lexeme that ends before `v` leaves `v` and something before it. -/
theorem exists_rest_eq (hstop : ((scanOne .go seen c (u ++ v) s).lexeme position).stop
      ≤ position + (c :: u).length) :
    ∃ x y, u = x ++ y ∧ (scanOne .go seen c (u ++ v) s).rest = y ++ v := by
  have hsplit := congrArg List.length (lexeme_text_append .go seen c (u ++ v) s position)
  have hsuffix := scanOne_isSuffix .go seen c (u ++ v) s
  have hlength : v.length ≤ (scanOne .go seen c (u ++ v) s).rest.length := by
    simp only [stop, List.length_cons, List.length_append] at hstop hsplit
    have hstart : ((scanOne .go seen c (u ++ v) s).lexeme position).start = position := rfl
    omega
  obtain ⟨y, hy⟩ := List.suffix_of_suffix_length_le (List.suffix_append u v) hsuffix hlength
  obtain ⟨x, hx⟩ := hsuffix
  rw [← hy, ← List.append_assoc] at hx
  exact ⟨x, y, (List.append_cancel_right hx).symm, hy.symm⟩

/-- Blanks put in where no lexeme is cut apart leave what a scan goes on to find as it was. -/
theorem contentFrom_insert (hw : ∀ b ∈ w, b.isBlank = true) (hne : w ≠ []) (hv : v ≠ [])
    (hseen : seen.head? = seen'.head?)
    (hpair : ∀ a : CodePoint, a = '<' ∨ a = '>' → ¬ ((u.reverse ++ seen).head? = some a ∧ v.head? = some a))
    (hsplit : ∀ l ∈ scanFrom .go seen position (u ++ v) s,
      l.stop ≤ position + u.length ∨ position + u.length ≤ l.start) :
    contentFrom .go seen' position' (u ++ (w ++ v)) s' = contentFrom .go seen position (u ++ v) s := by
  generalize ht : u ++ v = t at hsplit ⊢
  induction seen, position, t, s using scan_induction .go generalizing u seen' position' s' with
  | nil seen position s => exact absurd (List.append_eq_nil_iff.1 ht).2 hv
  | blank seen position c r s hc ih =>
    rcases u with _ | ⟨a, u⟩
    · rw [← ht]
      exact contentFrom_front hw hne hpair
    obtain ⟨rfl, rfl⟩ := List.cons.inj ht
    rw [List.cons_append, contentFrom_blank seen position _ s hc, contentFrom_blank seen' position' _ s' hc]
    refine ih rfl ?_ rfl ?_
    · intro a ha
      have hlast := hpair a ha
      rwa [List.reverse_cons, List.append_assoc] at hlast
    · intro l hl
      have hcut := hsplit l (by rwa [scanFrom_blank .go seen position _ s hc])
      rw [List.length_cons] at hcut
      omega
  | lexeme seen position c r s hc ih =>
    rcases u with _ | ⟨a, u⟩
    · rw [← ht]
      exact contentFrom_front hw hne hpair
    rw [List.cons_append] at ht
    obtain ⟨rfl, rfl⟩ := List.cons.inj ht
    rw [scanFrom_lexeme .go seen position _ s hc] at hsplit
    obtain ⟨hfirst, hlater⟩ := List.forall_mem_cons.1 hsplit
    obtain ⟨x, y, rfl, hrest⟩ := exists_rest_eq (c := a) (hfirst.resolve_right (by
      simp only [Found.lexeme, List.length_cons]
      omega))
    have hspaced : Spaced (y ++ v) (y ++ (w ++ v)) := ⟨y, w, v, rfl, rfl, hv, hne, hw⟩
    rw [List.append_assoc] at hrest hlater ih ⊢
    have htext := lexeme_text_of_rest _ hrest position
    have hstop : ((scanOne .go seen a (x ++ (y ++ v)) s).lexeme position).stop
        = position + (a :: x).length := by rw [stop, htext]; rfl
    obtain ⟨hcomment, hends⟩ := scanOne_spaced s s' hspaced hseen hrest
    rw [List.cons_append, List.append_assoc, contentFrom_lexeme seen position _ s hc,
      contentFrom_lexeme seen' position' _ s' hc]
    dsimp only at ih hlater ⊢
    rw [hcomment]
    rw [htext, hrest, hstop] at ih hlater ⊢
    rcases hends with hsame | ⟨hcomment, hbreak, w', hw', hwide⟩
    · rw [lexeme_text_of_rest _ hsame position', hsame]
      congr 1
      refine ih (head?_reverse_append (List.cons_ne_nil a x) seen seen') ?_ rfl ?_
      · intro d hd
        have hlast := hpair d hd
        rwa [← List.cons_append, List.reverse_append, List.append_assoc] at hlast
      · intro l hl
        have hcut := hlater l hl
        simp only [List.length_cons, List.length_append] at hcut ⊢
        omega
    -- a comment that took blanks in is passed over, and the line feed behind it parts it from what follows
    · rw [hcomment, hwide, if_pos rfl, contentFrom_skip hw']
      refine congrArg _ (contentFrom_congr fun d hd hangle => ?_)
      cases hbreak.symm.trans hd
      rcases hangle with hangle | hangle <;> cases hangle

end Insertion

/-! ## Comparison -/

theorem comparableAfter_go (signature : Text) (l : Lexeme) (lexemes : List Lexeme) :
    comparableAfter .go signature l lexemes = lexemes.map (·.text) := by
  induction lexemes generalizing l with
  | nil => rfl
  | cons m lexemes ih =>
    rw [List.map_cons, ← ih m]
    rfl

/-- In Go no line break matters, so signatures are compared by their content. -/
theorem comparable_go (signature : Text) : comparable .go signature = content .go signature := by
  unfold comparable content
  generalize (scan .go signature).filter (!·.isComment) = lexemes
  rcases lexemes with _ | ⟨l, lexemes⟩
  · rfl
  · show l.text :: comparableAfter .go signature l lexemes = _
    rw [comparableAfter_go, List.map_cons]

/-- Without a slash there are no comments, and the content is the text but for blanks. -/
theorem contentFrom_flatten (h : ('/' : CodePoint) ∉ t) :
    (contentFrom .go seen position t s).flatten.filter (!·.isBlank) = t.filter (!·.isBlank) := by
  induction seen, position, t, s using scan_induction .go with
  | nil seen position s =>
    unfold contentFrom
    rw [scanFrom_nil]
    rfl
  | blank seen position c r s hc ih =>
    rw [contentFrom_blank seen position r s hc, List.filter_cons_of_neg (by simp [hc])]
    exact ih (List.not_mem_of_not_mem_cons h)
  | lexeme seen position c r s hc ih =>
    have hslash : (c == '/') = false := beq_false_of_ne fun heq => h (heq ▸ List.mem_cons_self)
    have hcomment : (scanOne .go seen c r s).isComment = false := by
      rw [(scanOne_go seen c r s).2]
      simp only [goKind, hslash, Bool.false_and, Bool.false_eq_true, if_false]
      repeat' split
      all_goals rfl
    have hsplit := lexeme_text_append .go seen c r s position
    have hrest : ('/' : CodePoint) ∉ (scanOne .go seen c r s).rest := fun hin =>
      h (hsplit ▸ List.mem_append_right _ hin)
    rw [contentFrom_lexeme seen position r s hc]
    dsimp only
    rw [hcomment, if_neg Bool.false_ne_true, List.singleton_append, List.flatten_cons, List.filter_append, ih hrest,
      ← List.filter_append, hsplit]

/-- What compares as equal in Go differs by blanks at most, where there are no comments. -/
theorem filter_eq_of_comparable_eq {t u : Text} (ht : ('/' : CodePoint) ∉ t) (hu : ('/' : CodePoint) ∉ u)
    (h : comparable .go t = comparable .go u) : t.filter (!·.isBlank) = u.filter (!·.isBlank) := by
  rw [comparable_go, comparable_go] at h
  calc t.filter (!·.isBlank) = (contentFrom .go [] 0 t {}).flatten.filter (!·.isBlank) :=
        (contentFrom_flatten ht).symm
    _ = (contentFrom .go [] 0 u {}).flatten.filter (!·.isBlank) :=
        congrArg (fun content : List Text => content.flatten.filter (!·.isBlank)) h
    _ = u.filter (!·.isBlank) := contentFrom_flatten hu

/-- No lexeme lies on both sides of a place between two lexemes that follow each other. -/
theorem TilesFrom.apart {t : Text} {lexemes : List Lexeme} {left right : Lexeme} {k i : Nat}
    (h : TilesFrom t position lexemes) (hleft : lexemes[k]? = some left)
    (hright : lexemes[k + 1]? = some right) (hi : left.stop ≤ i) (hi' : i ≤ right.start) :
    ∀ l ∈ lexemes, l.stop ≤ i ∨ i ≤ l.start := by
  obtain ⟨hk, rfl⟩ := List.getElem?_eq_some_iff.1 hleft
  obtain ⟨hk', rfl⟩ := List.getElem?_eq_some_iff.1 hright
  have hordered := List.pairwise_iff_getElem.1 h.ordered
  intro l hl
  obtain ⟨j, hj, rfl⟩ := List.mem_iff_getElem.1 hl
  have hself := h.nonempty _ hl
  rcases Nat.lt_trichotomy j k with hlt | rfl | hgt
  · have hbefore := hordered j k hj hk hlt
    have hpos := h.nonempty _ (List.getElem_mem hk)
    left
    omega
  · exact Or.inl hi
  · right
    rcases Nat.eq_or_lt_of_le (Nat.succ_le_of_lt hgt) with heq | hlt
    · subst heq
      exact hi'
    · have hafter := hordered (k + 1) j hk' hj hlt
      have hpos := h.nonempty _ (List.getElem_mem hk')
      omega

/-- Blanks put into a text where no lexeme is cut apart leave its content as it was. -/
theorem content_insert {t w : Text} {i : Nat} (hpos : 0 < i) (hlength : i < t.length)
    (hcut : ∀ l ∈ scan .go t, l.stop ≤ i ∨ i ≤ l.start)
    (hpair : ∀ a : CodePoint, a = '<' ∨ a = '>' → ¬ (t[i - 1]? = some a ∧ t[i]? = some a))
    (hw : ∀ b ∈ w, b.isBlank = true) : content .go (t.take i ++ (w ++ t.drop i)) = content .go t := by
  by_cases hne : w = []
  · rw [hne, List.nil_append, List.take_append_drop]
  have hinsert := @contentFrom_insert [] [] 0 0 {} {} (t.take i) (t.drop i) w hw hne
    (by rw [ne_eq, List.drop_eq_nil_iff]; omega) rfl ?_ ?_
  · rwa [List.take_append_drop] at hinsert
  · intro a ha
    have hlast : (t.take i).getLast? = t[i - 1]? := by
      rw [List.getLast?_take, if_neg (by omega), List.getElem?_eq_getElem (by omega)]
      rfl
    rw [List.append_nil, List.head?_reverse, hlast, List.head?_drop]
    exact hpair a ha
  · rw [List.take_append_drop, List.length_take, Nat.min_eq_left (Nat.le_of_lt hlength), Nat.zero_add]
    exact hcut

/-- **Spacing.** Blanks between two lexemes that follow each other, but not between two equal angle brackets,
leave the tokens by which Go signatures are compared as they were. -/
theorem compare_of_blanks_between {signature w : Text} {left right : Lexeme} {k i : Nat}
    (hleft : (scan .go signature)[k]? = some left) (hright : (scan .go signature)[k + 1]? = some right)
    (hi : left.stop ≤ i) (hi' : i ≤ right.start)
    (hpair : ∀ a : CodePoint, a = '<' ∨ a = '>' → ¬ (signature[i - 1]? = some a ∧ signature[i]? = some a))
    (hw : ∀ b ∈ w, b.isBlank = true) :
    let spaced := signature.take i ++ (w ++ signature.drop i)
    comparable .go spaced = comparable .go signature ∧ Signature.compare .go signature spaced = .ok none := by
  intro spaced
  have htiles := scan_tilesFrom .go signature
  have hmem := List.mem_of_getElem? hright
  have hinside := htiles.inside right hmem
  have hpos := htiles.nonempty right hmem
  have hstart := htiles.nonempty left (List.mem_of_getElem? hleft)
  have hsame : content .go spaced = content .go signature :=
    content_insert (by omega) (by omega) (htiles.apart hleft hright hi hi') hpair hw
  rw [compare_eq_none_iff rfl, comparable_go, comparable_go, hsame]
  exact ⟨rfl, rfl⟩

/-- Blanks right behind a comment, which takes them in, before a shift that is written together. -/
theorem compare_of_blanks_between_comment :
    let signature : Text := "f(a)//b\n>>=c"
    let spaced : Text := "f(a)//b \t\n>>=c"
    (scan .go spaced).any (·.text == "//b \t") = true ∧
      Signature.compare .go signature spaced = .ok none := by
  refine ⟨by decide +kernel, ?_⟩
  have hleft : (scan .go "f(a)//b\n>>=c")[4]? = some ⟨"//b", 4, true, true, false, false, false, false⟩ := by
    decide +kernel
  have hright : (scan .go "f(a)//b\n>>=c")[5]? = some { text := ">", start := 8 } := by
    decide +kernel
  exact (compare_of_blanks_between (w := " \t") (i := 7) hleft hright (by decide) (by decide)
    (by rintro a (rfl | rfl) <;> decide) (by decide)).2

end ChangeReview.Lexeme
