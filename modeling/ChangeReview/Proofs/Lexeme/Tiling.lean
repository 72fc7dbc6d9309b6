import ChangeReview.Proofs.Lexeme.Rest

/-!
# Lexemes tile their text

The lexemes of a text lie one behind the other, each with the text of its place, and only blanks lie
between them. A scan takes one step for each blank and each lexeme (`scanFrom_blank`,
`scanFrom_lexeme`); `scan_induction` runs over these steps.
-/

namespace ChangeReview.Lexeme

variable {t : Text} {position : Nat} {lexemes : List Lexeme} {l : Lexeme} {c : CodePoint}

/-! ## Tiles -/

/-- The lexemes tile a text from a position on. -/
structure TilesFrom (t : Text) (position : Nat) (lexemes : List Lexeme) : Prop where
  behind : ∀ l ∈ lexemes, position ≤ l.start
  nonempty : ∀ l ∈ lexemes, l.start < l.stop
  inside : ∀ l ∈ lexemes, l.stop ≤ t.length
  text : ∀ l ∈ lexemes, l.text = (t.take l.stop).drop l.start
  ordered : lexemes.Pairwise fun a b => a.stop ≤ b.start
  between : ∀ (i : Nat) (c : CodePoint), position ≤ i → t[i]? = some c →
    (∀ l ∈ lexemes, ¬ (l.start ≤ i ∧ i < l.stop)) → c.isBlank = true

theorem tilesFrom_length : TilesFrom t t.length [] where
  behind := by simp
  nonempty := by simp
  inside := by simp
  text := by simp
  ordered := List.Pairwise.nil
  between := by
    intro i c hi hc _
    rw [List.getElem?_eq_none hi] at hc
    cases hc

/-- A blank before the lexemes. -/
theorem TilesFrom.blank (hc : t[position]? = some c) (hblank : c.isBlank = true)
    (h : TilesFrom t (position + 1) lexemes) : TilesFrom t position lexemes where
  behind := fun l hl => Nat.le_of_succ_le (h.behind l hl)
  nonempty := h.nonempty
  inside := h.inside
  text := h.text
  ordered := h.ordered
  between := by
    intro i d hi hd hout
    rcases Nat.eq_or_lt_of_le hi with rfl | hi
    · rw [hc] at hd
      cases hd
      exact hblank
    · exact h.between i d hi hd hout

/-- A lexeme before the others, and right at the position. -/
theorem TilesFrom.cons (hne : l.text ≠ []) (hl : l.text <+: t.drop l.start)
    (h : TilesFrom t l.stop lexemes) : TilesFrom t l.start (l :: lexemes) := by
  have hpos : 0 < l.text.length := List.length_pos_iff.2 hne
  have hstop : l.stop = l.start + l.text.length := rfl
  have hle := hl.length_le
  rw [List.length_drop] at hle
  refine ⟨?_, ?_, ?_, ?_, ?_, ?_⟩
  · refine List.forall_mem_cons.2 ⟨Nat.le_refl _, fun m hm => ?_⟩
    have := h.behind m hm
    omega
  · exact List.forall_mem_cons.2 ⟨by omega, h.nonempty⟩
  · exact List.forall_mem_cons.2 ⟨by omega, h.inside⟩
  · refine List.forall_mem_cons.2 ⟨?_, h.text⟩
    rw [hstop, List.drop_take, Nat.add_sub_cancel_left]
    exact List.prefix_iff_eq_take.1 hl
  · exact List.pairwise_cons.2 ⟨h.behind, h.ordered⟩
  · intro i d hi hd hout
    -- the code point is not in the first lexeme, so it comes after it
    have hself := hout l List.mem_cons_self
    exact h.between i d (by omega) hd fun m hm => hout m (List.mem_cons_of_mem l hm)

theorem TilesFrom.tail (h : TilesFrom t position (l :: lexemes)) : TilesFrom t l.stop lexemes where
  behind := fun m hm => List.rel_of_pairwise_cons h.ordered hm
  nonempty := fun m hm => h.nonempty m (List.mem_cons_of_mem l hm)
  inside := fun m hm => h.inside m (List.mem_cons_of_mem l hm)
  text := fun m hm => h.text m (List.mem_cons_of_mem l hm)
  ordered := h.ordered.of_cons
  between := by
    intro i c hi hc hout
    have hstart := h.behind l List.mem_cons_self
    have hstop := h.nonempty l List.mem_cons_self
    refine h.between i c (by omega) hc (List.forall_mem_cons.2 ⟨by omega, hout⟩)

/-- No lexeme is empty, so there are at most as many as code points. -/
theorem TilesFrom.length_le (hpos : position ≤ t.length) (h : TilesFrom t position lexemes) :
    position + lexemes.length ≤ t.length := by
  induction lexemes generalizing position with
  | nil => exact hpos
  | cons l lexemes ih =>
    have hrest := ih (h.inside l List.mem_cons_self) h.tail
    have hstart := h.behind l List.mem_cons_self
    have hstop := h.nonempty l List.mem_cons_self
    rw [List.length_cons]
    omega

/-- A lexeme of one code point stands where that code point does. -/
theorem TilesFrom.drop_start (h : TilesFrom t position lexemes) (hl : l ∈ lexemes) (hc : l.text = [c]) :
    t.drop l.start = c :: t.drop (l.start + 1) := by
  have hstop : l.stop = l.start + 1 := by
    rw [stop, hc]
    rfl
  have htext := h.text l hl
  rw [hc, hstop, List.drop_take, Nat.add_sub_cancel_left] at htext
  rw [← List.take_append_drop 1 (t.drop l.start), ← htext, List.drop_drop]
  rfl

/-! ## One step of a scan -/

/-- A lexeme that was found at a position. -/
def Found.lexeme {t : Text} (found : Found t) (position : Nat) : Lexeme :=
  ⟨consumed t found.rest, position, found.isSealed, found.isComment, found.breakAfter,
    found.breakBefore, found.asyncCandidate, found.asyncMethod⟩

theorem scanFrom_nil (language : Language) (seen : Text) (position : Nat) (s : State) :
    scanFrom language seen position [] s = [] := by
  rw [scanFrom]

theorem scanFrom_blank (language : Language) (seen : Text) (position : Nat) (r : Text) (s : State)
    (hc : c.isBlank = true) :
    scanFrom language seen position (c :: r) s =
      scanFrom language (c :: seen) (position + 1) r
        (if language.isScript && c.isScriptBreak then s.observeBreak else s) := by
  rw [scanFrom, if_pos hc]

theorem scanFrom_lexeme (language : Language) (seen : Text) (position : Nat) (r : Text) (s : State)
    (hc : ¬ c.isBlank = true) :
    scanFrom language seen position (c :: r) s =
      let found := scanOne language seen c r s
      let l := found.lexeme position
      l :: scanFrom language (l.text.reverse ++ seen) l.stop found.rest found.state := by
  rw [scanFrom, if_neg hc]
  rfl

theorem lexeme_text_append (language : Language) (seen : Text) (c : CodePoint) (r : Text) (s : State)
    (position : Nat) :
    let found := scanOne language seen c r s
    (found.lexeme position).text ++ found.rest = c :: r :=
  consumed_append ((scanOne_isSuffix language seen c r s).trans (List.suffix_cons c r))

theorem lexeme_text_ne_nil {t : Text} (found : Found t) (position : Nat) :
    (found.lexeme position).text ≠ [] := by
  have hshorter := found.shorter
  intro hnil
  have hlength := congrArg List.length hnil
  simp only [Found.lexeme, consumed, List.length_take, List.length_nil] at hlength
  omega

/-- What holds at the end of a text, and before a blank or a lexeme if it holds behind it, holds wherever
a scan may stand. -/
theorem scan_induction (language : Language) {motive : Text → Nat → Text → State → Prop}
    (nil : ∀ seen position s, motive seen position [] s)
    (blank : ∀ seen position c r s, c.isBlank = true →
      motive (c :: seen) (position + 1) r
        (if language.isScript && c.isScriptBreak then s.observeBreak else s) →
      motive seen position (c :: r) s)
    (lexeme : ∀ seen position c r s, ¬ c.isBlank = true →
      (let found := scanOne language seen c r s
       let l := found.lexeme position
       motive (l.text.reverse ++ seen) l.stop found.rest found.state) →
      motive seen position (c :: r) s)
    (seen : Text) (position : Nat) (t : Text) (s : State) : motive seen position t s := by
  rcases t with _ | ⟨c, r⟩
  · exact nil seen position s
  by_cases hc : c.isBlank = true
  · exact blank seen position c r s hc (scan_induction language nil blank lexeme _ _ r _)
  · have hshorter := (scanOne language seen c r s).shorter
    exact lexeme seen position c r s hc (scan_induction language nil blank lexeme _ _ _ _)
termination_by t.length
decreasing_by
  · exact Nat.lt_succ_self r.length
  · exact hshorter

/-- **Tiling.** Wherever a scan stands, the lexemes it goes on to find tile the text from there. -/
theorem scanFrom_tiles (language : Language) (seen : Text) (position : Nat) (t : Text) (s : State)
    (lead : Text) (hlead : lead.length = position) :
    TilesFrom (lead ++ t) position (scanFrom language seen position t s) := by
  induction seen, position, t, s using scan_induction language generalizing lead with
  | nil seen position s =>
    rw [scanFrom_nil, List.append_nil, ← hlead]
    exact tilesFrom_length
  | blank seen position c r s hc ih =>
    have hnext := ih (lead ++ [c]) (by rw [List.length_append, hlead, List.length_singleton])
    rw [List.append_assoc] at hnext
    rw [scanFrom_blank language seen position r s hc]
    refine TilesFrom.blank ?_ hc hnext
    rw [← hlead, List.getElem?_append_right (Nat.le_refl _), Nat.sub_self]
    rfl
  | lexeme seen position c r s hc ih =>
    rw [scanFrom_lexeme language seen position r s hc]
    have hsplit := lexeme_text_append language seen c r s position
    have hnext := ih (lead ++ ((scanOne language seen c r s).lexeme position).text)
      (by rw [List.length_append, hlead]; rfl)
    rw [List.append_assoc, hsplit] at hnext
    refine TilesFrom.cons (lexeme_text_ne_nil _ position) ?_ hnext
    show _ <+: (lead ++ c :: r).drop position
    rw [← hlead, List.drop_left]
    exact ⟨_, hlead ▸ hsplit⟩

/-- The lexemes of a signature tile it. -/
theorem scan_tilesFrom (language : Language) (signature : Text) :
    TilesFrom signature 0 (scan language signature) :=
  scanFrom_tiles language [] 0 signature {} [] rfl

end ChangeReview.Lexeme
