import ChangeReview.Proofs.Lexeme.Tiling
import ChangeReview.Signature.Comparison

/-!
# Equivalent signatures have the same content

The tokens by which signatures are compared are the texts of the lexemes that are no comments, and among
them tokens for line breaks that matter. No lexeme looks like such a token, so signatures that compare
as equivalent have the same content, text by text.
-/

namespace ChangeReview.Lexeme

variable {language : Language} {t signature old new : Text} {position : Nat} {lexemes : List Lexeme}
  {l : Lexeme}

/-! ## No lexeme is a line break -/

/-- Every lexeme was found by one step of the scan. -/
theorem exists_found_of_mem {seen : Text} {s : State}
    (h : l ∈ scanFrom language seen position t s) :
    ∃ seen c r s, l.text = consumed (c :: r) (scanOne language seen c r s).rest := by
  induction seen, position, t, s using scan_induction language with
  | nil seen position s =>
    rw [scanFrom_nil] at h
    cases h
  | blank seen position c r s hc ih =>
    rw [scanFrom_blank language seen position r s hc] at h
    exact ih h
  | lexeme seen position c r s hc ih =>
    rw [scanFrom_lexeme language seen position r s hc] at h
    rcases List.mem_cons.1 h with rfl | h
    · exact ⟨seen, c, r, s, rfl⟩
    · exact ih h

theorem length_le_of_operator? {operator : Text} (h : operator? t = some operator) :
    operator.length ≤ 3 := by
  have hall : ∀ o ∈ operators, o.length ≤ 3 := by decide
  exact hall operator (List.mem_of_find?_eq_some h)

/-- Punctuation, which starts no lexeme of another kind. -/
def punctuation : Text := "(),*[]<>:="

theorem scanOne_punctuation (hc : c ∈ punctuation) (language : Language) (seen r : Text) (s : State) :
    scanOne language seen c r s = scanOperator language seen c r s := by
  have hall : ∀ c ∈ punctuation, (c == '`') = false ∧ (c == '/') = false ∧ c.isQuote = false ∧
      c.startsIdentifier = false ∧ c.isDigit = false ∧ (c == '.') = false := by decide +kernel
  obtain ⟨hback, hslash, hquote, hname, hdigit, hpoint⟩ := hall c hc
  simp only [scanOne, scanPlain, hback, hslash, hquote, hname, hdigit, hpoint, Bool.false_and, Bool.or_false,
    Bool.false_eq_true, if_false]

/-- An operator has three code points at most. -/
theorem length_le_scanOperator (language : Language) (seen : Text) (c : CodePoint) (r : Text)
    (s : State) : r.length ≤ (scanOperator language seen c r s).rest.length + 2 := by
  have hsize : ∀ n ≤ 2, r.length ≤ (r.drop n).length + 2 := by
    intro n hn
    rw [List.length_drop]
    omega
  unfold scanOperator
  split
  · exact hsize 0 (by omega)
  split
  · exact hsize 0 (by omega)
  split
  · rename_i operator h
    have := length_le_of_operator? h
    exact hsize (operator.length - 1) (by omega)
  · exact hsize 0 (by omega)

/-- No lexeme looks like the token that stands for a line break. -/
theorem text_ne_breakToken (h : l ∈ scan language signature) : l.text ≠ breakToken := by
  obtain ⟨seen, c, r, s, htext⟩ := exists_found_of_mem h
  intro hbreak
  have hrest := scanOne_isSuffix language seen c r s
  have hsplit := consumed_append (hrest.trans (List.suffix_cons c r))
  rw [← htext, hbreak] at hsplit
  have hc : c = '<' := (List.cons.inj hsplit).1.symm
  subst hc
  have hlong := length_le_scanOperator language seen '<' r s
  rw [← scanOne_punctuation (by decide)] at hlong
  have hlength := congrArg List.length hsplit
  rw [List.length_append, List.length_cons] at hlength
  have : breakToken.length = 17 := by decide
  omega

/-! ## Content -/

theorem filter_comparableAfter {previous : Lexeme}
    (h : ∀ l ∈ lexemes, l.text ≠ breakToken) :
    (comparableAfter language signature previous lexemes).filter (· != breakToken)
      = lexemes.map (·.text) := by
  induction lexemes generalizing previous with
  | nil => rfl
  | cons l lexemes ih =>
    obtain ⟨hl, hrest⟩ := List.forall_mem_cons.1 h
    have htokens : (l.text :: comparableAfter language signature l lexemes).filter (· != breakToken)
        = (l :: lexemes).map (·.text) := by
      rw [List.filter_cons, if_pos (bne_iff_ne.2 hl), ih hrest, List.map_cons]
    unfold comparableAfter
    dsimp only
    split
    · rw [List.filter_cons_of_neg (by simp)]
      exact htokens
    · exact htokens

/-- The texts of the lexemes that are no comments. -/
def content (language : Language) (signature : Text) : List Text :=
  ((scan language signature).filter (!·.isComment)).map (·.text)

/-- The tokens by which a signature is compared are its content, up to line breaks. -/
theorem filter_comparable (language : Language) (signature : Text) :
    (comparable language signature).filter (· != breakToken) = content language signature := by
  have hall : ∀ l ∈ (scan language signature).filter (!·.isComment), l.text ≠ breakToken :=
    fun l hl => text_ne_breakToken (List.mem_filter.1 hl).1
  unfold comparable content
  generalize (scan language signature).filter (!·.isComment) = lexemes at hall ⊢
  rcases lexemes with _ | ⟨l, lexemes⟩
  · rfl
  · obtain ⟨hl, hrest⟩ := List.forall_mem_cons.1 hall
    dsimp only
    rw [List.filter_cons, if_pos (bne_iff_ne.2 hl), filter_comparableAfter hrest, List.map_cons]

/-! ## Equivalence -/

theorem equivalent_eq (hlanguage : language.comparesTokens = true) (old new : Text) :
    Signature.equivalent language old new =
      .ok (comparable language old == comparable language new) := by
  have hpython : ¬ (language == .python) = true := by
    rintro h
    rw [beq_iff_eq.1 h] at hlanguage
    cases hlanguage
  unfold Signature.equivalent
  by_cases h : old = new
  · rw [if_pos (beq_iff_eq.2 h), h, beq_self_eq_true]
    rfl
  · rw [if_neg (mt beq_iff_eq.1 h), if_neg hpython, hlanguage, Bool.true_and]
    rfl

/-- Two signatures are equivalent if their comparable tokens are equal. -/
theorem compare_eq_none_iff (hlanguage : language.comparesTokens = true) :
    Signature.compare language old new = .ok none ↔
      comparable language old = comparable language new := by
  unfold Signature.compare
  rw [equivalent_eq hlanguage]
  by_cases h : comparable language old = comparable language new
  · rw [beq_iff_eq.2 h]
    exact iff_of_true rfl h
  · rw [beq_eq_false_iff_ne.2 h]
    refine iff_of_false ?_ h
    intro hnone
    cases ha : Signature.assess language old new with
    | error e => simp [ha, bind, Except.bind] at hnone
    | ok a => simp [ha, bind, Except.bind, pure, Except.pure] at hnone

/-- **Scanning.** Every signature is read to its end: the lexemes tile it, at most one for each code
point, and signatures that compare as equivalent have the same content. -/
theorem scan_tiles_signature (hlanguage : language.comparesTokens = true) (signature : Text) :
    TilesFrom signature 0 (scan language signature) ∧
      (scan language signature).length ≤ signature.length ∧
      ∀ other, Signature.compare language signature other = .ok none →
        (content language signature).flatten = (content language other).flatten := by
  have htiles := scan_tilesFrom language signature
  refine ⟨htiles, ?_, ?_⟩
  · simpa using htiles.length_le (Nat.zero_le _)
  · intro other h
    rw [← filter_comparable, ← filter_comparable, (compare_eq_none_iff hlanguage).1 h]

/-- A template with a comment and a template in it, a regular expression, and comments of which one is
never closed. -/
theorem scan_tiles_signature_template :
    let old : Text := "f(`a$\x7bb /* ` */ + `c`\x7d`, // d\n  /[/]/)"
    let new : Text := "f ( `a$\x7bb /* ` */ + `c`\x7d` , /[/]/ ) /* e"
    Signature.compare .typescript old new = .ok none ∧
      TilesFrom old 0 (scan .typescript old) ∧
      (content .typescript old).flatten = (content .typescript new).flatten := by
  intro old new
  have hcompare : Signature.compare .typescript old new = .ok none :=
    (compare_eq_none_iff rfl).2 (by decide +kernel)
  have h := @scan_tiles_signature .typescript rfl old
  exact ⟨hcompare, h.1, h.2.2 new hcompare⟩

end ChangeReview.Lexeme
