import ChangeReview.Proofs.Signature.Splitting

/-!
# Listed parameters

The members of a list stand with a comma and perhaps blanks between them. What holds of the text of one
member and of its marks carries over to the list (`Form`), and to the place where a parameter list ends.
-/

namespace ChangeReview.Signature

open Lexeme (Marked)

variable {language : Language} {seen r : Text} {position : Nat} {ms : List Lexeme} {c : CodePoint} {α : Type}

/-- What may come behind a member of a list. -/
def Follows (r : Text) : Prop := ∀ c ∈ r.head?, c = ',' ∨ c = ')'

theorem Follows.endsWord (h : Follows r) : ∀ c ∈ r.head?, c.endsWord = true := by
  intro c hc
  rcases h c hc with rfl | rfl <;> rfl

theorem follows_nil : Follows [] := by simp [Follows]

theorem follows_comma : Follows ((',' : CodePoint) :: r) := by simp [Follows]

theorem follows_close : Follows ((')' : CodePoint) :: r) := by simp [Follows]

/-- How the members of a list are written: the text of one, its marks where it stands, and the gap behind a
comma. -/
structure Form (language : Language) (α : Type) where
  text : α → Text
  marks : α → Nat → List Lexeme
  gap : Text
  exists_cons : ∀ p, ∃ c r, text p = c :: r ∧ c.isWord = true
  stop : ∀ p, ∀ c ∈ (text p).getLast?, c.isBlank = false
  no_parens : ∀ p, ('(' : CodePoint) ∉ text p ∧ (')' : CodePoint) ∉ text p
  marked : ∀ p seen position r ms, Follows r →
    Marked language ((text p).reverse ++ seen) (position + (text p).length) r ms →
      Marked language seen position (text p ++ r) (marks p position ++ ms)
  gap_blank : ∀ c ∈ gap, c.isBlank = true

namespace Form

variable (form : Form language α)

theorem text_ne_nil (p : α) : form.text p ≠ [] := by
  obtain ⟨c, r, htext, -⟩ := form.exists_cons p
  rw [htext]
  exact List.cons_ne_nil c r

theorem trimmed (p : α) : Text.Trimmed (form.text p) where
  start := by
    obtain ⟨c, r, htext, hc⟩ := form.exists_cons p
    rw [htext]
    simpa using CodePoint.isBlank_of_isWord hc
  stop := form.stop p

/-! ## The text of a list -/

/-- The members as they are written in a list. -/
def joined (ps : List α) : Text := Text.join ((',' : CodePoint) :: form.gap) (ps.map form.text)

theorem joined_singleton (p : α) : form.joined [p] = form.text p := by simp [joined, Text.join]

theorem joined_cons (p q : α) (ps : List α) :
    form.joined (p :: q :: ps) = form.text p ++ (',' : CodePoint) :: (form.gap ++ form.joined (q :: ps)) := by
  simp [joined, Text.join, List.intercalate_cons_cons]

theorem joined_exists_cons (p : α) (ps : List α) :
    ∃ c r, form.joined (p :: ps) = c :: r ∧ c.isWord = true := by
  obtain ⟨c, r, htext, hc⟩ := form.exists_cons p
  cases ps with
  | nil => exact ⟨c, r, by rw [joined_singleton, htext], hc⟩
  | cons q ps => exact ⟨c, _, by rw [joined_cons, htext]; rfl, hc⟩

theorem joined_ne_nil (p : α) (ps : List α) : form.joined (p :: ps) ≠ [] := by
  obtain ⟨c, r, hcons, -⟩ := form.joined_exists_cons p ps
  rw [hcons]
  exact List.cons_ne_nil c r

theorem joined_trimmed (p : α) (ps : List α) : Text.Trimmed (form.joined (p :: ps)) := by
  induction ps generalizing p with
  | nil =>
    rw [joined_singleton]
    exact form.trimmed p
  | cons q ps ih =>
    rw [joined_cons, ← List.singleton_append, ← List.append_assoc, ← List.append_assoc]
    refine Text.trimmed_append (by simp) (form.joined_ne_nil q ps) ?_ (ih q).stop
    rw [List.append_assoc, List.head?_append_of_ne_nil _ (form.text_ne_nil p)]
    exact (form.trimmed p).start

theorem joined_trim (p : α) (ps : List α) : Text.trim (form.joined (p :: ps)) = form.joined (p :: ps) :=
  (form.joined_trimmed p ps).trim_eq (form.joined_ne_nil p ps)

theorem not_mem_joined (hcomma : c ≠ ',') (hblank : c.isBlank = false) (htext : ∀ p, c ∉ form.text p) (ps : List α) :
    c ∉ form.joined ps := by
  intro h
  rcases Text.mem_join h with h | ⟨t, ht, h⟩
  · rcases List.mem_cons.1 h with rfl | h
    · exact hcomma rfl
    · exact Bool.false_ne_true (hblank.symm.trans (form.gap_blank c h))
  · obtain ⟨p, -, rfl⟩ := List.mem_map.1 ht
    exact htext p h

theorem def_of_def_joined {ps : List α} (h : ("def " : Text) <:+: form.joined ps) :
    ∃ p ∈ ps, ("def " : Text) <:+: form.text p := by
  have hgap : ('d' : CodePoint) ∉ form.gap := fun hd => Bool.false_ne_true (form.gap_blank _ hd)
  obtain ⟨t, ht, h⟩ := Text.infix_of_infix_join hgap (by decide) h
  obtain ⟨p, hp, rfl⟩ := List.mem_map.1 ht
  exact ⟨p, hp, h⟩

/-! ## The marks of a list -/

/-- The marks of a list that stands at a position. -/
def listMarks (position : Nat) : List α → List Lexeme
  | [] => []
  | [p] => form.marks p position
  | p :: q :: ps =>
    form.marks p position ++ .mark ',' (position + (form.text p).length)
      :: listMarks (position + (form.text p).length + 1 + form.gap.length) (q :: ps)

/-- A comma joins neither a gap nor a word. -/
theorem single_comma (p : α) (ps : List α) (seen r : Text) :
    Lexeme.Single seen ',' (form.gap ++ (form.joined (p :: ps) ++ r)) := by
  have hgap := form.gap_blank
  cases hcons : form.gap with
  | nil => exact Lexeme.single_word (form.joined_exists_cons p ps) seen ',' r
  | cons b gap =>
    rw [hcons] at hgap
    exact Lexeme.single_cons (Lexeme.continuesOperator_of_isBlank (hgap b List.mem_cons_self))

theorem list_marked (ps : List α) (hr : Follows r)
    (h : Marked language ((form.joined ps).reverse ++ seen) (position + (form.joined ps).length) r ms) :
    Marked language seen position (form.joined ps ++ r) (form.listMarks position ps ++ ms) := by
  induction ps generalizing seen position with
  | nil => exact h
  | cons p ps ih =>
    cases ps with
    | nil =>
      rw [joined_singleton] at h ⊢
      exact form.marked p _ _ _ _ hr h
    | cons q ps =>
      have hlist : Marked language (form.gap.reverse ++ (',' : CodePoint) :: ((form.text p).reverse ++ seen))
          (position + (form.text p).length + 1 + form.gap.length) (form.joined (q :: ps) ++ r) _ :=
        ih (h.congr (by simp [joined_cons]) (by simp [joined_cons]; omega))
      have hcomma := Marked.mark (c := ',') (by decide) (form.single_comma q ps _ r)
        (Marked.blanks form.gap_blank hlist)
      simpa [joined_cons, listMarks] using form.marked p _ _ _ _ follows_comma hcomma

theorem joined_marked (position : Nat) (ps : List α) :
    Marked language [] position (form.joined ps) (form.listMarks position ps) := by
  have h : Marked language [] position (form.joined ps ++ []) (form.listMarks position ps ++ []) :=
    form.list_marked ps follows_nil Lexeme.marked_nil
  rwa [List.append_nil, List.append_nil] at h

theorem splitByLexemes_joined (ps : List α) :
    splitByLexemes language (form.joined ps) = splitRest language (form.joined ps) {} (form.listMarks 0 ps) := by
  rw [splitByLexemes_eq, Lexeme.scan, form.joined_marked 0 ps {}]

theorem listMarks_no_parens (position : Nat) (ps : List α) :
    ∀ l ∈ form.listMarks position ps, l.text ≠ "(" ∧ l.text ≠ ")" := by
  have hmarked := form.joined_marked position ps
  intro l hl
  exact ⟨hmarked.text_ne (form.not_mem_joined (by decide) rfl (fun p => (form.no_parens p).1) ps) l hl,
    hmarked.text_ne (form.not_mem_joined (by decide) rfl (fun p => (form.no_parens p).2) ps) l hl⟩

/-! ## A list between parentheses -/

section Assemble

variable {lead rest : Text} {before : List Lexeme}

/-- A list in parentheses ends before the first closing one, whatever stands around it. -/
theorem parameterListClose?_assemble (hlanguage : language.comparesTokens = true) (p : α) (ps : List α)
    (hlead : ∀ r ms, Marked language lead.reverse lead.length (('(' : CodePoint) :: r) ms →
      Marked language [] 0 (lead ++ ('(' : CodePoint) :: r) (before ++ ms))
    (hbefore : ∀ l ∈ before, l.start < lead.length)
    (hrest : ∀ seen position, ∃ ms, Marked language seen position rest ms)
    (hnext : ∀ c ∈ rest.head?, Lexeme.continuesOperator c = false) :
    parameterListClose? (some language) (assemble lead (form.joined (p :: ps)) rest) lead.length
      = some (lead.length + 1 + (form.joined (p :: ps)).length) := by
  have hopen : Lexeme.Single lead.reverse '(' (form.joined (p :: ps) ++ (')' : CodePoint) :: rest) :=
    Lexeme.single_word (form.joined_exists_cons p ps) _ _ _
  obtain ⟨after, hafter⟩ := hrest
    ((')' : CodePoint) :: ((form.joined (p :: ps)).reverse ++ ('(' : CodePoint) :: lead.reverse))
    (lead.length + 1 + (form.joined (p :: ps)).length + 1)
  have hlist := form.list_marked (p :: ps) follows_close (Marked.mark (by decide) (Or.inl hnext) hafter)
  have hmarks := hlead _ _ (Marked.mark (by decide) hopen hlist) {}
  exact parameterListClose?_eq hlanguage hmarks hbefore (form.listMarks_no_parens _ _) (by omega)

end Assemble

end Form

end ChangeReview.Signature
