import ChangeReview.Proofs.Lexeme.Spacing
import ChangeReview.Proofs.Signature.Listing

/-!
# Parameters and results of Go

A parameter has a name and a type, which may be that of a pointer or a slice. A result is a name or a list of
names in parentheses. Both are told apart by their marks alone, and results by all but their blanks.
-/

namespace ChangeReview.Signature

open Lexeme (Marked)

variable {language : Language} {seen whole r u : Text} {position : Nat} {s : SplitState} {ms : List Lexeme}
  {c : CodePoint}

/-! ## Types -/

/-- What stands before the name of a type. -/
inductive TypeMark where
  | plain
  | pointer
  | slice

namespace TypeMark

def text : TypeMark → Text
  | .plain => []
  | .pointer => [('*' : CodePoint)]
  | .slice => [('[' : CodePoint), (']' : CodePoint)]

/-- The marks of what stands before a type, at a position. -/
def marks (position : Nat) : TypeMark → List Lexeme
  | .plain => []
  | .pointer => [.mark '*' position]
  | .slice => [.mark '[' position, .mark ']' (position + 1)]

theorem marked (m : TypeMark) (w : Word)
    (h : Marked language (m.text.reverse ++ seen) (position + m.text.length) (w.text ++ r) ms) :
    Marked language seen position (m.text ++ (w.text ++ r)) (m.marks position ++ ms) := by
  have hsingle : ∀ seen c, Lexeme.Single seen c (w.text ++ r) := fun seen c =>
    Lexeme.single_word w.exists_cons seen c r
  cases m with
  | plain => exact h
  | pointer => exact Marked.mark (by decide) (hsingle _ _) h
  | slice => exact Marked.mark (by decide) (Lexeme.single_cons rfl) (Marked.mark (by decide) (hsingle _ _) h)

/-- Nothing is split before a type. -/
theorem split (m : TypeMark) :
    splitRest language whole s (m.marks position ++ ms) = splitRest language whole s ms := by
  cases m with
  | plain => rfl
  | pointer => exact splitRest_plain (by decide)
  | slice => exact splitRest_squares _ _

theorem level (m : TypeMark) : Level m.text := by
  cases m with
  | plain => exact level_nil
  | pointer => exact level_of_isLevel (by decide)
  | slice => exact level_squares

theorem forall_mem_text (m : TypeMark) : ∀ c ∈ m.text, c ∈ ("*[]" : Text) := by
  cases m <;> decide

end TypeMark

/-! ## Parameters -/

/-- A parameter with its type. -/
structure GoParameter where
  name : Word
  mark : TypeMark
  type : Word

namespace GoParameter

def text (p : GoParameter) : Text := p.name.text ++ (" " : Text) ++ (p.mark.text ++ p.type.text)

/-- The marks of a parameter that stands at a position. -/
def marks (p : GoParameter) (position : Nat) : List Lexeme := p.mark.marks (position + p.name.text.length + 1)

theorem text_eq (p : GoParameter) :
    p.text = p.name.text ++ (' ' : CodePoint) :: (p.mark.text ++ p.type.text) := List.append_assoc _ _ _

theorem exists_cons (p : GoParameter) : ∃ c r, p.text = c :: r ∧ c.isWord = true := by
  obtain ⟨c, r, hname, hc⟩ := p.name.exists_cons
  exact ⟨c, _, by rw [text_eq, hname]; rfl, hc⟩

theorem mem_type (p : GoParameter) (h : c ∈ p.mark.text ++ p.type.text) : c.isWord = true ∨ c ∈ ("*[]" : Text) := by
  rcases List.mem_append.1 h with h | h
  · exact Or.inr (p.mark.forall_mem_text c h)
  · exact Or.inl (p.type.word c h)

theorem isBlank_of_mem_type (p : GoParameter) (h : c ∈ p.mark.text ++ p.type.text) : c.isBlank = false := by
  have hall : ∀ c ∈ ("*[]" : Text), c.isBlank = false := by decide
  rcases p.mem_type h with h | h
  · exact CodePoint.isBlank_of_isWord h
  · exact hall c h

theorem stop (p : GoParameter) : ∀ c ∈ p.text.getLast?, c.isBlank = false := by
  obtain ⟨d, u, htype, -⟩ := p.type.exists_cons
  intro c hc
  rw [text, List.getLast?_append_of_ne_nil _ (by rw [htype]; simp)] at hc
  exact p.isBlank_of_mem_type (List.mem_of_getLast? hc)

theorem mem_text (p : GoParameter) (h : c ∈ p.text) : c.isWord = true ∨ c ∈ (" *[]" : Text) := by
  rw [text_eq, List.mem_append, List.mem_cons] at h
  rcases h with h | rfl | h
  · exact Or.inl (p.name.word c h)
  · exact Or.inr (by decide)
  · exact (p.mem_type h).imp_right (List.mem_cons_of_mem _)

/-- No quotes or parentheses stand in a parameter. -/
theorem plain_of_mem_text (p : GoParameter) (h : c ∈ p.text) : c.isQuote = false ∧ c ≠ '(' ∧ c ≠ ')' := by
  have hall : ∀ c ∈ (" *[]" : Text), c.isQuote = false ∧ c ≠ '(' ∧ c ≠ ')' := by decide
  rcases p.mem_text h with h | h
  · exact ⟨CodePoint.isQuote_of_isWord h, CodePoint.ne_of_isWord h rfl, CodePoint.ne_of_isWord h rfl⟩
  · exact hall c h

theorem marked (p : GoParameter) (hr : Follows r)
    (h : Marked .go (p.text.reverse ++ seen) (position + p.text.length) r ms) :
    Marked .go seen position (p.text ++ r) (p.marks position ++ ms) := by
  have htype : Marked .go (' ' :: (p.name.text.reverse ++ seen)) (position + p.name.text.length + 1)
      (p.mark.text ++ (p.type.text ++ r)) (p.marks position ++ ms) := by
    refine p.mark.marked p.type (Marked.word p.type.word hr.endsWord ?_)
    refine h.congr (by simp [text_eq]) ?_
    simp only [text_eq, List.length_append, List.length_cons]
    omega
  have hname := Marked.word p.name.word (Lexeme.endsWord_cons rfl) (Marked.blank (c := ' ') rfl htype)
  simpa [text_eq] using hname

/-- Parameters are listed with a comma and a blank between them. -/
def form : Form .go GoParameter where
  text := text
  marks := marks
  gap := " "
  exists_cons := exists_cons
  stop := stop
  no_parens := fun p => ⟨fun h => (p.plain_of_mem_text h).2.1 rfl, fun h => (p.plain_of_mem_text h).2.2 rfl⟩
  marked := fun p _ _ _ _ hr h => p.marked hr h
  gap_blank := by decide

theorem joined_singleton (p : GoParameter) : form.joined [p] = p.text := form.joined_singleton p

theorem joined_cons (p q : GoParameter) (ps : List GoParameter) :
    form.joined (p :: q :: ps) = p.text ++ (',' : CodePoint) :: (' ' :: form.joined (q :: ps)) :=
  form.joined_cons p q ps

theorem trim_text (hu : ∀ c ∈ u, c.isBlank = true) (p : GoParameter) : Text.trim (u ++ p.text) = p.text :=
  (form.trimmed p).trim_append (form.text_ne_nil p) hu

/-- A list is split at its commas, and the blanks before each parameter are dropped. -/
theorem splitRest_joined (p : GoParameter) (ps : List GoParameter) (hu : ∀ c ∈ u, c.isBlank = true)
    (htext : whole.drop s.segmentStart = u ++ form.joined (p :: ps)) (hdepth : s.depth = 0) :
    splitRest .go whole s (form.listMarks (s.segmentStart + u.length) (p :: ps)) = (p :: ps).map text := by
  induction ps generalizing p u s with
  | nil =>
    have hmarks : form.listMarks (s.segmentStart + u.length) [p] = p.marks (s.segmentStart + u.length) ++ [] :=
      (List.append_nil _).symm
    rw [hmarks, marks, p.mark.split, splitRest_nil, htext, joined_singleton, trim_text hu]
    rfl
  | cons q ps ih =>
    have hcut : whole.drop s.segmentStart = (u ++ p.text) ++ (',' : CodePoint) :: (' ' :: form.joined (q :: ps)) := by
      rw [htext, joined_cons, List.append_assoc]
    have hcomma : s.segmentStart + u.length + p.text.length = s.segmentStart + (u ++ p.text).length := by
      rw [List.length_append, Nat.add_assoc]
    have hmarks : form.listMarks (s.segmentStart + u.length) (p :: q :: ps)
        = p.marks (s.segmentStart + u.length) ++ .mark ',' (s.segmentStart + (u ++ p.text).length)
          :: form.listMarks (s.segmentStart + (u ++ p.text).length + 1 + 1) (q :: ps) := by
      rw [← hcomma]
      rfl
    have hfirst : Text.trim ((whole.drop s.segmentStart).take
        (s.segmentStart + (u ++ p.text).length - s.segmentStart)) = p.text := by
      rw [Nat.add_sub_cancel_left, hcut, List.take_left, trim_text hu]
    rw [hmarks, marks, p.mark.split, splitRest_comma hdepth, hfirst]
    exact congrArg (p.text :: ·) (ih q (u := " ") (by decide) (drop_behind_cons hcut) hdepth)

/-- The name ends in `def`, behind which the parameters of a declaration are searched for. -/
def EndsInDef (p : GoParameter) : Prop := ("def" : Text) <:+ p.name.text

instance (p : GoParameter) : Decidable p.EndsInDef := inferInstanceAs (Decidable (_ <:+ _))

/-- The only blank of a parameter stands behind its name. -/
theorem def_text_iff (p : GoParameter) : ("def " : Text) <:+: p.text ↔ p.EndsInDef := by
  rw [text_eq]
  have hname : (' ' : CodePoint) ∉ p.name.text := fun h => CodePoint.ne_of_isWord (p.name.word _ h) rfl rfl
  have htype : (' ' : CodePoint) ∉ p.mark.text ++ p.type.text := fun h =>
    Bool.false_ne_true (p.isBlank_of_mem_type h).symm
  show ("def" : Text) ++ [(' ' : CodePoint)] <:+: _ ↔ _
  exact Text.infix_concat_iff hname htype

theorem not_def_type (p : GoParameter) : ¬ ("def " : Text) <:+: ("ef " : Text) ++ (p.mark.text ++ p.type.text) :=
  fun h => not_def_of_not_isBlank (fun _ hc => p.isBlank_of_mem_type hc) (Text.infix_of_infix_append (by decide) h)

/-- What stands behind the `def` at the end of a name is the type. -/
theorem EndsInDef.exists_text {p : GoParameter} (h : p.EndsInDef) :
    ∃ before, p.text = before ++ (("def " : Text) ++ (p.mark.text ++ p.type.text)) := by
  obtain ⟨before, hname⟩ := h
  refine ⟨before, ?_⟩
  rw [text_eq, ← hname, List.append_assoc]
  rfl

theorem not_def_joined {ps : List GoParameter} (h : ∀ p ∈ ps, ¬ p.EndsInDef) :
    ¬ ("def " : Text) <:+: form.joined ps := by
  intro hdef
  obtain ⟨p, hp, hdef⟩ := form.def_of_def_joined hdef
  exact h p hp (p.def_text_iff.1 hdef)

theorem level_type (p : GoParameter) : Level (p.mark.text ++ p.type.text) := p.mark.level.append (level_word p.type)

theorem level_text (p : GoParameter) : Level p.text :=
  ((level_word p.name).append (level_of_isLevel (by decide))).append p.level_type

theorem level_joined (ps : List GoParameter) : Level (form.joined ps) := by
  induction ps with
  | nil => exact level_nil
  | cons p ps ih =>
    cases ps with
    | nil =>
      rw [joined_singleton]
      exact p.level_text
    | cons q ps =>
      rw [joined_cons]
      exact p.level_text.append (Level.append (t := ", ") (level_of_isLevel (by decide)) ih)

/-- Behind the last name that ends so, the list is passed over. -/
theorem exists_last_def {ps : List GoParameter} (h : ∃ p ∈ ps, p.EndsInDef) :
    ∃ before behind, form.joined ps = before ++ (("def " : Text) ++ behind) ∧
      ¬ ("def " : Text) <:+: ("ef " : Text) ++ behind ∧ Level behind := by
  induction ps with
  | nil =>
    obtain ⟨p, hp, -⟩ := h
    cases hp
  | cons p ps ih =>
    by_cases hlater : ∃ q ∈ ps, q.EndsInDef
    · obtain ⟨before, behind, hjoined, hdef, hlevel⟩ := ih hlater
      cases ps with
      | nil => exact absurd hlater (by simp)
      | cons q ps =>
        refine ⟨p.text ++ (", " : Text) ++ before, behind, ?_, hdef, hlevel⟩
        rw [joined_cons, hjoined, List.append_assoc, List.append_assoc]
        rfl
    · have hps : ∀ q ∈ ps, ¬ q.EndsInDef := fun q hq hend => hlater ⟨q, hq, hend⟩
      have hp : p.EndsInDef := by
        obtain ⟨q, hq, hend⟩ := h
        rcases List.mem_cons.1 hq with rfl | hq
        · exact hend
        · exact absurd hend (hps q hq)
      obtain ⟨before, htext⟩ := hp.exists_text
      cases ps with
      | nil =>
        rw [joined_singleton]
        exact ⟨before, _, htext, p.not_def_type, p.level_type⟩
      | cons q ps =>
        refine ⟨before, (p.mark.text ++ p.type.text) ++ (',' : CodePoint) :: (' ' :: form.joined (q :: ps)), ?_, ?_, ?_⟩
        · rw [joined_cons, htext]
          simp only [List.append_assoc]
        · rw [← List.append_assoc, Text.infix_append_cons_iff (by decide)]
          rintro (hdef | hdef)
          · exact p.not_def_type hdef
          · exact not_def_joined hps (Text.infix_of_infix_cons (by decide) hdef)
        · exact p.level_type.append (Level.append (t := ", ") (level_of_isLevel (by decide)) (level_joined _))

end GoParameter

/-! ## Results -/

/-- Blanks behind a comma, or none. -/
structure Gap where
  text : Text
  blank : ∀ c ∈ text, c.isBlank = true

/-- What a function returns: nothing, a type, or a list of types in parentheses. -/
inductive GoResult where
  | none
  | single (w : Word)
  | several (ws : List Word)

namespace GoResult

variable (gap : Gap)

def text : GoResult → Text
  | .none => []
  | .single w => w.text
  | .several ws => ("(" : Text) ++ Text.join (("," : Text) ++ gap.text) (ws.map Word.text) ++ (")" : Text)

/-- The result as it is written behind the parameters. -/
def written : GoResult → Text
  | .none => []
  | .single w => (" " : Text) ++ (GoResult.single w).text gap
  | .several ws => (" " : Text) ++ (GoResult.several ws).text gap

/-- The types of a result, listed with the given gap. -/
def form : Form .go Word where
  text := Word.text
  marks := fun _ _ => []
  gap := gap.text
  exists_cons := Word.exists_cons
  stop := fun w c hc => CodePoint.isBlank_of_isWord (w.word c (List.mem_of_getLast? hc))
  no_parens := fun w => ⟨fun h => CodePoint.ne_of_isWord (w.word _ h) rfl rfl,
    fun h => CodePoint.ne_of_isWord (w.word _ h) rfl rfl⟩
  marked := fun w _ _ _ _ hr h => Marked.word w.word hr.endsWord h
  gap_blank := gap.blank

theorem text_several (ws : List Word) :
    (several ws).text gap = ('(' : CodePoint) :: ((form gap).joined ws ++ [(')' : CodePoint)]) := rfl

theorem not_def_text (result : GoResult) : ¬ ("def " : Text) <:+: result.text gap := by
  cases result with
  | none => exact fun h => absurd (List.eq_nil_of_infix_nil h) (by decide)
  | single w => exact not_def_word w
  | several ws =>
    intro h
    rw [text_several] at h
    rcases (Text.infix_append_cons_iff (by decide)).1 (Text.infix_of_infix_cons (by decide) h) with h | h
    · obtain ⟨w, -, hw⟩ := (form gap).def_of_def_joined h
      exact not_def_word w hw
    · exact absurd (List.eq_nil_of_infix_nil h) (by decide)

theorem not_def_written (result : GoResult) : ¬ ("def " : Text) <:+: result.written gap := by
  cases result with
  | none => exact not_def_text gap .none
  | single w => exact fun h => not_def_text gap (.single w) (Text.infix_of_infix_cons (by decide) h)
  | several ws => exact fun h => not_def_text gap (.several ws) (Text.infix_of_infix_cons (by decide) h)

/-- Whatever a result is, it has marks, and they depend on no state. -/
theorem exists_marked_written (result : GoResult) (seen : Text) (position : Nat) :
    ∃ ms, Marked .go seen position (result.written gap) ms := by
  cases result with
  | none => exact ⟨[], Lexeme.marked_nil⟩
  | single w =>
    have hword : Marked .go (' ' :: seen) (position + 1) (w.text ++ []) [] :=
      Marked.word w.word (by simp) Lexeme.marked_nil
    rw [List.append_nil] at hword
    exact ⟨[], Marked.blank rfl hword⟩
  | several ws =>
    have hopen : Lexeme.Single (' ' :: seen) '(' ((form gap).joined ws ++ [(')' : CodePoint)]) := by
      cases ws with
      | nil => exact Lexeme.single_cons rfl
      | cons w ws => exact Lexeme.single_word ((form gap).joined_exists_cons w ws) _ _ _
    exact ⟨_, Marked.blank rfl (Marked.mark (by decide) hopen ((form gap).list_marked ws follows_close
      (Marked.mark (by decide) Lexeme.single_nil Lexeme.marked_nil)))⟩

theorem continuesOperator_written (result : GoResult) :
    ∀ c ∈ (result.written gap).head?, Lexeme.continuesOperator c = false := by
  cases result with
  | none => simp [written]
  | single w => exact fun c hc => Option.some.inj hc ▸ rfl
  | several ws => exact fun c hc => Option.some.inj hc ▸ rfl

theorem trimmed_text (result : GoResult) : Text.Trimmed (result.text gap) := by
  cases result with
  | none => exact ⟨by simp [text], by simp [text]⟩
  | single w => exact (form gap).trimmed w
  | several ws =>
    rw [text_several, ← List.cons_append]
    refine Text.trimmed_append (by simp) (by simp) ?_ ?_
    · exact fun c hc => Option.some.inj hc ▸ rfl
    · exact fun c hc => Option.some.inj hc ▸ rfl

theorem text_eq_nil_iff {result : GoResult} : result.text gap = [] ↔ result = .none := by
  cases result with
  | none => exact iff_of_true rfl rfl
  | single w => exact iff_of_false w.nonempty GoResult.noConfusion
  | several ws => exact iff_of_false (List.cons_ne_nil _ _) GoResult.noConfusion

theorem trim_written (result : GoResult) : Text.trim (result.written gap) = result.text gap := by
  have htrim : ∀ result : GoResult, result ≠ .none → Text.trim ((" " : Text) ++ result.text gap) = result.text gap :=
    fun result h => (result.trimmed_text gap).trim_append (mt (text_eq_nil_iff gap).1 h) (by decide)
  cases result with
  | none => rfl
  | single w => exact htrim _ GoResult.noConfusion
  | several ws => exact htrim _ GoResult.noConfusion

/-! ## Results differ by more than blanks -/

theorem slash_not_mem_text (result : GoResult) : ('/' : CodePoint) ∉ result.text gap := by
  have hword : ∀ w : Word, ('/' : CodePoint) ∉ w.text := fun w h => CodePoint.ne_of_isWord (w.word _ h) rfl rfl
  cases result with
  | none => simp [text]
  | single w => exact hword w
  | several ws =>
    rw [text_several, List.mem_cons, List.mem_append, List.mem_singleton]
    rintro (h | h | h)
    · exact absurd h (by decide)
    · exact (form gap).not_mem_joined (by decide) rfl hword ws h
    · exact absurd h (by decide)

theorem filter_word (w : Word) : w.text.filter (!·.isBlank) = w.text :=
  List.filter_eq_self.2 fun c hc => by rw [CodePoint.isBlank_of_isWord (w.word c hc)]; rfl

theorem filter_joined (ws : List Word) :
    ((form gap).joined ws).filter (!·.isBlank) = Text.join [(',' : CodePoint)] (ws.map Word.text) := by
  have hgap : gap.text.filter (!·.isBlank) = [] :=
    List.filter_eq_nil_iff.2 fun c hc => by rw [gap.blank c hc]; decide
  have hcomma : ((',' : CodePoint) :: gap.text).filter (!·.isBlank) = [(',' : CodePoint)] := by
    rw [List.filter_cons_of_pos rfl, hgap]
  have hwords : ws.map (List.filter (!·.isBlank) ∘ Word.text) = ws.map Word.text :=
    List.map_congr_left fun w _ => filter_word w
  rw [Form.joined, Text.filter_join, List.map_map]
  show Text.join (((',' : CodePoint) :: gap.text).filter (!·.isBlank))
    (ws.map (List.filter (!·.isBlank) ∘ Word.text)) = _
  rw [hcomma, hwords]

theorem filter_several (ws : List Word) :
    ((several ws).text gap).filter (!·.isBlank)
      = ('(' : CodePoint) :: (Text.join [(',' : CodePoint)] (ws.map Word.text) ++ [(')' : CodePoint)]) := by
  rw [text_several, List.filter_cons_of_pos rfl, List.filter_append, filter_joined]
  rfl

theorem join_names_injective {ws ws' : List Word}
    (h : Text.join [(',' : CodePoint)] (ws.map Word.text) = Text.join [(',' : CodePoint)] (ws'.map Word.text)) :
    ws = ws' := by
  have hnames : ∀ ws : List Word, ∀ t ∈ ws.map Word.text, t ≠ [] ∧ (',' : CodePoint) ∉ t := by
    intro ws t ht
    obtain ⟨w, -, rfl⟩ := List.mem_map.1 ht
    exact ⟨w.nonempty, fun h => CodePoint.ne_of_isWord (w.word _ h) rfl rfl⟩
  exact List.map_injective_iff.2 Word.text_injective (Text.join_injective (hnames ws) (hnames ws') h)

theorem eq_of_filter_eq {result result' : GoResult}
    (h : (result.text gap).filter (!·.isBlank) = (result'.text gap).filter (!·.isBlank)) : result = result' := by
  have hparen : ∀ (w : Word) (t : Text), w.text ≠ ('(' : CodePoint) :: t := fun w t h =>
    CodePoint.ne_of_isWord (w.word _ (h ▸ List.mem_cons_self)) rfl rfl
  cases result with
  | none =>
    cases result' with
    | none => rfl
    | single w' => exact absurd ((filter_word w').symm.trans h.symm) w'.nonempty
    | several ws' => exact absurd h.symm (by rw [filter_several]; exact List.cons_ne_nil _ _)
  | single w =>
    cases result' with
    | none => exact absurd ((filter_word w).symm.trans h) w.nonempty
    | single w' =>
      have htext : w.text = w'.text := by rwa [text, text, filter_word, filter_word] at h
      rw [Word.text_injective htext]
    | several ws' =>
      rw [text, filter_word, filter_several] at h
      exact absurd h (hparen w _)
  | several ws =>
    cases result' with
    | none => exact absurd h (by rw [filter_several]; exact List.cons_ne_nil _ _)
    | single w' =>
      rw [filter_several, text, filter_word] at h
      exact absurd h.symm (hparen w' _)
    | several ws' =>
      rw [filter_several, filter_several, List.cons.injEq, List.append_left_inj] at h
      rw [join_names_injective h.2]

/-- Results that compare as equal are equal. -/
theorem eq_of_comparable_eq {result result' : GoResult}
    (h : Lexeme.comparable .go (result.text gap) = Lexeme.comparable .go (result'.text gap)) : result = result' :=
  eq_of_filter_eq gap
    (Lexeme.filter_eq_of_comparable_eq (result.slash_not_mem_text gap) (result'.slash_not_mem_text gap) h)

end GoResult

end ChangeReview.Signature
