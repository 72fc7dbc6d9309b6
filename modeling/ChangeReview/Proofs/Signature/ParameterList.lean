import ChangeReview.Proofs.Text.Words
import ChangeReview.Signature.Comparison

/-!
# Where a parameter list stands

The search for the parenthesis that opens a parameter list passes over words, and over whatever else opens
and closes no bracket. Once the list is found, its text and what follows it are read off.
-/

namespace ChangeReview.Signature

variable {t u r name signature : Text} {start : Nat} {c : CodePoint}

/-! ## Where a parameter list starts -/

/-- A code point that opens no bracket or string, and closes none but a parenthesis. -/
def isLevel (c : CodePoint) : Bool :=
  !c.isQuote && c != '(' && c != '<' && c != '>' && c != '[' && c != ']' && c != '\x7b' && c != '\x7d'

theorem isLevel_of_isWord (h : c.isWord = true) : isLevel c = true := by
  have hne : ∀ d : CodePoint, d.isWord = false → (c != d) = true := fun d hd =>
    bne_iff_ne.2 (CodePoint.ne_of_isWord h hd)
  simp (disch := decide) only [isLevel, CodePoint.isQuote_of_isWord h, hne, Bool.not_false, Bool.and_self]

/-- A text that the search for a parenthesis passes over, whatever brackets are open. -/
def Level (t : Text) : Prop :=
  ∀ index previous b r, ∃ previous',
    topLevelParen?.go index {} previous b (t ++ r) = topLevelParen?.go (index + t.length) {} previous' b r

theorem level_nil : Level [] := fun _ previous _ _ => ⟨previous, rfl⟩

theorem Level.append (ht : Level t) (hu : Level u) : Level (t ++ u) := by
  intro index previous b r
  obtain ⟨p, hp⟩ := ht index previous b (u ++ r)
  obtain ⟨q, hq⟩ := hu (index + t.length) p b r
  exact ⟨q, by rw [List.append_assoc, hp, hq, List.length_append, Nat.add_assoc]⟩

theorem level_of_isLevel (h : ∀ c ∈ t, isLevel c = true) : Level t := by
  induction t with
  | nil => exact level_nil
  | cons c t ih =>
    obtain ⟨hc, ht⟩ := List.forall_mem_cons.1 h
    refine Level.append (t := [c]) ?_ (ih ht)
    intro index previous b r
    simp only [isLevel, Bool.and_eq_true, Bool.not_eq_true', bne_iff_ne] at hc
    refine ⟨some c, ?_⟩
    simp [topLevelParen?.go, Brackets.next, QuoteState.isInside, hc]

theorem level_word (w : Word) : Level w.text := level_of_isLevel fun c hc => isLevel_of_isWord (w.word c hc)

/-- A pair of square brackets. -/
theorem level_squares : Level [('[' : CodePoint), (']' : CodePoint)] := by
  intro index previous b r
  exact ⟨some (']' : CodePoint), rfl⟩

/-- The first parenthesis after a text that is passed over is found. -/
theorem Level.topLevelParen? (h : Level t) (r : Text) :
    Signature.topLevelParen? (t ++ ('(' : CodePoint) :: r) = some t.length := by
  obtain ⟨previous, hp⟩ := h 0 none {} (('(' : CodePoint) :: r)
  rw [Signature.topLevelParen?, hp, topLevelParen?.go, Nat.zero_add]
  rfl

/-- No parenthesis is found in a text that is passed over. -/
theorem Level.topLevelParen?_eq_none (h : Level t) : Signature.topLevelParen? t = none := by
  obtain ⟨previous, hp⟩ := h 0 none {} []
  rw [List.append_nil] at hp
  rw [Signature.topLevelParen?, hp, topLevelParen?.go]

/-- Without blanks no `def` is found. -/
theorem not_def_of_not_isBlank (h : ∀ c ∈ t, c.isBlank = false) : ¬ ("def " : Text) <:+: t := by
  intro hin
  have hblank := h ' ' (hin.subset (by decide))
  cases hblank

theorem not_def_word (w : Word) : ¬ ("def " : Text) <:+: w.text :=
  not_def_of_not_isBlank fun c hc => CodePoint.isBlank_of_isWord (w.word c hc)

theorem Level.topLevelParenFrom? (h : Level t) (hdrop : signature.drop start = t ++ ('(' : CodePoint) :: r) :
    Signature.topLevelParenFrom? signature start = some (start + t.length) := by
  rw [Signature.topLevelParenFrom?, hdrop, h.topLevelParen?]
  rfl

/-! ## What stands between the parentheses and behind them -/

theorem drop_behind {a b : Text} {position : Nat} (h : t.drop position = a ++ b) :
    t.drop (position + a.length) = b := by
  rw [← List.drop_drop, h, List.drop_left]

theorem drop_behind_cons {a b : Text} {position : Nat} (h : t.drop position = a ++ c :: b) :
    t.drop (position + a.length + 1) = b := by
  rw [← List.drop_drop, drop_behind h]
  rfl

/-- A signature with `body` between the parentheses of its parameter list. -/
def assemble (lead body rest : Text) : Text :=
  lead ++ ('(' : CodePoint) :: (body ++ (')' : CodePoint) :: rest)

section Assemble

variable {language : Option Language} {lead body rest : Text}

theorem drop_assemble (lead body rest : Text) :
    (assemble lead body rest).drop (lead.length + 1) = body ++ (')' : CodePoint) :: rest := by
  rw [assemble, ← List.drop_drop, List.drop_left]
  rfl

theorem parameterText?_assemble (hstart : parameterListStart? (assemble lead body rest) = some lead.length)
    (hclose : parameterListClose? language (assemble lead body rest) lead.length
      = some (lead.length + 1 + body.length)) :
    parameterText? language (assemble lead body rest) = some body := by
  rw [parameterText?, hstart]
  simp only [Option.bind_eq_bind, Option.bind_some, hclose, drop_assemble, Nat.add_sub_cancel_left, List.take_left]
  rfl

theorem tail_assemble (hstart : parameterListStart? (assemble lead body rest) = some lead.length)
    (hclose : parameterListClose? language (assemble lead body rest) lead.length
      = some (lead.length + 1 + body.length)) :
    tail language (assemble lead body rest) = rest.trim := by
  simp only [tail, hstart, hclose]
  rw [Nat.add_assoc, ← List.drop_drop, drop_assemble, ← List.drop_drop, List.drop_left]
  rfl

end Assemble

/-! ## Keywords before a parameter list -/

/-- The search starts behind the last `def`. -/
theorem parameterListStart?_def (h : ¬ ("def " : Text) <:+: ("ef " : Text) ++ r) (t : Text) :
    parameterListStart? (t ++ (("def " : Text) ++ r)) = (topLevelParen? r).map (t.length + 4 + ·) := by
  have hcut : Text.cutLast? "def " (t ++ (("def " : Text) ++ r)) = some (t, r) :=
    Text.cutLast?_append_of_eq_none (Text.cutLast?_eq_none_of_not_infix h) t
  have hdrop : (t ++ (("def " : Text) ++ r)).drop (t.length + 4) = r := by
    rw [← List.drop_drop, List.drop_left]
    rfl
  rw [parameterListStart?, hcut]
  dsimp only
  rw [topLevelParenFrom?, hdrop]

theorem parameterListStart?_func (h : ¬ ("def " : Text) <:+: ("func " : Text) ++ r) :
    parameterListStart? (("func " : Text) ++ r) = (do
      let first ← topLevelParenFrom? (("func " : Text) ++ r) 5
      if Text.isBlank (r.take (first - 5)) then
        let close ← parenClose? ((("func " : Text) ++ r).drop first)
        topLevelParenFrom? (("func " : Text) ++ r) (first + close + 1)
      else return first) := by
  have htrim : (("func " : Text) ++ r).trimLeft = ("func " : Text) ++ r := rfl
  have hfunc : Text.startsWith (("func " : Text) ++ r) "func " = true :=
    Text.startsWith_iff.2 (List.prefix_append _ _)
  have hdrop : (("func " : Text) ++ r).drop 5 = r := rfl
  simp only [parameterListStart?, Text.cutLast?_eq_none_of_not_infix h, htrim, Nat.sub_self, List.drop_zero, hfunc,
    if_true, Nat.zero_add, hdrop]

/-- The parameters of a function stand behind its name. -/
theorem parameterListStart?_function (h : ¬ ("def " : Text) <:+: ("func " : Text) ++ (name ++ ('(' : CodePoint) :: r))
    (hname : Level name) (hblank : Text.isBlank name = false) :
    parameterListStart? (("func " : Text) ++ (name ++ ('(' : CodePoint) :: r)) = some (5 + name.length) := by
  rw [parameterListStart?_func h, hname.topLevelParenFrom? rfl]
  simp only [Option.bind_eq_bind, Option.bind_some, Nat.add_sub_cancel_left, List.take_left, hblank,
    Bool.false_eq_true, if_false]
  rfl

theorem parenClose?_go (h : ∀ c ∈ t, c.isQuote = false ∧ c ≠ '(' ∧ c ≠ ')') (index : Nat) (r : Text) :
    parenClose?.go index {} 1 (t ++ (')' : CodePoint) :: r) = some (index + t.length) := by
  induction t generalizing index with
  | nil => rfl
  | cons c t ih =>
    obtain ⟨⟨hquote, hopen, hclose⟩, ht⟩ := List.forall_mem_cons.1 h
    rw [List.cons_append, parenClose?.go, hquote, beq_false_of_ne hopen, beq_false_of_ne hclose]
    show parenClose?.go (index + 1) {} 1 (t ++ (')' : CodePoint) :: r) = _
    rw [ih ht, List.length_cons, Nat.add_assoc, Nat.add_comm 1]

/-- The parameters of a method stand behind its receiver and its name. -/
theorem parameterListStart?_method (h : ¬ ("def " : Text) <:+: assemble "func " t (name ++ ('(' : CodePoint) :: r))
    (ht : ∀ c ∈ t, c.isQuote = false ∧ c ≠ '(' ∧ c ≠ ')') (hname : Level name) :
    parameterListStart? (assemble "func " t (name ++ ('(' : CodePoint) :: r))
      = some (5 + (1 + t.length) + 1 + name.length) := by
  have hfirst : topLevelParenFrom? (assemble "func " t (name ++ ('(' : CodePoint) :: r)) 5 = some 5 :=
    level_nil.topLevelParenFrom? rfl
  have hclose : parenClose? ((assemble "func " t (name ++ ('(' : CodePoint) :: r)).drop 5) = some (1 + t.length) :=
    parenClose?_go ht 1 _
  have hdrop : (assemble "func " t (name ++ ('(' : CodePoint) :: r)).drop (5 + (1 + t.length) + 1)
      = name ++ ('(' : CodePoint) :: r := by
    rw [show 5 + (1 + t.length) + 1 = 6 + t.length + 1 by omega]
    exact drop_behind_cons rfl
  have hfunc := parameterListStart?_func h
  rw [show ("func " : Text) ++ _ = assemble "func " t (name ++ ('(' : CodePoint) :: r) from rfl, hfirst] at hfunc
  rw [hfunc]
  show (parenClose? _ >>= fun close => topLevelParenFrom? _ (5 + close + 1)) = _
  rw [hclose]
  exact hname.topLevelParenFrom? hdrop

end ChangeReview.Signature
