import ChangeReview.Proofs.Lexeme.Marks
import ChangeReview.Proofs.Signature.ParameterList

/-!
# Splitting a parameter list at its marks

The end of a parameter list and the parameters in it are found from the marks alone: words change nothing.
Each kind of mark has its own effect on the brackets that are counted (`splitRest`). How many parameters
are found, and what follows them, decides how a changed signature is assessed.
-/

namespace ChangeReview.Signature

variable {language : Language} {t : Text} {s : SplitState} {l : Lexeme} {ls ms : List Lexeme} {position start : Nat}

/-! ## Marks that matter -/

/-- The texts of the lexemes that a splitter looks at. -/
def structural : List Text := Text.list ["(", ")", "[", "]", "\x7b", "\x7d", "<", ">", "=", ","]

theorem not_structural_of_isWordy (h : l.isWordy = true) : l.text ∉ structural := by
  have hall : ∀ t ∈ structural, (t.head?.map CodePoint.isWord).getD false = false := by decide
  simp only [Lexeme.isWordy, Bool.and_eq_true] at h
  intro hmem
  exact Bool.false_ne_true ((hall _ hmem).symm.trans h.2)

theorem isSealed_of_isWordy (h : l.isWordy = true) : l.isSealed = false := by
  simp only [Lexeme.isWordy, Bool.and_eq_true, Bool.not_eq_true'] at h
  exact h.1

/-! ## The end of a parameter list -/

theorem lexemeClose?_cons (h : l.text ≠ "(" ∧ l.text ≠ ")") (start : Nat) (depth : Int) :
    lexemeClose? start depth (l :: ls) = lexemeClose? start depth ls := by
  rw [lexemeClose?, beq_false_of_ne h.1, beq_false_of_ne h.2]
  split
  · rfl
  · rfl

theorem lexemeClose?_marks (start : Nat) (depth : Int) (ls : List Lexeme) :
    lexemeClose? start depth (Lexeme.marks ls) = lexemeClose? start depth ls := by
  induction ls generalizing depth with
  | nil => rfl
  | cons l ls ih =>
    by_cases hl : l.isWordy = true
    · have hout := not_structural_of_isWordy hl
      have hparens : l.text ≠ "(" ∧ l.text ≠ ")" :=
        ⟨fun h => hout (h ▸ by decide), fun h => hout (h ▸ by decide)⟩
      rw [Lexeme.marks, List.filter_cons_of_neg (by simp [hl]), lexemeClose?_cons hparens]
      exact ih depth
    · rw [Lexeme.marks, List.filter_cons_of_pos (by simpa using hl), lexemeClose?, lexemeClose?]
      simp only [show ls.filter (!·.isWordy) = Lexeme.marks ls from rfl, ih]

/-- Marks before the list are passed over. -/
theorem lexemeClose?_before (h : ∀ l ∈ ms, l.start < start) (depth : Int) :
    lexemeClose? start depth (ms ++ ls) = lexemeClose? start depth ls := by
  induction ms with
  | nil => rfl
  | cons m ms ih =>
    obtain ⟨hm, hms⟩ := List.forall_mem_cons.1 h
    rw [List.cons_append, lexemeClose?, if_pos hm, ih hms]

/-- Marks in the list that are no parentheses are passed over. -/
theorem lexemeClose?_inside (h : ∀ l ∈ ms, l.text ≠ "(" ∧ l.text ≠ ")") (depth : Int) :
    lexemeClose? start depth (ms ++ ls) = lexemeClose? start depth ls := by
  induction ms with
  | nil => rfl
  | cons m ms ih =>
    obtain ⟨hm, hms⟩ := List.forall_mem_cons.1 h
    rw [List.cons_append, lexemeClose?_cons hm, ih hms]

/-- The end of a list between two parentheses, with no other parenthesis in it. -/
theorem parameterListClose?_eq {close : Nat} {before inner after : List Lexeme}
    (hlanguage : language.comparesTokens = true)
    (hmarks : Lexeme.marks (Lexeme.scan language t)
      = before ++ .mark '(' start :: (inner ++ .mark ')' close :: after))
    (hbefore : ∀ l ∈ before, l.start < start) (hinner : ∀ l ∈ inner, l.text ≠ "(" ∧ l.text ≠ ")")
    (hclose : start ≤ close) : parameterListClose? (some language) t start = some close := by
  have hopen : lexemeClose? start 0 (.mark '(' start :: (inner ++ .mark ')' close :: after))
      = lexemeClose? start 1 (inner ++ .mark ')' close :: after) := by
    have hstart : ¬ (Lexeme.mark '(' start).start < start := Nat.lt_irrefl start
    rw [lexemeClose?, if_neg hstart]
    rfl
  have hend : lexemeClose? start 1 (.mark ')' close :: after) = some close := by
    have hstart : ¬ (Lexeme.mark ')' close).start < start := Nat.not_lt.2 hclose
    rw [lexemeClose?, if_neg hstart]
    rfl
  rw [parameterListClose?, Option.filter_some, hlanguage, if_pos rfl]
  dsimp only
  rw [← lexemeClose?_marks, hmarks, lexemeClose?_before hbefore, hopen, lexemeClose?_inside hinner, hend]

theorem lexemeClose?_eq_some {close : Nat} {depth : Int} (h : lexemeClose? start depth ls = some close) :
    start ≤ close ∧ ∃ l ∈ ls, l.text = ")" ∧ l.start = close := by
  induction ls generalizing depth with
  | nil => cases h
  | cons l ls ih =>
    have hlater : ∀ {depth}, lexemeClose? start depth ls = some close →
        start ≤ close ∧ ∃ m ∈ l :: ls, m.text = ")" ∧ m.start = close := by
      intro depth h
      obtain ⟨hle, m, hm, hm'⟩ := ih h
      exact ⟨hle, m, List.mem_cons_of_mem l hm, hm'⟩
    rw [lexemeClose?] at h
    split at h
    · exact hlater h
    rename_i hstart
    split at h
    · exact hlater h
    split at h
    · rename_i htext
      split at h
      · cases h
        exact ⟨Nat.not_lt.1 hstart, l, List.mem_cons_self, beq_iff_eq.1 htext, rfl⟩
      · exact hlater h
    · exact hlater h

/-- Nothing follows a parameter list at the end of a signature. -/
theorem tail_eq_nil {lead body : Text} (hlanguage : language.comparesTokens = true)
    (hstart : parameterListStart? (assemble lead body []) = some lead.length) (hbody : (')' : CodePoint) ∉ body) :
    tail (some language) (assemble lead body []) = [] := by
  simp only [tail, hstart]
  cases hclose : parameterListClose? (some language) (assemble lead body []) lead.length with
  | none => rfl
  | some close =>
    rw [parameterListClose?, Option.filter_some, hlanguage, if_pos rfl] at hclose
    obtain ⟨hle, l, hl, htext, rfl⟩ := lexemeClose?_eq_some hclose
    have hfound : (assemble lead body []).drop l.start
        = (')' : CodePoint) :: (assemble lead body []).drop (l.start + 1) :=
      (Lexeme.scan_tilesFrom language (assemble lead body [])).drop_start hl htext
    -- the only closing parenthesis from the list on is the last code point
    have honly : (('(' : CodePoint) :: body) ++ (')' : CodePoint) :: []
        = ((assemble lead body []).drop lead.length).take (l.start - lead.length)
          ++ (')' : CodePoint) :: (assemble lead body []).drop (l.start + 1) := by
      calc (('(' : CodePoint) :: body) ++ (')' : CodePoint) :: [] = (assemble lead body []).drop lead.length :=
            List.drop_left.symm
        _ = ((assemble lead body []).drop lead.length).take (l.start - lead.length)
            ++ ((assemble lead body []).drop lead.length).drop (l.start - lead.length) :=
          (List.take_append_drop _ _).symm
        _ = _ := by rw [List.drop_drop, Nat.add_sub_cancel' hle, hfound]
    have hlist : (')' : CodePoint) ∉ ('(' : CodePoint) :: body := by
      rw [List.mem_cons, not_or]
      exact ⟨by decide, hbody⟩
    show Text.trim ((assemble lead body []).drop (l.start + 1)) = []
    rw [← ((List.append_cons_inj_of_notMem hlist (by simp)).1 honly).2.2]
    rfl

/-! ## Splitting -/

theorem splitLexemes_other (hsealed : l.isSealed = false) (h : l.text ∉ structural) :
    splitLexemes language t s (l :: ls) = splitLexemes language t s ls := by
  have hne : ∀ u ∈ structural, (l.text == u) = false := fun u hu =>
    beq_false_of_ne fun heq => h (heq ▸ hu)
  simp (disch := decide) only [splitLexemes, hsealed, hne, Bool.and_false, Bool.false_and, Bool.or_self,
    Bool.false_eq_true, if_false]

theorem splitLexemes_marks (s : SplitState) (ls : List Lexeme) :
    splitLexemes language t s (Lexeme.marks ls) = splitLexemes language t s ls := by
  induction ls generalizing s with
  | nil => rfl
  | cons l ls ih =>
    by_cases hl : l.isWordy = true
    · rw [Lexeme.marks, List.filter_cons_of_neg (by simp [hl]),
        splitLexemes_other (isSealed_of_isWordy hl) (not_structural_of_isWordy hl)]
      exact ih s
    · rw [Lexeme.marks, List.filter_cons_of_pos (by simpa using hl), splitLexemes, splitLexemes]
      simp only [show ls.filter (!·.isWordy) = Lexeme.marks ls from rfl, ih]

/-- The parameters from a state of the splitter on. -/
def splitRest (language : Language) (t : Text) (s : SplitState) (ls : List Lexeme) : List Text :=
  (splitLexemes language t s ls).1 ++ [Text.trim (t.drop (splitLexemes language t s ls).2)]

theorem splitByLexemes_eq (language : Language) (t : Text) :
    splitByLexemes language t = splitRest language t {} (Lexeme.marks (Lexeme.scan language t)) := by
  rw [splitRest, splitLexemes_marks]
  rfl

theorem splitRest_nil : splitRest language t s [] = [Text.trim (t.drop s.segmentStart)] := rfl

theorem splitRest_other (hsealed : l.isSealed = false) (h : l.text ∉ structural) :
    splitRest language t s (l :: ls) = splitRest language t s ls := by
  rw [splitRest, splitLexemes_other hsealed h]
  rfl

theorem splitRest_plain {c : CodePoint} (hc : [c] ∉ structural) :
    splitRest language t s (.mark c position :: ls) = splitRest language t s ls := splitRest_other rfl hc

/-- What a mark does to the brackets that are counted, and whether a default has begun. -/
def SplitState.after (s : SplitState) (language : Language) (t : Text) (l : Lexeme) : SplitState :=
  let s :=
    if l.text == "(" || l.text == "[" || l.text == "\x7b" then { s with depth := s.depth + 1 }
    else if language == .typescript && l.text == "<" && opensGeneric t l.start s.inDefault then
      { s with depth := s.depth + 1, angleDepth := s.angleDepth + 1 }
    else if l.text == ")" || l.text == "]" || l.text == "\x7d" then { s with depth := s.depth - 1 }
    else if l.text == ">" && s.angleDepth != 0 then
      { s with depth := s.depth - 1, angleDepth := s.angleDepth - 1 }
    else s
  if s.depth == 0 && l.text == "=" then { s with inDefault := true } else s

theorem splitLexemes_cons (hsealed : l.isSealed = false) :
    splitLexemes language t s (l :: ls) =
      if (s.after language t l).depth == 0 && l.text == "," then
        let next := { s.after language t l with segmentStart := l.stop, inDefault := false }
        (Text.trim ((t.drop (s.after language t l).segmentStart).take
            (l.start - (s.after language t l).segmentStart)) :: (splitLexemes language t next ls).1,
          (splitLexemes language t next ls).2)
      else splitLexemes language t (s.after language t l) ls := by
  rw [splitLexemes, hsealed]
  rfl

/-- A mark other than a comma outside brackets divides nothing. -/
theorem splitRest_cons (hsealed : l.isSealed = false)
    (h : l.text = "," → (s.after language t l).depth ≠ 0) :
    splitRest language t s (l :: ls) = splitRest language t (s.after language t l) ls := by
  have hcomma : ¬ ((s.after language t l).depth == 0 && l.text == ",") = true := by
    intro hboth
    simp only [Bool.and_eq_true, beq_iff_eq] at hboth
    exact h hboth.2 hboth.1
  rw [splitRest, splitLexemes_cons hsealed, if_neg hcomma, splitRest]

theorem splitRest_mark {s' : SplitState} {c : CodePoint} (hcomma : c ≠ ',')
    (hafter : s.after language t (.mark c position) = s') :
    splitRest language t s (.mark c position :: ls) = splitRest language t s' ls := by
  rw [splitRest_cons rfl fun h => absurd (List.cons.inj h).1 hcomma, hafter]

theorem after_comma (s : SplitState) (language : Language) (t : Text) (position : Nat) :
    s.after language t (.mark ',' position) = s := by
  have hangle : ((Lexeme.mark ',' position).text == "<") = false := rfl
  have hequals : ((Lexeme.mark ',' position).text == "=") = false := rfl
  simp only [SplitState.after, hangle, hequals, Bool.and_false, Bool.false_and, Bool.false_eq_true, if_false]
  rfl

/-- A comma outside brackets ends a parameter. -/
theorem splitRest_comma (hdepth : s.depth = 0) :
    splitRest language t s (.mark ',' position :: ls)
      = Text.trim ((t.drop s.segmentStart).take (position - s.segmentStart))
        :: splitRest language t { s with segmentStart := position + 1, inDefault := false } ls := by
  have hdivides : (s.depth == 0 && (Lexeme.mark ',' position).text == ",") = true := by
    rw [hdepth]
    rfl
  rw [splitRest, splitLexemes_cons rfl, after_comma, if_pos hdivides]
  rfl

theorem splitRest_inner_comma (hdepth : s.depth ≠ 0) :
    splitRest language t s (.mark ',' position :: ls) = splitRest language t s ls := by
  have hafter := after_comma s language t position
  rw [splitRest_cons rfl (fun _ => by rwa [hafter]), hafter]

/-- A pair of square brackets changes nothing. -/
theorem splitRest_squares (p q : Nat) :
    splitRest language t s (.mark '[' p :: .mark ']' q :: ls) = splitRest language t s ls := by
  have hopen : s.after language t (.mark '[' p) = { s with depth := s.depth + 1 } := by
    have hequals : ((Lexeme.mark '[' p).text == "=") = false := rfl
    simp only [SplitState.after, hequals, Bool.and_false, Bool.false_eq_true, if_false]
    rfl
  have hclose : SplitState.after { s with depth := s.depth + 1 } language t (.mark ']' q) = s := by
    have hangle : ((Lexeme.mark ']' q).text == "<") = false := rfl
    have hequals : ((Lexeme.mark ']' q).text == "=") = false := rfl
    simp only [SplitState.after, hangle, hequals, Bool.and_false, Bool.false_and, Bool.false_eq_true, if_false]
    show { s with depth := s.depth + 1 - 1 } = s
    rw [Int.add_sub_cancel]
  rw [splitRest_mark (by decide) hopen, splitRest_mark (by decide) hclose]

/-- An equals sign begins a default, outside brackets. -/
theorem splitRest_equals :
    splitRest language t s (.mark '=' position :: ls)
      = splitRest language t { s with inDefault := s.inDefault || s.depth == 0 } ls := by
  refine splitRest_mark (by decide) ?_
  have hangle : ((Lexeme.mark '=' position).text == "<") = false := rfl
  simp only [SplitState.after, hangle, Bool.and_false, Bool.false_and, Bool.false_eq_true, if_false]
  show (if (s.depth == 0 && true) = true then { s with inDefault := true } else s) = _
  cases s.depth == 0
  · simp
  · simp

/-- An angle bracket that opens type arguments. -/
theorem splitRest_angle (h : opensGeneric t position s.inDefault = true) :
    splitRest .typescript t s (.mark '<' position :: ls)
      = splitRest .typescript t { s with depth := s.depth + 1, angleDepth := s.angleDepth + 1 } ls := by
  refine splitRest_mark (by decide) ?_
  have hopens : opensGeneric t (Lexeme.mark '<' position).start s.inDefault = true := h
  have hequals : ((Lexeme.mark '<' position).text == "=") = false := rfl
  simp only [SplitState.after, hopens, hequals, Bool.and_false, Bool.false_eq_true, if_false]
  rfl

/-- The angle bracket that closes them. -/
theorem splitRest_angle_close {depth : Int} {angles : Nat} (hdepth : s.depth = depth + 1)
    (hangles : s.angleDepth = angles + 1) :
    splitRest language t s (.mark '>' position :: ls)
      = splitRest language t { s with depth := depth, angleDepth := angles } ls := by
  refine splitRest_mark (by decide) ?_
  have hangle : ((Lexeme.mark '>' position).text == "<") = false := rfl
  have hequals : ((Lexeme.mark '>' position).text == "=") = false := rfl
  have hopen : (s.angleDepth != 0) = true := by simp [hangles]
  simp only [SplitState.after, hangle, hequals, hopen, Bool.and_false, Bool.false_and, Bool.and_true,
    Bool.false_eq_true, if_false]
  show { s with depth := s.depth - 1, angleDepth := s.angleDepth - 1 } = _
  rw [hdepth, hangles, Int.add_sub_cancel, Nat.add_sub_cancel]

/-- The parameters of a list are those it is split into, if all of them hold more than a word. -/
theorem parameters_assemble {lead body rest : Text} (hlanguage : language.comparesTokens = true)
    (hstart : parameterListStart? (assemble lead body rest) = some lead.length)
    (hclose : parameterListClose? (some language) (assemble lead body rest) lead.length
      = some (lead.length + 1 + body.length))
    (hparts : ∀ p ∈ splitByLexemes language body, ∃ c ∈ p, c.isWord = false) :
    parameters (some language) (assemble lead body rest) = splitByLexemes language body := by
  rw [parameters, parameterText?_assemble hstart hclose, Option.filter_some, hlanguage, if_pos rfl]
  refine List.filter_eq_self.2 fun p hp => ?_
  obtain ⟨c, hc, hword⟩ := hparts p hp
  have hne : ∀ u : Text, (∀ a ∈ u, a.isWord = true) → p ≠ u := fun u hu heq =>
    CodePoint.ne_of_isWord (hu c (heq ▸ hc)) hword rfl
  simp [hne [] (by simp), hne "self" (by decide), hne "cls" (by decide)]

/-! ## What the parameters decide -/

section Assessment

variable {old new : Text}

theorem assess_eq_assessLexical (hlanguage : language ≠ .python) (hold : declaresClass old = false)
    (hnew : declaresClass new = false) : assess language old new = assessLexical language old new := by
  have hpython : (language == .python) = false := beq_false_of_ne hlanguage
  rw [assess, isClass, isClass, hpython, hold, hnew]
  rfl

/-- A parameter counts as added if more parameters are found than before. -/
theorem assessLexical_added_iff :
    (assessLexical language old new).map (·.category) = .ok .parameterAdded ↔
      (parameters (some language) old).length < (parameters (some language) new).length := by
  unfold assessLexical
  dsimp only
  split
  · rename_i hless
    exact iff_of_false (by simp [pure, Except.pure, Except.map]) (Nat.lt_asymm hless)
  split
  · rename_i hmore
    exact iff_of_true rfl hmore
  rename_i hmore
  refine iff_of_false ?_ hmore
  split
  · cases (parameters (some language) old).mapM parameterName with
    | error e => simp [bind, Except.bind, Except.map]
    | ok oldNames =>
      cases (parameters (some language) new).mapM parameterName with
      | error e => simp [bind, Except.bind, Except.map]
      | ok newNames =>
        simp only [bind, Except.bind, pure, Except.pure, Except.map]
        split <;> simp
  split
  · simp [pure, Except.pure, Except.map]
  · simp [pure, Except.pure, Except.map]

/-- A change of the return type is one of what follows the parameters, and of nothing in them. -/
theorem assessLexical_returnType_iff :
    (assessLexical language old new).map (·.category) = .ok .returnTypeChanged ↔
      (parameters (some language) old).map (Lexeme.comparable language)
          = (parameters (some language) new).map (Lexeme.comparable language) ∧
        Lexeme.comparable language (tail (some language) old)
          ≠ Lexeme.comparable language (tail (some language) new) := by
  have hlength (h : (parameters (some language) old).map (Lexeme.comparable language)
      = (parameters (some language) new).map (Lexeme.comparable language)) :
      (parameters (some language) old).length = (parameters (some language) new).length := by
    simpa using congrArg List.length h
  unfold assessLexical
  dsimp only
  split
  · rename_i hless
    exact iff_of_false (by simp [pure, Except.pure, Except.map]) fun h => by have := hlength h.1; omega
  split
  · rename_i hmore
    exact iff_of_false (by simp [pure, Except.pure, Except.map]) fun h => by have := hlength h.1; omega
  split
  · rename_i hchanged
    refine iff_of_false ?_ fun h => bne_iff_ne.1 hchanged h.1
    cases (parameters (some language) old).mapM parameterName with
    | error e => simp [bind, Except.bind, Except.map]
    | ok oldNames =>
      cases (parameters (some language) new).mapM parameterName with
      | error e => simp [bind, Except.bind, Except.map]
      | ok newNames =>
        simp only [bind, Except.bind, pure, Except.pure, Except.map]
        split <;> simp
  rename_i hsame
  rw [bne_iff_ne, ne_eq, not_not] at hsame
  split
  · rename_i htail
    exact iff_of_true rfl ⟨hsame, bne_iff_ne.1 htail⟩
  · rename_i htail
    exact iff_of_false (by simp [pure, Except.pure, Except.map]) fun h => htail (bne_iff_ne.2 h.2)

end Assessment

end ChangeReview.Signature
