import ChangeReview.Proofs.Signature.GoParameters

/-!
# Declarations of Go

The parameters of a function stand behind its name, and those of a method behind its receiver too. They are
searched for behind the last `def` that a blank follows, though, and a name of a parameter may end so. Then
the result is taken for the parameters if it is a list, and else none are found.
-/

namespace ChangeReview.Signature

open Lexeme (Marked)

/-- The receiver of a method, a pointer to a type. -/
structure Receiver where
  name : Word
  type : Word

namespace Receiver

/-- A receiver is written like a parameter, in parentheses. -/
def parameter (receiver : Receiver) : GoParameter := ⟨receiver.name, .pointer, receiver.type⟩

def text (receiver : Receiver) : Text := ("(" : Text) ++ receiver.parameter.text ++ (")" : Text)

end Receiver

namespace GoDeclaration

open GoParameter (form)

variable (gap : Gap) (receiver : Option Receiver) (f : Word) (result : GoResult) {ps : List GoParameter}

/-- What stands before the parameters. -/
def head (receiver : Option Receiver) (f : Word) : Text :=
  match receiver with
  | none => ("func " : Text) ++ f.text
  | some receiver => ("func " : Text) ++ receiver.text ++ (" " : Text) ++ f.text

/-- The declaration of a function, or of a method if there is a receiver. -/
def declaration (ps : List GoParameter) : Text :=
  head receiver f ++ ("(" : Text) ++ Text.join ", " (ps.map GoParameter.text) ++ (")" : Text) ++ result.written gap

theorem declaration_eq (ps : List GoParameter) :
    declaration gap receiver f result ps = assemble (head receiver f) (form.joined ps) (result.written gap) := by
  simp only [declaration, assemble, List.append_assoc]
  rfl

theorem declaresClass_declaration (ps : List GoParameter) :
    declaresClass (declaration gap receiver f result ps) = false := by
  rw [declaration_eq]
  cases receiver <;> rfl

/-! ## Where the parameters start -/

/-- From the name on there is no `def`, unless a parameter has it. -/
theorem not_def_behind (hps : ∀ p ∈ ps, ¬ p.EndsInDef) :
    ¬ ("def " : Text) <:+: assemble f.text (form.joined ps) (result.written gap) := by
  rw [assemble, Text.infix_append_cons_iff (by decide), Text.infix_append_cons_iff (by decide)]
  rintro (h | h | h)
  · exact not_def_word f h
  · exact GoParameter.not_def_joined hps h
  · exact result.not_def_written gap h

theorem isBlank_name : Text.isBlank f.text = false := by
  obtain ⟨c, r, htext, hc⟩ := f.exists_cons
  rw [htext, Text.isBlank, List.all_cons, CodePoint.isBlank_of_isWord hc, Bool.false_and]

theorem length_head_some (receiver : Receiver) (f : Word) :
    (head (some receiver) f).length = 5 + (1 + receiver.parameter.text.length) + 1 + (1 + f.text.length) := by
  have hopen : ("(" : Text).length = 1 := rfl
  have hclose : (")" : Text).length = 1 := rfl
  have hblank : (" " : Text).length = 1 := rfl
  have hfunc : ("func " : Text).length = 5 := rfl
  simp only [head, Receiver.text, List.length_append, hopen, hclose, hblank, hfunc]
  omega

theorem length_def (before behind : Text) :
    (before ++ (("def " : Text) ++ behind)).length = before.length + 4 + behind.length := by
  rw [List.length_append, List.length_append, ← Nat.add_assoc]
  rfl

section Start

variable {f : Word} {r : Text} (hdef : ¬ ("def " : Text) <:+: f.text ++ ('(' : CodePoint) :: r)
include hdef

theorem not_def_blank : ¬ ("def " : Text) <:+: (" " : Text) ++ (f.text ++ ('(' : CodePoint) :: r) :=
  fun h => hdef (Text.infix_of_infix_append (by decide) h)

theorem start_function : parameterListStart? (head none f ++ ('(' : CodePoint) :: r) = some (head none f).length := by
  have hlength : (head none f).length = 5 + f.text.length := List.length_append
  rw [hlength, head, List.append_assoc]
  exact parameterListStart?_function (fun h => hdef (Text.infix_of_infix_append (by decide) h)) (level_word f)
    (isBlank_name f)

/-- The parenthesis that closes a receiver is found, and then the one behind the name. -/
theorem start_method (receiver : Receiver) (hname : ¬ receiver.parameter.EndsInDef) :
    parameterListStart? (head (some receiver) f ++ ('(' : CodePoint) :: r) = some (head (some receiver) f).length := by
  have htext : head (some receiver) f ++ ('(' : CodePoint) :: r
      = assemble "func " receiver.parameter.text (((" " : Text) ++ f.text) ++ ('(' : CodePoint) :: r) := by
    simp only [head, Receiver.text, assemble, List.append_assoc]
    rfl
  have hnone : ¬ ("def " : Text)
      <:+: assemble "func " receiver.parameter.text (((" " : Text) ++ f.text) ++ ('(' : CodePoint) :: r) := by
    rw [assemble, Text.infix_append_cons_iff (by decide), Text.infix_append_cons_iff (by decide), List.append_assoc]
    rintro (h | h | h)
    · exact absurd h (by rw [← Text.includes_iff]; decide)
    · exact hname (receiver.parameter.def_text_iff.1 h)
    · exact not_def_blank hdef h
  rw [htext, length_head_some, parameterListStart?_method hnone (fun c hc => receiver.parameter.plain_of_mem_text hc)
    ((level_of_isLevel (by decide)).append (level_word f)), List.length_append]
  rfl

/-- Behind a `def` in the receiver, all up to the parameters is passed over. -/
theorem exists_def_head (receiver : Receiver) (hname : receiver.parameter.EndsInDef) :
    ∃ before behind, head (some receiver) f = before ++ (("def " : Text) ++ behind) ∧
      ¬ ("def " : Text) <:+: ("ef " : Text) ++ (behind ++ ('(' : CodePoint) :: r) ∧ Level behind := by
  obtain ⟨before, hbefore⟩ := hname.exists_text
  have hhead : head (some receiver) f = (("func (" : Text) ++ before) ++ (("def " : Text)
      ++ ((receiver.parameter.mark.text ++ receiver.parameter.type.text) ++ ((") " : Text) ++ f.text))) := by
    simp only [head, Receiver.text, hbefore, List.append_assoc]
    rfl
  refine ⟨_, _, hhead, ?_, receiver.parameter.level_type.append ((level_of_isLevel (by decide)).append (level_word f))⟩
  rw [List.append_assoc, ← List.append_assoc]
  show ¬ _ <:+: _ ++ (')' : CodePoint) :: ((" " : Text) ++ (f.text ++ ('(' : CodePoint) :: r))
  rw [Text.infix_append_cons_iff (by decide)]
  rintro (h | h)
  · exact receiver.parameter.not_def_type h
  · exact not_def_blank hdef h

/-- The last `def` may be in the receiver. The parenthesis found behind it is still the one behind the name. -/
theorem start_method_def (receiver : Receiver) (hname : receiver.parameter.EndsInDef) :
    parameterListStart? (head (some receiver) f ++ ('(' : CodePoint) :: r) = some (head (some receiver) f).length := by
  obtain ⟨before, behind, hhead, hnone, hlevel⟩ := exists_def_head hdef receiver hname
  have htext : head (some receiver) f ++ ('(' : CodePoint) :: r
      = before ++ (("def " : Text) ++ (behind ++ ('(' : CodePoint) :: r)) := by
    rw [hhead, List.append_assoc, List.append_assoc]
  rw [htext, hhead, length_def, parameterListStart?_def hnone, hlevel.topLevelParen?]
  rfl

end Start

theorem parameterListStart?_declaration (hps : ∀ p ∈ ps, ¬ p.EndsInDef) :
    parameterListStart? (declaration gap receiver f result ps) = some (head receiver f).length := by
  have hbehind := not_def_behind gap f result hps
  rw [declaration_eq]
  cases receiver with
  | none => exact start_function hbehind
  | some receiver =>
    by_cases hname : receiver.parameter.EndsInDef
    · exact start_method_def hbehind receiver hname
    · exact start_method hbehind receiver hname

/-! ## What is found -/

/-- The marks of a receiver. -/
def headMarks : Option Receiver → List Lexeme
  | none => []
  | some receiver =>
    .mark '(' 5 :: (receiver.parameter.marks 6 ++ [.mark ')' (6 + receiver.parameter.text.length)])

theorem head_marked (r : Text) (ms : List Lexeme)
    (h : Marked .go (head receiver f).reverse (head receiver f).length (('(' : CodePoint) :: r) ms) :
    Marked .go [] 0 (head receiver f ++ ('(' : CodePoint) :: r) (headMarks receiver ++ ms) := by
  cases receiver with
  | none =>
    have hhead : head none f = ("func" : Text) ++ (' ' : CodePoint) :: f.text := rfl
    rw [hhead] at h ⊢
    rw [List.append_assoc]
    refine Marked.word (by decide) (Lexeme.endsWord_cons rfl) (Marked.blank rfl (Marked.word f.word
      (Lexeme.endsWord_cons rfl) (h.congr (by simp) ?_)))
    rw [List.length_append, List.length_cons]
    omega
  | some receiver =>
    have hhead : head (some receiver) f = ("func" : Text)
        ++ (' ' : CodePoint) :: '(' :: (receiver.parameter.text ++ (')' : CodePoint) :: ' ' :: f.text) := by
      simp only [head, Receiver.text, List.append_assoc]
      rfl
    have hmarks : headMarks (some receiver) ++ ms = .mark '(' 5
        :: (receiver.parameter.marks 6 ++ .mark ')' (6 + receiver.parameter.text.length) :: ms) := by
      simp [headMarks]
    rw [hhead] at h ⊢
    rw [hmarks, List.append_assoc, List.cons_append, List.cons_append, List.append_assoc]
    refine Marked.word (by decide) (Lexeme.endsWord_cons rfl) (Marked.blank rfl (Marked.mark (by decide)
      (Lexeme.single_word receiver.parameter.exists_cons _ _ _)
      (receiver.parameter.marked follows_close (Marked.mark (by decide) (Lexeme.single_cons rfl)
        (Marked.blank rfl (Marked.word f.word (Lexeme.endsWord_cons rfl) (h.congr (by simp) ?_)))))))
    have hfunc : ("func" : Text).length = 4 := rfl
    simp only [List.length_append, List.length_cons, hfunc]
    omega

theorem headMarks_before : ∀ l ∈ headMarks receiver, l.start < (head receiver f).length := by
  cases receiver with
  | none => exact List.forall_mem_nil _
  | some receiver =>
    have htext : receiver.parameter.text.length
        = receiver.name.text.length + (receiver.type.text.length + 1 + 1) := by
      simp [GoParameter.text_eq, Receiver.parameter, TypeMark.text]
    show ∀ l ∈ [Lexeme.mark '(' 5, .mark '*' (6 + receiver.name.text.length + 1),
      .mark ')' (6 + receiver.parameter.text.length)], l.start < _
    simp only [length_head_some, List.forall_mem_cons, Lexeme.mark, htext]
    exact ⟨by omega, by omega, by omega, List.forall_mem_nil _⟩

theorem parameterListClose?_declaration (p : GoParameter) (ps : List GoParameter) :
    parameterListClose? (some .go) (declaration gap receiver f result (p :: ps)) (head receiver f).length
      = some ((head receiver f).length + 1 + (form.joined (p :: ps)).length) := by
  rw [declaration_eq]
  exact form.parameterListClose?_assemble rfl p ps (head_marked receiver f) (headMarks_before receiver f)
    (result.exists_marked_written gap) (result.continuesOperator_written gap)

theorem parameters_declaration {p : GoParameter} (hps : ∀ q ∈ p :: ps, ¬ q.EndsInDef) :
    parameters (some .go) (declaration gap receiver f result (p :: ps)) = (p :: ps).map GoParameter.text := by
  have hstart := parameterListStart?_declaration gap receiver f result hps
  have hclose := parameterListClose?_declaration gap receiver f result p ps
  rw [declaration_eq] at hstart hclose ⊢
  have hsplit : splitByLexemes .go (form.joined (p :: ps)) = (p :: ps).map GoParameter.text := by
    rw [form.splitByLexemes_joined]
    exact GoParameter.splitRest_joined p ps (u := []) (List.forall_mem_nil _) rfl rfl
  have hparts : ∀ t ∈ splitByLexemes .go (form.joined (p :: ps)), ∃ c ∈ t, c.isWord = false := by
    rw [hsplit]
    intro t ht
    obtain ⟨q, -, rfl⟩ := List.mem_map.1 ht
    exact ⟨' ', by simp [GoParameter.text_eq], rfl⟩
  rw [parameters_assemble rfl hstart hclose hparts, hsplit]

theorem tail_declaration {p : GoParameter} (hps : ∀ q ∈ p :: ps, ¬ q.EndsInDef) :
    tail (some .go) (declaration gap receiver f result (p :: ps)) = result.text gap := by
  have hstart := parameterListStart?_declaration gap receiver f result hps
  have hclose := parameterListClose?_declaration gap receiver f result p ps
  rw [declaration_eq] at hstart hclose ⊢
  rw [tail_assemble hstart hclose, result.trim_written]

/-! ## What a name that ends in `def` hides -/

section Hidden

variable (hps : ∃ p ∈ ps, p.EndsInDef)
include hps

/-- The search goes on behind the last such name. -/
theorem exists_def_declaration :
    ∃ before behind, Level behind ∧
      declaration gap receiver f result ps = before ++ (("def " : Text) ++ (behind ++ result.written gap)) ∧
      parameterListStart? (declaration gap receiver f result ps)
        = (topLevelParen? (behind ++ result.written gap)).map (before.length + 4 + ·) := by
  obtain ⟨before, behind, hjoined, hdef, hlevel⟩ := GoParameter.exists_last_def hps
  have htext : declaration gap receiver f result ps = (head receiver f ++ ('(' : CodePoint) :: before)
      ++ (("def " : Text) ++ ((behind ++ (")" : Text)) ++ result.written gap)) := by
    rw [declaration_eq, assemble, hjoined]
    simp only [List.append_assoc, List.cons_append]
    rfl
  refine ⟨_, behind ++ (")" : Text), hlevel.append (level_of_isLevel (by decide)), htext, ?_⟩
  rw [htext]
  refine parameterListStart?_def ?_ _
  rw [List.append_assoc, ← List.append_assoc]
  show ¬ _ <:+: _ ++ (')' : CodePoint) :: result.written gap
  rw [Text.infix_append_cons_iff (by decide)]
  rintro (h | h)
  · exact hdef h
  · exact result.not_def_written gap h

theorem start_eq_none (hresult : ∀ ws, result ≠ .several ws) :
    parameterListStart? (declaration gap receiver f result ps) = none := by
  obtain ⟨before, behind, hlevel, -, hstart⟩ := exists_def_declaration gap receiver f result hps
  have hwritten : Level (result.written gap) := by
    cases result with
    | none => exact level_nil
    | single w => exact (level_of_isLevel (by decide)).append (level_word w)
    | several ws => exact absurd rfl (hresult ws)
  rw [hstart, (hlevel.append hwritten).topLevelParen?_eq_none]
  rfl

/-- A list of results is taken for the parameters. -/
theorem exists_start_several (ws : List Word) :
    ∃ lead, declaration gap receiver f (.several ws) ps = assemble lead ((GoResult.form gap).joined ws) [] ∧
      parameterListStart? (declaration gap receiver f (.several ws) ps) = some lead.length := by
  obtain ⟨before, behind, hlevel, htext, hstart⟩ := exists_def_declaration gap receiver f (.several ws) hps
  have hwritten : behind ++ (GoResult.several ws).written gap
      = (behind ++ (" " : Text)) ++ ('(' : CodePoint) :: ((GoResult.form gap).joined ws ++ [(')' : CodePoint)]) := by
    rw [List.append_assoc]
    rfl
  refine ⟨before ++ (("def " : Text) ++ (behind ++ (" " : Text))), ?_, ?_⟩
  · rw [htext, hwritten, assemble]
    simp only [List.append_assoc]
  · rw [hstart, hwritten, (hlevel.append (level_of_isLevel (by decide))).topLevelParen?, length_def]
    rfl

theorem tail_eq_nil_of_def : tail (some .go) (declaration gap receiver f result ps) = [] := by
  by_cases hresult : ∃ ws, result = .several ws
  · obtain ⟨ws, rfl⟩ := hresult
    obtain ⟨lead, htext, hstart⟩ := exists_start_several gap receiver f hps ws
    rw [htext] at hstart ⊢
    exact tail_eq_nil rfl hstart
      ((GoResult.form gap).not_mem_joined (by decide) rfl (fun w => ((GoResult.form gap).no_parens w).2) ws)
  · rw [tail, start_eq_none gap receiver f result hps fun ws h => hresult ⟨ws, h⟩]

theorem parameters_eq_nil_of_def (hresult : result = .none) :
    parameters (some .go) (declaration gap receiver f result ps) = [] := by
  have hstart := start_eq_none gap receiver f result hps (by rw [hresult]; exact fun _ => GoResult.noConfusion)
  rw [parameters, parameterText?, hstart]
  rfl

end Hidden

/-! ## Assessment -/

variable (p : GoParameter) (ps : List GoParameter)

theorem exists_def_of_not_forall (hps : ¬ ∀ q ∈ p :: ps, ¬ q.EndsInDef) : ∃ q ∈ p :: ps, q.EndsInDef := by
  by_contra hnone
  exact hps fun q hq hend => hnone ⟨q, hq, hend⟩

theorem assess_declaration (other : GoResult) (qs : List GoParameter) :
    assess .go (declaration gap receiver f result (p :: ps)) (declaration gap receiver f other qs)
      = assessLexical .go (declaration gap receiver f result (p :: ps)) (declaration gap receiver f other qs) :=
  assess_eq_assessLexical (by decide) (declaresClass_declaration gap receiver f result _)
    (declaresClass_declaration gap receiver f other qs)

/-- The parameters and the result are found, or one of them is lost. -/
theorem found_iff :
    parameters (some .go) (declaration gap receiver f result (p :: ps)) = (p :: ps).map GoParameter.text ∧
        tail (some .go) (declaration gap receiver f result (p :: ps)) = result.text gap ↔
      ∀ q ∈ p :: ps, ¬ q.EndsInDef := by
  refine ⟨fun h => ?_, fun hps => ?_⟩
  · obtain ⟨hparameters, htail⟩ := h
    by_contra hps
    have hdef := exists_def_of_not_forall p ps hps
    -- nothing is found behind the parameters, and without a result no parameters either
    rw [tail_eq_nil_of_def gap receiver f result hdef] at htail
    have hresult := (GoResult.text_eq_nil_iff gap).1 htail.symm
    rw [parameters_eq_nil_of_def gap receiver f result hdef hresult] at hparameters
    cases hparameters
  · exact ⟨parameters_declaration gap receiver f result hps, tail_declaration gap receiver f result hps⟩

theorem returnType_iff {other : GoResult} (hother : other ≠ result) :
    (assess .go (declaration gap receiver f result (p :: ps)) (declaration gap receiver f other (p :: ps))).map
        (·.category) = .ok .returnTypeChanged ↔ ∀ q ∈ p :: ps, ¬ q.EndsInDef := by
  rw [assess_declaration, assessLexical_returnType_iff]
  refine ⟨fun h => ?_, fun hps => ?_⟩
  · by_contra hps
    have hdef := exists_def_of_not_forall p ps hps
    rw [tail_eq_nil_of_def gap receiver f result hdef, tail_eq_nil_of_def gap receiver f other hdef] at h
    exact h.2 rfl
  · rw [parameters_declaration gap receiver f result hps, parameters_declaration gap receiver f other hps,
      tail_declaration gap receiver f result hps, tail_declaration gap receiver f other hps]
    exact ⟨rfl, fun h => hother (GoResult.eq_of_comparable_eq gap h).symm⟩

theorem added_of_not_def {added : GoParameter} (hps : ∀ q ∈ p :: (ps ++ [added]), ¬ q.EndsInDef) :
    (assess .go (declaration gap receiver f result (p :: ps))
        (declaration gap receiver f result (p :: (ps ++ [added])))).map (·.category) = .ok .parameterAdded := by
  have hold : ∀ q ∈ p :: ps, ¬ q.EndsInDef := fun q hq => hps q (List.mem_append_left [added] hq)
  rw [assess_declaration, assessLexical_added_iff, parameters_declaration gap receiver f result hold,
    parameters_declaration gap receiver f result hps]
  simp

/-- **Parameters and results of Go.** The parameters and the result of a declaration are found exactly when no
name of a parameter ends in `def`. Another result then counts as a changed return type, and only then; and a
parameter that is appended counts as added, if its name does not end so either. -/
theorem parameters_and_tail_iff :
    (parameters (some .go) (declaration gap receiver f result (p :: ps)) = (p :: ps).map GoParameter.text ∧
        tail (some .go) (declaration gap receiver f result (p :: ps)) = result.text gap ↔
      ∀ q ∈ p :: ps, ¬ q.EndsInDef) ∧
    (∀ other, other ≠ result →
      ((assess .go (declaration gap receiver f result (p :: ps)) (declaration gap receiver f other (p :: ps))).map
          (·.category) = .ok .returnTypeChanged ↔ ∀ q ∈ p :: ps, ¬ q.EndsInDef)) ∧
    ∀ added, (∀ q ∈ p :: ps ++ [added], ¬ q.EndsInDef) →
      (assess .go (declaration gap receiver f result (p :: ps))
          (declaration gap receiver f result (p :: ps ++ [added]))).map (·.category) = .ok .parameterAdded :=
  ⟨found_iff gap receiver f result p ps, fun _ hother => returnType_iff gap receiver f result p ps hother,
    fun _ hps => added_of_not_def gap receiver f result p ps hps⟩

/-- The result is taken for the parameters, so a result less counts as a removed parameter. -/
theorem name_hides_parameters :
    parameters (some .go) "func f(undef int) (int, error)" = Text.list ["int", "error"] ∧
      tail (some .go) "func f(undef int) (int, error)" = "" ∧
      (assess .go "func f(undef int) (int, error)" "func f(undef int) (int)").map (·.category)
        = .ok .parameterRemoved := by
  decide +kernel

/-- The name of a receiver may end in `def`. -/
theorem parameters_and_tail_iff_receiver :
    (parameters (some .go) "func (undef *T) f(a []int, b *T) (int, error)" = Text.list ["a []int", "b *T"] ∧
        tail (some .go) "func (undef *T) f(a []int, b *T) (int, error)" = "(int, error)") ∧
      (assess .go "func (undef *T) f(a []int, b *T) (int, error)" "func (undef *T) f(a []int, b *T) error").map
        (·.category) = .ok .returnTypeChanged ∧
      (assess .go "func (undef *T) f(a []int, b *T) (int, error)"
        "func (undef *T) f(a []int, b *T, c int) (int, error)").map (·.category) = .ok .parameterAdded := by
  let int : Word := ⟨"int", by decide, by decide⟩
  let receiver : Receiver := ⟨⟨"undef", by decide, by decide⟩, ⟨"T", by decide, by decide⟩⟩
  let f : Word := ⟨"f", by decide, by decide⟩
  let p : GoParameter := ⟨⟨"a", by decide, by decide⟩, .slice, int⟩
  let q : GoParameter := ⟨⟨"b", by decide, by decide⟩, .pointer, ⟨"T", by decide, by decide⟩⟩
  let added : GoParameter := ⟨⟨"c", by decide, by decide⟩, .plain, int⟩
  let results : GoResult := .several [int, ⟨"error", by decide, by decide⟩]
  let other : GoResult := .single ⟨"error", by decide, by decide⟩
  have hnames : ∀ q' ∈ [p, q] ++ [added], ¬ q'.EndsInDef := by decide
  have hold : declaration ⟨" ", by decide⟩ (some receiver) f results [p, q]
      = "func (undef *T) f(a []int, b *T) (int, error)" := by decide +kernel
  have hchanged : declaration ⟨" ", by decide⟩ (some receiver) f other [p, q]
      = "func (undef *T) f(a []int, b *T) error" := by decide +kernel
  have hadded : declaration ⟨" ", by decide⟩ (some receiver) f results ([p, q] ++ [added])
      = "func (undef *T) f(a []int, b *T, c int) (int, error)" := by decide +kernel
  obtain ⟨hfound, hreturn, hmore⟩ := parameters_and_tail_iff ⟨" ", by decide⟩ (some receiver) f results p [q]
  have hfirst : ∀ q' ∈ [p, q], ¬ q'.EndsInDef := fun q' hq' => hnames q' (List.mem_append_left _ hq')
  rw [← hold, ← hchanged, ← hadded]
  exact ⟨hfound.2 hfirst, (hreturn other GoResult.noConfusion).2 hfirst, hmore added hnames⟩

end GoDeclaration

end ChangeReview.Signature
