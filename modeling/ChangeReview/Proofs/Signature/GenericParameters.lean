import ChangeReview.Proofs.Signature.Listing
import ChangeReview.Proofs.Signature.TypeTerms

/-!
# Parameters with generic types

A parameter has a name, a type and perhaps a default. A bracket that closes the type right before the equals
sign of the default is read with it as one operator, unless another bracket stands before it. The bracket
that it would close then stays open, and the rest of the list counts as one parameter.
-/

namespace ChangeReview.Signature

open Lexeme (Marked)

variable {seen whole r : Text} {position : Nat} {s : SplitState} {ms : List Lexeme} {c : CodePoint}

/-- A parameter with its type and perhaps a default. -/
structure GenericParameter where
  name : Word
  type : TypeTerm
  value : Option Word

namespace GenericParameter

variable (p : GenericParameter)

def valueText : Text :=
  match p.value with
  | none => []
  | some e => ('=' : CodePoint) :: e.text

def text : Text := p.name.text ++ (": " : Text) ++ (p.type.text ++ p.valueText)

/-- The bracket that closes the type and the equals sign before the default are read as one operator. -/
def fuses : Bool := p.value.isSome && p.type.closesAlone

def valueMarks (position : Nat) : List Lexeme := if p.value.isSome then [.mark '=' position] else []

/-- The marks of a type and an equals sign that fuses with its closing bracket. -/
def fusedMarks (position : Nat) : TypeTerm → List Lexeme
  | .name _ => []
  | .apply g arguments =>
    .mark '<' (position + g.text.length)
      :: (arguments.marks (position + g.text.length + 1)
        ++ [{ text := ">=", start := position + g.text.length + 1 + arguments.text.length }])

def typedMarks (position : Nat) : List Lexeme :=
  if p.fuses then fusedMarks position p.type
  else p.type.marks position ++ p.valueMarks (position + p.type.text.length)

/-- The marks of a parameter that stands at a position. -/
def marks (position : Nat) : List Lexeme :=
  .mark ':' (position + p.name.text.length) :: p.typedMarks (position + p.name.text.length + 2)

variable {p}

theorem value_marked (hr : Follows r)
    (h : Marked .typescript (p.valueText.reverse ++ seen) (position + p.valueText.length) r ms) :
    Marked .typescript seen position (p.valueText ++ r) (p.valueMarks position ++ ms) := by
  unfold valueText valueMarks at *
  cases hvalue : p.value with
  | none => simpa [hvalue] using h
  | some e =>
    rw [hvalue] at h
    refine Marked.mark (by decide) (Lexeme.single_word e.exists_cons _ _ _) (Marked.word e.word hr.endsWord ?_)
    simpa [Nat.add_assoc, Nat.add_comm, Nat.add_left_comm] using h

theorem followsType_value (hr : Follows r) : FollowsType (p.valueText ++ r) := by
  unfold valueText
  cases p.value with
  | none =>
    intro c hc
    rcases hr c hc with rfl | rfl <;> simp
  | some e => simp [FollowsType]

/-- An equals sign behind the type does not fuse with it, unless the parameter says so. -/
theorem closesAlone_of_equals (hr : Follows r) (hfuses : p.fuses = false)
    (h : (p.valueText ++ r).head? = some ('=' : CodePoint)) : p.type.closesAlone = false := by
  unfold valueText at h
  cases hvalue : p.value with
  | none =>
    rw [hvalue] at h
    rcases hr _ h with h | h <;> cases h
  | some e => simpa [fuses, hvalue] using hfuses

theorem fused_marked (g : Word) (arguments : TypeArguments) (e : Word) (harguments : arguments.endsInName = true)
    (hr : Follows r)
    (h : Marked .typescript
      (e.text.reverse ++ ('=' : CodePoint) :: '>'
        :: (arguments.text.reverse ++ ('<' : CodePoint) :: (g.text.reverse ++ seen)))
      (position + g.text.length + 1 + arguments.text.length + 2 + e.text.length) r ms) :
    Marked .typescript seen position
      (g.text ++ ('<' : CodePoint) :: (arguments.text ++ ('>' : CodePoint) :: '=' :: (e.text ++ r)))
      (fusedMarks position (.apply g arguments) ++ ms) := by
  have hseen : (arguments.text.reverse ++ ('<' : CodePoint) :: (g.text.reverse ++ seen)).head?
      ≠ some ('>' : CodePoint) := by
    rw [ne_eq, arguments.head?_reverse, harguments]
    exact Bool.false_ne_true ∘ Eq.symm
  have hfused := Marked.fused hseen (Marked.word e.word hr.endsWord h)
  have hinner := arguments.marked _ (position + g.text.length + 1) _ _ (by simp [FollowsType]) (by simp; decide) hfused
  have hopen := Marked.mark (c := '<') (by decide) (Lexeme.single_word arguments.exists_cons _ _ _) hinner
  simpa [fusedMarks] using Marked.word g.word (Lexeme.endsWord_cons rfl) hopen

theorem typed_marked (hr : Follows r)
    (h : Marked .typescript ((p.type.text ++ p.valueText).reverse ++ seen)
      (position + (p.type.text ++ p.valueText).length) r ms) :
    Marked .typescript seen position (p.type.text ++ (p.valueText ++ r)) (p.typedMarks position ++ ms) := by
  cases hfuses : p.fuses with
  | false =>
    rw [typedMarks, hfuses, if_neg Bool.false_ne_true, List.append_assoc]
    refine p.type.marked _ _ _ _ (followsType_value hr) (closesAlone_of_equals hr hfuses) (value_marked hr ?_)
    simpa [Nat.add_assoc] using h
  | true =>
    rw [typedMarks, hfuses, if_pos rfl]
    obtain ⟨name, type, value⟩ := p
    cases value with
    | none => cases hfuses
    | some e =>
      cases type with
      | name w => cases hfuses
      | apply g arguments =>
        have hmarked : Marked .typescript seen position _ _ := fused_marked g arguments e hfuses hr
          (by simpa [valueText, TypeTerm.text, Nat.add_assoc, Nat.add_comm, Nat.add_left_comm] using h)
        simpa [valueText, TypeTerm.text] using hmarked

theorem marked (hr : Follows r)
    (h : Marked .typescript (p.text.reverse ++ seen) (position + p.text.length) r ms) :
    Marked .typescript seen position (p.text ++ r) (p.marks position ++ ms) := by
  have hcolon : (": " : Text) = [(':' : CodePoint), ' '] := rfl
  have htyped : Marked .typescript (' ' :: ':' :: (p.name.text.reverse ++ seen)) (position + p.name.text.length + 2)
      (p.type.text ++ (p.valueText ++ r)) (p.typedMarks (position + p.name.text.length + 2) ++ ms) := by
    refine typed_marked hr ?_
    refine h.congr (by simp [text, hcolon]) ?_
    simp only [text, hcolon, List.length_append, List.length_cons, List.length_nil]
    omega
  have hcolon' := Marked.mark (c := ':') (by decide) (Lexeme.single_cons rfl) (Marked.blank (c := ' ') rfl htyped)
  simpa [text, marks, hcolon] using Marked.word p.name.word (Lexeme.endsWord_cons rfl) hcolon'

/-! ## The effect of a parameter on the splitter -/

/-- How a parameter leaves the splitter: a bracket that fused was never closed. -/
def after (p : GenericParameter) (s : SplitState) : SplitState :=
  if p.fuses then { s with depth := s.depth + 1, angleDepth := s.angleDepth + 1 }
  else { s with inDefault := p.value.isSome && s.depth == 0 }

theorem split_fused (g : Word) (arguments : TypeArguments)
    (htext : whole.drop position = g.text ++ ('<' : CodePoint) :: (arguments.text ++ ('>' : CodePoint) :: r))
    (hdefault : s.inDefault = false) (hdepth : 0 ≤ s.depth) :
    splitRest .typescript whole s (fusedMarks position (.apply g arguments) ++ ms)
      = splitRest .typescript whole { s with depth := s.depth + 1, angleDepth := s.angleDepth + 1 } ms := by
  have hopens : opensGeneric whole (position + g.text.length) s.inDefault = true := by
    rw [hdefault]
    exact opensGeneric_apply g arguments htext
  rw [fusedMarks, List.cons_append, List.append_assoc, splitRest_angle hopens,
    arguments.splitRest _ _ { s with depth := s.depth + 1, angleDepth := s.angleDepth + 1 } _
      (drop_behind_cons htext) hdefault (Int.lt_add_one_of_le hdepth),
    List.singleton_append, splitRest_other rfl (by simp [structural, Text.list]; decide)]

theorem split_typed (htext : whole.drop position = p.type.text ++ (p.valueText ++ r)) (hdefault : s.inDefault = false)
    (hdepth : 0 ≤ s.depth) :
    splitRest .typescript whole s (p.typedMarks position ++ ms) = splitRest .typescript whole (p.after s) ms := by
  cases hfuses : p.fuses with
  | false =>
    rw [typedMarks, after, hfuses, if_neg Bool.false_ne_true, if_neg Bool.false_ne_true, List.append_assoc,
      p.type.splitRest _ _ _ _ htext hdefault hdepth, valueMarks]
    cases p.value with
    | none =>
      show splitRest .typescript whole s ms = splitRest .typescript whole { s with inDefault := false } ms
      rw [← hdefault]
    | some e =>
      show splitRest .typescript whole s (.mark '=' _ :: ms) = _
      rw [splitRest_equals, hdefault, Bool.false_or]
      rfl
  | true =>
    rw [typedMarks, after, hfuses, if_pos rfl, if_pos rfl]
    obtain ⟨name, type, value⟩ := p
    cases value with
    | none => cases hfuses
    | some e =>
      cases type with
      | name w => cases hfuses
      | apply g arguments =>
        refine split_fused (r := ('=' : CodePoint) :: (e.text ++ r)) g arguments ?_ hdefault hdepth
        rw [htext]
        simp [valueText, TypeTerm.text]

theorem split (htext : whole.drop position = p.text ++ r) (hdefault : s.inDefault = false) (hdepth : 0 ≤ s.depth) :
    splitRest .typescript whole s (p.marks position ++ ms) = splitRest .typescript whole (p.after s) ms := by
  have hcolon : (": " : Text) = [(':' : CodePoint), ' '] := rfl
  have htyped : whole.drop (position + p.name.text.length + 2) = p.type.text ++ (p.valueText ++ r) := by
    have hname : whole.drop position
        = p.name.text ++ (':' : CodePoint) :: (' ' :: (p.type.text ++ (p.valueText ++ r))) := by
      rw [htext]
      simp [text, hcolon]
    rw [← List.drop_drop (i := 1), drop_behind_cons hname]
    rfl
  rw [marks, List.cons_append, splitRest_plain (by decide), split_typed htyped hdefault hdepth]

theorem after_segmentStart (p : GenericParameter) (s : SplitState) :
    (p.after s).segmentStart = s.segmentStart := by
  unfold after
  split <;> rfl

/-- Inside brackets a parameter closes none that was open before it. -/
theorem after_inside (p : GenericParameter) (hdefault : s.inDefault = false) (hdepth : 0 < s.depth) :
    (p.after s).inDefault = false ∧ 0 < (p.after s).depth := by
  unfold after
  split
  · exact ⟨hdefault, Int.lt_add_one_of_le (Int.le_of_lt hdepth)⟩
  · have hinside : (s.depth == 0) = false := beq_false_of_ne (by omega)
    exact ⟨by rw [hinside, Bool.and_false], hdepth⟩

/-! ## Lists of parameters -/

theorem exists_cons (p : GenericParameter) : ∃ c r, p.text = c :: r ∧ c.isWord = true := by
  obtain ⟨c, r, hname, hc⟩ := p.name.exists_cons
  exact ⟨c, _, by rw [text, hname]; rfl, hc⟩

theorem isBlank_of_isTypeCode (h : isTypeCode c = true) : c.isBlank = false := by
  simp only [isTypeCode, Bool.or_eq_true, beq_iff_eq] at h
  rcases h with ((h | rfl) | rfl) | rfl
  · exact CodePoint.isBlank_of_isWord h
  all_goals rfl

theorem mem_typed (p : GenericParameter) (h : c ∈ p.type.text ++ p.valueText) : isTypeCode c = true ∨ c = '=' := by
  rcases List.mem_append.1 h with h | h
  · exact Or.inl (p.type.isTypeCode c h)
  · unfold valueText at h
    cases hvalue : p.value with
    | none => simp [hvalue] at h
    | some e =>
      rw [hvalue] at h
      rcases List.mem_cons.1 h with rfl | h
      · exact Or.inr rfl
      · exact Or.inl (isTypeCode_of_word e c h)

theorem isBlank_of_mem_typed (p : GenericParameter) (h : c ∈ p.type.text ++ p.valueText) : c.isBlank = false := by
  rcases p.mem_typed h with h | rfl
  · exact isBlank_of_isTypeCode h
  · rfl

theorem stop (p : GenericParameter) : ∀ c ∈ p.text.getLast?, c.isBlank = false := by
  obtain ⟨d, u, htype, -⟩ := p.type.exists_cons
  intro c hc
  rw [text, List.getLast?_append_of_ne_nil _ (by rw [htype]; simp)] at hc
  exact p.isBlank_of_mem_typed (List.mem_of_getLast? hc)

theorem not_mem_text (p : GenericParameter) (hc : isTypeCode c = false ∧ c ≠ ':' ∧ c ≠ ' ' ∧ c ≠ '=') :
    c ∉ p.text := by
  obtain ⟨htype, hcolon, hblank, hequals⟩ := hc
  intro h
  rcases List.mem_append.1 h with h | h
  · rcases List.mem_append.1 h with h | h
    · exact Bool.false_ne_true (htype.symm.trans (isTypeCode_of_word p.name c h))
    · rcases List.mem_cons.1 h with h | h
      · exact hcolon h
      · exact hblank (List.mem_singleton.1 h)
  · rcases p.mem_typed h with h | h
    · exact Bool.false_ne_true (htype.symm.trans h)
    · exact hequals h

/-- Parameters are listed with nothing but a comma between them. -/
def form : Form .typescript GenericParameter where
  text := text
  marks := marks
  gap := []
  exists_cons := exists_cons
  stop := stop
  no_parens := fun p => ⟨p.not_mem_text (by decide), p.not_mem_text (by decide)⟩
  marked := fun _ _ _ _ _ hr h => marked hr h
  gap_blank := List.forall_mem_nil _

theorem joined_singleton (p : GenericParameter) : form.joined [p] = p.text := form.joined_singleton p

theorem joined_cons (p q : GenericParameter) (ps : List GenericParameter) :
    form.joined (p :: q :: ps) = p.text ++ (',' : CodePoint) :: form.joined (q :: ps) := form.joined_cons p q ps

theorem listMarks_singleton (p : GenericParameter) (position : Nat) :
    form.listMarks position [p] = p.marks position := rfl

theorem listMarks_cons (p q : GenericParameter) (ps : List GenericParameter) (position : Nat) :
    form.listMarks position (p :: q :: ps)
      = p.marks position ++ .mark ',' (position + p.text.length)
        :: form.listMarks (position + p.text.length + 1) (q :: ps) := rfl

/-- Behind a bracket that is never closed nothing is split. -/
theorem splitRest_inside (ps : List GenericParameter) (htext : whole.drop position = form.joined ps)
    (hdefault : s.inDefault = false) (hdepth : 0 < s.depth) :
    splitRest .typescript whole s (form.listMarks position ps) = [Text.trim (whole.drop s.segmentStart)] := by
  induction ps generalizing position s with
  | nil => rfl
  | cons p ps ih =>
    obtain ⟨hdefault', hdepth'⟩ := p.after_inside hdefault hdepth
    cases ps with
    | nil =>
      rw [joined_singleton, ← List.append_nil p.text] at htext
      rw [listMarks_singleton, ← List.append_nil (p.marks position), split htext hdefault (Int.le_of_lt hdepth),
        splitRest_nil, after_segmentStart]
    | cons q ps =>
      rw [joined_cons] at htext
      rw [listMarks_cons, split htext hdefault (Int.le_of_lt hdepth), splitRest_inner_comma (by omega),
        ih (drop_behind_cons htext) hdefault' hdepth', after_segmentStart]

/-- What is taken for the parameters of a list: behind a bracket that fuses, all is one parameter. -/
def groups : List GenericParameter → List Text
  | [] => []
  | [p] => [p.text]
  | p :: q :: ps => if p.fuses then [form.joined (p :: q :: ps)] else p.text :: groups (q :: ps)

theorem splitRest_list (p : GenericParameter) (ps : List GenericParameter)
    (htext : whole.drop s.segmentStart = form.joined (p :: ps)) (hdefault : s.inDefault = false)
    (hdepth : s.depth = 0) :
    splitRest .typescript whole s (form.listMarks s.segmentStart (p :: ps)) = groups (p :: ps) := by
  induction ps generalizing p s with
  | nil =>
    have htext' : whole.drop s.segmentStart = p.text ++ [] := by rw [htext, joined_singleton, List.append_nil]
    rw [listMarks_singleton, ← List.append_nil (p.marks _), split htext' hdefault (Int.le_of_eq hdepth.symm),
      splitRest_nil, after_segmentStart, htext, form.joined_trim, joined_singleton, groups]
  | cons q ps ih =>
    have hcut := htext
    rw [joined_cons] at hcut
    rw [listMarks_cons, split hcut hdefault (Int.le_of_eq hdepth.symm), groups]
    cases hfuses : p.fuses with
    | true =>
      have hafter : p.after s = { s with depth := s.depth + 1, angleDepth := s.angleDepth + 1 } := by
        rw [after, hfuses, if_pos rfl]
      have hopen : 0 < (p.after s).depth := by
        rw [hafter]
        exact Int.lt_add_one_of_le (Int.le_of_eq hdepth.symm)
      have hinside : (p.after s).inDefault = false := by
        rw [hafter]
        exact hdefault
      rw [splitRest_inner_comma (by omega), splitRest_inside _ (drop_behind_cons hcut) hinside hopen,
        after_segmentStart, htext, form.joined_trim, if_pos rfl]
    | false =>
      have hafter : (p.after s).depth = 0 := by
        rw [after, hfuses, if_neg Bool.false_ne_true]
        exact hdepth
      have hfirst : Text.trim ((whole.drop s.segmentStart).take (s.segmentStart + p.text.length - s.segmentStart))
          = p.text := by
        rw [Nat.add_sub_cancel_left, hcut, List.take_left]
        exact (form.trimmed p).trim_eq (form.text_ne_nil p)
      rw [splitRest_comma hafter, after_segmentStart, hfirst, if_neg Bool.false_ne_true]
      exact congrArg (p.text :: ·) (ih q (drop_behind_cons hcut) rfl hafter)

/-- The only blank of a parameter stands behind its colon. -/
theorem not_def_text (p : GenericParameter) : ¬ ("def " : Text) <:+: p.text := by
  have hcolon : p.text = p.name.text ++ (':' : CodePoint) :: ' ' :: (p.type.text ++ p.valueText) := by
    rw [text, List.append_assoc]
    rfl
  rw [hcolon, Text.infix_append_cons_iff (by decide)]
  rintro (h | h)
  · exact not_def_word p.name h
  · refine not_def_of_not_isBlank (fun c hc => ?_) (Text.infix_of_infix_cons (by decide) h)
    exact p.isBlank_of_mem_typed hc

theorem not_def_joined (ps : List GenericParameter) : ¬ ("def " : Text) <:+: form.joined ps := by
  intro h
  obtain ⟨p, -, hp⟩ := form.def_of_def_joined h
  exact p.not_def_text hp

/-! ## Declarations -/

/-- The declaration of a function with the given parameters. -/
def declaration (f : Word) (ps : List GenericParameter) : Text :=
  "function " ++ f.text ++ ("(" : Text) ++ Text.join "," (ps.map text) ++ (")" : Text)

theorem declaration_eq (f : Word) (ps : List GenericParameter) :
    declaration f ps = assemble ("function " ++ f.text) (form.joined ps) [] := by
  simp only [declaration, assemble, List.append_assoc]
  rfl

theorem parameterListStart?_declaration (f : Word) (ps : List GenericParameter) :
    parameterListStart? (declaration f ps) = some ("function " ++ f.text : Text).length := by
  have hdef : ¬ ("def " : Text) <:+: declaration f ps := by
    rw [declaration_eq, assemble, Text.infix_append_cons_iff (by decide), Text.infix_append_cons_iff (by decide)]
    rintro (h | h | h)
    · exact not_def_word f (Text.infix_of_infix_append (by decide) h)
    · exact not_def_joined ps h
    · exact absurd (List.eq_nil_of_infix_nil h) (by decide)
  have hname : Level ("function " ++ f.text) :=
    (level_of_isLevel (by decide)).append (level_word f)
  have htrim : (declaration f ps).trimLeft = declaration f ps := by
    rw [declaration_eq]
    rfl
  have hfunc : Text.startsWith (declaration f ps) "func " = false := by
    rw [declaration_eq]
    rfl
  simp only [parameterListStart?, Text.cutLast?_eq_none_of_not_infix hdef, htrim, Nat.sub_self, List.drop_zero, hfunc,
    Bool.false_eq_true, if_false]
  rw [declaration_eq, assemble, hname.topLevelParen?]

theorem parameterListClose?_declaration (f : Word) (p : GenericParameter) (ps : List GenericParameter) :
    parameterListClose? (some .typescript) (declaration f (p :: ps)) ("function " ++ f.text : Text).length
      = some (("function " ++ f.text : Text).length + 1 + (form.joined (p :: ps)).length) := by
  have hlead : ("function " ++ f.text : Text) = ("function" : Text) ++ (' ' : CodePoint) :: f.text := rfl
  rw [declaration_eq, hlead]
  refine form.parameterListClose?_assemble rfl p ps ?_ (List.forall_mem_nil _)
    (fun _ _ => ⟨[], Lexeme.marked_nil⟩) (by simp)
  intro r ms h
  rw [List.append_assoc]
  refine Marked.word (by decide) (Lexeme.endsWord_cons rfl) (Marked.blank rfl (Marked.word f.word
    (Lexeme.endsWord_cons rfl) (h.congr (by simp) ?_)))
  rw [List.length_append, List.length_cons]
  omega

theorem colon_mem_text (p : GenericParameter) : (':' : CodePoint) ∈ p.text := by
  have hcolon : (':' : CodePoint) ∈ (": " : Text) := by decide
  simp [text, hcolon]

theorem colon_mem_of_mem_groups {ps : List GenericParameter} {t : Text} (h : t ∈ groups ps) :
    (':' : CodePoint) ∈ t := by
  induction ps with
  | nil => cases h
  | cons p ps ih =>
    cases ps with
    | nil =>
      rw [List.mem_singleton.1 h]
      exact p.colon_mem_text
    | cons q ps =>
      rw [groups] at h
      split at h
      · rw [List.mem_singleton.1 h, joined_cons]
        exact List.mem_append_left _ p.colon_mem_text
      · rcases List.mem_cons.1 h with rfl | h
        · exact p.colon_mem_text
        · exact ih h

/-- Which parameters are found. -/
theorem parameters_declaration (f : Word) (p : GenericParameter) (ps : List GenericParameter) :
    parameters (some .typescript) (declaration f (p :: ps)) = groups (p :: ps) := by
  have hstart := parameterListStart?_declaration f (p :: ps)
  have hclose := parameterListClose?_declaration f p ps
  rw [declaration_eq] at hstart hclose ⊢
  have hsplit : splitByLexemes .typescript (form.joined (p :: ps)) = groups (p :: ps) := by
    rw [form.splitByLexemes_joined]
    exact splitRest_list p ps rfl rfl rfl
  have hparts : ∀ t ∈ splitByLexemes .typescript (form.joined (p :: ps)), ∃ c ∈ t, c.isWord = false := by
    rw [hsplit]
    exact fun t ht => ⟨':', colon_mem_of_mem_groups ht, rfl⟩
  rw [parameters_assemble rfl hstart hclose hparts, hsplit]

theorem groups_eq_iff (ps : List GenericParameter) :
    groups ps = ps.map text ↔ ∀ p ∈ ps.dropLast, p.fuses = false := by
  induction ps with
  | nil => simp [groups]
  | cons p ps ih =>
    cases ps with
    | nil => simp [groups]
    | cons q ps =>
      rw [groups, List.dropLast_cons_of_ne_nil (List.cons_ne_nil q ps), List.forall_mem_cons, List.map_cons]
      cases p.fuses with
      | true =>
        refine iff_of_false (fun h => ?_) (by simp)
        have hlength := congrArg List.length h
        simp at hlength
      | false =>
        rw [if_neg Bool.false_ne_true, List.cons.injEq, ih]
        simp

theorem length_groups_lt_iff (ps : List GenericParameter) (p : GenericParameter) :
    (groups ps).length < (groups (ps ++ [p])).length ↔ ∀ q ∈ ps, q.fuses = false := by
  induction ps with
  | nil => simp [groups]
  | cons q ps ih =>
    rw [List.forall_mem_cons, ← ih]
    cases ps with
    | nil => cases hfuses : q.fuses <;> simp [groups, hfuses]
    | cons q' ps => cases hfuses : q.fuses <;> simp [groups, hfuses]

theorem declaresClass_declaration (f : Word) (ps : List GenericParameter) :
    declaresClass (declaration f ps) = false := by
  rw [declaration_eq]
  rfl

/-- **Generic parameters.** The parameters that were joined are found again exactly when none before the last
one has a default that fuses with its type, and a parameter that is appended counts as added exactly when no
parameter before it has one. -/
theorem parameters_declaration_iff (f : Word) (p : GenericParameter) (ps : List GenericParameter) :
    (parameters (some .typescript) (declaration f (p :: ps)) = (p :: ps).map text ↔
        ∀ q ∈ (p :: ps).dropLast, q.fuses = false) ∧
      ∀ added, (assess .typescript (declaration f (p :: ps)) (declaration f (p :: ps ++ [added]))).map (·.category)
          = .ok .parameterAdded ↔ ∀ q ∈ p :: ps, q.fuses = false := by
  refine ⟨?_, fun added => ?_⟩
  · rw [parameters_declaration, groups_eq_iff]
  · rw [assess_eq_assessLexical (by decide) (declaresClass_declaration _ _) (declaresClass_declaration _ _),
      assessLexical_added_iff, List.cons_append, parameters_declaration, parameters_declaration, ← List.cons_append,
      length_groups_lt_iff]

/-- The second parameter is lost in the first one, and one that is added is not seen. -/
theorem fused_default_hides_parameter :
    parameters (some .typescript) "function f(a: G<T>=e,b: U)" = Text.list ["a: G<T>=e,b: U"] ∧
      (assess .typescript "function f(a: G<T>=e)" "function f(a: G<T>=e,b: U)").map (·.category)
        = .ok .parametersChanged := by
  decide +kernel

/-- A bracket behind another one does not fuse, and what fuses in the last parameter hides nothing. -/
theorem parameters_declaration_iff_nested :
    parameters (some .typescript) "function f(a: G<H<T>>=e,b: K<T,U>=d)"
      = Text.list ["a: G<H<T>>=e", "b: K<T,U>=d"] := by
  let nested : TypeTerm := .apply ⟨"G", by decide, by decide⟩
    (.last (.apply ⟨"H", by decide, by decide⟩ (.last (.name ⟨"T", by decide, by decide⟩))))
  let several : TypeTerm := .apply ⟨"K", by decide, by decide⟩
    (.more (.name ⟨"T", by decide, by decide⟩) (.last (.name ⟨"U", by decide, by decide⟩)))
  let p : GenericParameter := ⟨⟨"a", by decide, by decide⟩, nested, some ⟨"e", by decide, by decide⟩⟩
  let q : GenericParameter := ⟨⟨"b", by decide, by decide⟩, several, some ⟨"d", by decide, by decide⟩⟩
  have htext : declaration ⟨"f", by decide, by decide⟩ [p, q] = "function f(a: G<H<T>>=e,b: K<T,U>=d)" := by decide
  rw [← htext]
  exact (parameters_declaration_iff _ p [q]).1.2 (List.forall_mem_singleton.2 rfl)

end GenericParameter

end ChangeReview.Signature
