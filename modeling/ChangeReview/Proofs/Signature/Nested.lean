import ChangeReview.Proofs.Signature.ParameterList

/-!
# Parameters read character by character

Brackets of three kinds and strings nest in a parameter. The search for the end of a parameter list and the
splitting of the list each keep their own count of brackets and their own state of strings, and count
different brackets; both pass over what is nested. So parameters that are joined by commas are found again.
-/

namespace ChangeReview.Signature

/-! ## Nested texts -/

/-- A bracket of one of three kinds. -/
def isBracket (c : CodePoint) : Bool :=
  c == '(' || c == ')' || c == '[' || c == ']' || c == '\x7b' || c == '\x7d'

/-- The brackets that open, each with the one that closes it. -/
def bracketPairs : List (CodePoint × CodePoint) := [('(', ')'), ('[', ']'), ('\x7b', '\x7d')]

/-- What may stand between two equal quotation marks: the mark itself only behind a backslash. -/
inductive Quoted (q : CodePoint) : Text → Prop
  | nil : Quoted q []
  | plain {c : CodePoint} {r : Text} : c ≠ q → c ≠ '\\' → Quoted q r → Quoted q (c :: r)
  | escaped {r : Text} (c : CodePoint) : Quoted q r → Quoted q ('\\' :: c :: r)

/-- Outside strings brackets nest, and every string is closed. Outside brackets and strings there are commas
only where `commas` allows them. -/
inductive Nested : (commas : Bool) → Text → Prop
  | nil {commas : Bool} : Nested commas []
  | plain {commas : Bool} {c : CodePoint} {r : Text} : c.isQuote = false → isBracket c = false →
      (c = ',' → commas = true) → Nested commas r → Nested commas (c :: r)
  | quoted {commas : Bool} {q : CodePoint} {body r : Text} : q.isQuote = true → Quoted q body →
      Nested commas r → Nested commas (q :: (body ++ q :: r))
  | bracketed {commas : Bool} {left right : CodePoint} {body r : Text} : (left, right) ∈ bracketPairs →
      Nested true body → Nested commas r → Nested commas (left :: (body ++ right :: r))

variable {t p r body : Text} {c q : CodePoint} {index depth : Nat} {s : QuoteState} {commas : Bool}

theorem nested_run (h : ∀ c ∈ t, c.isQuote = false ∧ isBracket c = false ∧ (c = ',' → commas = true))
    (hr : Nested commas r) : Nested commas (t ++ r) := by
  induction t with
  | nil => exact hr
  | cons c t ih =>
    obtain ⟨⟨hquote, hbracket, hcomma⟩, ht⟩ := List.forall_mem_cons.1 h
    exact .plain hquote hbracket hcomma (ih ht)

/-! ## Strings -/

/-- A reader in the state `s` reads all of the text inside a string. -/
def Inside : QuoteState → Text → Prop
  | _, [] => True
  | s, c :: r => s.isInside = true ∧ Inside (s.next c) r

theorem ne_backslash_of_isQuote (h : q.isQuote = true) : q ≠ '\\' := by
  rintro rfl
  cases h

/-- A string is read up to the mark that closes it, and not further. -/
theorem Quoted.inside (hq : q.isQuote = true) (h : Quoted q body) :
    Inside { quote := some q } (body ++ [q]) ∧ (body ++ [q]).foldl QuoteState.next { quote := some q } = {} := by
  induction h with
  | nil =>
    have hback : (q == '\\') = false := beq_false_of_ne (ne_backslash_of_isQuote hq)
    simp [Inside, QuoteState.isInside, QuoteState.next, hback]
  | plain hc hback _ ih =>
    simpa [Inside, QuoteState.isInside, QuoteState.next, hc, beq_false_of_ne hback] using ih
  | escaped c _ ih =>
    have hback : ('\\' : CodePoint) ≠ q := (ne_backslash_of_isQuote hq).symm
    simpa [Inside, QuoteState.isInside, QuoteState.next, hback] using ih

/-! ## Where a parameter list ends -/

theorem bracketClose?_inside (h : Inside s t) (r : Text) :
    bracketClose?.go index s depth (t ++ r)
      = bracketClose?.go (index + t.length) (t.foldl QuoteState.next s) depth r := by
  induction t generalizing s index with
  | nil => rfl
  | cons c t ih =>
    obtain ⟨hs, ht⟩ := h
    rw [List.cons_append, bracketClose?.go, hs, Bool.true_or, if_pos rfl, ih ht, List.foldl_cons,
      List.length_cons, Nat.add_right_comm, Nat.add_assoc]

theorem bracketClose?_quoted (hq : q.isQuote = true) (h : Quoted q body) (r : Text) :
    bracketClose?.go index {} depth (q :: (body ++ q :: r))
      = bracketClose?.go (index + (body.length + 2)) {} depth r := by
  obtain ⟨hinside, hafter⟩ := h.inside hq
  have hnext : QuoteState.next {} q = { quote := some q } := by simp [QuoteState.next, hq]
  rw [bracketClose?.go, hq, Bool.or_true, if_pos rfl, hnext, List.append_cons,
    bracketClose?_inside hinside, hafter, List.length_append, List.length_singleton]
  congr 1
  omega

/-- What is nested is passed over by the search for the closing bracket. -/
theorem Nested.bracketClose? (h : Nested commas p) (index depth : Nat) (r : Text) :
    bracketClose?.go index {} (depth + 1) (p ++ r)
      = bracketClose?.go (index + p.length) {} (depth + 1) r := by
  induction h generalizing index depth r with
  | nil => rfl
  | plain hquote hbracket _ _ ih =>
    simp only [isBracket, Bool.or_eq_false_iff] at hbracket
    rw [List.cons_append, bracketClose?.go]
    simp only [QuoteState.isInside, hquote, hbracket, Option.isSome_none, Bool.or_self, Bool.false_eq_true,
      if_false]
    rw [ih, List.length_cons, Nat.add_right_comm, Nat.add_assoc]
  | quoted hq hbody _ ih =>
    rw [List.cons_append, List.append_assoc, List.cons_append, bracketClose?_quoted hq hbody, ih]
    congr 1
    simp only [List.length_cons, List.length_append]
    omega
  | @bracketed _ left right body p hpair _ _ ihbody ih =>
    have hlength : index + 1 + body.length + 1 + p.length = index + (left :: (body ++ right :: p)).length := by
      simp only [List.length_cons, List.length_append]
      omega
    rw [← hlength, List.cons_append, List.append_assoc, List.cons_append]
    simp only [bracketPairs, List.mem_cons, List.not_mem_nil, or_false, Prod.mk.injEq] at hpair
    -- Curly brackets are not counted: what they hold is passed over at the same depth.
    rcases hpair with ⟨rfl, rfl⟩ | ⟨rfl, rfl⟩ | ⟨rfl, rfl⟩
    · exact (ihbody (index + 1) (depth + 1) _).trans (ih _ depth r)
    · exact (ihbody (index + 1) (depth + 1) _).trans (ih _ depth r)
    · exact (ihbody (index + 1) depth _).trans (ih _ depth r)

/-! ## The parameters between -/

/-- A reader that is neither in a string nor in a `lambda`. -/
def ReadState.between (current : Text) (depth : Int) (previous : Option CodePoint) : ReadState :=
  { current, depth, previous }

theorem startsLambda_eq_false (h : ¬ ("lambda" : Text) <:+: t) (previous : Option CodePoint) :
    startsLambda previous t = false := by
  unfold startsLambda
  cases hafter : Text.after? "lambda" t with
  | none => rfl
  | some rest => exact absurd ⟨[], rest, (Text.after?_eq_some_iff.1 hafter).symm⟩ h

variable {current : Text} {level : Int} {previous : Option CodePoint}

theorem splitCharacters_inside {s : ReadState} (h : Inside s.quote t) (r : Text) :
    ∃ previous, splitCharacters s (t ++ r)
      = splitCharacters
          { s with current := t.reverse ++ s.current, quote := t.foldl QuoteState.next s.quote, previous } r := by
  induction t generalizing s with
  | nil => exact ⟨s.previous, rfl⟩
  | cons c t ih =>
    obtain ⟨hs, ht⟩ := h
    obtain ⟨previous, hrest⟩ := ih
      (s := { s with current := c :: s.current, quote := s.quote.next c, previous := some c }) ht
    refine ⟨previous, ?_⟩
    rw [List.cons_append, splitCharacters, hs, Bool.true_or, if_pos rfl, hrest, List.reverse_cons,
      List.append_assoc, List.singleton_append, List.foldl_cons]

theorem splitCharacters_quoted (hq : q.isQuote = true) (h : Quoted q body) (r current : Text) (level : Int)
    (previous : Option CodePoint) :
    ∃ previous', splitCharacters (.between current level previous) (q :: (body ++ q :: r))
      = splitCharacters (.between ((q :: (body ++ [q])).reverse ++ current) level previous') r := by
  obtain ⟨hinside, hafter⟩ := h.inside hq
  have hnext : QuoteState.next {} q = { quote := some q } := by simp [QuoteState.next, hq]
  obtain ⟨previous', hrest⟩ := splitCharacters_inside
    (s := { current := q :: current, quote := { quote := some q }, depth := level, previous := some q }) hinside r
  refine ⟨previous', ?_⟩
  rw [splitCharacters, hq, Bool.or_true, if_pos rfl, ReadState.between, hnext, List.append_cons, hrest, hafter,
    ReadState.between, List.reverse_cons, List.append_assoc, List.singleton_append]

/-- The brackets open after one more code point. -/
def levelAfter (level : Int) (c : CodePoint) : Int :=
  if c == '(' || c == '[' || c == '\x7b' then level + 1
  else if c == ')' || c == ']' || c == '\x7d' then level - 1
  else level

theorem splitCharacters_step (hquote : c.isQuote = false) (hlambda : ¬ ("lambda" : Text) <:+: c :: r) :
    splitCharacters (.between current level previous) (c :: r)
      = if c == ',' && levelAfter level c == 0
        then Text.trim current.reverse :: splitCharacters (.between [] (levelAfter level c) (some c)) r
        else splitCharacters (.between (c :: current) (levelAfter level c) (some c)) r := by
  rw [splitCharacters, hquote]
  simp only [ReadState.between, QuoteState.isInside, startsLambda_eq_false hlambda, Option.isSome_none,
    Bool.or_self, Bool.false_and, Bool.not_false, Bool.and_true, Bool.false_eq_true, if_false, levelAfter]
  rfl

theorem splitCharacters_keeps (hquote : c.isQuote = false) (hlambda : ¬ ("lambda" : Text) <:+: c :: r)
    (hcomma : c = ',' → levelAfter level c ≠ 0) :
    splitCharacters (.between current level previous) (c :: r)
      = splitCharacters (.between (c :: current) (levelAfter level c) (some c)) r := by
  rw [splitCharacters_step hquote hlambda, if_neg]
  simpa using hcomma

theorem isQuote_of_bracketPairs :
    ∀ pair ∈ bracketPairs, pair.1.isQuote = false ∧ pair.2.isQuote = false ∧ pair.1 ≠ ',' ∧ pair.2 ≠ ',' := by
  decide

theorem levelAfter_of_bracketPairs {left right : CodePoint} (h : (left, right) ∈ bracketPairs) (level : Int) :
    levelAfter level left = level + 1 ∧ levelAfter (level + 1) right = level := by
  simp only [bracketPairs, List.mem_cons, List.not_mem_nil, or_false, Prod.mk.injEq] at h
  rcases h with ⟨rfl, rfl⟩ | ⟨rfl, rfl⟩ | ⟨rfl, rfl⟩ <;> exact ⟨rfl, Int.add_sub_cancel level 1⟩

/-- What is nested is read as a part of one parameter. -/
theorem Nested.splitCharacters (h : Nested commas p) (hlambda : ¬ ("lambda" : Text) <:+: p ++ r)
    (hlevel : 0 ≤ level) (hcommas : commas = true → 0 < level) (current : Text) (previous : Option CodePoint) :
    ∃ previous', splitCharacters (.between current level previous) (p ++ r)
      = Signature.splitCharacters (.between (p.reverse ++ current) level previous') r := by
  induction h generalizing current level previous r with
  | nil => exact ⟨previous, rfl⟩
  | @plain _ c p hquote hbracket hcomma _ ih =>
    have hafter : levelAfter level c = level := by
      simp only [isBracket, Bool.or_eq_false_iff] at hbracket
      simp [levelAfter, hbracket]
    obtain ⟨previous', hrest⟩ := ih (fun h => hlambda (List.infix_cons h)) hlevel hcommas (c :: current) (some c)
    refine ⟨previous', ?_⟩
    have hopen : c = ',' → levelAfter level c ≠ 0 := by
      intro hc
      have := hcommas (hcomma hc)
      omega
    rw [List.cons_append] at hlambda ⊢
    rw [splitCharacters_keeps hquote hlambda hopen, hafter, hrest, List.reverse_cons,
      List.append_assoc, List.singleton_append]
  | @quoted _ q body p hq hbody _ ih =>
    have hlambda' : ¬ ("lambda" : Text) <:+: p ++ r := by
      refine fun h => hlambda (h.trans ?_)
      exact ⟨q :: (body ++ [q]), [], by simp⟩
    obtain ⟨previous₁, hstring⟩ := splitCharacters_quoted hq hbody (p ++ r) current level previous
    obtain ⟨previous₂, hrest⟩ := ih hlambda' hlevel hcommas ((q :: (body ++ [q])).reverse ++ current) previous₁
    refine ⟨previous₂, ?_⟩
    rw [List.cons_append, List.append_assoc, List.cons_append, hstring, hrest]
    simp
  | @bracketed _ left right body p hpair _ _ ihbody ih =>
    rw [List.cons_append, List.append_assoc, List.cons_append] at hlambda ⊢
    have hlambdaBody : ¬ ("lambda" : Text) <:+: body ++ right :: (p ++ r) :=
      fun h => hlambda (List.infix_cons h)
    have hlambdaRight : ¬ ("lambda" : Text) <:+: right :: (p ++ r) :=
      fun h => hlambdaBody (h.trans (List.suffix_append body _).isInfix)
    obtain ⟨hleft, hright⟩ := levelAfter_of_bracketPairs hpair level
    obtain ⟨hleftQuote, hrightQuote, hleftComma, hrightComma⟩ := isQuote_of_bracketPairs _ hpair
    obtain ⟨previous₁, hbody⟩ := ihbody hlambdaBody (by omega : 0 ≤ level + 1) (fun _ => by omega)
      (left :: current) (some left)
    obtain ⟨previous₂, hrest⟩ := ih (fun h => hlambdaRight (List.infix_cons h)) hlevel hcommas
      (right :: (body.reverse ++ left :: current)) (some right)
    refine ⟨previous₂, ?_⟩
    rw [splitCharacters_keeps hleftQuote hlambda (fun h => absurd h hleftComma), hleft, hbody,
      splitCharacters_keeps hrightQuote hlambdaRight (fun h => absurd h hrightComma), hright, hrest]
    simp

/-! ## Reading a joined list back -/

/-- A parameter as it is written: nested texts without a comma between them, no blanks around it, and none of
the words that are read on their own. -/
structure Written (p : Text) : Prop where
  nonempty : p ≠ []
  trimmed : Text.Trimmed p
  nested : Nested false p
  not_self : p ≠ "self"
  not_cls : p ≠ "cls"
  no_lambda : ¬ ("lambda" : Text) <:+: p
  no_def : ¬ ("def " : Text) <:+: p

theorem splitCharacters_join {ps : List Text} (hne : ps ≠ []) (h : ∀ p ∈ ps, Written p)
    (hlambda : ¬ ("lambda" : Text) <:+: Text.join ", " ps) (hblank : ∀ c ∈ current, c.isBlank = true)
    (previous : Option CodePoint) : splitCharacters (.between current 0 previous) (Text.join ", " ps) = ps := by
  induction ps generalizing current previous with
  | nil => exact absurd rfl hne
  | cons p ps ih =>
    obtain ⟨hp, hps⟩ := List.forall_mem_cons.1 h
    have htrim : Text.trim (p.reverse ++ current).reverse = p := by
      rw [List.reverse_append, List.reverse_reverse]
      exact hp.trimmed.trim_append hp.nonempty fun c hc => hblank c (List.mem_reverse.1 hc)
    have hcommas : false = true → (0 : Int) < 0 := fun h => absurd h Bool.false_ne_true
    cases ps with
    | nil =>
      have hjoin : Text.join ", " [p] = p ++ [] := by simp [Text.join]
      rw [hjoin] at hlambda ⊢
      obtain ⟨previous', hread⟩ := hp.nested.splitCharacters hlambda (Int.le_refl 0) hcommas current previous
      rw [hread, splitCharacters, ReadState.between, htrim]
    | cons q ps =>
      have hjoin : Text.join ", " (p :: q :: ps) = p ++ (',' : CodePoint) :: ' ' :: Text.join ", " (q :: ps) := rfl
      rw [hjoin] at hlambda ⊢
      obtain ⟨previous', hread⟩ := hp.nested.splitCharacters hlambda (Int.le_refl 0) hcommas current previous
      have hlambda₁ := fun h => hlambda (List.IsInfix.trans h (List.suffix_append p _).isInfix)
      have hlambda₂ := fun h => hlambda₁ (List.infix_cons h)
      have hdivides : ((',' : CodePoint) == ',' && levelAfter 0 ',' == 0) = true := rfl
      have hnext : (' ' : CodePoint) = ',' → levelAfter (levelAfter 0 ',') ' ' ≠ 0 := fun h => absurd h (by decide)
      rw [hread, splitCharacters_step rfl hlambda₁, if_pos hdivides, htrim,
        splitCharacters_keeps rfl hlambda₂ hnext]
      have hblank : ∀ c ∈ [(' ' : CodePoint)], c.isBlank = true := by decide
      exact congrArg (p :: ·) (ih (List.cons_ne_nil q ps) hps (fun h => hlambda₂ (List.infix_cons h)) hblank _)

theorem Nested.append (hp : Nested commas p) (hr : Nested commas r) : Nested commas (p ++ r) := by
  induction hp with
  | nil => exact hr
  | plain hquote hbracket hcomma _ ih => exact .plain hquote hbracket hcomma (ih hr)
  | quoted hq hbody _ ih => simpa using Nested.quoted hq hbody (ih hr)
  | bracketed hpair hbody _ _ ih => simpa using Nested.bracketed hpair hbody (ih hr)

theorem Nested.with_commas (h : Nested commas p) : Nested true p := by
  induction h with
  | nil => exact .nil
  | plain hquote hbracket _ _ ih => exact .plain hquote hbracket (fun _ => rfl) ih
  | quoted hq hbody _ ih => exact .quoted hq hbody ih
  | bracketed hpair hbody _ _ ih => exact .bracketed hpair hbody ih

theorem nested_join {ps : List Text} (h : ∀ p ∈ ps, Nested false p) : Nested true (Text.join ", " ps) := by
  induction ps with
  | nil => exact .nil
  | cons p ps ih =>
    obtain ⟨hp, hps⟩ := List.forall_mem_cons.1 h
    cases ps with
    | nil => simpa [Text.join] using hp.with_commas
    | cons q ps =>
      exact hp.with_commas.append (.plain rfl rfl (fun _ => rfl) (.plain rfl rfl (fun _ => rfl) (ih hps)))

/-- The declaration of a function with the given parameters. -/
def definition (f : Word) (ps : List Text) : Text :=
  "def " ++ f.text ++ ("(" : Text) ++ Text.join ", " ps ++ (")" : Text)

theorem definition_eq (f : Word) (ps : List Text) :
    definition f ps = assemble ("def " ++ f.text) (Text.join ", " ps) [] := by
  simp only [definition, assemble, List.append_assoc]
  rfl

theorem parameterListStart?_definition (f : Word) {ps : List Text} (h : ∀ p ∈ ps, Written p) :
    parameterListStart? (definition f ps) = some ("def " ++ f.text : Text).length := by
  have hjoin : ¬ ("def " : Text) <:+: Text.join ", " ps := by
    intro hin
    obtain ⟨p, hp, hin⟩ := Text.infix_of_infix_join (by decide) (by decide) hin
    exact (h p hp).no_def hin
  have hlast : ¬ ("def " : Text) <:+: ("ef " : Text) ++ assemble f.text (Text.join ", " ps) [] := by
    intro hin
    rw [assemble, ← List.append_assoc, Text.infix_append_cons_iff (by decide),
      Text.infix_append_cons_iff (by decide)] at hin
    rcases hin with hin | hin | hin
    · exact not_def_word f (Text.infix_of_infix_append (by decide) hin)
    · exact hjoin hin
    · exact absurd (List.eq_nil_of_infix_nil hin) (by decide)
  have htext : definition f ps = [] ++ (("def " : Text) ++ assemble f.text (Text.join ", " ps) []) := by
    rw [definition_eq, assemble, List.append_assoc]
    rfl
  rw [htext, parameterListStart?_def hlast, assemble, (level_word f).topLevelParen?, List.length_append]
  rfl

theorem parameterListClose?_definition (f : Word) {ps : List Text} (h : ∀ p ∈ ps, Written p) :
    parameterListClose? none (definition f ps) ("def " ++ f.text : Text).length
      = some (("def " ++ f.text : Text).length + 1 + (Text.join ", " ps).length) := by
  have hclose : bracketClose? (('(' : CodePoint) :: (Text.join ", " ps ++ [(')' : CodePoint)]))
      = some (1 + (Text.join ", " ps).length) :=
    (nested_join fun p hp => (h p hp).nested).bracketClose? 1 0 [(')' : CodePoint)]
  rw [definition_eq, parameterListClose?, assemble, List.drop_left]
  simp only [Option.filter_none, hclose, Option.map_some, Nat.add_assoc]

/-- Parameters that are joined are found again. -/
theorem parameters_definition (f : Word) {ps : List Text} (hne : ps ≠ []) (h : ∀ p ∈ ps, Written p) :
    parameters none (definition f ps) = ps := by
  have hstart := parameterListStart?_definition f h
  have hclose := parameterListClose?_definition f h
  have hlambda : ¬ ("lambda" : Text) <:+: Text.join ", " ps := by
    intro hin
    obtain ⟨p, hp, hin⟩ := Text.infix_of_infix_join (by decide) (by decide) hin
    exact (h p hp).no_lambda hin
  have hsplit : splitCharacters {} (Text.join ", " ps) = ps :=
    splitCharacters_join hne h hlambda (List.forall_mem_nil _) none
  rw [definition_eq] at hstart hclose ⊢
  rw [parameters, parameterText?_assemble hstart hclose]
  simp only [Option.filter_none, hsplit]
  refine List.filter_eq_self.2 fun p hp => ?_
  have hp := h p hp
  simp [hp.nonempty, hp.not_self, hp.not_cls]

/-- Brackets in a string, a quotation mark behind a backslash and a comma in brackets divide nothing. -/
theorem parameters_definition_quoted :
    parameters none "def f(a: d[s, \x7bt\x7d], b=',\\'(')" = Text.list ["a: d[s, \x7bt\x7d]", "b=',\\'('"] := by
  have hbraced : Nested true ("s, \x7bt\x7d" : Text) :=
    nested_run (t := "s, ") (by decide)
      (.bracketed (by decide) (nested_run (t := "t") (by decide) .nil) .nil)
  have hannotated : Nested false ("a: d[s, \x7bt\x7d]" : Text) :=
    nested_run (t := "a: d") (by decide) (.bracketed (by decide) hbraced .nil)
  have hstring : Quoted '\'' (",\\'(" : Text) :=
    .plain (by decide) (by decide) (.escaped '\'' (.plain (by decide) (by decide) .nil))
  have hdefaulted : Nested false ("b=',\\'('" : Text) :=
    nested_run (t := "b=") (by decide) (.quoted rfl hstring .nil)
  have hfirst : Written ("a: d[s, \x7bt\x7d]" : Text) :=
    ⟨by decide, ⟨by decide, by decide⟩, hannotated, by decide, by decide, by rw [← Text.includes_iff]; decide,
      by rw [← Text.includes_iff]; decide⟩
  have hsecond : Written ("b=',\\'('" : Text) :=
    ⟨by decide, ⟨by decide, by decide⟩, hdefaulted, by decide, by decide, by rw [← Text.includes_iff]; decide,
      by rw [← Text.includes_iff]; decide⟩
  have hall : ∀ p ∈ Text.list ["a: d[s, \x7bt\x7d]", "b=',\\'('"], Written p :=
    List.forall_mem_cons.2 ⟨hfirst, List.forall_mem_singleton.2 hsecond⟩
  exact parameters_definition ⟨"f", by decide, by decide⟩ (List.cons_ne_nil _ _) hall

end ChangeReview.Signature
