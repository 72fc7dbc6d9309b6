import ChangeReview.Proofs.Callable.Secondary

/-!
# Switching between `def` and `async def`

What callers see of a function does not tell whether it is declared with `async`. A switch is therefore
seen only when nothing else changed: then the verdict is left open. Beside any other change the verdict is
the one that this change has by itself.
-/

namespace ChangeReview

theorem Assessment.combine_unknown {a : Assessment} {as : List Assessment}
    (h : ∀ c ∈ a :: as, c.verdict = .unknown) : (combine a as).verdict = .unknown := by
  unfold combine
  dsimp only
  split
  · exact h a List.mem_cons_self
  · show Verdict.all ((a :: as).map (·.verdict)) = .unknown
    have hall : (a :: as).map (·.verdict) = List.replicate (a :: as).length .unknown :=
      List.map_eq_replicate_iff.2 h
    have hfirst : Verdict.unknown ∈ List.replicate (a :: as).length Verdict.unknown := by simp
    rw [hall]
    cases hv : Verdict.all (List.replicate (a :: as).length .unknown) with
    | unknown => rfl
    | breaking => cases List.eq_of_mem_replicate (Verdict.all_eq_breaking.1 hv)
    | compatible => cases Verdict.all_eq_compatible.1 hv _ hfirst

namespace Callable

variable {f g : Callable}

/-! ## Equal parameters -/

theorem find?_congr (h : f.parameters = g.parameters) : f.find? = g.find? := by
  funext x
  unfold find?
  rw [h]

theorem names_congr (h : f.parameters = g.parameters) : f.names = g.names := by
  unfold names
  rw [h]

theorem removedNames_of_parameters_eq (h : f.parameters = g.parameters) : removedNames f g = [] := by
  refine List.eq_nil_iff_forall_not_mem.2 fun x hx => ?_
  obtain ⟨hf, hg⟩ := mem_removedNames.1 hx
  exact hg (names_congr h ▸ hf)

theorem defaultsRemoved_of_parameters_eq (h : f.parameters = g.parameters) :
    defaultsRemoved f g = [] := by
  unfold defaultsRemoved at?
  rw [find?_congr h, List.filter_eq_nil_iff]
  intro x _
  cases g.find? x with
  | none => simp
  | some p => cases hdef : p.default <;> simp [hdef]

theorem kindChanges_of_parameters_eq (h : f.parameters = g.parameters) : kindChanges f g = [] := by
  unfold kindChanges
  rw [find?_congr h, List.filterMap_eq_nil_iff]
  intro x _
  cases g.find? x with
  | none => rfl
  | some p => simp

theorem parameterSyntax_self (shown : Text) (p : Parameter) : parameterSyntax shown p p = [] := by
  unfold parameterSyntax
  cases p.default <;> simp

theorem retainedSyntax_of_parameters_eq (h : f.parameters = g.parameters) :
    retainedSyntax f g = surroundingSyntax f g := by
  unfold retainedSyntax
  rw [find?_congr h]
  refine List.append_left_eq_self.2 (List.flatMap_eq_nil_iff.2 fun x _ => ?_)
  cases g.find? x with
  | none => rfl
  | some p => exact parameterSyntax_self _ p

/-- Without a change of the parameters, nothing is proven of the call shape. -/
theorem shape_unknown_of_parameters_eq (h : f.parameters = g.parameters) :
    (f.assessShape g).verdict = .unknown := by
  unfold assessShape
  rw [removedNames_of_parameters_eq h, removedNames_of_parameters_eq h.symm,
    defaultsRemoved_of_parameters_eq h, kindChanges_of_parameters_eq h, names_congr h,
    retainedSyntax_of_parameters_eq h]
  simp only [List.isEmpty_nil, Bool.not_true, Bool.false_eq_true, if_false, Bool.false_and,
    Bool.and_false, bne_self_eq_false]
  split
  · rename_i first rest hother
    exact Assessment.combine_unknown fun c hc => (secondary_of_surroundingSyntax (hother ▸ hc)).1
  · rfl

theorem assess_unknown_of_parameters_eq (h : f.parameters = g.parameters) :
    (f.assess g).verdict = .unknown := by
  have hshape := shape_unknown_of_parameters_eq h
  cases hv : (f.assess g).verdict with
  | unknown => rfl
  | breaking => cases hshape.symm.trans (Assessment.merge_breaking.1 hv)
  | compatible => cases hshape.symm.trans (Assessment.compatible_of_merge hv)

end Callable

namespace Signature

variable {signature old new : Text} {f g : Callable} {isAsync : Bool}

/-- The signature parses as a function, with `async` or without it as given. -/
def DeclaresAs (isAsync : Bool) (signature : Text) (f : Callable) : Prop :=
  ∃ form types, Declaration.parse signature = .ok (some ⟨.function form, types⟩) ∧
    form.isAsync = isAsync ∧ Callable.ofFunction form types = f

/-- Whether the function that a signature declares is asynchronous, with the function. -/
def declaredAs? (signature : Text) : Option (Bool × Callable) :=
  match Declaration.parse signature with
  | .ok (some ⟨.function form, types⟩) => some (form.isAsync, Callable.ofFunction form types)
  | _ => none

theorem declaresAs_iff : DeclaresAs isAsync signature f ↔ declaredAs? signature = some (isAsync, f) := by
  unfold DeclaresAs declaredAs?
  constructor
  · rintro ⟨form, types, hp, rfl, rfl⟩
    rw [hp]
  · intro h
    split at h
    · rename_i form types hp
      obtain ⟨hasync, hf⟩ := Prod.mk.inj (Option.some.inj h)
      exact ⟨form, types, hp, hasync, hf⟩
    · cases h

instance : Decidable (DeclaresAs isAsync signature f) := decidable_of_iff _ declaresAs_iff.symm

theorem DeclaresAs.declares (h : DeclaresAs isAsync signature f) : Declares signature f := by
  obtain ⟨form, types, hp, -, hf⟩ := h
  exact ⟨_, hp, congrArg some hf⟩

/-- **Switching to and from `async`.** The assessment is the one without the switch. It is compatible if
the call shape is and no change beside it is left open, and it is left open if the parameters are equal. -/
theorem assess_of_async_switch (hold : DeclaresAs isAsync old f) (hnew : DeclaresAs (!isAsync) new g) :
    (∀ plain, DeclaresAs isAsync plain g → assess .python old new = assess .python old plain) ∧
      ∃ a, assess .python old new = .ok a ∧
        (a.verdict = .compatible ↔ (f.assessShape g).verdict = .compatible ∧
          ∀ item, ¬ Callable.SecondaryChange f g .unknown item) ∧
        (f.parameters = g.parameters → a.verdict = .unknown) := by
  have heq := hold.declares.assess_eq hnew.declares
  refine ⟨fun plain hplain => ?_, f.assess g, heq, Callable.assess_compatible_iff,
    Callable.assess_unknown_of_parameters_eq⟩
  rw [heq, hold.declares.assess_eq hplain.declares]

/-- The switch alone is left open. -/
theorem assess_of_async_switch_alone :
    ∃ f, DeclaresAs false "def f(a)" f ∧ DeclaresAs true "async def f(a)" f ∧
      ∃ a, assess .python "def f(a)" "async def f(a)" = .ok a ∧ a.verdict = .unknown := by
  have hold : DeclaresAs false "def f(a)"
      ⟨[⟨"a", .positionalOrKeyword, none, none⟩], none, [], []⟩ := by
    decide +kernel
  have hnew : DeclaresAs true "async def f(a)"
      ⟨[⟨"a", .positionalOrKeyword, none, none⟩], none, [], []⟩ := by
    decide +kernel
  obtain ⟨-, a, ha, -, hverdict⟩ := assess_of_async_switch hold hnew
  exact ⟨_, hold, hnew, a, ha, hverdict rfl⟩

/-- An optional parameter is added with the switch, and the verdict is compatible. -/
theorem async_switch_compatible :
    ∃ f g, DeclaresAs false "def f(a)" f ∧ DeclaresAs true "async def f(a, b=0)" g ∧
      (assess .python "def f(a)" "async def f(a, b=0)").map (·.verdict) = .ok .compatible := by
  have hold : DeclaresAs false "def f(a)"
      ⟨[⟨"a", .positionalOrKeyword, none, none⟩], none, [], []⟩ := by
    decide +kernel
  have hnew : DeclaresAs true "async def f(a, b=0)"
      ⟨[⟨"a", .positionalOrKeyword, none, none⟩,
        ⟨"b", .positionalOrKeyword, some (.node .integer [.atom "0"]), none⟩], none, [], []⟩ := by
    decide +kernel
  refine ⟨_, _, hold, hnew, ?_⟩
  rw [hold.declares.assess_eq hnew.declares]
  exact congrArg Except.ok (by decide +kernel)

end Signature

end ChangeReview
