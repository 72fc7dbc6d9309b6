import ChangeReview.Proofs.Callable.WellFormed
import ChangeReview.Proofs.Declaration.TrailingDefaults
import ChangeReview.Signature.Comparison

/-!
# Declared functions

A signature that parses as a function declares it. Such a function is well formed once its names are
distinct, and two signatures that declare functions are assessed by their call shapes.
-/

namespace ChangeReview

namespace Callable

variable {form : Declaration.FunctionForm} {types : List Text} {kind : ParameterKind}
  {p : Parameter}

theorem kind_of_mem_map {l : List Declaration.Declared} (hp : p ∈ l.map (parameterOf kind)) :
    p.kind = kind := by
  obtain ⟨d, -, rfl⟩ := List.mem_map.1 hp
  rfl

theorem kind_of_mem_option {o : Option Declaration.Declared}
    (hp : p ∈ (o.map (parameterOf kind)).toList) : p.kind = kind := by
  rw [Option.mem_toList, Option.map_eq_some_iff] at hp
  obtain ⟨d, -, rfl⟩ := hp
  rfl

/-- The parameters stand by rank, and only those that may be several share one. -/
theorem ofFunction_ordered :
    (ofFunction form types).parameters.Pairwise fun p q => p.kind.MayPrecede q.kind := by
  have hmap : ∀ {kind : ParameterKind} {l : List Declaration.Declared}, kind.isVariadic = false →
      (l.map (parameterOf kind)).Pairwise fun p q => p.kind.MayPrecede q.kind := by
    intro kind l hk
    exact List.pairwise_map.2 (List.pairwise_of_forall fun _ _ => Or.inr ⟨rfl, hk⟩)
  have hone : ∀ {kind : ParameterKind} {o : Option Declaration.Declared},
      ((o.map (parameterOf kind)).toList).Pairwise fun p q => p.kind.MayPrecede q.kind := by
    intro kind o
    cases o with
    | none => exact List.Pairwise.nil
    | some p => exact List.pairwise_singleton _ _
  unfold ofFunction
  simp only [List.pairwise_append, List.mem_append]
  refine ⟨⟨⟨⟨hmap rfl, hmap rfl, ?_⟩, hone, ?_⟩, hmap rfl, ?_⟩, hone, ?_⟩
  · intro p hp q hq
    rw [kind_of_mem_map hp, kind_of_mem_map hq]; decide
  · rintro p (hp | hp) q hq <;> rw [kind_of_mem_map hp, kind_of_mem_option hq] <;> decide
  · rintro p ((hp | hp) | hp) q hq
    · rw [kind_of_mem_map hp, kind_of_mem_map hq]; decide
    · rw [kind_of_mem_map hp, kind_of_mem_map hq]; decide
    · rw [kind_of_mem_option hp, kind_of_mem_map hq]; decide
  · rintro p (((hp | hp) | hp) | hp) q hq
    · rw [kind_of_mem_map hp, kind_of_mem_option hq]; decide
    · rw [kind_of_mem_map hp, kind_of_mem_option hq]; decide
    · rw [kind_of_mem_option hp, kind_of_mem_option hq]; decide
    · rw [kind_of_mem_map hp, kind_of_mem_option hq]; decide

theorem ofFunction_positionals :
    (ofFunction form types).positionals =
      form.parameters.positionalOnly.map (parameterOf .positionalOnly) ++
        form.parameters.positional.map (parameterOf .positionalOrKeyword) := by
  have hall : ∀ {kind : ParameterKind} {l : List Declaration.Declared}, kind.isPositional = true →
      (l.map (parameterOf kind)).filter (·.kind.isPositional) = l.map (parameterOf kind) := by
    intro kind l hk
    refine List.filter_eq_self.2 fun p hp => ?_
    rw [kind_of_mem_map hp, hk]
  have hnone : ∀ {kind : ParameterKind} {l : List Parameter}, kind.isPositional = false →
      (∀ p ∈ l, p.kind = kind) → l.filter (·.kind.isPositional) = [] := by
    intro kind l hk hl
    refine List.filter_eq_nil_iff.2 fun p hp => ?_
    rw [hl p hp, hk]
    decide
  unfold positionals ofFunction
  simp only [List.filter_append]
  rw [hall rfl, hall rfl, hnone rfl (fun _ h => kind_of_mem_option h),
    hnone rfl (fun _ h => kind_of_mem_map h), hnone rfl (fun _ h => kind_of_mem_option h)]
  simp only [List.append_nil]

theorem ofFunction_trailing (h : form.parameters.Orderly) :
    (ofFunction form types).positionals.Pairwise fun p q =>
      p.default.isSome = true → q.default.isSome = true := by
  have hsplit := List.pairwise_append.1 h
  rw [ofFunction_positionals, List.pairwise_append, List.pairwise_map, List.pairwise_map]
  refine ⟨hsplit.1, hsplit.2.1, ?_⟩
  intro p hp q hq
  obtain ⟨d, hd, rfl⟩ := List.mem_map.1 hp
  obtain ⟨e, he, rfl⟩ := List.mem_map.1 hq
  exact hsplit.2.2 d hd e he

end Callable

namespace Signature

variable {signature old new : Text} {f g : Callable}

/-- The signature parses, and what it declares is the function. -/
def Declares (signature : Text) (f : Callable) : Prop :=
  ∃ p, Declaration.parse signature = .ok (some p) ∧ p.callable? = some f

/-- The function that a signature declares. -/
def declared? (signature : Text) : Option Callable :=
  match Declaration.parse signature with
  | .ok (some p) => p.callable?
  | _ => none

theorem declares_iff : Declares signature f ↔ declared? signature = some f := by
  unfold Declares declared?
  constructor
  · rintro ⟨p, hp, hf⟩
    rw [hp]
    exact hf
  · intro h
    split at h
    · rename_i p hp
      exact ⟨p, hp, h⟩
    · cases h

instance : Decidable (Declares signature f) := decidable_of_iff _ declares_iff.symm

/-- What is parsed was read from some source. -/
theorem exists_read?_of_parse {p : Declaration.Parsed}
    (h : Declaration.parse signature = .ok (some p)) :
    ∃ source, Declaration.read? CharacterName.named? source = some p.declaration := by
  unfold Declaration.parse at h
  generalize Declaration.withoutTypeParameters signature = cut at h
  obtain ⟨rest, types⟩ := cut
  refine ⟨Declaration.sourceOf rest, ?_⟩
  cases hcheck : (Declaration.sourceOf rest).checkEncodable with
  | error e => simp only [hcheck, bind, Except.bind] at h; cases h
  | ok u =>
    simp only [hcheck, bind, Except.bind] at h
    split at h
    · cases h
    · obtain ⟨d, hd, rfl⟩ := Option.map_eq_some_iff.1 (Except.ok.inj h)
      exact hd

/-- A declared function comes from a declaration with an orderly parameter list. -/
theorem Declares.exists_form (h : Declares signature f) :
    ∃ form types, form.parameters.Orderly ∧ f = Callable.ofFunction form types := by
  obtain ⟨p, hp, hf⟩ := h
  unfold Declaration.Parsed.callable? at hf
  split at hf
  · rename_i form hform
    obtain ⟨source, hread⟩ := exists_read?_of_parse hp
    exact ⟨form, p.typeParameters, Declaration.orderly_of_read? hread form hform,
      (Option.some.inj hf).symm⟩
  · cases hf

/-- A declared function whose names are distinct is well formed. -/
theorem Declares.wellFormed (h : Declares signature f) (hf : f.names.Nodup) : f.WellFormed := by
  obtain ⟨form, types, hform, rfl⟩ := h.exists_form
  exact ⟨hf, Callable.ofFunction_ordered, Callable.ofFunction_trailing hform⟩

theorem Declares.isClass_eq (h : Declares signature f) : isClass .python signature = .ok false := by
  obtain ⟨p, hp, hf⟩ := h
  unfold isClass
  rw [if_pos (beq_self_eq_true _), hp]
  unfold Declaration.Parsed.callable? at hf
  split at hf
  · rename_i form hform
    show Except.ok p.isClass = _
    unfold Declaration.Parsed.isClass
    rw [hform]
  · cases hf

/-- Two declared functions are assessed by their call shapes. -/
theorem Declares.assess_eq (hf : Declares old f) (hg : Declares new g) :
    assess .python old new = .ok (f.assess g) := by
  unfold assess
  rw [hf.isClass_eq, hg.isClass_eq]
  obtain ⟨p, hp, hpf⟩ := hf
  obtain ⟨q, hq, hqg⟩ := hg
  show assessPython old new = _
  unfold assessPython
  simp only [hp, hq, bind, Except.bind, Option.bind, hpf, hqg]
  rfl

end Signature

end ChangeReview
