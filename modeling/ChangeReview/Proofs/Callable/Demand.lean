import ChangeReview.Proofs.Callable.Checks
import ChangeReview.Proofs.Callable.Coverage
import ChangeReview.Proofs.Callable.Declared

/-!
# Added demands

The verdict that a required parameter was added rests on one of two arguments. The least call of the old
function, which gives only what it must and by keyword where it can, may leave an added parameter out.
Or it has fewer arguments than the new function requires. Either way the new function refuses a call
that the old one accepts.
-/

namespace ChangeReview

/-- The identifier is that of one category only. -/
theorem Category.eq_of_identifier {c : Category}
    (h : c.identifier = ("required_parameter_added" : Text)) : c = .requiredParameterAdded := by
  revert h
  cases c <;> decide

namespace Callable

variable {f g : Callable} {c : Call}

/-! ## Counting -/

/-- An accepted call has an argument for each required parameter. -/
theorem Accepts.required_le_card (hf : f.WellFormed) (h : f.Accepts c) :
    f.parameters.countP (·.isRequired) ≤ c.arguments.card := by
  have hnodup : (f.parameters.filter (·.isRequired)).Nodup :=
    (List.Nodup.of_map _ hf.distinct).filter _
  have hreached : ((f.parameters.filter (·.isRequired)).toFinset.image some) ⊆
      c.arguments.image f.receiver? := by
    intro o ho
    simp only [Finset.mem_image, List.mem_toFinset, List.mem_filter] at ho ⊢
    obtain ⟨p, ⟨hp, hreq⟩, rfl⟩ := ho
    exact h.required p hp hreq
  calc f.parameters.countP (·.isRequired)
      = (f.parameters.filter (·.isRequired)).toFinset.card := by
        rw [List.countP_eq_length_filter, List.toFinset_card_of_nodup hnodup]
    _ = ((f.parameters.filter (·.isRequired)).toFinset.image some).card :=
        (Finset.card_image_of_injective _ (Option.some_injective _)).symm
    _ ≤ (c.arguments.image f.receiver?).card := Finset.card_le_card hreached
    _ ≤ c.arguments.card := Finset.card_image_le

/-- The least call has no argument that is not required. -/
theorem card_leastCall_le : f.leastCall.arguments.card ≤ f.parameters.countP (·.isRequired) := by
  have hkeywords : f.leastCall.keywords.card ≤
      f.parameters.countP fun p => !(p.kind == .positionalOnly) && p.isRequired := by
    unfold leastCall sparse
    rw [Finset.empty_union]
    refine (List.toFinset_card_le _).trans ?_
    rw [List.length_map, ← List.countP_eq_length_filter]
    refine List.countP_mono_left fun p _ hp => ?_
    simp only [Bool.and_eq_true] at hp ⊢
    refine ⟨?_, hp.1.1⟩
    have hk := hp.1.2
    revert hk
    cases p.kind <;> decide
  have hsplit : f.parameters.countP (·.isRequired) = f.forced +
      f.parameters.countP fun p => !(p.kind == .positionalOnly) && p.isRequired := by
    rw [List.countP_eq_length_filter, List.length_eq_countP_add_countP (·.kind == .positionalOnly),
      List.countP_filter, List.countP_filter]
    congr 1
    · refine List.countP_congr fun p _ => ?_
      rw [Bool.and_comm]
    · refine List.countP_congr fun p _ => ?_
      simp
  calc f.leastCall.arguments.card
      ≤ f.forced + f.leastCall.keywords.card := f.leastCall.card_arguments_le
    _ ≤ f.parameters.countP (·.isRequired) := by omega

theorem required_le_of_covers (hf : f.WellFormed) (hg : g.WellFormed) (h : f.Covers g) :
    g.parameters.countP (·.isRequired) ≤ f.parameters.countP (·.isRequired) :=
  ((h.accepts hf hg (leastCall_accepts hf)).required_le_card hg).trans card_leastCall_le

/-! ## Demands cost a call -/

/-- An added required parameter behind the forced places, or by keyword only, is supplied by no call. -/
theorem demanded_of_covers (hg : g.WellFormed) (h : f.Covers g) :
    demanded f g (requiredNames f g) = [] := by
  rw [List.eq_nil_iff_forall_not_mem]
  intro x hx
  obtain ⟨q, hq, rfl, hname, hreq, hplace⟩ := (mem_demanded hg.distinct).1 hx
  rcases h.demands q hq hreq with ⟨j, hj, hqj⟩ | ⟨p, hp, -, -, -, hpq, -⟩
  · rcases hplace with hk | ⟨k, hqk, hle⟩
    · have := isPositional_of_place hqj
      rw [hk] at this
      cases this
    · have := place_unique hg.distinct hqj hqk rfl
      omega
  · exact hname (hpq ▸ name_mem hp)

theorem demandsMore_of_covers (hf : f.WellFormed) (hg : g.WellFormed) (h : f.Covers g) :
    demandsMore f g = false := by
  unfold demandsMore
  rw [Bool.or_eq_false_iff, decide_eq_false_iff_not, Nat.not_lt]
  refine ⟨required_le_of_covers hf hg h, ?_⟩
  rw [List.any_eq_false]
  intro x hx hkind
  obtain ⟨q, hq, hqx, hname, hreq⟩ := (mem_requiredNames hg.distinct).1 hx
  obtain ⟨r, hr, hrx, hk⟩ := (at?_iff hg.distinct).1 hkind
  have hrq := eq_of_name_eq hg.distinct hr hq (hrx.trans hqx.symm)
  have hmem := (mem_demanded hg.distinct).2
    ⟨q, hq, hqx, hname, hreq, Or.inl (hrq ▸ beq_iff_eq.1 hk)⟩
  rw [demanded_of_covers hg h] at hmem
  cases hmem

/-- **Added demands.** The category of an added required parameter means that a call is lost. -/
theorem required_addition_loses_call {old new : Text} {a : Assessment}
    (hold : Signature.Declares old f) (hnew : Signature.Declares new g) (hf : f.names.Nodup)
    (hg : g.names.Nodup) (ha : Signature.assess .python old new = .ok a)
    (hcategory : a.category.identifier = ("required_parameter_added" : Text)) :
    ∃ c, f.Accepts c ∧ ¬ g.Accepts c := by
  have hwf := hold.wellFormed hf
  have hwg := hnew.wellFormed hg
  rw [hold.assess_eq hnew, Except.ok.injEq] at ha
  subst ha
  by_contra hnone
  have hcovers : f.Covers g := by
    refine covers_of_accepts hwf hwg fun c hc => ?_
    by_contra hno
    exact hnone ⟨c, hc, hno⟩
  rcases demand_cases (Category.eq_of_identifier hcategory) with hdemands | hmore
  · exact hdemands (demanded_of_covers hwg hcovers)
  · rw [demandsMore_of_covers hwf hwg hcovers] at hmore
    cases hmore

/-- A required parameter is replaced by two, one of them by keyword only. -/
theorem required_addition_loses_call_replaced :
    ∃ f g : Callable, Signature.Declares "def f(a, b, /)" f ∧
      Signature.Declares "def f(a, c, *, d)" g ∧ ∃ c, f.Accepts c ∧ ¬ g.Accepts c := by
  have hold : Signature.Declares "def f(a, b, /)"
      ⟨[⟨"a", .positionalOnly, none, none⟩, ⟨"b", .positionalOnly, none, none⟩],
        none, [], []⟩ := by
    decide +kernel
  have hnew : Signature.Declares "def f(a, c, *, d)"
      ⟨[⟨"a", .positionalOrKeyword, none, none⟩, ⟨"c", .positionalOrKeyword, none, none⟩,
        ⟨"d", .keywordOnly, none, none⟩], none, [], []⟩ := by
    decide +kernel
  refine ⟨_, _, hold, hnew, ?_⟩
  exact required_addition_loses_call hold hnew (by decide +kernel) (by decide +kernel)
    (hold.assess_eq hnew) (by decide +kernel)

end Callable

end ChangeReview
