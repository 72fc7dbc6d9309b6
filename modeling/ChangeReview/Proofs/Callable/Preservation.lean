import Mathlib.Data.List.Forall2
import Mathlib.Data.List.NodupEquivFin
import Mathlib.Order.WellFounded
import ChangeReview.Proofs.Callable.Checks
import ChangeReview.Proofs.Callable.Coverage

/-!
# Changes that lose no call

Three conditions under which `g` takes every call of `f`. `Grows`: no name is removed, and the checks on
changed kinds and on added parameters pass. `Shrinks`: no name is added, and what is removed from the
end is collected. `Aligned`: the parameters correspond one to one. The first two rest on `Widens`, what
may happen to a parameter that stays.
-/

namespace ChangeReview.Callable

variable {f g : Callable} {p q : Parameter} {i j : ℕ}

/-- Retained parameters keep taking their arguments and stay optional. -/
structure Widens (f g : Callable) : Prop where
  steps : ∀ p q, Retained f g p q → KindStep g p.kind q.kind
  defaults : ∀ p q, Retained f g p q → p.default.isSome = true → q.isRequired = false

namespace Widens

theorem positional (h : Widens f g) (hr : Retained f g p q) (hk : p.kind.isPositional = true) :
    q.kind.isPositional = true ∨ g.hasKind .variadicPositional = true := by
  have hstep := h.steps p q hr
  generalize hp : p.kind = k at hstep hk
  generalize hq : q.kind = l at hstep
  cases hstep with
  | same => exact Or.inl hk
  | widened _ => exact Or.inl rfl
  | gathered _ => exact Or.inr (hasKind_iff.2 ⟨q, hr.right, hq⟩)
  | keyed hkeyed =>
    rcases hkeyed with rfl | ⟨-, hrest⟩
    · cases hk
    · exact Or.inr hrest

theorem keyword (h : Widens f g) (hr : Retained f g p q) (hk : p.kind.isKeyword = true) :
    q.kind.isKeyword = true ∨ g.hasKind .variadicKeyword = true := by
  have hstep := h.steps p q hr
  generalize hp : p.kind = k at hstep hk
  generalize hq : q.kind = l at hstep
  cases hstep with
  | same => exact Or.inl hk
  | widened _ => exact Or.inl rfl
  | gathered hgathered =>
    rcases hgathered with rfl | ⟨-, hrest⟩
    · cases hk
    · exact Or.inr hrest
  | keyed _ => exact Or.inr (hasKind_iff.2 ⟨q, hr.right, hq⟩)

theorem variadic (h : Widens f g) (hr : Retained f g p q) (hv : p.kind.isVariadic = true) :
    q.kind = p.kind := by
  have hstep := h.steps p q hr
  generalize hp : p.kind = k at hstep hv
  generalize hq : q.kind = l at hstep
  cases hstep with
  | same => rfl
  | widened hfixed => rw [hfixed] at hv; cases hv
  | gathered hgathered =>
    rcases hgathered with rfl | ⟨hkey, -⟩
    · cases hv
    · revert hkey hv
      cases k <;> decide
  | keyed hkeyed =>
    rcases hkeyed with rfl | ⟨hpos, -⟩
    · cases hv
    · rw [ParameterKind.fixed_of_isPositional hpos] at hv
      cases hv

theorem hasKind (h : Widens f g) (hr : Retained f g p q) (hv : p.kind.isVariadic = true) :
    g.hasKind p.kind = true :=
  hasKind_iff.2 ⟨q, hr.right, h.variadic hr hv⟩

/-- What is required was required, and it is taken in the same ways or in both. -/
theorem required (h : Widens f g) (hr : Retained f g p q) (hq : q.isRequired = true) :
    p.isRequired = true ∧ (q.kind = p.kind ∨ q.kind = .positionalOrKeyword) := by
  have hdefault : p.default = none := by
    by_contra hsome
    have := h.defaults p q hr (Option.ne_none_iff_isSome.1 hsome)
    rw [hq] at this
    cases this
  have hfixed := (Parameter.isRequired_iff.1 hq).1
  have hstep := h.steps p q hr
  rw [Parameter.isRequired_iff]
  generalize p.kind = k at hstep ⊢
  generalize q.kind = l at hstep hfixed ⊢
  cases hstep with
  | same => exact ⟨⟨hfixed, hdefault⟩, Or.inl rfl⟩
  | widened hk => exact ⟨⟨hk, hdefault⟩, Or.inr rfl⟩
  | gathered _ => cases hfixed
  | keyed _ => cases hfixed

/-- A retained parameter that does not move to the right is supplied. -/
theorem supplies (hf : f.WellFormed) (h : Widens f g) (hr : Retained f g p q)
    (hq : q.isRequired = true)
    (hplace : ∀ i : ℕ, f.positionals[i]? = some p → q.kind.isPositional = true →
      ∃ j ≤ i, g.positionals[j]? = some q) : f.Supplies g q := by
  obtain ⟨hp, hkind⟩ := h.required hr hq
  by_cases hpk : p.kind = .positionalOnly
  · obtain ⟨i, hi⟩ := exists_place hr.left (by rw [hpk]; rfl)
    have hforced := (hf.lt_forced_iff hi).2 ⟨hp, hpk⟩
    have hqk : q.kind.isPositional = true := by
      rcases hkind with hkind | hkind <;> rw [hkind]
      · rw [hpk]; rfl
      · rfl
    obtain ⟨j, hj, hqj⟩ := hplace i hi hqk
    exact Or.inl ⟨j, Nat.lt_of_le_of_lt hj hforced, hqj⟩
  · have hkey : p.kind.isKeyword = true := by
      by_contra hkey
      exact hpk (ParameterKind.eq_positionalOnly (Parameter.isRequired_iff.1 hp).1 hkey)
    have hqkey : q.kind.isKeyword = true := by
      rcases hkind with hkind | hkind <;> rw [hkind]
      · exact hkey
      · rfl
    refine Or.inr ⟨p, hr.left, hp, hkey, hqkey, hr.name_eq, fun i hi => hplace i hi ?_⟩
    rcases hkind with hkind | hkind <;> rw [hkind]
    · exact isPositional_of_place hi
    · rfl

end Widens

theorem place_of_isPrefix (h : f.positionalNames <+: g.positionalNames)
    (hi : f.positionals[i]? = some p) : ∃ q, g.positionals[i]? = some q ∧ p.name = q.name := by
  have hname := positionalNames_place.2 ⟨p, hi, rfl⟩
  obtain ⟨hlt, hget⟩ := List.getElem?_eq_some_iff.1 hname
  have := List.prefix_iff_getElem?.1 h i hlt
  rw [hget] at this
  obtain ⟨q, hq, hqp⟩ := positionalNames_place.1 this
  exact ⟨q, hq, hqp.symm⟩

/-- A call of `f` that fills place `j` leaves no keyword for the parameter there. -/
theorem not_free_of_place (hf : f.WellFormed) (hj : f.positionals[j]? = some p)
    (hk : p.kind = .positionalOrKeyword) : ¬ f.Free (j + 1) p.name := by
  rintro (⟨r, hr, -, hname, hb⟩ | ⟨htakes, -⟩)
  · have hrp := eq_of_name_eq hf.distinct hr (mem_of_place hj) hname
    exact absurd (hb j (hrp ▸ hj)) (Nat.not_succ_le_self j)
  · exact htakes ⟨p, mem_of_place hj, by rw [hk]; rfl, rfl⟩

/-! ## Removal from the end -/

/-- No name is added, the positional parameters of `g` are the first ones of `f`, and what is removed
is collected. -/
structure Shrinks (f g : Callable) : Prop extends Widens f g where
  added : removedNames g f = []
  positionals : g.positionalNames <+: f.positionalNames
  captured : ∀ p ∈ f.parameters, p.name ∉ g.names → g.dropsArguments p = false
  reserved : f.hasKind .variadicKeyword = true → ∀ p q, Retained f g p q →
    p.kind = .positionalOnly → q.kind ≠ .positionalOrKeyword

theorem Shrinks.covers (hf : f.WellFormed) (h : Shrinks f g) : f.Covers g where
  capacity := by
    by_contra hcap
    rw [not_or, Nat.not_le] at hcap
    have hp := List.getElem?_eq_getElem hcap.1
    have hpos := isPositional_of_place hp
    by_cases hname : f.positionals[g.positionals.length].name ∈ g.names
    · obtain ⟨q, hr⟩ := exists_retained (mem_of_place hp) hname
      rcases h.positional hr hpos with hq | hrest
      · -- a parameter that stays positional keeps its place, which lies behind the last one of `g`
        obtain ⟨j, hj⟩ := exists_place hr.right hq
        obtain ⟨r, hrj, hrname⟩ := place_of_isPrefix h.positionals hj
        have := place_unique hf.distinct hrj hp (hrname.symm.trans hr.name_eq.symm)
        have := (List.getElem?_eq_some_iff.1 hj).1
        omega
      · exact hcap.2 hrest
    · have hcaptured := dropsArguments_eq_false.1 (h.captured _ (mem_of_place hp) hname)
      exact hcap.2 (hcaptured.1 (Or.inl hpos))
  rest := by
    intro hrest
    obtain ⟨p, hp, hk⟩ := hasKind_iff.1 hrest
    by_cases hname : p.name ∈ g.names
    · obtain ⟨q, hr⟩ := exists_retained hp hname
      exact hk ▸ h.hasKind hr (by rw [hk]; rfl)
    · exact (dropsArguments_eq_false.1 (h.captured p hp hname)).1 (Or.inr hk)
  keywords := by
    intro p hp hk
    by_cases hname : p.name ∈ g.names
    · obtain ⟨q, hr⟩ := exists_retained hp hname
      exact (h.keyword hr hk).imp_left fun hq => ⟨q, hr.right, hq, hr.name_eq.symm⟩
    · exact Or.inr ((dropsArguments_eq_false.1 (h.captured p hp hname)).2 (Or.inl hk))
  keywordRest := by
    intro hrest
    obtain ⟨p, hp, hk⟩ := hasKind_iff.1 hrest
    by_cases hname : p.name ∈ g.names
    · obtain ⟨q, hr⟩ := exists_retained hp hname
      exact hk ▸ h.hasKind hr (by rw [hk]; rfl)
    · exact (dropsArguments_eq_false.1 (h.captured p hp hname)).2 (Or.inr hk)
  single := by
    intro j q hj hk _
    obtain ⟨p, hp, hname⟩ := place_of_isPrefix h.positionals hj
    have hr : Retained f g p q := ⟨mem_of_place hp, mem_of_place hj, hname.symm⟩
    rw [hname]
    rcases ParameterKind.isPositional_iff.1 (isPositional_of_place hp) with hpk | hpk
    · rintro (⟨r, hrf, hrk, hrname, -⟩ | ⟨-, hrest⟩)
      · rw [eq_of_name_eq hf.distinct hrf hr.left hrname, hpk] at hrk
        cases hrk
      · exact h.reserved hrest p q hr hpk hk
    · exact not_free_of_place hf hp hpk
  demands := by
    intro q hq hreq
    obtain ⟨p, hp⟩ := exists_retained hq (removedNames_eq_nil.1 h.added q hq)
    have hr : Retained f g p q := ⟨hp.right, hq, hp.name_eq.symm⟩
    refine h.supplies hf hr hreq fun i hi hk => ?_
    obtain ⟨j, hj⟩ := exists_place hq hk
    obtain ⟨r, hrj, hname⟩ := place_of_isPrefix h.positionals hj
    have hij := place_unique hf.distinct hrj hi (hname.symm.trans hr.name_eq.symm)
    exact ⟨j, Nat.le_of_eq hij, hj⟩

/-! ## Addition -/

/-- A name that both functions take by position and by keyword stands in one place. -/
def SharedPlaces (f g : Callable) : Prop :=
  ∀ (i j : ℕ) (p q : Parameter), f.positionals[i]? = some p → g.positionals[j]? = some q →
    p.name = q.name → p.kind = .positionalOrKeyword → q.kind = .positionalOrKeyword → i = j

instance : Decidable (f.SharedPlaces g) :=
  decidable_of_iff
    (∀ x ∈ f.positionals.zipIdx, ∀ y ∈ g.positionals.zipIdx, x.1.name = y.1.name →
      x.1.kind = .positionalOrKeyword → y.1.kind = .positionalOrKeyword → x.2 = y.2)
    ⟨fun h i j p q hi hj => h (p, i) (List.mem_zipIdx_iff_getElem?.2 hi) (q, j)
        (List.mem_zipIdx_iff_getElem?.2 hj),
      fun h x hx y hy => h x.2 y.2 x.1 y.1 (List.mem_zipIdx_iff_getElem?.1 hx)
        (List.mem_zipIdx_iff_getElem?.1 hy)⟩

/-- No name is removed, and the checks on changed kinds and on added parameters pass. -/
structure Grows (f g : Callable) : Prop extends Widens f g where
  removed : removedNames f g = []
  kinds : KindsFit f g
  optional : demanded f g (requiredNames f g) = []
  claims : claimsKeyword f g (removedNames g f) = false

/-- A parameter that stays positional does not move to the right. -/
theorem Grows.place_le (hf : f.WellFormed) (hg : g.WellFormed) (h : Grows f g)
    (hr : Retained f g p q) (hi : f.positionals[i]? = some p) (hq : q.kind.isPositional = true) :
    ∃ j ≤ i, g.positionals[j]? = some q := by
  have hlead := h.kinds.lead
  have hstill : p.name ∈ f.stillPositional g := by
    refine List.mem_filter.2 ⟨List.mem_of_getElem? (positionalNames_place.2 ⟨p, hi, rfl⟩), ?_⟩
    rw [keptByVariadic_name hf.distinct hg.distinct hr, hq]
    simp
  obtain ⟨j, hj⟩ := List.getElem?_of_mem hstill
  refine ⟨j, ?_, ?_⟩
  · -- a sublist has each of its members no further right than the list
    obtain ⟨e, he⟩ := List.sublist_iff_exists_orderEmbedding_getElem?_eq.1
      (List.filter_sublist (l := f.positionalNames) (p := (!keptByVariadic f g ·)))
    obtain ⟨r, hrj, hname⟩ := positionalNames_place.1 ((he j).symm.trans hj)
    rw [← place_unique hf.distinct hrj hi hname]
    exact StrictMono.le_apply e.strictMono
  · obtain ⟨hlt, hget⟩ := List.getElem?_eq_some_iff.1 hj
    have hgj := List.prefix_iff_getElem?.1 hlead j hlt
    rw [hget] at hgj
    obtain ⟨r, hrj, hname⟩ := positionalNames_place.1 hgj
    rwa [eq_of_name_eq hg.distinct (mem_of_place hrj) hr.right (hname.trans hr.name_eq)] at hrj

theorem Grows.capacity (hf : f.WellFormed) (hg : g.WellFormed) (h : Grows f g) :
    f.positionals.length ≤ g.positionals.length ∨ g.hasKind .variadicPositional = true := by
  by_contra hcap
  rw [not_or, Bool.not_eq_true] at hcap
  have hlead := h.kinds.lead
  have hall : f.stillPositional g = f.positionalNames := by
    refine List.filter_eq_self.2 fun x hx => ?_
    obtain ⟨p, hp, -, rfl⟩ := mem_positionalNames.1 hx
    obtain ⟨q, hr⟩ := exists_retained hp (removedNames_eq_nil.1 h.removed p hp)
    have hq : (q.kind == .variadicPositional) = false := by
      rw [beq_eq_false_iff_ne]
      intro hq
      rw [hasKind_iff.2 ⟨q, hr.right, hq⟩] at hcap
      cases hcap.2
    rw [keptByVariadic_name hf.distinct hg.distinct hr, hq, hcap.2]
    simp
  rw [hall] at hlead
  have := hlead.length_le
  rw [positionalNames_length, positionalNames_length] at this
  exact hcap.1 this

/-- An added parameter takes no argument twice, and neither does one that was taken in one way only. -/
theorem Grows.single (hf : f.WellFormed) (h : Grows f g)
    (hshared : f.SharedPlaces g) (hj : g.positionals[j]? = some q)
    (hk : q.kind = .positionalOrKeyword)
    (hpos : j < f.positionals.length ∨ f.hasKind .variadicPositional = true) :
    ¬ f.Free (j + 1) q.name := by
  by_cases hname : q.name ∈ f.names
  · obtain ⟨p, hp, hpq⟩ := mem_names.1 hname
    have hr : Retained f g p q := ⟨hp, mem_of_place hj, hpq⟩
    rw [← hpq]
    have hfixed : p.kind.isVariadic = false := by
      rw [Bool.eq_false_iff]
      intro hv
      rw [← h.variadic hr hv, hk] at hv
      cases hv
    cases hpk : p.kind with
    | positionalOnly =>
      rintro (⟨r, hrf, hrk, hrname, -⟩ | ⟨-, hrest⟩)
      · rw [eq_of_name_eq hf.distinct hrf hp hrname, hpk] at hrk
        cases hrk
      · exact h.kinds.reserved hrest p q hr hpk hk
    | positionalOrKeyword =>
      obtain ⟨i, hi⟩ := exists_place hp (by rw [hpk]; rfl)
      rw [← hshared i j p q hi hj hpq hpk hk]
      exact not_free_of_place hf hi hpk
    | keywordOnly =>
      -- the new place lies behind all places of `f`, and a collector of `f` leaves none there
      have hle := h.kinds.behind p q hr hpk hk j hj
      have hlt := (List.getElem?_eq_some_iff.1 hj).1
      have hstill : (f.stillPositional g).length ≤ f.positionals.length := by
        rw [← positionalNames_length]
        exact List.length_filter_le _ _
      rcases hpos with hpos | hrest
      · omega
      · have := h.kinds.full hrest
        omega
    | variadicPositional => rw [hpk] at hfixed; cases hfixed
    | variadicKeyword => rw [hpk] at hfixed; cases hfixed
  · rintro (⟨r, hrf, -, hrname, -⟩ | ⟨-, hrest⟩)
    · exact hname (hrname ▸ name_mem hrf)
    · have hclaims := claimsKeyword_iff.2 ⟨hrest, j, q, hj, hname, hk, hpos.symm⟩
      rw [h.claims] at hclaims
      cases hclaims

theorem Grows.covers (hf : f.WellFormed) (hg : g.WellFormed) (h : Grows f g)
    (hshared : f.SharedPlaces g) : f.Covers g where
  capacity := h.capacity hf hg
  rest := h.kinds.rest
  keywords := by
    intro p hp hk
    obtain ⟨q, hr⟩ := exists_retained hp (removedNames_eq_nil.1 h.removed p hp)
    exact (h.keyword hr hk).imp_left fun hq => ⟨q, hr.right, hq, hr.name_eq.symm⟩
  keywordRest := h.kinds.keywordRest
  single := fun _ _ hj hk hpos => h.single hf hshared hj hk hpos
  demands := by
    intro q hq hreq
    by_cases hname : q.name ∈ f.names
    · obtain ⟨p, hp, hpq⟩ := mem_names.1 hname
      have hr : Retained f g p q := ⟨hp, hq, hpq⟩
      exact h.supplies hf hr hreq fun i hi hk => h.place_le hf hg hr hi hk
    · have hnot := List.eq_nil_iff_forall_not_mem.1 h.optional q.name
      rw [mem_demanded hg.distinct] at hnot
      have hkind : q.kind.isPositional = true := by
        by_contra hpos
        have hfixed := (Parameter.isRequired_iff.1 hreq).1
        exact hnot ⟨q, hq, rfl, hname, hreq, Or.inl (ParameterKind.eq_keywordOnly hfixed hpos)⟩
      obtain ⟨j, hj⟩ := exists_place hq hkind
      refine Or.inl ⟨j, Nat.lt_of_not_le fun hle => ?_, hj⟩
      exact hnot ⟨q, hq, rfl, hname, hreq, Or.inr ⟨j, hj, hle⟩⟩

/-- Conversely, a name that is taken both ways and moves costs a call: it moves to the left, so that a
call may fill its new place and give its keyword as well. -/
theorem Grows.sharedPlaces (hf : f.WellFormed) (hg : g.WellFormed) (h : Grows f g)
    (hcovers : f.Covers g) : f.SharedPlaces g := by
  intro i j p q hi hj hname hp hq
  have hr : Retained f g p q := ⟨mem_of_place hi, mem_of_place hj, hname⟩
  obtain ⟨k, hk, hqk⟩ := h.place_le hf hg hr hi (isPositional_of_place hj)
  have hjk := place_unique hg.distinct hj hqk rfl
  by_contra hne
  have hlt := (List.getElem?_eq_some_iff.1 hi).1
  refine hcovers.single j q hj hq (Or.inl (by omega)) (Or.inl ⟨p, hr.left, ?_, hname, ?_⟩)
  · rw [hp]; rfl
  · intro l hl
    have := place_unique hf.distinct hl hi rfl
    omega

/-! ## Parameters one to one -/

/-- A parameter and the one in its place: given in the same ways, and optional if the first is. -/
structure Corresponds (p q : Parameter) : Prop where
  kind : p.kind = q.kind
  name : p.kind.isKeyword = true → p.name = q.name
  default : p.default.isSome = true → q.default.isSome = true

/-- The positional parameters correspond in their places and the others by their names. -/
structure Aligned (f g : Callable) : Prop where
  positionals : List.Forall₂ Corresponds f.positionals g.positionals
  rest : f.hasKind .variadicPositional = true → g.hasKind .variadicPositional = true
  keywordRest : f.hasKind .variadicKeyword = true → g.hasKind .variadicKeyword = true
  keywords : ∀ p ∈ f.parameters, p.kind = .keywordOnly →
    g.TakesKeyword p.name ∨ g.hasKind .variadicKeyword = true
  demands : ∀ q ∈ g.parameters, q.kind = .keywordOnly → q.isRequired = true →
    ∃ p ∈ f.parameters, p.kind = .keywordOnly ∧ p.isRequired = true ∧ p.name = q.name

theorem Corresponds.required (h : Corresponds p q) (hq : q.isRequired = true) :
    p.isRequired = true := by
  rw [Parameter.isRequired_iff] at hq ⊢
  refine ⟨h.kind ▸ hq.1, ?_⟩
  by_contra hsome
  have := h.default (Option.ne_none_iff_isSome.1 hsome)
  rw [hq.2] at this
  cases this

section Forall₂

variable {R : Parameter → Parameter → Prop} {l m : List Parameter}

theorem exists_left_of_forall₂ (h : List.Forall₂ R l m) (hj : m[j]? = some q) :
    ∃ p, l[j]? = some p ∧ R p q := by
  obtain ⟨hlt, rfl⟩ := List.getElem?_eq_some_iff.1 hj
  have hlt' : j < l.length := by rw [h.length_eq]; exact hlt
  exact ⟨l[j], List.getElem?_eq_getElem hlt', h.get hlt' hlt⟩

theorem exists_right_of_forall₂ (h : List.Forall₂ R l m) (hi : l[i]? = some p) :
    ∃ q, m[i]? = some q ∧ R p q := by
  obtain ⟨hlt, rfl⟩ := List.getElem?_eq_some_iff.1 hi
  have hlt' : i < m.length := by rw [← h.length_eq]; exact hlt
  exact ⟨m[i], List.getElem?_eq_getElem hlt', h.get hlt hlt'⟩

end Forall₂

theorem Aligned.covers (hf : f.WellFormed) (h : Aligned f g) : f.Covers g where
  capacity := Or.inl (Nat.le_of_eq h.positionals.length_eq)
  rest := h.rest
  keywordRest := h.keywordRest
  keywords := by
    intro p hp hk
    rcases ParameterKind.isKeyword_iff.1 hk with hpk | hpk
    · obtain ⟨i, hi⟩ := exists_place hp (by rw [hpk]; rfl)
      obtain ⟨q, hq, hpq⟩ := exists_right_of_forall₂ h.positionals hi
      exact Or.inl ⟨q, mem_of_place hq, hpq.kind ▸ hk, (hpq.name hk).symm⟩
    · exact h.keywords p hp hpk
  single := by
    intro j q hj hk _
    obtain ⟨p, hp, hpq⟩ := exists_left_of_forall₂ h.positionals hj
    have hpk : p.kind = .positionalOrKeyword := hpq.kind.trans hk
    rw [← hpq.name (by rw [hpk]; rfl)]
    exact not_free_of_place hf hp hpk
  demands := by
    intro q hq hreq
    by_cases hpos : q.kind.isPositional = true
    · obtain ⟨j, hj⟩ := exists_place hq hpos
      obtain ⟨p, hp, hpq⟩ := exists_left_of_forall₂ h.positionals hj
      have hpreq := hpq.required hreq
      by_cases hkey : p.kind.isKeyword = true
      · refine Or.inr ⟨p, mem_of_place hp, hpreq, hkey, hpq.kind ▸ hkey, hpq.name hkey, ?_⟩
        intro i hi
        exact ⟨j, Nat.le_of_eq (place_unique hf.distinct hp hi rfl), hj⟩
      · have hfixed := ParameterKind.fixed_of_isPositional (isPositional_of_place hp)
        have hpk := ParameterKind.eq_positionalOnly hfixed hkey
        exact Or.inl ⟨j, (hf.lt_forced_iff hp).2 ⟨hpreq, hpk⟩, hj⟩
    · have hqk := ParameterKind.eq_keywordOnly (Parameter.isRequired_iff.1 hreq).1 hpos
      obtain ⟨p, hp, hpk, hpreq, hname⟩ := h.demands q hq hqk hreq
      refine Or.inr ⟨p, hp, hpreq, by rw [hpk]; rfl, by rw [hqk]; rfl, hname, fun i hi => ?_⟩
      have := isPositional_of_place hi
      rw [hpk] at this
      cases this

end ChangeReview.Callable
