import Mathlib.Data.Fintype.EquivFin
import ChangeReview.Proofs.Callable.Acceptance

/-!
# When a function takes the calls of another

`Covers` says of two parameter lists that the second takes every call the first takes, and `covers_iff`
that it says so exactly. `Keeps` asks besides that no argument leaves a parameter whose name stays;
`keeps_iff` is the corresponding equivalence. A pair of functions that is not kept has a call that is
lost or rebound.
-/

namespace ChangeReview.Callable

variable {f g : Callable} {c : Call} {a : Argument} {p q : Parameter}

/-- Some keyword is the name of no parameter. -/
theorem exists_fresh (f g : Callable) : ∃ x, x ∉ f.names ∧ x ∉ g.names := by
  obtain ⟨x, hx⟩ := Infinite.exists_notMem_finset (f.names ++ g.names).toFinset
  rw [List.mem_toFinset, List.mem_append, not_or] at hx
  exact ⟨x, hx⟩

/-- Every call of `f` binds the parameter `q` of `g`: at a forced place, or because `f` requires a
parameter of that name, which no call gives by position without reaching `q`. -/
def Supplies (f g : Callable) (q : Parameter) : Prop :=
  (∃ j < f.forced, g.positionals[j]? = some q) ∨
    ∃ p ∈ f.parameters, p.isRequired = true ∧ p.kind.isKeyword = true ∧
      q.kind.isKeyword = true ∧ p.name = q.name ∧
      ∀ i : ℕ, f.positionals[i]? = some p → ∃ j ≤ i, g.positionals[j]? = some q

/-- `g` takes every call that `f` takes, read off the parameter lists. -/
structure Covers (f g : Callable) : Prop where
  capacity : f.positionals.length ≤ g.positionals.length ∨ g.hasKind .variadicPositional = true
  rest : f.hasKind .variadicPositional = true → g.hasKind .variadicPositional = true
  keywords : ∀ p ∈ f.parameters, p.kind.isKeyword = true →
    g.TakesKeyword p.name ∨ g.hasKind .variadicKeyword = true
  keywordRest : f.hasKind .variadicKeyword = true → g.hasKind .variadicKeyword = true
  single : ∀ (j : ℕ) (q : Parameter), g.positionals[j]? = some q → q.kind = .positionalOrKeyword →
    j < f.positionals.length ∨ f.hasKind .variadicPositional = true → ¬ f.Free (j + 1) q.name
  demands : ∀ q ∈ g.parameters, q.isRequired = true → f.Supplies g q

theorem Covers.accepts (hf : f.WellFormed) (hg : g.WellFormed) (h : f.Covers g)
    (hc : f.Accepts c) : g.Accepts c := by
  have hforced := hc.forced_le hf
  have hfits := hc.fits hf
  refine Fits.accepts hg ⟨?_, ?_, ?_, ?_⟩
  · rcases hfits.capacity with hpos | hrest
    · exact h.capacity.imp_left hpos.trans
    · exact Or.inr (h.rest hrest)
  · intro x hx
    rcases hfits.keywords x hx with ⟨p, hp, hk, rfl⟩ | hrest
    · exact h.keywords p hp hk
    · exact Or.inr (h.keywordRest hrest)
  · intro j q hj hk hlt hx
    refine h.single j q hj hk (hfits.capacity.imp_left hlt.trans_le) ?_
    by_cases htakes : f.TakesKeyword q.name
    · obtain ⟨p, hp, hpk, hname⟩ := htakes
      refine Or.inl ⟨p, hp, hpk, hname, fun i hi => ?_⟩
      -- a place of `p` among the given ones would bind it twice already in `f`
      by_contra hle
      have hkind := ParameterKind.eq_positionalOrKeyword (isPositional_of_place hi) hpk
      exact hfits.single i p hi hkind (by omega) (hname ▸ hx)
    · exact Or.inr ⟨htakes, (hfits.keywords _ hx).resolve_left htakes⟩
  · intro q hq hqreq
    rcases h.demands q hq hqreq with ⟨j, hj, hplace⟩ | ⟨p, hp, hpreq, -, hqk, hname, hplace⟩
    · exact Or.inl ⟨j, hj.trans_le hforced, hplace⟩
    · rcases hfits.binds p hp hpreq with ⟨i, hi, hpi⟩ | ⟨-, hx⟩
      · obtain ⟨j, hj, hqj⟩ := hplace i hpi
        exact Or.inl ⟨j, hj.trans_lt hi, hqj⟩
      · exact Or.inr ⟨hqk, hname ▸ hx⟩

/-- A parameter that every call of `f` must bind is supplied by `f`: the two sparse calls that could
leave it out are the least one and the one that ends with the place of its namesake. -/
theorem supplies_of_binds (hf : f.WellFormed) (h : ∀ c, f.Accepts c → g.Binds c q) :
    f.Supplies g q := by
  by_cases hname : ∃ p ∈ f.parameters, p.isRequired = true ∧ p.kind.isKeyword = true ∧
      q.kind.isKeyword = true ∧ p.name = q.name
  · obtain ⟨p, hp, hpreq, hpk, hqk, hname⟩ := hname
    refine Or.inr ⟨p, hp, hpreq, hpk, hqk, hname, fun i hi => ?_⟩
    have hforced : f.forced ≤ i := hf.beyond_forced hpk i hi
    have hlen := (List.getElem?_eq_some_iff.1 hi).1
    have hcall : f.Accepts (f.sparse (i + 1) ∅) :=
      sparse_accepts hf (by omega) (Or.inl hlen) (by simp)
    rcases h _ hcall with ⟨j, hj, hqj⟩ | ⟨-, hx⟩
    · exact ⟨j, Nat.le_of_lt_succ hj, hqj⟩
    · rcases mem_sparse_keywords.1 hx with hx | ⟨r, hr, -, -, hb, hrname⟩
      · exact absurd hx (Finset.notMem_empty _)
      · have hrp := eq_of_name_eq hf.distinct hr hp (hrname.trans hname.symm)
        exact absurd (hb i (hrp ▸ hi)) (by omega)
  · rcases h _ (leastCall_accepts hf) with ⟨j, hj, hqj⟩ | ⟨hqk, hx⟩
    · exact Or.inl ⟨j, hj, hqj⟩
    · rcases mem_sparse_keywords.1 hx with hx | ⟨p, hp, hpreq, hpk, -, hpname⟩
      · exact absurd hx (Finset.notMem_empty _)
      · exact absurd ⟨p, hp, hpreq, hpk, hqk, hpname⟩ hname

/-- Every argument that reaches a parameter of `f` reaches one of `g`. -/
theorem exists_reaches_of_accepts (hf : f.WellFormed) (hg : g.WellFormed)
    (h : ∀ c, f.Accepts c → g.Accepts c) (hp : f.Reaches a p) : ∃ q, g.Reaches a q := by
  obtain ⟨c, hc, ha⟩ := hp.exists_accepts hf
  obtain ⟨q, hq⟩ := Option.isSome_iff_exists.1 ((h c hc).received a ha)
  exact ⟨q, (receiver?_eq_some hg).1 hq⟩

theorem covers_of_accepts (hf : f.WellFormed) (hg : g.WellFormed)
    (h : ∀ c, f.Accepts c → g.Accepts c) : f.Covers g where
  capacity := by
    by_contra hcap
    rw [not_or, Nat.not_le] at hcap
    have hlast := List.getElem?_eq_getElem hcap.1
    obtain ⟨q, hq⟩ := exists_reaches_of_accepts hf hg h (.place hlast)
    rcases exists_reaches_position.1 ⟨q, hq⟩ with hlt | hrest
    · exact Nat.lt_irrefl _ hlt
    · exact hcap.2 hrest
  rest := by
    intro hrest
    obtain ⟨p, hp, hk⟩ := hasKind_iff.1 hrest
    -- a position behind the places of both functions
    have hfar : f.Reaches (.position (max f.positionals.length g.positionals.length)) p :=
      .rest (le_max_left _ _) hp hk
    obtain ⟨q, hq⟩ := exists_reaches_of_accepts hf hg h hfar
    exact (exists_reaches_position.1 ⟨q, hq⟩).resolve_left (Nat.not_lt.2 (le_max_right _ _))
  keywords := by
    intro p hp hk
    obtain ⟨q, hq⟩ := exists_reaches_of_accepts hf hg h (.name hp hk rfl)
    exact exists_reaches_keyword.1 ⟨q, hq⟩
  keywordRest := by
    intro hrest
    obtain ⟨p, hp, hk⟩ := hasKind_iff.1 hrest
    -- a keyword that is a name of neither function
    obtain ⟨x, hxf, hxg⟩ := exists_fresh f g
    obtain ⟨q, hq⟩ :=
      exists_reaches_of_accepts hf hg h (.keywordRest (not_takesKeyword hxf) hp hk)
    exact (exists_reaches_keyword.1 ⟨q, hq⟩).resolve_left (not_takesKeyword hxg)
  single := by
    intro j q hj hk hpos hfree
    obtain ⟨c, hc, hcj, hcx⟩ := exists_accepts_both hf hpos hfree
    exact ((h c hc).fits hg).single j q hj hk (Call.position_mem.1 hcj) (Call.keyword_mem.1 hcx)
  demands := by
    intro q hq hreq
    refine supplies_of_binds hf fun c hc => ?_
    exact ((h c hc).fits hg).binds q hq hreq

/-- **Coverage.** The condition on the parameter lists says exactly that no call is lost. -/
theorem covers_iff (hf : f.WellFormed) (hg : g.WellFormed) :
    f.Covers g ↔ ∀ c, f.Accepts c → g.Accepts c :=
  ⟨fun h _ hc => h.accepts hf hg hc, covers_of_accepts hf hg⟩

/-! ## Arguments that stay -/

/-- `g` takes every call of `f`, and an argument of a parameter whose name stays goes to that name. -/
structure Keeps (f g : Callable) : Prop extends Covers f g where
  names_stay : ∀ (a : Argument) (p q : Parameter), f.Reaches a p → g.Reaches a q →
    p.name ∈ g.names → q.name = p.name

/-- **Keeping.** The condition says exactly that no call is lost or rebound. -/
theorem keeps_iff (hf : f.WellFormed) (hg : g.WellFormed) :
    f.Keeps g ↔ ∀ c, f.Accepts c → g.Accepts c ∧ ¬ f.Rebinds g c := by
  constructor
  · intro h c hc
    refine ⟨h.accepts hf hg hc, ?_⟩
    rintro ⟨a, -, p, q, hp, hq, hname, hne⟩
    rw [receiver?_eq_some hf] at hp
    rw [receiver?_eq_some hg] at hq
    exact hne (h.names_stay a p q hp hq hname)
  · intro h
    refine ⟨covers_of_accepts hf hg fun c hc => (h c hc).1, ?_⟩
    intro a p q hp hq hname
    obtain ⟨c, hc, ha⟩ := hp.exists_accepts hf
    by_contra hne
    exact (h c hc).2 ⟨a, ha, p, q, (receiver?_eq_some hf).2 hp, (receiver?_eq_some hg).2 hq,
      hname, hne⟩

/-- Arguments of a kept parameter reach the parameter of its name. -/
theorem Keeps.reaches (hf : f.WellFormed) (hg : g.WellFormed) (h : f.Keeps g)
    (hr : Retained f g p q) (ha : f.Reaches a p) : g.Reaches a q := by
  obtain ⟨r, hrq⟩ := exists_reaches_of_accepts hf hg (fun c hc => h.accepts hf hg hc) ha
  have hname := h.names_stay a p r ha hrq (hr.name_eq ▸ name_mem hr.right)
  exact eq_of_name_eq hg.distinct hrq.mem hr.right (hname.trans hr.name_eq) ▸ hrq

/-- Where nothing is lost or rebound, every retained parameter went through a change of kind that is
compatible by itself. -/
theorem Keeps.transition (hf : f.WellFormed) (hg : g.WellFormed) (h : f.Keeps g)
    (hr : Retained f g p q) : p.kind.transition q.kind = .compatible := by
  have hplace : p.kind.isPositional = true →
      q.kind.isPositional = true ∨ q.kind = .variadicPositional := by
    intro hk
    obtain ⟨i, hi⟩ := exists_place hr.left hk
    cases h.reaches hf hg hr (.place hi) with
    | place hj => exact Or.inl (isPositional_of_place hj)
    | rest _ _ hk => exact Or.inr hk
  have hname : p.kind.isKeyword = true →
      q.kind.isKeyword = true ∨ q.kind = .variadicKeyword := by
    intro hk
    cases h.reaches hf hg hr (.name hr.left hk rfl) with
    | name _ hk _ => exact Or.inl hk
    | keywordRest _ _ hk => exact Or.inr hk
  cases hk : p.kind with
  | positionalOnly =>
    rw [hk] at hplace
    rcases hplace rfl with hq | hq
    · rcases ParameterKind.isPositional_iff.1 hq with hq | hq <;> rw [hq] <;> rfl
    · rw [hq]; rfl
  | positionalOrKeyword =>
    rw [hk] at hplace hname
    have hq := And.intro (hplace rfl) (hname rfl)
    revert hq
    cases q.kind <;> decide
  | keywordOnly =>
    rw [hk] at hname
    rcases hname rfl with hq | hq
    · rcases ParameterKind.isKeyword_iff.1 hq with hq | hq <;> rw [hq] <;> rfl
    · rw [hq]; rfl
  | variadicPositional =>
    cases h.reaches hf hg hr (.rest (le_max_left _ g.positionals.length) hr.left hk) with
    | place hj =>
      exact absurd (List.getElem?_eq_some_iff.1 hj).1 (Nat.not_lt.2 (le_max_right _ _))
    | rest _ _ hq => rw [hq]; rfl
  | variadicKeyword =>
    obtain ⟨x, hxf, hxg⟩ := exists_fresh f g
    cases h.reaches hf hg hr (.keywordRest (not_takesKeyword hxf) hr.left hk) with
    | name hq _ hx => exact absurd (hx ▸ name_mem hq) hxg
    | keywordRest _ _ hq => rw [hq]; rfl

end ChangeReview.Callable
