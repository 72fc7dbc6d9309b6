import ChangeReview.Proofs.Callable.Demand
import ChangeReview.Proofs.Callable.Harmless

/-!
# What follows when no call is harmed

Suppose that `g` takes every call of `f` and leaves every argument with its name as long as the name
stays. Then retained parameters soften, names in one place agree, the collectors lose nothing, and the
checks of an assessment pass.
-/

namespace ChangeReview.Callable

variable {f g : Callable} {p q : Parameter} {x : Text} {i j : ℕ}

/-- Names that agree in every common place make the shorter list the beginning of the longer one. -/
theorem isPrefix_of_agree (hle : f.positionals.length ≤ g.positionals.length)
    (h : ∀ (i : ℕ) (p q : Parameter), f.positionals[i]? = some p → g.positionals[i]? = some q →
      p.name = q.name) : f.positionalNames <+: g.positionalNames := by
  rw [List.prefix_iff_getElem?]
  intro i hi
  have hfi := List.getElem?_eq_getElem hi
  obtain ⟨p, hp, hpx⟩ := positionalNames_place.1 hfi
  rw [positionalNames_length] at hi
  have hq := List.getElem?_eq_getElem (Nat.lt_of_lt_of_le hi hle)
  exact positionalNames_place.2 ⟨_, hq, (h i p _ hp hq).symm.trans hpx⟩

namespace Keeps

/-! ## Places -/

/-- A retained positional parameter stays in its place, or it becomes the collector and its place lies
behind the others. -/
theorem place_or_rest (hf : f.WellFormed) (hg : g.WellFormed) (h : f.Keeps g)
    (hr : Retained f g p q) (hi : f.positionals[i]? = some p) :
    g.positionals[i]? = some q ∨ (g.positionals.length ≤ i ∧ q.kind = .variadicPositional) := by
  cases h.reaches hf hg hr (.place hi) with
  | place hq => exact Or.inl hq
  | rest hle _ hk => exact Or.inr ⟨hle, hk⟩

theorem place (hf : f.WellFormed) (hg : g.WellFormed) (h : f.Keeps g) (hr : Retained f g p q)
    (hi : f.positionals[i]? = some p) (hq : q.kind.isPositional = true) :
    g.positionals[i]? = some q := by
  rcases h.place_or_rest hf hg hr hi with hplace | ⟨-, hk⟩
  · exact hplace
  · rw [hk] at hq
    cases hq

/-- A keyword-only parameter becomes positional only behind all places of `f`. -/
theorem keyword_place (hf : f.WellFormed) (hg : g.WellFormed) (h : f.Keeps g)
    (hr : Retained f g p q) (hp : p.kind = .keywordOnly) (hj : g.positionals[j]? = some q) :
    f.positionals.length ≤ j ∧ f.hasKind .variadicPositional = false := by
  have hq : q.kind = .positionalOrKeyword := by
    have hstep := h.transition hf hg hr
    have hpos := isPositional_of_place hj
    rw [hp] at hstep
    revert hstep hpos
    cases q.kind <;> decide
  have hfree : f.Free (j + 1) q.name := by
    refine Or.inl ⟨p, hr.left, by rw [hp]; rfl, hr.name_eq, fun i hi => ?_⟩
    have := isPositional_of_place hi
    rw [hp] at this
    cases this
  have hnot := fun hpos => h.single j q hj hq hpos hfree
  rw [← Nat.not_lt, ← Bool.not_eq_true]
  exact ⟨fun hlt => hnot (Or.inl hlt), fun hrest => hnot (Or.inr hrest)⟩

/-- Where `f` takes a position, a name of `f` that `g` has there was there before. -/
theorem source (hf : f.WellFormed) (hg : g.WellFormed) (h : f.Keeps g)
    (hj : g.positionals[j]? = some q) (hname : q.name ∈ f.names)
    (hpos : j < f.positionals.length ∨ f.hasKind .variadicPositional = true) :
    ∃ p, f.positionals[j]? = some p ∧ p.name = q.name := by
  obtain ⟨p, hp, hpq⟩ := mem_names.1 hname
  have hr : Retained f g p q := ⟨hp, mem_of_place hj, hpq⟩
  have hqpos := isPositional_of_place hj
  by_cases hk : p.kind.isPositional = true
  · obtain ⟨i, hi⟩ := exists_place hp hk
    have hij := place_unique hg.distinct (h.place hf hg hr hi hqpos) hj rfl
    exact ⟨p, hij ▸ hi, hpq⟩
  · have hkey : p.kind = .keywordOnly := by
      have hstep := h.transition hf hg hr
      revert hstep hqpos hk
      cases p.kind <;> cases q.kind <;> decide
    obtain ⟨hle, hnone⟩ := h.keyword_place hf hg hr hkey hj
    rcases hpos with hlt | hrest
    · omega
    · rw [hnone] at hrest
      cases hrest

/-- Names in one place agree if either of them is known to the other function. -/
theorem agree (hf : f.WellFormed) (hg : g.WellFormed) (h : f.Keeps g)
    (hp : f.positionals[i]? = some p) (hq : g.positionals[i]? = some q)
    (hname : p.name ∈ g.names ∨ q.name ∈ f.names) : p.name = q.name := by
  rcases hname with hname | hname
  · exact (h.names_stay _ p q (.place hp) (.place hq) hname).symm
  · have hlt := (List.getElem?_eq_some_iff.1 hp).1
    obtain ⟨s, hs, hsq⟩ := h.source hf hg hq hname (Or.inl hlt)
    rw [hp, Option.some.injEq] at hs
    rw [hs, hsq]

/-- Names in one place agree if no name is removed or none is added. -/
theorem agree_of_known (hf : f.WellFormed) (hg : g.WellFormed) (h : f.Keeps g)
    (hknown : removedNames f g = [] ∨ removedNames g f = []) (i : ℕ) (p q : Parameter)
    (hp : f.positionals[i]? = some p) (hq : g.positionals[i]? = some q) : p.name = q.name := by
  refine h.agree hf hg hp hq (hknown.imp ?_ ?_)
  · exact fun hremoved => removedNames_eq_nil.1 hremoved p (mem_of_place hp)
  · exact fun hadded => removedNames_eq_nil.1 hadded q (mem_of_place hq)

/-- Nothing is put before the collector of positional arguments. -/
theorem rest_le (hf : f.WellFormed) (hg : g.WellFormed) (h : f.Keeps g)
    (hknown : removedNames f g = [] ∨ removedNames g f = [])
    (hrest : f.hasKind .variadicPositional = true) :
    g.positionals.length ≤ f.positionals.length := by
  by_contra hlt
  obtain ⟨p, hp, hk⟩ := hasKind_iff.1 hrest
  -- `q` takes the first position that went to the collector of `f`
  have hq := List.getElem?_eq_getElem (Nat.lt_of_not_le hlt)
  have hname : g.positionals[f.positionals.length].name ∈ f.names := by
    rcases hknown with hremoved | hadded
    · have hpg := removedNames_eq_nil.1 hremoved p hp
      have hreach : f.Reaches (.position f.positionals.length) p := .rest (Nat.le_refl _) hp hk
      rw [h.names_stay _ p _ hreach (.place hq) hpg]
      exact name_mem hp
    · exact removedNames_eq_nil.1 hadded _ (mem_of_place hq)
  obtain ⟨s, hs, -⟩ := h.source hf hg hq hname (Or.inr hrest)
  exact Nat.lt_irrefl _ (List.getElem?_eq_some_iff.1 hs).1

/-! ## Keywords -/

/-- A retained collector of keywords keeps those it had. -/
theorem takesKeyword (hf : f.WellFormed) (hg : g.WellFormed) (h : f.Keeps g)
    (hp : p ∈ f.parameters) (hk : p.kind = .variadicKeyword) (hname : p.name ∈ g.names)
    (hx : g.TakesKeyword x) : f.TakesKeyword x := by
  by_contra hnot
  obtain ⟨q, hq, hqk, hqx⟩ := hx
  have hsame := h.names_stay _ p q (.keywordRest hnot hp hk) (.name hq hqk hqx) hname
  have hstep := h.transition hf hg ⟨hp, hq, hsame.symm⟩
  rw [hk] at hstep
  revert hstep hqk
  cases q.kind <;> decide

/-- Beside a collector of keywords a positional-only parameter does not become a keyword. -/
theorem reserved (hf : f.WellFormed) (hg : g.WellFormed) (h : f.Keeps g)
    (hrest : f.hasKind .variadicKeyword = true) (hr : Retained f g p q)
    (hp : p.kind = .positionalOnly) : q.kind ≠ .positionalOrKeyword := by
  intro hq
  obtain ⟨i, hi⟩ := exists_place hr.left (by rw [hp]; rfl)
  have hqi := h.place hf hg hr hi (by rw [hq]; rfl)
  refine h.single i q hqi hq (Or.inl (List.getElem?_eq_some_iff.1 hi).1) (Or.inr ⟨?_, hrest⟩)
  rintro ⟨s, hs, hsk, hsx⟩
  rw [eq_of_name_eq hf.distinct hs hr.left (hsx.trans hr.name_eq.symm), hp] at hsk
  cases hsk

/-! ## Defaults -/

/-- A retained parameter does not become required. -/
theorem default_stays (hf : f.WellFormed) (hg : g.WellFormed) (h : f.Keeps g)
    (hr : Retained f g p q) (hp : p.default.isSome = true) : q.isRequired = false := by
  rw [Bool.eq_false_iff]
  intro hreq
  have hpreq : ¬ p.isRequired = true := by
    intro hpreq
    rw [(Parameter.isRequired_iff.1 hpreq).2] at hp
    cases hp
  rcases h.demands q hr.right hreq with ⟨j, hj, hqj⟩ | ⟨s, hs, hsreq, -, -, hsq, -⟩
  · -- the place of `q` is filled by every call, so `p` has another one in `f`
    have hlt := Nat.lt_of_lt_of_le hj forced_le_length
    obtain ⟨s, hs, hsq⟩ := h.source hf hg hqj (hr.name_eq ▸ name_mem hr.left) (Or.inl hlt)
    have hsp := eq_of_name_eq hf.distinct (mem_of_place hs) hr.left (hsq.trans hr.name_eq.symm)
    exact hpreq (hsp ▸ ((hf.lt_forced_iff hs).1 hj).1)
  · exact hpreq (eq_of_name_eq hf.distinct hs hr.left (hsq.trans hr.name_eq.symm) ▸ hsreq)

theorem softens (hf : f.WellFormed) (hg : g.WellFormed) (h : f.Keeps g) : Softens f g where
  kinds := fun _ hp _ hq hname => h.transition hf hg ⟨hp, hq, hname⟩
  defaults := fun _ hp _ hq hname => h.default_stays hf hg ⟨hp, hq, hname⟩

/-! ## Checks that pass -/

theorem outcomes (hf : f.WellFormed) (hg : g.WellFormed) (h : f.Keeps g) :
    Verdict.breaking ∉ g.kindOutcomes (kindChanges f g) := by
  rw [mem_kindOutcomes hf.distinct hg.distinct]
  rintro ⟨p, q, hr, -, hv⟩
  rw [kindOutcome_of_transition (h.transition hf hg hr)] at hv
  cases hv

theorem placeChanges_eq_nil (hf : f.WellFormed) (hg : g.WellFormed) (h : f.Keeps g) :
    placeChanges f g = [] := by
  rw [Callable.placeChanges_eq_nil hf.distinct hg.distinct]
  intro i j p q hi hj hname
  have hr : Retained f g p q := ⟨mem_of_place hi, mem_of_place hj, hname⟩
  exact place_unique hg.distinct (h.place hf hg hr hi (isPositional_of_place hj)) hj rfl

/-- Whether kinds fit together rests on the order of the positional names. -/
theorem kindsFit (hf : f.WellFormed) (hg : g.WellFormed) (h : f.Keeps g)
    (hlead : f.stillPositional g <+: g.positionalNames)
    (hfull : f.hasKind .variadicPositional = true →
      g.positionals.length ≤ (f.stillPositional g).length) : KindsFit f g where
  rest := h.rest
  keywordRest := h.keywordRest
  lead := hlead
  full := hfull
  behind := fun _ _ hr hp _ _ hj => (h.keyword_place hf hg hr hp hj).1
  reserved := fun hrest _ _ hr hp => h.reserved hf hg hrest hr hp

theorem kindsFit_of_isPrefix (hf : f.WellFormed) (hg : g.WellFormed) (h : f.Keeps g)
    (hknown : removedNames f g = [] ∨ removedNames g f = [])
    (hlead : f.positionalNames <+: g.positionalNames) : KindsFit f g := by
  have hstill := stillPositional_of_isPrefix hf hg hlead
  refine h.kindsFit hf hg (hstill ▸ hlead) fun hrest => ?_
  rw [hstill, positionalNames_length]
  exact h.rest_le hf hg hknown hrest

/-- Where positional names only leave the end, for the collector, the check sees those that are left. -/
theorem stillPositional_eq (hf : f.WellFormed) (hg : g.WellFormed) (h : f.Keeps g)
    (hremoved : removedNames f g = []) (hlead : g.positionalNames <+: f.positionalNames) :
    f.stillPositional g = g.positionalNames := by
  have hkept : ∀ y ∈ f.positionalNames,
      (!keptByVariadic f g y) = g.positionalNames.contains y := by
    intro y hy
    obtain ⟨i, hi⟩ := List.getElem?_of_mem hy
    obtain ⟨p, hp, rfl⟩ := positionalNames_place.1 hi
    have hpf := mem_of_place hp
    obtain ⟨q, hr⟩ := exists_retained hpf (removedNames_eq_nil.1 hremoved p hpf)
    rw [keptByVariadic_name hf.distinct hg.distinct hr, isPositional_of_place hp]
    rcases h.place_or_rest hf hg hr hp with hq | ⟨-, hq⟩
    · have hmem : p.name ∈ g.positionalNames :=
        mem_positionalNames.2 ⟨q, hr.right, isPositional_of_place hq, hr.name_eq.symm⟩
      simp [isPositional_of_place hq, hmem]
    · have hnot : p.name ∉ g.positionalNames := by
        intro hmem
        obtain ⟨s, hs, hsk, hsp⟩ := mem_positionalNames.1 hmem
        rw [eq_of_name_eq hg.distinct hs hr.right (hsp.trans hr.name_eq), hq] at hsk
        cases hsk
      simp [hq, hnot, ParameterKind.isPositional]
  unfold stillPositional
  rw [List.filter_congr hkept]
  -- what follows the names of `g` shares none with them
  obtain ⟨rest, hrest⟩ := hlead
  have hdisjoint := (List.nodup_append.1 (hrest ▸ positionalNames_nodup hf.distinct)).2.2
  rw [← hrest, List.filter_append, List.filter_eq_self.2 fun y hy => by simpa using hy,
    List.filter_eq_nil_iff.2 fun y hy => ?_, List.append_nil]
  intro hmem
  exact hdisjoint y (by simpa using hmem) y hy rfl

/-- Where no name is removed, changed kinds fit together. -/
theorem kindsFit_of_removed (hf : f.WellFormed) (hg : g.WellFormed) (h : f.Keeps g)
    (hremoved : removedNames f g = []) : KindsFit f g := by
  have hagree := h.agree_of_known hf hg (Or.inl hremoved)
  rcases Nat.le_total f.positionals.length g.positionals.length with hle | hle
  · exact h.kindsFit_of_isPrefix hf hg (Or.inl hremoved) (isPrefix_of_agree hle hagree)
  · have hlead := isPrefix_of_agree hle fun i q p hq hp => (hagree i p q hp hq).symm
    have hstill := h.stillPositional_eq hf hg hremoved hlead
    refine h.kindsFit hf hg (hstill ▸ List.prefix_refl _) fun _ => ?_
    rw [hstill, positionalNames_length]

end Keeps

end ChangeReview.Callable
