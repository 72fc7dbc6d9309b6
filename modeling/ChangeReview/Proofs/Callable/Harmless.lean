import ChangeReview.Proofs.Callable.Preservation

/-!
# Changes that harm no call

Three shapes of a change that neither loses a call nor takes an argument from a parameter whose name
stays. `Appends`: optional parameters are added behind the positional ones or by keyword. `Captures`:
trailing parameters are left to the collectors. `Renames`: parameters that callers cannot name get
other names. All three can be decided.
-/

namespace ChangeReview.Callable

variable {f g : Callable} {p q r : Parameter} {i : ℕ}

instance {x : Text} : Decidable (f.TakesKeyword x) :=
  inferInstanceAs (Decidable (∃ p ∈ f.parameters, p.kind.isKeyword = true ∧ p.name = x))

instance : Decidable (Corresponds p q) :=
  decidable_of_iff (p.kind = q.kind ∧ (p.kind.isKeyword = true → p.name = q.name) ∧
      (p.default.isSome = true → q.default.isSome = true))
    ⟨fun h => ⟨h.1, h.2.1, h.2.2⟩, fun h => ⟨h.1, h.2, h.3⟩⟩

/-- A retained parameter changes its kind only to one that is compatible by itself, and does not become
required. -/
structure Softens (f g : Callable) : Prop where
  kinds : ∀ p ∈ f.parameters, ∀ q ∈ g.parameters, p.name = q.name →
    p.kind.transition q.kind = .compatible
  defaults : ∀ p ∈ f.parameters, ∀ q ∈ g.parameters, p.name = q.name →
    p.default.isSome = true → q.isRequired = false

instance : Decidable (Softens f g) :=
  decidable_of_iff
    ((∀ p ∈ f.parameters, ∀ q ∈ g.parameters, p.name = q.name →
        p.kind.transition q.kind = .compatible) ∧
      ∀ p ∈ f.parameters, ∀ q ∈ g.parameters, p.name = q.name →
        p.default.isSome = true → q.isRequired = false)
    ⟨fun h => ⟨h.1, h.2⟩, fun h => ⟨h.1, h.2⟩⟩

/-- A collector of keywords in `f` is left with the keywords it had. -/
def KeepsKeywords (f g : Callable) : Prop :=
  f.hasKind .variadicKeyword = true → ∀ q ∈ g.parameters, q.kind.isKeyword = true →
    f.TakesKeyword q.name

instance : Decidable (KeepsKeywords f g) :=
  inferInstanceAs (Decidable (f.hasKind .variadicKeyword = true →
    ∀ q ∈ g.parameters, q.kind.isKeyword = true → f.TakesKeyword q.name))

/-- Parameters are added that no call must give, behind the positional ones or by keyword, and none that
a collector would lose arguments to. -/
structure Appends (f g : Callable) : Prop extends Softens f g where
  removed : removedNames f g = []
  positionals : f.positionalNames <+: g.positionalNames
  optional : requiredNames f g = []
  rest : f.hasKind .variadicPositional = true → g.positionals.length ≤ f.positionals.length
  keywords : KeepsKeywords f g

instance : Decidable (Appends f g) :=
  decidable_of_iff
    (Softens f g ∧ removedNames f g = [] ∧ f.positionalNames <+: g.positionalNames ∧
      requiredNames f g = [] ∧
      (f.hasKind .variadicPositional = true → g.positionals.length ≤ f.positionals.length) ∧
      KeepsKeywords f g)
    ⟨fun h => ⟨h.1, h.2.1, h.2.2.1, h.2.2.2.1, h.2.2.2.2.1, h.2.2.2.2.2⟩,
      fun h => ⟨h.toSoftens, h.removed, h.positionals, h.optional, h.rest, h.keywords⟩⟩

/-- Parameters are removed whose arguments the collectors take, the positional ones from the end. -/
structure Captures (f g : Callable) : Prop extends Softens f g where
  added : removedNames g f = []
  positionals : g.positionalNames <+: f.positionalNames
  captured : ∀ p ∈ f.parameters, p.name ∉ g.names → g.dropsArguments p = false
  keywords : KeepsKeywords f g

instance : Decidable (Captures f g) :=
  decidable_of_iff
    (Softens f g ∧ removedNames g f = [] ∧ g.positionalNames <+: f.positionalNames ∧
      (∀ p ∈ f.parameters, p.name ∉ g.names → g.dropsArguments p = false) ∧ KeepsKeywords f g)
    ⟨fun h => ⟨h.1, h.2.1, h.2.2.1, h.2.2.2.1, h.2.2.2.2⟩,
      fun h => ⟨h.toSoftens, h.added, h.positionals, h.captured, h.keywords⟩⟩

/-- Parameters get other names: positional-only ones, keywords that the collector takes, collectors. -/
structure Renames (f g : Callable) : Prop extends Softens f g where
  same : sameKinds f g = true
  positionals : List.Forall₂ (fun p q => Corresponds p q ∧ (p.name ∈ g.names → p.name = q.name))
    f.positionals g.positionals
  keywords : g.hasKind .variadicKeyword = true ∨
    ∀ p ∈ f.parameters, p.kind = .keywordOnly → g.TakesKeyword p.name
  collected : ∀ p ∈ f.parameters, p.kind = .variadicKeyword → p.name ∈ g.names →
    ∀ q ∈ g.parameters, q.kind = .keywordOnly → f.TakesKeyword q.name
  optional : ∀ q ∈ g.parameters, q.kind = .keywordOnly → q.isRequired = true →
    f.TakesKeyword q.name

instance : Decidable (Renames f g) :=
  decidable_of_iff
    (Softens f g ∧ sameKinds f g = true ∧
      List.Forall₂ (fun p q => Corresponds p q ∧ (p.name ∈ g.names → p.name = q.name))
        f.positionals g.positionals ∧
      (g.hasKind .variadicKeyword = true ∨
        ∀ p ∈ f.parameters, p.kind = .keywordOnly → g.TakesKeyword p.name) ∧
      (∀ p ∈ f.parameters, p.kind = .variadicKeyword → p.name ∈ g.names →
        ∀ q ∈ g.parameters, q.kind = .keywordOnly → f.TakesKeyword q.name) ∧
      ∀ q ∈ g.parameters, q.kind = .keywordOnly → q.isRequired = true → f.TakesKeyword q.name)
    ⟨fun h => ⟨h.1, h.2.1, h.2.2.1, h.2.2.2.1, h.2.2.2.2.1, h.2.2.2.2.2⟩,
      fun h => ⟨h.toSoftens, h.same, h.positionals, h.keywords, h.collected, h.optional⟩⟩

/-! ## What the shapes share -/

theorem Softens.widens (h : Softens f g) : Widens f g where
  steps := fun p q hr => kindStep_of_transition (h.kinds p hr.left q hr.right hr.name_eq)
  defaults := fun p q hr => h.defaults p hr.left q hr.right hr.name_eq

/-- A collector stays what it is. -/
theorem Softens.variadic (h : Softens f g) (hr : Retained f g p q)
    (hv : p.kind.isVariadic = true) : q.kind = p.kind := h.widens.variadic hr hv

/-- Where no call is lost, arguments stay with the names that stay if places agree and the collectors
get nothing less. -/
theorem Softens.keeps (hg : g.WellFormed) (h : Softens f g) (hcovers : f.Covers g)
    (hplaces : ∀ (i : ℕ) (p : Parameter), f.positionals[i]? = some p → p.name ∈ g.names →
      (∃ q, g.positionals[i]? = some q ∧ p.name = q.name) ∨
        (g.positionals.length ≤ i ∧ p.name ∉ g.positionalNames))
    (hrest : f.hasKind .variadicPositional = true → g.positionals.length ≤ f.positionals.length)
    (hkeywords : ∀ p ∈ f.parameters, p.kind = .variadicKeyword → p.name ∈ g.names →
      ∀ q ∈ g.parameters, q.kind.isKeyword = true → f.TakesKeyword q.name) : f.Keeps g := by
  refine ⟨hcovers, fun a p q hp hq hname => ?_⟩
  obtain ⟨r, hr⟩ := exists_retained hp.mem hname
  have hstep := h.kinds p hr.left r hr.right hr.name_eq
  -- the argument reaches the parameter of the same name
  suffices hreach : g.Reaches a r by rw [hq.unique hg hreach, hr.name_eq]
  cases hp with
  | @place i _ hi =>
    rcases hplaces i p hi hname with ⟨s, hs, hps⟩ | ⟨hle, hnot⟩
    · rw [eq_of_name_eq hg.distinct hr.right (mem_of_place hs) (hr.name_eq.symm.trans hps)]
      exact .place hs
    · have hpos : r.kind.isPositional = false := by
        rw [Bool.eq_false_iff]
        intro hk
        exact hnot (mem_positionalNames.2 ⟨r, hr.right, hk, hr.name_eq.symm⟩)
      have hk : r.kind = .variadicPositional := by
        have := isPositional_of_place hi
        revert hstep hpos this
        cases p.kind <;> cases r.kind <;> decide
      exact .rest hle hr.right hk
  | rest hi hpf hk =>
    have hrk := (h.variadic hr (by rw [hk]; rfl)).trans hk
    exact .rest ((hrest (hasKind_iff.2 ⟨p, hpf, hk⟩)).trans hi) hr.right hrk
  | name hpf hk hx =>
    by_cases hrk : r.kind.isKeyword = true
    · exact .name hr.right hrk (hr.name_eq.symm.trans hx)
    · have hv : r.kind = .variadicKeyword := by
        revert hstep hk hrk
        cases p.kind <;> cases r.kind <;> decide
      refine .keywordRest ?_ hr.right hv
      rintro ⟨s, hs, hsk, hsx⟩
      rw [eq_of_name_eq hg.distinct hs hr.right (hsx.trans (hx.symm.trans hr.name_eq))] at hsk
      exact hrk hsk
  | keywordRest hx hpf hk =>
    have hrk := (h.variadic hr (by rw [hk]; rfl)).trans hk
    refine .keywordRest ?_ hr.right hrk
    rintro ⟨s, hs, hsk, rfl⟩
    exact hx (hkeywords p hpf hk hname s hs hsk)

/-- A positional-only parameter cannot be given by keyword beside a collector of keywords. -/
theorem KeepsKeywords.reserved (hf : f.WellFormed) (h : KeepsKeywords f g)
    (hrest : f.hasKind .variadicKeyword = true) (hr : Retained f g p q)
    (hp : p.kind = .positionalOnly) : q.kind ≠ .positionalOrKeyword := by
  intro hq
  obtain ⟨s, hs, hsk, hname⟩ := h hrest q hr.right (by rw [hq]; rfl)
  rw [eq_of_name_eq hf.distinct hs hr.left (hname.trans hr.name_eq.symm), hp] at hsk
  cases hsk

/-! ## Added parameters -/

theorem stillPositional_of_isPrefix (hf : f.WellFormed) (hg : g.WellFormed)
    (h : f.positionalNames <+: g.positionalNames) : f.stillPositional g = f.positionalNames := by
  refine List.filter_eq_self.2 fun x hx => ?_
  obtain ⟨p, hp, -, rfl⟩ := mem_positionalNames.1 hx
  obtain ⟨q, hq, hk, hname⟩ := mem_positionalNames.1 (h.subset hx)
  rw [keptByVariadic_name hf.distinct hg.distinct ⟨hp, hq, hname.symm⟩, hk]
  simp

theorem Appends.grows (hf : f.WellFormed) (hg : g.WellFormed) (h : Appends f g) : Grows f g where
  toWidens := h.widens
  removed := h.removed
  kinds := by
    have hkept : ∀ k, k.isVariadic = true → f.hasKind k = true → g.hasKind k = true := by
      intro k hv hk
      obtain ⟨p, hp, rfl⟩ := hasKind_iff.1 hk
      obtain ⟨q, hr⟩ := exists_retained hp (removedNames_eq_nil.1 h.removed p hp)
      exact h.widens.hasKind hr hv
    have hstill := stillPositional_of_isPrefix hf hg h.positionals
    refine ⟨hkept _ rfl, hkept _ rfl, ?_, ?_, ?_, ?_⟩
    · rw [hstill]
      exact h.positionals
    · rw [hstill, positionalNames_length]
      exact h.rest
    · intro p q hr hp hq j hj
      by_contra hlt
      -- the places of `f` hold the names of `f` that were positional already
      have hpj := List.getElem?_eq_getElem (Nat.lt_of_not_le hlt)
      obtain ⟨s, hs, hname⟩ := place_of_isPrefix h.positionals hpj
      rw [hj, Option.some.injEq] at hs
      have hpq := eq_of_name_eq hf.distinct (mem_of_place hpj) hr.left
        (hname.trans (hs ▸ hr.name_eq.symm))
      have := isPositional_of_place hpj
      rw [hpq, hp] at this
      cases this
    · exact fun hrest p q hr hp => h.keywords.reserved hf hrest hr hp
  optional := by
    rw [h.optional]
    rfl
  claims := by
    rw [Bool.eq_false_iff]
    intro hclaims
    obtain ⟨hrest, j, q, hj, hname, hk, -⟩ := claimsKeyword_iff.1 hclaims
    obtain ⟨p, hp, -, hpq⟩ := h.keywords hrest q (mem_of_place hj) (by rw [hk]; rfl)
    exact hname (hpq ▸ name_mem hp)

/-- Appended parameters harm no call. -/
theorem Appends.keeps (hf : f.WellFormed) (hg : g.WellFormed) (h : Appends f g) : f.Keeps g := by
  have hshared : f.SharedPlaces g := by
    intro i j p q hi hj hname _ _
    obtain ⟨s, hs, hps⟩ := place_of_isPrefix h.positionals hi
    exact place_unique hg.distinct hs hj (hps.symm.trans hname)
  refine h.toSoftens.keeps hg ((h.grows hf hg).covers hf hg hshared) ?_ h.rest ?_
  · intro i p hi _
    exact Or.inl (place_of_isPrefix h.positionals hi)
  · intro p hp hk _ q hq hqk
    exact h.keywords (hasKind_iff.2 ⟨p, hp, hk⟩) q hq hqk

/-! ## Captured parameters -/

theorem Captures.shrinks (hf : f.WellFormed) (h : Captures f g) : Shrinks f g where
  toWidens := h.widens
  added := h.added
  positionals := h.positionals
  captured := h.captured
  reserved := fun hrest _ _ hr hp => h.keywords.reserved hf hrest hr hp

/-- Captured parameters harm no call. -/
theorem Captures.keeps (hf : f.WellFormed) (hg : g.WellFormed) (h : Captures f g) : f.Keeps g := by
  have hlength : g.positionals.length ≤ f.positionals.length := by
    rw [← positionalNames_length, ← positionalNames_length]
    exact h.positionals.length_le
  refine h.toSoftens.keeps hg ((h.shrinks hf).covers hf) ?_ (fun _ => hlength) ?_
  · intro i p hi _
    by_cases hlt : i < g.positionals.length
    · have hq := List.getElem?_eq_getElem hlt
      obtain ⟨s, hs, hname⟩ := place_of_isPrefix h.positionals hq
      rw [hi, Option.some.injEq] at hs
      exact Or.inl ⟨_, hq, by rw [hname, hs]⟩
    · refine Or.inr ⟨Nat.le_of_not_lt hlt, fun hmem => ?_⟩
      obtain ⟨j, hj⟩ := List.getElem?_of_mem hmem
      obtain ⟨q, hq, hqp⟩ := positionalNames_place.1 hj
      obtain ⟨s, hs, hname⟩ := place_of_isPrefix h.positionals hq
      rw [place_unique hf.distinct hi hs (hqp.symm.trans hname)] at hlt
      exact hlt (List.getElem?_eq_some_iff.1 hq).1
  · intro p hp hk _ q hq hqk
    exact h.keywords (hasKind_iff.2 ⟨p, hp, hk⟩) q hq hqk

/-! ## Renamed parameters -/

theorem Renames.aligned (h : Renames f g) : Aligned f g where
  positionals := h.positionals.imp fun _ _ hpq => hpq.1
  rest := hasKind_of_sameKinds h.same
  keywordRest := hasKind_of_sameKinds h.same
  keywords := by
    intro p hp hk
    rcases h.keywords with hrest | htakes
    · exact Or.inr hrest
    · exact Or.inl (htakes p hp hk)
  demands := by
    intro q hq hk hreq
    obtain ⟨p, hp, -, hname⟩ := h.optional q hq hk hreq
    obtain ⟨hpreq, hkind⟩ := h.widens.required ⟨hp, hq, hname⟩ hreq
    rw [hk] at hkind
    rcases hkind with hkind | hkind
    · exact ⟨p, hp, hkind.symm, hpreq, hname⟩
    · cases hkind

/-- Renamed parameters harm no call. -/
theorem Renames.keeps (hf : f.WellFormed) (hg : g.WellFormed) (h : Renames f g) : f.Keeps g := by
  refine h.toSoftens.keeps hg (h.aligned.covers hf) ?_
    (fun _ => Nat.le_of_eq h.positionals.length_eq.symm) ?_
  · intro i p hi hname
    obtain ⟨q, hq, -, hpq⟩ := exists_right_of_forall₂ h.positionals hi
    exact Or.inl ⟨q, hq, hpq hname⟩
  · intro p hp hk hname q hq hqk
    rcases ParameterKind.isKeyword_iff.1 hqk with hqk | hqk
    · obtain ⟨j, hj⟩ := exists_place hq (by rw [hqk]; rfl)
      obtain ⟨s, hs, hsq, -⟩ := exists_left_of_forall₂ h.positionals hj
      have hsk : s.kind.isKeyword = true := by rw [hsq.kind, hqk]; rfl
      exact ⟨s, mem_of_place hs, hsk, hsq.name hsk⟩
    · exact h.collected p hp hk hname q hq hqk

/-! ## Harmless changes -/

/-- The change has one of the three shapes. -/
def Harmless (f g : Callable) : Prop := Appends f g ∨ Captures f g ∨ Renames f g

instance : Decidable (Harmless f g) :=
  inferInstanceAs (Decidable (Appends f g ∨ Captures f g ∨ Renames f g))

/-- **Harmless changes.** No call is lost, and no argument leaves a name that stays. -/
theorem Harmless.keeps (hf : f.WellFormed) (hg : g.WellFormed) (h : Harmless f g) : f.Keeps g := by
  rcases h with h | h | h
  · exact h.keeps hf hg
  · exact h.keeps hf hg
  · exact h.keeps hf hg

end ChangeReview.Callable
