import ChangeReview.Proofs.Callable.Call

/-!
# Accepted calls

`Fits` says what a call must be like in terms of the parameter list. `sparse` gives calls that a function
accepts: a chosen number of positional arguments, chosen keywords, and beyond these only what the
function requires. Every argument that reaches a parameter occurs in such a call.
-/

namespace ChangeReview.Callable

variable {f : Callable} {c : Call} {a : Argument} {p q : Parameter} {x : Text} {i n : ℕ}

/-- The call binds the parameter by position or by its name. -/
def Binds (f : Callable) (c : Call) (p : Parameter) : Prop :=
  (∃ i < c.positional, f.positionals[i]? = some p) ∨
    (p.kind.isKeyword = true ∧ p.name ∈ c.keywords)

theorem Reaches.binds (h : f.Reaches a p) (ha : a ∈ c.arguments)
    (hp : p.kind.isVariadic = false) : f.Binds c p := by
  cases h with
  | place h => exact Or.inl ⟨_, Call.position_mem.1 ha, h⟩
  | rest _ _ hk => rw [hk] at hp; cases hp
  | name _ hk hx => exact Or.inr ⟨hk, hx ▸ Call.keyword_mem.1 ha⟩
  | keywordRest _ _ hk => rw [hk] at hp; cases hp

theorem Binds.exists_reaches (h : f.Binds c p) (hp : p ∈ f.parameters) :
    ∃ a ∈ c.arguments, f.Reaches a p := by
  rcases h with ⟨i, hi, hplace⟩ | ⟨hk, hx⟩
  · exact ⟨.position i, Call.position_mem.2 hi, .place hplace⟩
  · exact ⟨.keyword p.name, Call.keyword_mem.2 hx, .name hp hk rfl⟩

/-- What a call of `f` must be like, read off the parameter list. -/
structure Fits (f : Callable) (c : Call) : Prop where
  capacity : c.positional ≤ f.positionals.length ∨ f.hasKind .variadicPositional = true
  keywords : ∀ x ∈ c.keywords, f.TakesKeyword x ∨ f.hasKind .variadicKeyword = true
  single : ∀ (i : ℕ) (p : Parameter), f.positionals[i]? = some p → p.kind = .positionalOrKeyword →
    i < c.positional → p.name ∉ c.keywords
  binds : ∀ p ∈ f.parameters, p.isRequired = true → f.Binds c p

theorem Accepts.fits (hf : f.WellFormed) (h : f.Accepts c) : f.Fits c where
  capacity := by
    by_contra hover
    rw [not_or, Nat.not_le] at hover
    obtain ⟨p, hp⟩ := Option.isSome_iff_exists.1 (h.received _ (Call.position_mem.2 hover.1))
    rcases exists_reaches_position.1 ⟨p, (receiver?_eq_some hf).1 hp⟩ with hlt | hrest
    · exact Nat.lt_irrefl _ hlt
    · exact hover.2 hrest
  keywords := by
    intro x hx
    obtain ⟨p, hp⟩ := Option.isSome_iff_exists.1 (h.received _ (Call.keyword_mem.2 hx))
    exact exists_reaches_keyword.1 ⟨p, (receiver?_eq_some hf).1 hp⟩
  single := by
    intro i p hi hk hlt hx
    have hkey : f.Reaches (.keyword p.name) p := .name (mem_of_place hi) (by rw [hk]; rfl) rfl
    rcases h.once _ (Call.position_mem.2 hlt) _ (Call.keyword_mem.2 hx) p (mem_of_place hi)
      ((receiver?_eq_some hf).2 (.place hi)) ((receiver?_eq_some hf).2 hkey) with heq | hv
    · cases heq
    · rw [hk] at hv; cases hv
  binds := by
    intro p hp hreq
    obtain ⟨a, ha, hap⟩ := h.required p hp hreq
    exact ((receiver?_eq_some hf).1 hap).binds ha (Parameter.isRequired_iff.1 hreq).1

/-- A call that fits hands one argument to a fixed parameter: not its place and its name. -/
theorem Fits.once {b : Argument} (hf : f.WellFormed) (h : f.Fits c) (ha : a ∈ c.arguments)
    (hb : b ∈ c.arguments) (hap : f.Reaches a p) (hbp : f.Reaches b p) :
    a = b ∨ p.kind.isVariadic = true := by
  have hmixed : ∀ i, f.positionals[i]? = some p → i < c.positional →
      p.kind.isKeyword = true → p.name ∉ c.keywords := fun i hi hlt hk =>
    h.single i p hi (ParameterKind.eq_positionalOrKeyword (isPositional_of_place hi) hk) hlt
  cases hap with
  | place hi =>
    cases hbp with
    | place hj => exact Or.inl (by rw [place_unique hf.distinct hi hj rfl])
    | rest _ _ hk => exact Or.inr (by rw [hk]; rfl)
    | name _ hk hx =>
      exact absurd (hx ▸ Call.keyword_mem.1 hb) (hmixed _ hi (Call.position_mem.1 ha) hk)
    | keywordRest _ _ hk => exact Or.inr (by rw [hk]; rfl)
  | rest _ _ hk => exact Or.inr (by rw [hk]; rfl)
  | name _ hk hx =>
    cases hbp with
    | place hj =>
      exact absurd (hx ▸ Call.keyword_mem.1 ha) (hmixed _ hj (Call.position_mem.1 hb) hk)
    | rest _ _ hk => exact Or.inr (by rw [hk]; rfl)
    | name _ _ hy => exact Or.inl (by rw [← hx, ← hy])
    | keywordRest _ _ hk => exact Or.inr (by rw [hk]; rfl)
  | keywordRest _ _ hk => exact Or.inr (by rw [hk]; rfl)

theorem Fits.accepts (hf : f.WellFormed) (h : f.Fits c) : f.Accepts c where
  received := by
    intro a ha
    obtain ⟨p, hp⟩ : ∃ p, f.Reaches a p := by
      cases a with
      | position i =>
        exact exists_reaches_position.2
          (h.capacity.imp_left (Nat.lt_of_lt_of_le (Call.position_mem.1 ha)))
      | keyword x => exact exists_reaches_keyword.2 (h.keywords x (Call.keyword_mem.1 ha))
    rw [(receiver?_eq_some hf).2 hp, Option.isSome_some]
  once := by
    intro a ha b hb p _ hap hbp
    rw [receiver?_eq_some hf] at hap hbp
    exact h.once hf ha hb hap hbp
  required := by
    intro p hp hreq
    obtain ⟨a, ha, hap⟩ := (h.binds p hp hreq).exists_reaches hp
    exact ⟨a, ha, (receiver?_eq_some hf).2 hap⟩

/-- No call goes without the forced positional arguments. -/
theorem Accepts.forced_le (hf : f.WellFormed) (h : f.Accepts c) : f.forced ≤ c.positional := by
  by_contra hlt
  rw [Nat.not_le] at hlt
  have hplace := List.getElem?_eq_getElem (Nat.lt_of_lt_of_le hlt forced_le_length)
  obtain ⟨hreq, hkind⟩ := (hf.lt_forced_iff hplace).1 hlt
  rcases (h.fits hf).binds _ (mem_of_place hplace) hreq with ⟨i, hi, hp⟩ | ⟨hk, -⟩
  · exact absurd (place_unique hf.distinct hp hplace rfl) (Nat.ne_of_lt hi)
  · rw [hkind] at hk; cases hk

/-! ## Sparse calls -/

/-- The parameter takes none of the first `n` positional arguments. -/
def Beyond (f : Callable) (n : ℕ) (p : Parameter) : Prop :=
  ∀ i : ℕ, f.positionals[i]? = some p → n ≤ i

theorem beyond_iff : f.Beyond n p ↔ p ∉ f.positionals.take n := by
  unfold Beyond
  rw [List.mem_take_iff_getElem]
  constructor
  · rintro h ⟨i, hi, hp⟩
    have := h i (List.getElem?_eq_some_iff.2 ⟨by omega, hp⟩)
    omega
  · intro h i hi
    obtain ⟨hlt, hp⟩ := List.getElem?_eq_some_iff.1 hi
    by_contra hn
    exact h ⟨i, by omega, hp⟩

/-- A call with `n` positional arguments may give the keyword. -/
def Free (f : Callable) (n : ℕ) (x : Text) : Prop :=
  (∃ p ∈ f.parameters, p.kind.isKeyword = true ∧ p.name = x ∧ f.Beyond n p) ∨
    (¬ f.TakesKeyword x ∧ f.hasKind .variadicKeyword = true)

/-- A call with `n` positional arguments and the keywords `xs`, and by keyword what else is required. -/
def sparse (f : Callable) (n : ℕ) (xs : Finset Text) : Call :=
  ⟨n, xs ∪ ((f.parameters.filter fun p =>
    p.isRequired && p.kind.isKeyword && !(f.positionals.take n).contains p).map (·.name)).toFinset⟩

theorem mem_sparse_keywords {xs : Finset Text} :
    x ∈ (f.sparse n xs).keywords ↔ x ∈ xs ∨
      ∃ p ∈ f.parameters, p.isRequired = true ∧ p.kind.isKeyword = true ∧ f.Beyond n p ∧
        p.name = x := by
  unfold sparse
  simp only [Finset.mem_union, List.mem_toFinset, List.mem_map, List.mem_filter, Bool.and_eq_true,
    Bool.not_eq_true', List.contains_eq_mem, decide_eq_false_iff_not, ← beyond_iff, and_assoc]

theorem sparse_accepts (hf : f.WellFormed) {xs : Finset Text} (hn : f.forced ≤ n)
    (hpos : n ≤ f.positionals.length ∨ f.hasKind .variadicPositional = true)
    (hxs : ∀ x ∈ xs, f.Free n x) : f.Accepts (f.sparse n xs) := by
  refine Fits.accepts hf ⟨hpos, ?_, ?_, ?_⟩
  · intro x hx
    rcases mem_sparse_keywords.1 hx with hx | ⟨p, hp, -, hk, -, hname⟩
    · rcases hxs x hx with ⟨p, hp, hk, hname, -⟩ | ⟨-, hrest⟩
      · exact Or.inl ⟨p, hp, hk, hname⟩
      · exact Or.inr hrest
    · exact Or.inl ⟨p, hp, hk, hname⟩
  · intro i p hi hk hlt hx
    have hp := mem_of_place hi
    have hbeyond : ¬ f.Beyond n p := fun h => Nat.not_lt_of_le (h i hi) hlt
    rcases mem_sparse_keywords.1 hx with hx | ⟨q, hq, -, -, hb, hname⟩
    · rcases hxs _ hx with ⟨q, hq, -, hname, hb⟩ | ⟨htakes, -⟩
      · exact hbeyond (eq_of_name_eq hf.distinct hq hp hname ▸ hb)
      · exact htakes ⟨p, hp, by rw [hk]; rfl, rfl⟩
    · exact hbeyond (eq_of_name_eq hf.distinct hq hp hname ▸ hb)
  · intro p hp hreq
    by_cases hb : f.Beyond n p
    · by_cases hk : p.kind.isKeyword = true
      · exact Or.inr ⟨hk, mem_sparse_keywords.2 (Or.inr ⟨p, hp, hreq, hk, hb, rfl⟩)⟩
      · -- a required parameter that no keyword binds is positional only, hence forced
        have hkind := ParameterKind.eq_positionalOnly (Parameter.isRequired_iff.1 hreq).1 hk
        obtain ⟨i, hi⟩ := exists_place hp (by rw [hkind]; rfl)
        have hlt := (hf.lt_forced_iff hi).2 ⟨hreq, hkind⟩
        exact Or.inl ⟨i, Nat.lt_of_lt_of_le hlt hn, hi⟩
    · unfold Beyond at hb
      simp only [not_forall, Nat.not_le] at hb
      obtain ⟨i, hi, hlt⟩ := hb
      exact Or.inl ⟨i, hlt, hi⟩

/-- The least call: forced arguments by position, the other required ones by keyword. -/
def leastCall (f : Callable) : Call := f.sparse f.forced ∅

theorem leastCall_accepts (hf : f.WellFormed) : f.Accepts f.leastCall :=
  sparse_accepts hf (Nat.le_refl _) (Or.inl forced_le_length) (by simp)

/-- Forced places are not those of a parameter that a keyword binds. -/
theorem WellFormed.beyond_forced (hf : f.WellFormed) (hk : p.kind.isKeyword = true) :
    f.Beyond f.forced p := by
  intro i hi
  by_contra hlt
  have := ((hf.lt_forced_iff hi).1 (Nat.lt_of_not_le hlt)).2
  rw [this] at hk
  cases hk

theorem WellFormed.free_forced (hf : f.WellFormed) (h : f.Reaches (.keyword x) p) :
    f.Free f.forced x := by
  cases h with
  | name hp hk hx => exact Or.inl ⟨_, hp, hk, hx, hf.beyond_forced hk⟩
  | keywordRest hx hp hk => exact Or.inr ⟨hx, hasKind_iff.2 ⟨_, hp, hk⟩⟩

/-- A call may hold an argument at position `i` and the keyword besides. -/
theorem exists_accepts_both (hf : f.WellFormed)
    (hi : i < f.positionals.length ∨ f.hasKind .variadicPositional = true)
    (hx : f.Free (i + 1) x) :
    ∃ c, f.Accepts c ∧ .position i ∈ c.arguments ∧ .keyword x ∈ c.arguments := by
  have hfree : f.Free (max (i + 1) f.forced) x := by
    rcases hx with ⟨p, hp, hk, hname, hb⟩ | hx
    · refine Or.inl ⟨p, hp, hk, hname, fun j hj => ?_⟩
      exact max_le (hb j hj) (hf.beyond_forced hk j hj)
    · exact Or.inr hx
  refine ⟨f.sparse (max (i + 1) f.forced) {x}, sparse_accepts hf (le_max_right _ _) ?_ ?_, ?_, ?_⟩
  · exact hi.imp_left fun h => max_le h forced_le_length
  · intro y hy
    rwa [Finset.mem_singleton.1 hy]
  · rw [Call.position_mem]
    exact Nat.lt_of_lt_of_le (Nat.lt_succ_self i) (le_max_left _ _)
  · rw [Call.keyword_mem, mem_sparse_keywords]
    exact Or.inl (Finset.mem_singleton_self x)

/-- Every argument that reaches a parameter stands in an accepted call. -/
theorem Reaches.exists_accepts (hf : f.WellFormed) (h : f.Reaches a p) :
    ∃ c, f.Accepts c ∧ a ∈ c.arguments := by
  cases a with
  | position i =>
    refine ⟨f.sparse (max (i + 1) f.forced) ∅, sparse_accepts hf (le_max_right _ _) ?_ ?_, ?_⟩
    · exact (exists_reaches_position.1 ⟨p, h⟩).imp_left fun h => max_le h forced_le_length
    · intro y hy
      exact absurd hy (Finset.notMem_empty y)
    · rw [Call.position_mem]
      exact Nat.lt_of_lt_of_le (Nat.lt_succ_self i) (le_max_left _ _)
  | keyword x =>
    refine ⟨f.sparse f.forced {x}, sparse_accepts hf (Nat.le_refl _) (Or.inl forced_le_length) ?_, ?_⟩
    · intro y hy
      rw [Finset.mem_singleton.1 hy]
      exact hf.free_forced h
    · rw [Call.keyword_mem, mem_sparse_keywords]
      exact Or.inl (Finset.mem_singleton_self x)

end ChangeReview.Callable
