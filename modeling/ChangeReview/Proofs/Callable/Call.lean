import Mathlib.Data.Finset.Card
import Mathlib.Data.Finset.Union
import ChangeReview.Proofs.Callable.WellFormed

/-!
# Calls

A call is known by its shape: how many positional arguments it has, and its keywords. Positional
arguments fill the positional parameters in order, and a keyword binds the parameter of its name that
can be given by keyword. What is left goes to the collectors. A function accepts a call that leaves no
argument over, binds no parameter twice and binds every required one.
-/

namespace ChangeReview

/-- An argument of a call, told by its position or by its keyword. -/
inductive Argument where
  | position (index : ℕ)
  | keyword (name : Text)
deriving DecidableEq

/-- The shape of a call. -/
structure Call where
  positional : ℕ
  keywords : Finset Text
deriving DecidableEq

namespace Call

/-- The arguments of a call. -/
def arguments (c : Call) : Finset Argument :=
  (Finset.range c.positional).image .position ∪ c.keywords.image .keyword

@[simp] theorem position_mem {c : Call} {i : ℕ} :
    .position i ∈ c.arguments ↔ i < c.positional := by
  simp [arguments]

@[simp] theorem keyword_mem {c : Call} {x : Text} :
    .keyword x ∈ c.arguments ↔ x ∈ c.keywords := by
  simp [arguments]

theorem card_arguments_le (c : Call) : c.arguments.card ≤ c.positional + c.keywords.card := by
  calc c.arguments.card ≤ _ + _ := Finset.card_union_le _ _
    _ ≤ (Finset.range c.positional).card + c.keywords.card :=
      Nat.add_le_add Finset.card_image_le Finset.card_image_le
    _ = c.positional + c.keywords.card := by rw [Finset.card_range]

end Call

namespace Callable

variable {f g : Callable} {c : Call} {a : Argument} {p q : Parameter} {x : Text} {i : ℕ}

/-- The parameter that collects what is left over, by its kind. -/
def collector? (f : Callable) (kind : ParameterKind) : Option Parameter :=
  f.parameters.find? (·.kind == kind)

/-- The parameter that a keyword binds by its name. -/
def named? (f : Callable) (x : Text) : Option Parameter :=
  f.parameters.find? fun p => p.kind.isKeyword && p.name == x

/-- The parameter that an argument is bound to. -/
def receiver? (f : Callable) : Argument → Option Parameter
  | .position i => f.positionals[i]?.or (f.collector? .variadicPositional)
  | .keyword x => (f.named? x).or (f.collector? .variadicKeyword)

/-- The function can be called in this way. -/
structure Accepts (f : Callable) (c : Call) : Prop where
  received : ∀ a ∈ c.arguments, (f.receiver? a).isSome = true
  once : ∀ a ∈ c.arguments, ∀ b ∈ c.arguments, ∀ p ∈ f.parameters,
    f.receiver? a = some p → f.receiver? b = some p → a = b ∨ p.kind.isVariadic = true
  required : ∀ p ∈ f.parameters, p.isRequired = true →
    ∃ a ∈ c.arguments, f.receiver? a = some p

instance : Decidable (f.Accepts c) :=
  decidable_of_iff
    ((∀ a ∈ c.arguments, (f.receiver? a).isSome = true) ∧
      (∀ a ∈ c.arguments, ∀ b ∈ c.arguments, ∀ p ∈ f.parameters,
        f.receiver? a = some p → f.receiver? b = some p → a = b ∨ p.kind.isVariadic = true) ∧
      ∀ p ∈ f.parameters, p.isRequired = true → ∃ a ∈ c.arguments, f.receiver? a = some p)
    ⟨fun h => ⟨h.1, h.2.1, h.2.2⟩, fun h => ⟨h.1, h.2, h.3⟩⟩

/-- Some argument of the call goes to a parameter of another name, although the name of the one that it
went to is still there. -/
def Rebinds (f g : Callable) (c : Call) : Prop :=
  ∃ a ∈ c.arguments, ∃ p q, f.receiver? a = some p ∧ g.receiver? a = some q ∧
    p.name ∈ g.names ∧ q.name ≠ p.name

/-! ## Receivers -/

theorem receiver?_position :
    f.receiver? (.position i) = f.positionals[i]?.or (f.collector? .variadicPositional) := rfl

theorem receiver?_keyword :
    f.receiver? (.keyword x) = (f.named? x).or (f.collector? .variadicKeyword) := rfl

/-- A parameter of the name can be given by keyword. -/
def TakesKeyword (f : Callable) (x : Text) : Prop :=
  ∃ p ∈ f.parameters, p.kind.isKeyword = true ∧ p.name = x

theorem not_takesKeyword (hx : x ∉ f.names) : ¬ f.TakesKeyword x := by
  rintro ⟨p, hp, -, rfl⟩
  exact hx (name_mem hp)

/-- The ways in which an argument reaches a parameter. -/
inductive Reaches (f : Callable) : Argument → Parameter → Prop where
  | place {i : ℕ} {p : Parameter} (h : f.positionals[i]? = some p) : Reaches f (.position i) p
  | rest {i : ℕ} {p : Parameter} (hi : f.positionals.length ≤ i) (hp : p ∈ f.parameters)
      (hk : p.kind = .variadicPositional) : Reaches f (.position i) p
  | name {x : Text} {p : Parameter} (hp : p ∈ f.parameters) (hk : p.kind.isKeyword = true)
      (hx : p.name = x) : Reaches f (.keyword x) p
  | keywordRest {x : Text} {p : Parameter} (hx : ¬ f.TakesKeyword x) (hp : p ∈ f.parameters)
      (hk : p.kind = .variadicKeyword) : Reaches f (.keyword x) p

theorem Reaches.mem (h : f.Reaches a p) : p ∈ f.parameters := by
  cases h with
  | place h => exact mem_of_place h
  | rest _ hp _ => exact hp
  | name hp _ _ => exact hp
  | keywordRest _ hp _ => exact hp

theorem collector?_eq_some (hf : f.WellFormed) {kind : ParameterKind}
    (hv : kind.isVariadic = true) :
    f.collector? kind = some p ↔ p ∈ f.parameters ∧ p.kind = kind := by
  unfold collector?
  constructor
  · intro h
    exact ⟨List.mem_of_find?_eq_some h, by simpa using List.find?_some h⟩
  · rintro ⟨hp, rfl⟩
    obtain ⟨q, hq⟩ : ∃ q, f.parameters.find? (·.kind == p.kind) = some q := by
      rw [← Option.isSome_iff_exists, List.find?_isSome]
      exact ⟨p, hp, beq_self_eq_true _⟩
    have hkind : q.kind = p.kind := by simpa using List.find?_some hq
    rw [hq, hf.collector_unique (List.mem_of_find?_eq_some hq) hp hkind (hkind ▸ hv)]

theorem named?_eq_none : f.named? x = none ↔ ¬ f.TakesKeyword x := by
  unfold named? TakesKeyword
  rw [List.find?_eq_none]
  simp

theorem named?_eq_some (hf : f.names.Nodup) :
    f.named? x = some p ↔ p ∈ f.parameters ∧ p.kind.isKeyword = true ∧ p.name = x := by
  unfold named?
  constructor
  · intro h
    have := List.find?_some h
    simp only [Bool.and_eq_true, beq_iff_eq] at this
    exact ⟨List.mem_of_find?_eq_some h, this⟩
  · rintro ⟨hp, hk, rfl⟩
    obtain ⟨q, hq⟩ : ∃ q, f.parameters.find? (fun q => q.kind.isKeyword && q.name == p.name) =
        some q := by
      rw [← Option.isSome_iff_exists, List.find?_isSome]
      exact ⟨p, hp, by simp [hk]⟩
    have := List.find?_some hq
    simp only [Bool.and_eq_true, beq_iff_eq] at this
    rw [hq, eq_of_name_eq hf (List.mem_of_find?_eq_some hq) hp this.2]

theorem receiver?_eq_some (hf : f.WellFormed) : f.receiver? a = some p ↔ f.Reaches a p := by
  constructor
  · intro h
    cases a with
    | position i =>
      rw [receiver?_position, Option.or_eq_some_iff] at h
      rcases h with h | ⟨hi, hp⟩
      · exact .place h
      · obtain ⟨hp, hk⟩ := (collector?_eq_some hf rfl).1 hp
        exact .rest (List.getElem?_eq_none_iff.1 hi) hp hk
    | keyword x =>
      rw [receiver?_keyword, Option.or_eq_some_iff] at h
      rcases h with h | ⟨hx, hp⟩
      · obtain ⟨hp, hk, hx⟩ := (named?_eq_some hf.distinct).1 h
        exact .name hp hk hx
      · obtain ⟨hp, hk⟩ := (collector?_eq_some hf rfl).1 hp
        exact .keywordRest (named?_eq_none.1 hx) hp hk
  · intro h
    cases h with
    | place h => rw [receiver?_position, h, Option.some_or]
    | rest hi hp hk =>
      rw [receiver?_position, List.getElem?_eq_none_iff.2 hi, Option.none_or,
        (collector?_eq_some hf rfl).2 ⟨hp, hk⟩]
    | name hp hk hx =>
      rw [receiver?_keyword, (named?_eq_some hf.distinct).2 ⟨hp, hk, hx⟩, Option.some_or]
    | keywordRest hx hp hk =>
      rw [receiver?_keyword, named?_eq_none.2 hx, Option.none_or,
        (collector?_eq_some hf rfl).2 ⟨hp, hk⟩]

theorem Reaches.unique (hf : f.WellFormed) (hp : f.Reaches a p) (hq : f.Reaches a q) : p = q := by
  rw [← receiver?_eq_some hf] at hp hq
  exact Option.some.inj (hp.symm.trans hq)

/-- A position is taken by a parameter there or by the collector. -/
theorem exists_reaches_position :
    (∃ p, f.Reaches (.position i) p) ↔
      i < f.positionals.length ∨ f.hasKind .variadicPositional = true := by
  constructor
  · rintro ⟨p, h⟩
    cases h with
    | place h => exact Or.inl (List.getElem?_eq_some_iff.1 h).1
    | rest _ hp hk => exact Or.inr (hasKind_iff.2 ⟨p, hp, hk⟩)
  · intro h
    by_cases hi : i < f.positionals.length
    · exact ⟨_, .place (List.getElem?_eq_getElem hi)⟩
    · obtain ⟨p, hp, hk⟩ := hasKind_iff.1 (h.resolve_left hi)
      exact ⟨p, .rest (Nat.le_of_not_lt hi) hp hk⟩

/-- A keyword is taken by a parameter of its name or by the collector. -/
theorem exists_reaches_keyword :
    (∃ p, f.Reaches (.keyword x) p) ↔
      f.TakesKeyword x ∨ f.hasKind .variadicKeyword = true := by
  constructor
  · rintro ⟨p, h⟩
    cases h with
    | name hp hk hx => exact Or.inl ⟨p, hp, hk, hx⟩
    | keywordRest _ hp hk => exact Or.inr (hasKind_iff.2 ⟨p, hp, hk⟩)
  · intro h
    by_cases hx : f.TakesKeyword x
    · obtain ⟨p, hp, hk, hname⟩ := hx
      exact ⟨p, .name hp hk hname⟩
    · obtain ⟨p, hp, hk⟩ := hasKind_iff.1 (h.resolve_left hx)
      exact ⟨p, .keywordRest hx hp hk⟩

end Callable

end ChangeReview
