import Mathlib.Data.List.Nodup
import ChangeReview.Callable.Assessment

/-!
# Parameters by name and by place

When the names of a function are distinct, looking a name up finds the parameter itself, and a place
among the positional names is an index. The lists that an assessment is made of (names removed, kinds
changed, places changed, defaults removed) are described by their members.
-/

namespace ChangeReview.Callable

variable {f g : Callable} {p q : Parameter} {x : Text} {i j : ℕ}

/-- `p` of `f` and `q` of `g` are the same parameter by name. -/
structure Retained (f g : Callable) (p q : Parameter) : Prop where
  left : p ∈ f.parameters
  right : q ∈ g.parameters
  name_eq : p.name = q.name

/-! ## Names -/

theorem mem_names : x ∈ f.names ↔ ∃ p ∈ f.parameters, p.name = x := by
  unfold names; exact List.mem_map

theorem name_mem (hp : p ∈ f.parameters) : p.name ∈ f.names := mem_names.2 ⟨p, hp, rfl⟩

/-- Distinct names tell parameters apart. -/
theorem eq_of_name_eq (hf : f.names.Nodup) (hp : p ∈ f.parameters) (hq : q ∈ f.parameters)
    (h : p.name = q.name) : p = q :=
  List.inj_on_of_nodup_map hf hp hq h

theorem mem_of_find?_eq_some (h : f.find? x = some p) : p ∈ f.parameters ∧ p.name = x := by
  unfold find? at h
  exact ⟨List.mem_reverse.1 (List.mem_of_find?_eq_some h), by simpa using List.find?_some h⟩

theorem has_iff : f.has x = true ↔ x ∈ f.names := by
  unfold has find?
  rw [List.find?_isSome, mem_names]
  simp only [List.mem_reverse, beq_iff_eq]

theorem find?_eq_some_iff (hf : f.names.Nodup) :
    f.find? x = some p ↔ p ∈ f.parameters ∧ p.name = x := by
  refine ⟨mem_of_find?_eq_some, ?_⟩
  rintro ⟨hp, rfl⟩
  obtain ⟨q, hq⟩ := Option.isSome_iff_exists.1 (has_iff.2 (name_mem hp))
  obtain ⟨hqf, hname⟩ := mem_of_find?_eq_some hq
  rw [hq, eq_of_name_eq hf hqf hp hname]

theorem at?_iff (hf : f.names.Nodup) {P : Parameter → Bool} :
    f.at? x P = true ↔ ∃ p ∈ f.parameters, p.name = x ∧ P p = true := by
  unfold at?
  constructor
  · intro h
    cases hx : f.find? x with
    | none => rw [hx] at h; cases h
    | some p =>
      rw [hx] at h
      obtain ⟨hp, hname⟩ := mem_of_find?_eq_some hx
      exact ⟨p, hp, hname, h⟩
  · rintro ⟨p, hp, hname, hP⟩
    rw [(find?_eq_some_iff hf).2 ⟨hp, hname⟩]
    exact hP

theorem at?_name (hf : f.names.Nodup) (hp : p ∈ f.parameters) (P : Parameter → Bool) :
    f.at? p.name P = P p := by
  unfold at?
  rw [(find?_eq_some_iff hf).2 ⟨hp, rfl⟩]
  rfl

theorem hasKind_iff {kind : ParameterKind} :
    f.hasKind kind = true ↔ ∃ p ∈ f.parameters, p.kind = kind := by
  unfold hasKind
  simp only [List.any_eq_true, beq_iff_eq]

theorem mem_removedNames : x ∈ removedNames f g ↔ x ∈ f.names ∧ x ∉ g.names := by
  unfold removedNames
  rw [List.mem_filter, ← has_iff (f := g)]
  simp

theorem removedNames_eq_nil : removedNames f g = [] ↔ ∀ p ∈ f.parameters, p.name ∈ g.names := by
  rw [List.eq_nil_iff_forall_not_mem]
  constructor
  · intro h p hp
    by_contra hg
    exact h _ (mem_removedNames.2 ⟨name_mem hp, hg⟩)
  · intro h x hx
    obtain ⟨hf, hg⟩ := mem_removedNames.1 hx
    obtain ⟨p, hp, rfl⟩ := mem_names.1 hf
    exact hg (h p hp)

/-- A parameter whose name the other function has is retained by one of its parameters. -/
theorem exists_retained (hp : p ∈ f.parameters) (hg : p.name ∈ g.names) :
    ∃ q, Retained f g p q := by
  obtain ⟨q, hq, hname⟩ := mem_names.1 hg
  exact ⟨q, hp, hq, hname.symm⟩

theorem anyRetained_iff (hf : f.names.Nodup) (hg : g.names.Nodup)
    {P : Parameter → Parameter → Bool} :
    anyRetained f g P = true ↔ ∃ p q, Retained f g p q ∧ P p q = true := by
  unfold anyRetained
  rw [List.any_eq_true]
  constructor
  · rintro ⟨x, -, h⟩
    cases hp : f.find? x with
    | none => rw [hp] at h; cases h
    | some p =>
      cases hq : g.find? x with
      | none => rw [hp, hq] at h; cases h
      | some q =>
        rw [hp, hq] at h
        obtain ⟨hpf, rfl⟩ := mem_of_find?_eq_some hp
        obtain ⟨hqg, hname⟩ := mem_of_find?_eq_some hq
        exact ⟨p, q, ⟨hpf, hqg, hname.symm⟩, h⟩
  · rintro ⟨p, q, ⟨hp, hq, hname⟩, h⟩
    refine ⟨p.name, name_mem hp, ?_⟩
    rw [(find?_eq_some_iff hf).2 ⟨hp, rfl⟩, (find?_eq_some_iff hg).2 ⟨hq, hname.symm⟩]
    exact h

theorem mem_kindChanges (hf : f.names.Nodup) (hg : g.names.Nodup) {k l : ParameterKind} :
    (x, k, l) ∈ kindChanges f g ↔
      ∃ p q, Retained f g p q ∧ p.name = x ∧ p.kind = k ∧ q.kind = l ∧ k ≠ l := by
  unfold kindChanges
  rw [List.mem_filterMap]
  constructor
  · rintro ⟨y, -, h⟩
    cases hp : f.find? y with
    | none => rw [hp] at h; cases h
    | some p =>
      cases hq : g.find? y with
      | none => rw [hp, hq] at h; cases h
      | some q =>
        rw [hp, hq] at h
        obtain ⟨hpf, rfl⟩ := mem_of_find?_eq_some hp
        obtain ⟨hqg, hname⟩ := mem_of_find?_eq_some hq
        by_cases hk : p.kind = q.kind
        · simp [hk] at h
        · simp only [bne_iff_ne, ne_eq, hk, not_false_eq_true, if_true, Option.some.injEq,
            Prod.mk.injEq] at h
          obtain ⟨rfl, rfl, rfl⟩ := h
          exact ⟨p, q, ⟨hpf, hqg, hname.symm⟩, rfl, rfl, rfl, hk⟩
  · rintro ⟨p, q, ⟨hp, hq, hname⟩, rfl, rfl, rfl, hk⟩
    refine ⟨p.name, name_mem hp, ?_⟩
    rw [(find?_eq_some_iff hf).2 ⟨hp, rfl⟩, (find?_eq_some_iff hg).2 ⟨hq, hname.symm⟩]
    simp [hk]

/-- No kind changed exactly when retained parameters have equal kinds. -/
theorem kindChanges_eq_nil (hf : f.names.Nodup) (hg : g.names.Nodup) :
    kindChanges f g = [] ↔ ∀ p q, Retained f g p q → p.kind = q.kind := by
  rw [List.eq_nil_iff_forall_not_mem]
  constructor
  · intro h p q hr
    by_contra hk
    exact h (p.name, p.kind, q.kind) ((mem_kindChanges hf hg).2 ⟨p, q, hr, rfl, rfl, rfl, hk⟩)
  · rintro h ⟨x, k, l⟩ hx
    obtain ⟨p, q, hr, -, rfl, rfl, hk⟩ := (mem_kindChanges hf hg).1 hx
    exact hk (h p q hr)

/-- No default was removed exactly when a retained parameter with a default is not required. -/
theorem defaultsRemoved_eq_nil (hf : f.names.Nodup) (hg : g.names.Nodup) :
    defaultsRemoved f g = [] ↔
      ∀ p q, Retained f g p q → p.default.isSome = true → q.isRequired = false := by
  unfold defaultsRemoved
  rw [List.filter_eq_nil_iff]
  constructor
  · intro h p q hr hdef
    have hx := h p.name (name_mem hr.left)
    rw [at?_name hf hr.left, hr.name_eq, at?_name hg hr.right, hdef] at hx
    by_contra hreq
    rw [Bool.not_eq_false] at hreq
    refine hx ?_
    rw [hreq]
    unfold Parameter.isRequired at hreq
    simp only [Bool.and_eq_true] at hreq
    simp [hreq.2]
  · intro h x hx hand
    obtain ⟨p, hp, rfl⟩ := mem_names.1 hx
    rw [at?_name hf hp, Bool.and_eq_true] at hand
    obtain ⟨q, hq, hname, hreq⟩ := (at?_iff hg).1 hand.2
    rw [Bool.and_eq_true, h p q ⟨hp, hq, hname.symm⟩ hand.1] at hreq
    cases hreq.2

/-! ## Places -/

theorem mem_positionals : p ∈ f.positionals ↔ p ∈ f.parameters ∧ p.kind.isPositional = true := by
  unfold positionals; exact List.mem_filter

theorem mem_of_place (h : f.positionals[i]? = some p) : p ∈ f.parameters :=
  (mem_positionals.1 (List.mem_of_getElem? h)).1

theorem isPositional_of_place (h : f.positionals[i]? = some p) : p.kind.isPositional = true :=
  (mem_positionals.1 (List.mem_of_getElem? h)).2

theorem exists_place (hp : p ∈ f.parameters) (hk : p.kind.isPositional = true) :
    ∃ i : ℕ, f.positionals[i]? = some p :=
  List.getElem?_of_mem (mem_positionals.2 ⟨hp, hk⟩)

theorem positionalNames_length : f.positionalNames.length = f.positionals.length := by
  unfold positionalNames; exact List.length_map _

theorem positionalNames_place :
    f.positionalNames[i]? = some x ↔ ∃ p, f.positionals[i]? = some p ∧ p.name = x := by
  unfold positionalNames
  rw [List.getElem?_map, Option.map_eq_some_iff]

theorem mem_positionalNames :
    x ∈ f.positionalNames ↔ ∃ p ∈ f.parameters, p.kind.isPositional = true ∧ p.name = x := by
  unfold positionalNames
  simp only [List.mem_map, mem_positionals, and_assoc]

theorem positionalNames_nodup (hf : f.names.Nodup) : f.positionalNames.Nodup :=
  hf.sublist (List.filter_sublist.map _)

/-- A name stands at one place only. -/
theorem place_unique (hf : f.names.Nodup) (hi : f.positionals[i]? = some p)
    (hj : f.positionals[j]? = some q) (h : p.name = q.name) : i = j := by
  have hin := positionalNames_place.2 ⟨p, hi, h⟩
  have hjn := positionalNames_place.2 ⟨q, hj, rfl⟩
  have hlt := (List.getElem?_eq_some_iff.1 hin).1
  exact (List.getElem?_inj hlt (positionalNames_nodup hf)).1 (hin.trans hjn.symm)

theorem place?_eq_some_iff {names : List Text} (h : names.Nodup) :
    place? names x = some i ↔ names[i]? = some x := by
  unfold place?
  rw [Option.map_eq_some_iff]
  constructor
  · rintro ⟨k, hk, rfl⟩
    obtain ⟨hlt, hget, -⟩ := List.idxOf?_eq_some_iff.1 hk
    rw [List.length_reverse] at hlt
    rw [List.getElem?_eq_some_iff]
    exact ⟨by omega, by rw [← hget, List.getElem_reverse]⟩
  · intro hi
    obtain ⟨hlt, hget⟩ := List.getElem?_eq_some_iff.1 hi
    refine ⟨names.length - 1 - i, ?_, by omega⟩
    have hrev : names.length - 1 - i < names.reverse.length := by
      rw [List.length_reverse]; omega
    have hat : names.reverse[names.length - 1 - i] = x := by
      rw [List.getElem_reverse, ← hget]
      congr 1
      omega
    refine List.idxOf?_eq_some_iff.2 ⟨hrev, hat, ?_⟩
    intro k hk heq
    have hinj := (List.Nodup.getElem_inj_iff (List.nodup_reverse.2 h)).1 (heq.trans hat.symm)
    omega

theorem mem_placeChanges (hf : f.names.Nodup) (hg : g.names.Nodup) :
    (x, i, j) ∈ placeChanges f g ↔
      f.positionalNames[i]? = some x ∧ g.positionalNames[j]? = some x ∧ i ≠ j := by
  unfold placeChanges
  have hpf := positionalNames_nodup hf
  have hpg := positionalNames_nodup hg
  rw [List.mem_filterMap]
  constructor
  · rintro ⟨y, -, h⟩
    simp only [Option.bind_eq_bind, Option.bind_eq_some_iff, place?_eq_some_iff hpf,
      place?_eq_some_iff hpg] at h
    obtain ⟨k, hk, l, hl, h⟩ := h
    by_cases hkl : k = l
    · simp [hkl] at h
    · simp only [bne_iff_ne, ne_eq, hkl, not_false_eq_true, if_true, Option.some.injEq,
        Prod.mk.injEq] at h
      obtain ⟨rfl, rfl, rfl⟩ := h
      exact ⟨hk, hl, hkl⟩
  · rintro ⟨hi, hj, hne⟩
    refine ⟨x, List.mem_of_getElem? hi, ?_⟩
    simp only [Option.bind_eq_bind, (place?_eq_some_iff hpf).2 hi, (place?_eq_some_iff hpg).2 hj,
      Option.bind_some]
    simp [hne]

/-- No place changed exactly when retained positional parameters stand where they stood. -/
theorem placeChanges_eq_nil (hf : f.names.Nodup) (hg : g.names.Nodup) :
    placeChanges f g = [] ↔ ∀ (i j : ℕ) (p q : Parameter), f.positionals[i]? = some p →
      g.positionals[j]? = some q → p.name = q.name → i = j := by
  rw [List.eq_nil_iff_forall_not_mem]
  constructor
  · intro h i j p q hi hj hname
    by_contra hne
    exact h (p.name, i, j) ((mem_placeChanges hf hg).2
      ⟨positionalNames_place.2 ⟨p, hi, rfl⟩, positionalNames_place.2 ⟨q, hj, hname.symm⟩, hne⟩)
  · rintro h ⟨x, i, j⟩ hx
    obtain ⟨hi, hj, hne⟩ := (mem_placeChanges hf hg).1 hx
    obtain ⟨p, hp, hpx⟩ := positionalNames_place.1 hi
    obtain ⟨q, hq, hqx⟩ := positionalNames_place.1 hj
    exact hne (h i j p q hp hq (hpx.trans hqx.symm))

end ChangeReview.Callable
