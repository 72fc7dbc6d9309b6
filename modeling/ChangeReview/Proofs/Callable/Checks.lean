import Mathlib.Data.List.Forall2
import ChangeReview.Proofs.Callable.Cases
import ChangeReview.Proofs.Callable.WellFormed

/-!
# The checks of an assessment

What each check of an assessment tests, said of the parameters themselves: by names that are retained,
and by places among the positional parameters.
-/

namespace ChangeReview.Callable

variable {f g : Callable} {p q : Parameter} {k l : ParameterKind} {x : Text} {i j : ℕ}

/-! ## Kinds -/

/-- A change of kind after which the parameter, or a collector of `g`, takes the arguments it took. -/
inductive KindStep (g : Callable) : ParameterKind → ParameterKind → Prop where
  | same {k : ParameterKind} : KindStep g k k
  | widened {k : ParameterKind} (h : k.isVariadic = false) : KindStep g k .positionalOrKeyword
  | gathered {k : ParameterKind}
      (h : k = .positionalOnly ∨ (k.isKeyword = true ∧ g.hasKind .variadicKeyword = true)) :
      KindStep g k .variadicPositional
  | keyed {k : ParameterKind}
      (h : k = .keywordOnly ∨ (k.isPositional = true ∧ g.hasKind .variadicPositional = true)) :
      KindStep g k .variadicKeyword

theorem kindStep_of_transition (h : k.transition l = .compatible) : KindStep g k l := by
  by_cases hkl : k = l
  · subst hkl
    exact .same
  · cases l with
    | positionalOnly => exact absurd h (by revert hkl; cases k <;> decide)
    | keywordOnly => exact absurd h (by revert hkl; cases k <;> decide)
    | positionalOrKeyword => exact .widened (by revert h hkl; cases k <;> decide)
    | variadicPositional => exact .gathered (Or.inl (by revert h hkl; cases k <;> decide))
    | variadicKeyword => exact .keyed (Or.inl (by revert h hkl; cases k <;> decide))

theorem kindStep_of_complement (h : g.complementCovers k l = true) : KindStep g k l := by
  unfold complementCovers at h
  split at h
  · exact .gathered (Or.inr (Bool.and_eq_true_iff.1 h))
  · exact .keyed (Or.inr (Bool.and_eq_true_iff.1 h))
  · cases h

theorem kindStep_of_outcome (h : g.kindOutcome x k l = .compatible) : KindStep g k l := by
  unfold kindOutcome at h
  split at h
  · dsimp only at h
    split at h
    · split at h <;> cases h
    split at h
    · split at h <;> cases h
    split at h
    · rename_i hcovers
      exact kindStep_of_complement hcovers
    split at h <;> cases h
  · exact kindStep_of_transition h

theorem kindOutcome_of_transition (h : k.transition l = .compatible) :
    g.kindOutcome x k l = .compatible := by
  unfold kindOutcome
  rw [h]

/-- The verdicts on changed kinds are those on retained parameters whose kinds differ. -/
theorem mem_kindOutcomes (hf : f.names.Nodup) (hg : g.names.Nodup) {v : Verdict} :
    v ∈ g.kindOutcomes (kindChanges f g) ↔
      ∃ p q, Retained f g p q ∧ p.kind ≠ q.kind ∧ g.kindOutcome p.name p.kind q.kind = v := by
  unfold kindOutcomes
  rw [List.mem_map]
  constructor
  · rintro ⟨⟨x, k, l⟩, hx, hv⟩
    obtain ⟨p, q, hr, rfl, rfl, rfl, hne⟩ := (mem_kindChanges hf hg).1 hx
    exact ⟨p, q, hr, hne, hv⟩
  · rintro ⟨p, q, hr, hne, hv⟩
    exact ⟨(p.name, p.kind, q.kind), (mem_kindChanges hf hg).2 ⟨p, q, hr, rfl, rfl, rfl, hne⟩, hv⟩

theorem losesVariadic_eq_false : losesVariadic f g = false ↔
    (f.hasKind .variadicPositional = true → g.hasKind .variadicPositional = true) ∧
      (f.hasKind .variadicKeyword = true → g.hasKind .variadicKeyword = true) := by
  unfold losesVariadic
  cases f.hasKind .variadicPositional <;> cases g.hasKind .variadicPositional <;>
    cases f.hasKind .variadicKeyword <;> cases g.hasKind .variadicKeyword <;> decide

/-- The positional names of `f` without those whose arguments a collector of `g` keeps. -/
def stillPositional (f g : Callable) : List Text :=
  f.positionalNames.filter (!keptByVariadic f g ·)

theorem keptByVariadic_name (hf : f.names.Nodup) (hg : g.names.Nodup) (hr : Retained f g p q) :
    keptByVariadic f g p.name = (p.kind.isPositional && !q.kind.isPositional
      && (q.kind == .variadicPositional || (g.hasKind .variadicPositional && !q.isRequired))) := by
  unfold keptByVariadic
  rw [(find?_eq_some_iff hf).2 ⟨hr.left, rfl⟩, (find?_eq_some_iff hg).2 ⟨hr.right, hr.name_eq.symm⟩]

/-- Changed kinds fit together: the collectors stay, the names that are still positional stand first and
fill what a collector of `f` would otherwise lose, and no argument is bound by position and by keyword. -/
structure KindsFit (f g : Callable) : Prop where
  rest : f.hasKind .variadicPositional = true → g.hasKind .variadicPositional = true
  keywordRest : f.hasKind .variadicKeyword = true → g.hasKind .variadicKeyword = true
  lead : f.stillPositional g <+: g.positionalNames
  full : f.hasKind .variadicPositional = true →
    g.positionals.length ≤ (f.stillPositional g).length
  behind : ∀ p q, Retained f g p q → p.kind = .keywordOnly → q.kind = .positionalOrKeyword →
    ∀ j : ℕ, g.positionals[j]? = some q → f.positionals.length ≤ j
  reserved : f.hasKind .variadicKeyword = true → ∀ p q, Retained f g p q →
    p.kind = .positionalOnly → q.kind ≠ .positionalOrKeyword

/-- **Joint change of kinds.** The check on changed kinds passes when they fit together. -/
theorem kindsBreakCalls_eq_false (hf : f.names.Nodup) (hg : g.names.Nodup) :
    kindsBreakCalls f g = false ↔ KindsFit f g := by
  have hlead : (g.positionalNames.take (f.stillPositional g).length != f.stillPositional g) = false ↔
      f.stillPositional g <+: g.positionalNames := by
    rw [List.prefix_iff_eq_take, bne_eq_false_iff_eq]
    exact eq_comm
  have hfull : (f.hasKind .variadicPositional
      && decide ((f.stillPositional g).length < g.positionalNames.length)) = false ↔
      (f.hasKind .variadicPositional = true →
        g.positionals.length ≤ (f.stillPositional g).length) := by
    rw [Bool.and_eq_false_imp, positionalNames_length, decide_eq_false_iff_not, Nat.not_lt]
  have hbehind : anyRetained f g (fun before after =>
      before.kind == .keywordOnly && after.kind == .positionalOrKeyword
        && (place? g.positionalNames after.name).any (· < f.positionals.length)) = false ↔
      ∀ p q, Retained f g p q → p.kind = .keywordOnly → q.kind = .positionalOrKeyword →
        ∀ j : ℕ, g.positionals[j]? = some q → f.positionals.length ≤ j := by
    rw [Bool.eq_false_iff, Ne, anyRetained_iff hf hg]
    simp only [Bool.and_eq_true, beq_iff_eq, Option.any_eq_true, decide_eq_true_eq,
      place?_eq_some_iff (positionalNames_nodup hg), not_exists, not_and, and_imp, Nat.not_lt]
    constructor
    · intro h p q hr hp hq j hj
      exact h p q hr hp hq j (positionalNames_place.2 ⟨q, hj, rfl⟩)
    · intro h p q hr hp hq j hj
      obtain ⟨r, hrj, hname⟩ := positionalNames_place.1 hj
      exact h p q hr hp hq j (eq_of_name_eq hg (mem_of_place hrj) hr.right hname ▸ hrj)
  have hreserved : (f.hasKind .variadicKeyword && anyRetained f g fun before after =>
      before.kind == .positionalOnly && after.kind == .positionalOrKeyword) = false ↔
      (f.hasKind .variadicKeyword = true → ∀ p q, Retained f g p q →
        p.kind = .positionalOnly → q.kind ≠ .positionalOrKeyword) := by
    rw [Bool.and_eq_false_imp]
    refine imp_congr_right fun _ => ?_
    rw [Bool.eq_false_iff, Ne, anyRetained_iff hf hg]
    simp only [Bool.and_eq_true, beq_iff_eq, not_exists, not_and]
  unfold kindsBreakCalls
  simp only [Bool.or_eq_false_iff, losesVariadic_eq_false, and_assoc]
  constructor
  · rintro ⟨h₁, h₂, h₃, h₄, h₅, h₆⟩
    exact ⟨h₁, h₂, hlead.1 h₃, hfull.1 h₄, hbehind.1 h₅, hreserved.1 h₆⟩
  · intro h
    exact ⟨h.rest, h.keywordRest, hlead.2 h.lead, hfull.2 h.full, hbehind.2 h.behind,
      hreserved.2 h.reserved⟩

/-! ## Removed and added parameters -/

theorem dropsArguments_eq_false : g.dropsArguments p = false ↔
    ((p.kind.isPositional = true ∨ p.kind = .variadicPositional) →
        g.hasKind .variadicPositional = true) ∧
      ((p.kind.isKeyword = true ∨ p.kind = .variadicKeyword) →
        g.hasKind .variadicKeyword = true) := by
  unfold dropsArguments
  generalize g.hasKind .variadicPositional = rest
  generalize g.hasKind .variadicKeyword = more
  cases p.kind <;> cases rest <;> cases more <;> decide

theorem any_dropsArguments (hf : f.names.Nodup) :
    ((removedNames f g).filterMap f.find?).any (dropsArguments g) = true ↔
      ∃ p ∈ f.parameters, p.name ∉ g.names ∧ g.dropsArguments p = true := by
  simp only [List.any_eq_true, List.mem_filterMap, mem_removedNames, find?_eq_some_iff hf]
  constructor
  · rintro ⟨p, ⟨x, ⟨-, hx⟩, hp, rfl⟩, hdrops⟩
    exact ⟨p, hp, hx, hdrops⟩
  · rintro ⟨p, hp, hx, hdrops⟩
    exact ⟨p, ⟨p.name, ⟨name_mem hp, hx⟩, hp, rfl⟩, hdrops⟩

theorem exists_drops_of_removalVerdict (hf : f.names.Nodup)
    (h : removalVerdict f g (removedNames f g) = .breaking) :
    ∃ p ∈ f.parameters, p.name ∉ g.names ∧ g.dropsArguments p = true := by
  unfold removalVerdict at h
  split at h
  · rename_i hdrops
    exact (any_dropsArguments hf).1 hdrops
  · dsimp only at h
    split at h <;> cases h

/-- What is removed compatibly is collected, and the positional parameters of `g` are the first ones of
`f`. -/
theorem captured_of_removalVerdict (hf : f.names.Nodup)
    (h : removalVerdict f g (removedNames f g) = .compatible) :
    g.positionalNames <+: f.positionalNames ∧
      ∀ p ∈ f.parameters, p.name ∉ g.names → g.dropsArguments p = false := by
  unfold removalVerdict at h
  split at h
  · cases h
  rename_i hdrops
  dsimp only at h
  split at h
  · rename_i hlast
    rw [Bool.and_eq_true, beq_iff_eq, beq_iff_eq] at hlast
    refine ⟨?_, fun p hp hx => ?_⟩
    · rw [hlast.1, List.prefix_iff_eq_take]
      exact hlast.2.symm
    · by_contra hp'
      exact hdrops ((any_dropsArguments hf).2 ⟨p, hp, hx, Bool.not_eq_false _ ▸ hp'⟩)
  · cases h

theorem mem_requiredNames (hg : g.names.Nodup) :
    x ∈ requiredNames f g ↔ ∃ q ∈ g.parameters, q.name = x ∧ x ∉ f.names ∧ q.isRequired = true := by
  unfold requiredNames
  rw [List.mem_filter, mem_removedNames, at?_iff hg]
  constructor
  · rintro ⟨⟨-, hx⟩, q, hq, hname, hreq⟩
    exact ⟨q, hq, hname, hx, hreq⟩
  · rintro ⟨q, hq, rfl, hx, hreq⟩
    exact ⟨⟨name_mem hq, hx⟩, q, hq, rfl, hreq⟩

/-- An added required parameter that the least call of `f` does not bind. -/
theorem mem_demanded (hg : g.names.Nodup) :
    x ∈ demanded f g (requiredNames f g) ↔
      ∃ q ∈ g.parameters, q.name = x ∧ x ∉ f.names ∧ q.isRequired = true ∧
        (q.kind = .keywordOnly ∨ ∃ j : ℕ, g.positionals[j]? = some q ∧ f.forced ≤ j) := by
  unfold demanded
  simp only [List.mem_filter, mem_requiredNames hg, Bool.or_eq_true, at?_iff hg, beq_iff_eq,
    Option.any_eq_true, decide_eq_true_eq, place?_eq_some_iff (positionalNames_nodup hg),
    positionalNames_place]
  constructor
  · rintro ⟨⟨q, hq, rfl, hx, hreq⟩, ⟨r, hr, hname, hkind⟩ | ⟨j, ⟨r, hr, hname⟩, hj⟩⟩
    · exact ⟨q, hq, rfl, hx, hreq, Or.inl (eq_of_name_eq hg hr hq hname ▸ hkind)⟩
    · have hrq := eq_of_name_eq hg (mem_of_place hr) hq hname
      exact ⟨q, hq, rfl, hx, hreq, Or.inr ⟨j, hrq ▸ hr, hj⟩⟩
  · rintro ⟨q, hq, rfl, hx, hreq, hkind | ⟨j, hqj, hj⟩⟩
    · exact ⟨⟨q, hq, rfl, hx, hreq⟩, Or.inl ⟨q, hq, rfl, hkind⟩⟩
    · exact ⟨⟨q, hq, rfl, hx, hreq⟩, Or.inr ⟨j, ⟨q, hqj, rfl⟩, hj⟩⟩

theorem addsPositional_iff (hg : g.names.Nodup) :
    addsPositional f g = true ↔
      ∃ q ∈ g.parameters, q.name ∉ f.names ∧ q.kind.isPositional = true := by
  unfold addsPositional
  simp only [List.any_eq_true, mem_removedNames, at?_iff hg]
  constructor
  · rintro ⟨x, ⟨-, hx⟩, q, hq, rfl, hk⟩
    exact ⟨q, hq, hx, hk⟩
  · rintro ⟨q, hq, hx, hk⟩
    exact ⟨q.name, ⟨name_mem hq, hx⟩, q, hq, rfl, hk⟩

/-- An added parameter takes a position and a keyword that one call of `f` gives to its collectors. -/
theorem claimsKeyword_iff :
    claimsKeyword f g (removedNames g f) = true ↔
      f.hasKind .variadicKeyword = true ∧ ∃ (j : ℕ) (q : Parameter), g.positionals[j]? = some q ∧
        q.name ∉ f.names ∧ q.kind = .positionalOrKeyword ∧
        (f.hasKind .variadicPositional = true ∨ j < f.positionals.length) := by
  unfold claimsKeyword
  simp only [Bool.and_eq_true, List.any_eq_true, Prod.exists, List.mem_zipIdx_iff_getElem?,
    List.contains_eq_mem, decide_eq_true_eq, mem_removedNames, beq_iff_eq, Bool.or_eq_true]
  refine and_congr_right fun _ => ?_
  constructor
  · rintro ⟨q, j, hj, ⟨⟨-, hx⟩, hk⟩, hpos⟩
    exact ⟨j, q, hj, hx, hk, hpos⟩
  · rintro ⟨j, q, hj, hx, hk, hpos⟩
    exact ⟨q, j, hj, ⟨⟨name_mem (mem_of_place hj), hx⟩, hk⟩, hpos⟩

/-! ## The same kinds in a row -/

theorem forall₂_of_sameKinds (h : sameKinds f g = true) :
    List.Forall₂ (fun p q : Parameter => p.kind = q.kind) f.parameters g.parameters := by
  rw [← List.forall₂_map_right_iff (f := Parameter.kind),
    ← List.forall₂_map_left_iff (f := Parameter.kind) (R := Eq), List.forall₂_eq_eq_eq]
  exact beq_iff_eq.1 h

/-- A relation of parameters that have one kind restricts to the positional ones. -/
theorem forall₂_positionals {R : Parameter → Parameter → Prop}
    (h : List.Forall₂ R f.parameters g.parameters)
    (hkind : ∀ {p q : Parameter}, R p q → p.kind = q.kind) :
    List.Forall₂ R f.positionals g.positionals := by
  refine List.rel_filter (fun p q hpq => ?_) h
  show p.kind.isPositional = true ↔ q.kind.isPositional = true
  rw [hkind hpq]

theorem hasKind_of_sameKinds (h : sameKinds f g = true) (hk : f.hasKind k = true) :
    g.hasKind k = true := by
  obtain ⟨p, hp, hpk⟩ := hasKind_iff.1 hk
  have hmem : k ∈ g.parameters.map (·.kind) := by
    rw [← beq_iff_eq.1 h]
    exact List.mem_map.2 ⟨p, hp, hpk⟩
  obtain ⟨q, hq, hqk⟩ := List.mem_map.1 hmem
  exact hasKind_iff.2 ⟨q, hq, hqk⟩

end ChangeReview.Callable
