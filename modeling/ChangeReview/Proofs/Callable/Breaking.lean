import ChangeReview.Proofs.Callable.Compatible
import ChangeReview.Proofs.Callable.Kept

/-!
# Breaking verdicts

A breaking verdict should come with a call that is lost, or that hands an argument of a parameter whose
name stays to another one. Most checks are of this sort: where no call is harmed, they pass. Three are
stricter. The order of all names is compared when a positional parameter is added, removed positional
parameters count as moved when a kind changes besides, and renamed parameters are compared place by
place. `breaking_harms_iff` says that a breaking verdict has such a call exactly when the change is
not harmless.
-/

namespace ChangeReview.Callable

variable {f g : Callable}

/-! ## Shapes of an unharmed change -/

theorem Keeps.captured {p : Parameter} (hf : f.WellFormed) (hg : g.WellFormed) (h : f.Keeps g)
    (hadded : removedNames g f = []) (hp : p ∈ f.parameters) (hname : p.name ∉ g.names) :
    g.dropsArguments p = false := by
  rw [dropsArguments_eq_false]
  constructor
  · rintro (hk | hk)
    · obtain ⟨i, hi⟩ := exists_place hp hk
      have hlt := (List.getElem?_eq_some_iff.1 hi).1
      refine h.capacity.resolve_left fun hle => ?_
      have hq := List.getElem?_eq_getElem (Nat.lt_of_lt_of_le hlt hle)
      have hknown := removedNames_eq_nil.1 hadded _ (mem_of_place hq)
      rw [h.agree hf hg hi hq (Or.inr hknown)] at hname
      exact hname (name_mem (mem_of_place hq))
    · exact h.rest (hasKind_iff.2 ⟨p, hp, hk⟩)
  · rintro (hk | hk)
    · exact (h.keywords p hp hk).resolve_left (not_takesKeyword hname)
    · exact h.keywordRest (hasKind_iff.2 ⟨p, hp, hk⟩)

/-- Where no name is added, a keyword of `g` was one of `f`, if `f` collects keywords. -/
theorem Keeps.keepsKeywords (hf : f.WellFormed) (hg : g.WellFormed) (h : f.Keeps g)
    (hadded : removedNames g f = []) : KeepsKeywords f g := by
  intro hrest q hq hqk
  obtain ⟨p, hp, hpq⟩ := mem_names.1 (removedNames_eq_nil.1 hadded q hq)
  have hr : Retained f g p q := ⟨hp, hq, hpq⟩
  refine ⟨p, hp, ?_, hpq⟩
  have hstep := h.transition hf hg hr
  have hreserved := h.reserved hf hg hrest hr
  revert hstep hreserved hqk
  cases p.kind <;> cases q.kind <;> decide

/-- A breaking removal that harms no call leaves trailing parameters to the collectors. -/
theorem captures_of_removal (hf : f.WellFormed) (hg : g.WellFormed) (h : f.Keeps g)
    (hadded : removedNames g f = [])
    (hbreaks : removalVerdict f g (removedNames f g) = .breaking ∨ KindsBreak f g) :
    Captures f g := by
  have hagree := h.agree_of_known hf hg (Or.inr hadded)
  have hcaptured := fun p hp hname => h.captured (p := p) hf hg hadded hp hname
  rcases Nat.le_total g.positionals.length f.positionals.length with hle | hle
  · exact ⟨h.softens hf hg, hadded, isPrefix_of_agree hle fun i q p hq hp => (hagree i p q hp hq).symm,
      hcaptured, h.keepsKeywords hf hg hadded⟩
  · -- no positional parameter is gone, so none of the checks can have failed
    exfalso
    rcases hbreaks with hdrops | hcalls | houtcomes
    · obtain ⟨p, hp, hname, hdrops⟩ := exists_drops_of_removalVerdict hf.distinct hdrops
      rw [hcaptured p hp hname] at hdrops
      cases hdrops
    · have hfit := h.kindsFit_of_isPrefix hf hg (Or.inr hadded) (isPrefix_of_agree hle hagree)
      rw [(kindsBreakCalls_eq_false hf.distinct hg.distinct).2 hfit] at hcalls
      cases hcalls
    · exact h.outcomes hf hg houtcomes

/-- Added positional parameters that harm no call are optional and stand behind the others. -/
theorem appends_of_insertion (hf : f.WellFormed) (hg : g.WellFormed) (h : f.Keeps g)
    (hremoved : removedNames f g = []) (hadds : addsPositional f g = true) : Appends f g := by
  have hagree := h.agree_of_known hf hg (Or.inl hremoved)
  have hbehind : ∀ (j : ℕ) (q : Parameter), g.positionals[j]? = some q → q.name ∉ f.names →
      f.positionals.length ≤ j := by
    intro j q hj hname
    by_contra hlt
    have hp := List.getElem?_eq_getElem (Nat.lt_of_not_le hlt)
    exact hname (hagree j _ q hp hj ▸ name_mem (mem_of_place hp))
  refine ⟨h.softens hf hg, hremoved, ?_, ?_, h.rest_le hf hg (Or.inl hremoved), ?_⟩
  · obtain ⟨q, hq, hname, hk⟩ := (addsPositional_iff hg.distinct).1 hadds
    obtain ⟨j, hj⟩ := exists_place hq hk
    have hle := hbehind j q hj hname
    have hlt := (List.getElem?_eq_some_iff.1 hj).1
    exact isPrefix_of_agree (by omega) hagree
  · rw [List.eq_nil_iff_forall_not_mem]
    intro x hx
    obtain ⟨q, hq, rfl, hname, hreq⟩ := (mem_requiredNames hg.distinct).1 hx
    rcases h.demands q hq hreq with ⟨j, hj, hqj⟩ | ⟨p, hp, -, -, -, hpq, -⟩
    · have := hbehind j q hqj hname
      have := forced_le_length (f := f)
      omega
    · exact hname (hpq ▸ name_mem hp)
  · intro hrest q hq hqk
    obtain ⟨p, hp, hk⟩ := hasKind_iff.1 hrest
    exact h.takesKeyword hf hg hp hk (removedNames_eq_nil.1 hremoved p hp) ⟨q, hq, hqk, rfl⟩

/-- A positional parameter that callers can name keeps its name in its place: otherwise the new name is a
keyword that a call may give along with the place. -/
theorem name_eq_of_place {i : ℕ} {p q : Parameter} (hf : f.WellFormed) (hg : g.WellFormed)
    (h : f.Keeps g) (hsame : sameKinds f g = true) (hp : f.positionals[i]? = some p)
    (hq : g.positionals[i]? = some q) (hpk : p.kind = .positionalOrKeyword)
    (hqk : q.kind = .positionalOrKeyword) : p.name = q.name := by
  by_contra hne
  have hgone : p.name ∉ g.names := fun hname => hne (h.agree hf hg hp hq (Or.inl hname))
  have hnew : q.name ∉ f.names := fun hname => hne (h.agree hf hg hp hq (Or.inr hname))
  have hrest : g.hasKind .variadicKeyword = true :=
    (h.keywords p (mem_of_place hp) (by rw [hpk]; rfl)).resolve_left (not_takesKeyword hgone)
  have hrest : f.hasKind .variadicKeyword = true := by
    refine hasKind_of_sameKinds ?_ hrest
    unfold sameKinds at hsame ⊢
    rw [beq_iff_eq] at hsame ⊢
    exact hsame.symm
  exact h.single i q hq hqk (Or.inl (List.getElem?_eq_some_iff.1 hp).1)
    (Or.inr ⟨not_takesKeyword hnew, hrest⟩)

/-- Positional parameters of one kind in one place correspond. -/
theorem corresponds_of_place {i : ℕ} {p q : Parameter} (hf : f.WellFormed) (hg : g.WellFormed)
    (h : f.Keeps g) (hsame : sameKinds f g = true) (hp : f.positionals[i]? = some p)
    (hq : g.positionals[i]? = some q) (hk : p.kind = q.kind) : Corresponds p q := by
  have hname : p.kind.isKeyword = true → p.name = q.name := by
    intro hkey
    have hpk := ParameterKind.eq_positionalOrKeyword (isPositional_of_place hp) hkey
    exact name_eq_of_place hf hg h hsame hp hq hpk (hk ▸ hpk)
  refine ⟨hk, hname, fun hdefault => ?_⟩
  by_contra hnone
  have hpreq : ¬ p.isRequired = true := by
    intro hpreq
    rw [(Parameter.isRequired_iff.1 hpreq).2] at hdefault
    cases hdefault
  have hqreq : q.isRequired = true := Parameter.isRequired_iff.2
    ⟨ParameterKind.fixed_of_isPositional (isPositional_of_place hq), by simpa using hnone⟩
  rcases h.demands q (mem_of_place hq) hqreq with ⟨j, hj, hqj⟩ | ⟨s, hs, hsreq, -, hqk, hsq, -⟩
  · rw [place_unique hg.distinct hqj hq rfl] at hj
    exact hpreq ((hf.lt_forced_iff hp).1 hj).1
  · have hpq := hname (by rw [hk]; exact hqk)
    exact hpreq (eq_of_name_eq hf.distinct hs (mem_of_place hp) (hsq.trans hpq.symm) ▸ hsreq)

/-- A change between parameters of the same kinds that harms no call is a renaming. -/
theorem renames_of_sameKinds (hf : f.WellFormed) (hg : g.WellFormed) (h : f.Keeps g)
    (hsame : sameKinds f g = true) : Renames f g where
  toSoftens := h.softens hf hg
  same := hsame
  positionals := by
    have hkinds := forall₂_positionals (forall₂_of_sameKinds hsame) id
    rw [List.forall₂_iff_get]
    refine ⟨hkinds.length_eq, fun i hi hj => ?_⟩
    have hp := List.getElem?_eq_getElem hi
    have hq := List.getElem?_eq_getElem hj
    exact ⟨corresponds_of_place hf hg h hsame hp hq (hkinds.get hi hj),
      fun hname => h.agree hf hg hp hq (Or.inl hname)⟩
  keywords := by
    by_cases hrest : g.hasKind .variadicKeyword = true
    · exact Or.inl hrest
    · refine Or.inr fun p hp hk => ?_
      exact (h.keywords p hp (by rw [hk]; rfl)).resolve_right hrest
  collected := by
    intro p hp hk hname q hq hqk
    exact h.takesKeyword hf hg hp hk hname ⟨q, hq, by rw [hqk]; rfl, rfl⟩
  optional := by
    intro q hq hqk hreq
    rcases h.demands q hq hreq with ⟨j, -, hqj⟩ | ⟨p, hp, -, hpk, -, hpq, -⟩
    · have := isPositional_of_place hqj
      rw [hqk] at this
      cases this
    · exact ⟨p, hp, hpk, hpq⟩

/-! ## Breaking changes -/

/-- **Breaking changes.** One that harms no call is harmless by its shape. -/
theorem BreakingCase.harmless (hf : f.WellFormed) (hg : g.WellFormed) (h : f.Keeps g)
    (hcase : BreakingCase f g) : Harmless f g := by
  cases hcase with
  | undefaulted hdefaults =>
    refine absurd ((defaultsRemoved_eq_nil hf.distinct hg.distinct).2 ?_) hdefaults
    exact fun p q hr => h.default_stays hf hg hr
  | removal hadded hbreaks => exact Or.inr (Or.inl (captures_of_removal hf hg h hadded hbreaks))
  | demand hdemands => exact absurd (demanded_of_covers hg h.toCovers) hdemands
  | shift hplaces => exact absurd (h.placeChanges_eq_nil hf hg) hplaces
  | insertion hremoved hadds => exact Or.inl (appends_of_insertion hf hg h hremoved hadds)
  | kinds hremoved hbreaks =>
    rcases hbreaks with hcalls | houtcomes
    · have hfit := h.kindsFit_of_removed hf hg hremoved
      rw [(kindsBreakCalls_eq_false hf.distinct hg.distinct).2 hfit] at hcalls
      cases hcalls
    · exact absurd houtcomes (h.outcomes hf hg)
  | variadic hlost =>
    rw [losesVariadic_eq_false.2 ⟨h.rest, h.keywordRest⟩] at hlost
    cases hlost
  | renamed hsame => exact Or.inr (Or.inr (renames_of_sameKinds hf hg h hsame))
  | surplus hmore =>
    rw [demandsMore_of_covers hf hg h.toCovers] at hmore
    cases hmore
  | capacity hrest hless =>
    rcases h.capacity with hle | hrest'
    · omega
    · rw [hrest] at hrest'
      cases hrest'
  | keyword hrest hx hk =>
    obtain ⟨p, hp, rfl, hpk⟩ := (at?_iff hf.distinct).1 hk
    rcases h.keywords p hp hpk with htakes | hrest'
    · exact absurd htakes (not_takesKeyword (mem_removedNames.1 hx).2)
    · rw [hrest] at hrest'
      cases hrest'
  | order hremoved hadded hkinds hnames =>
    refine absurd (positionalNames_eq_of_places hf hg hremoved hkinds ?_
      (h.placeChanges_eq_nil hf hg)) hnames
    rw [Bool.eq_false_iff]
    intro hadds
    obtain ⟨q, hq, hname, -⟩ := (addsPositional_iff hg.distinct).1 hadds
    exact hname (removedNames_eq_nil.1 hadded q hq)

/-- **Breaking verdicts.** A breaking verdict has a call that is lost, or in which an argument leaves a
parameter whose name stays, unless the change is harmless by its shape. -/
theorem breaking_harms_iff {old new : Text} {a : Assessment} (hold : Signature.Declares old f)
    (hnew : Signature.Declares new g) (hf : f.names.Nodup) (hg : g.names.Nodup)
    (ha : Signature.assess .python old new = .ok a) (hv : a.verdict = .breaking) :
    (∃ c, f.Accepts c ∧ (¬ g.Accepts c ∨ f.Rebinds g c)) ↔ ¬ Harmless f g := by
  have hwf := hold.wellFormed hf
  have hwg := hnew.wellFormed hg
  rw [hold.assess_eq hnew, Except.ok.injEq] at ha
  subst ha
  constructor
  · rintro ⟨c, hc, hharmed⟩ hharmless
    obtain ⟨haccepts, hkept⟩ := (keeps_iff hwf hwg).1 (hharmless.keeps hwf hwg) c hc
    exact hharmed.elim (· haccepts) hkept
  · intro hnot
    by_contra hnone
    refine hnot ((breaking_cases hv).harmless hwf hwg ((keeps_iff hwf hwg).2 fun c hc => ?_))
    rw [not_exists] at hnone
    have hc := not_and.1 (hnone c) hc
    rwa [not_or, not_not] at hc

/-- Two parameters change places, and the first call by position is rebound. -/
theorem breaking_harms_iff_reordered :
    ∃ f g : Callable, Signature.Declares "def f(a, b, /)" f ∧ Signature.Declares "def f(b, a)" g ∧
      ∃ c, f.Accepts c ∧ (¬ g.Accepts c ∨ f.Rebinds g c) := by
  have hold : Signature.Declares "def f(a, b, /)"
      ⟨[⟨"a", .positionalOnly, none, none⟩, ⟨"b", .positionalOnly, none, none⟩],
        none, [], []⟩ := by
    decide +kernel
  have hnew : Signature.Declares "def f(b, a)"
      ⟨[⟨"b", .positionalOrKeyword, none, none⟩, ⟨"a", .positionalOrKeyword, none, none⟩],
        none, [], []⟩ := by
    decide +kernel
  refine ⟨_, _, hold, hnew, ?_⟩
  exact (breaking_harms_iff hold hnew (by decide +kernel) (by decide +kernel)
    (hold.assess_eq hnew) (by decide +kernel)).2 (by decide +kernel)

/-- An optional parameter is added in front of keywords that change their order: the verdict is
breaking, yet every call stays accepted with its arguments where they were. -/
theorem breaking_verdict_harms_no_call :
    ∃ f g : Callable, Signature.Declares "def f(*, a, b)" f ∧
      Signature.Declares "def f(c=0, *, b, a)" g ∧ f.names.Nodup ∧ g.names.Nodup ∧
      (Signature.assess .python "def f(*, a, b)" "def f(c=0, *, b, a)").map (·.verdict) =
        .ok .breaking ∧
      ∀ c, f.Accepts c → g.Accepts c ∧ ¬ f.Rebinds g c := by
  have hold : Signature.Declares "def f(*, a, b)"
      ⟨[⟨"a", .keywordOnly, none, none⟩, ⟨"b", .keywordOnly, none, none⟩], none, [], []⟩ := by
    decide +kernel
  have hnew : Signature.Declares "def f(c=0, *, b, a)"
      ⟨[⟨"c", .positionalOrKeyword, some (.node .integer [.atom "0"]), none⟩,
        ⟨"b", .keywordOnly, none, none⟩, ⟨"a", .keywordOnly, none, none⟩], none, [], []⟩ := by
    decide +kernel
  refine ⟨_, _, hold, hnew, by decide +kernel, by decide +kernel, ?_, ?_⟩
  · rw [hold.assess_eq hnew]
    exact congrArg Except.ok (by decide +kernel)
  · have hwf := hold.wellFormed (by decide +kernel)
    have hwg := hnew.wellFormed (by decide +kernel)
    exact (keeps_iff hwf hwg).1 (Harmless.keeps hwf hwg (by decide +kernel))

end ChangeReview.Callable
