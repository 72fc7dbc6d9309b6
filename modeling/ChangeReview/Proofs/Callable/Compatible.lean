import ChangeReview.Proofs.Callable.Declared
import ChangeReview.Proofs.Callable.Preservation

/-!
# Compatible verdicts

A compatible verdict comes from one of the conditions of `Preservation`. Where no retained parameter
changes its kind, every call stays accepted and every argument of a fixed parameter stays with its name.
Where kinds change, one thing can go wrong: a name that is taken by position and by keyword before and
after may have moved. `compatible_accepts_iff` says that calls are lost exactly then.
-/

namespace ChangeReview.Callable

variable {f g : Callable} {p q : Parameter}

/-! ## From the checks to the conditions -/

theorem KindsCompatible.widens (hf : f.WellFormed) (hg : g.WellFormed)
    (hdefaults : defaultsRemoved f g = []) (h : KindsCompatible f g) : Widens f g where
  steps := by
    intro p q hr
    by_cases hk : p.kind = q.kind
    · rw [hk]
      exact .same
    · exact kindStep_of_outcome
        (h.outcomes _ ((mem_kindOutcomes hf.distinct hg.distinct).2 ⟨p, q, hr, hk, rfl⟩))
  defaults := (defaultsRemoved_eq_nil hf.distinct hg.distinct).1 hdefaults

theorem kindChanges_ne_nil (hf : f.WellFormed) (hg : g.WellFormed) (hr : Retained f g p q)
    (hk : p.kind ≠ q.kind) : kindChanges f g ≠ [] :=
  fun hnil => hk ((kindChanges_eq_nil hf.distinct hg.distinct).1 hnil p q hr)

theorem shrinks_of_removal (hf : f.WellFormed) (hg : g.WellFormed)
    (hdefaults : defaultsRemoved f g = []) (hadded : removedNames g f = [])
    (hverdict : removalVerdict f g (removedNames f g) = .compatible)
    (hkinds : KindsCompatible f g) : Shrinks f g where
  toWidens := hkinds.widens hf hg hdefaults
  added := hadded
  positionals := (captured_of_removalVerdict hf.distinct hverdict).1
  captured := (captured_of_removalVerdict hf.distinct hverdict).2
  reserved := by
    intro hrest p q hr hp hq
    have hchanged := kindChanges_ne_nil hf hg hr (by rw [hp, hq]; decide)
    have hfit := (kindsBreakCalls_eq_false hf.distinct hg.distinct).1 (hkinds.shape hchanged)
    exact hfit.reserved hrest p q hr hp hq

/-- A parameter that stays positional in a shortened list keeps its place. -/
theorem Shrinks.placeChanges_eq_nil (hf : f.WellFormed) (hg : g.WellFormed) (h : Shrinks f g) :
    placeChanges f g = [] := by
  rw [Callable.placeChanges_eq_nil hf.distinct hg.distinct]
  intro i j p q hi hj hname
  obtain ⟨r, hr, hrname⟩ := place_of_isPrefix h.positionals hj
  exact place_unique hf.distinct hi hr (hname.trans hrname)

theorem sharedPlaces_of_placeChanges (hf : f.WellFormed) (hg : g.WellFormed)
    (h : placeChanges f g = []) : f.SharedPlaces g :=
  fun i j p q hi hj hname _ _ =>
    (placeChanges_eq_nil hf.distinct hg.distinct).1 h i j p q hi hj hname

/-- The same positional names in the same kinds fit together. -/
theorem kindsFit_of_positionalNames (hf : f.WellFormed) (hg : g.WellFormed)
    (hremoved : removedNames f g = []) (hkinds : kindChanges f g = [])
    (hnames : f.positionalNames = g.positionalNames) : KindsFit f g := by
  have hsame := (kindChanges_eq_nil hf.distinct hg.distinct).1 hkinds
  have hkind : ∀ k, f.hasKind k = true → g.hasKind k = true := by
    intro k hk
    obtain ⟨p, hp, hpk⟩ := hasKind_iff.1 hk
    obtain ⟨q, hr⟩ := exists_retained hp (removedNames_eq_nil.1 hremoved p hp)
    exact hasKind_iff.2 ⟨q, hr.right, (hsame p q hr).symm.trans hpk⟩
  have hstill : f.stillPositional g = f.positionalNames := by
    refine List.filter_eq_self.2 fun x hx => ?_
    obtain ⟨p, hp, hk, rfl⟩ := mem_positionalNames.1 hx
    obtain ⟨q, hr⟩ := exists_retained hp (removedNames_eq_nil.1 hremoved p hp)
    rw [keptByVariadic_name hf.distinct hg.distinct hr, ← hsame p q hr, hk]
    rfl
  refine ⟨hkind _, hkind _, ?_, ?_, ?_, ?_⟩
  · rw [hstill, hnames]
  · intro _
    rw [hstill, hnames, positionalNames_length]
  · intro p q hr hp hq
    rw [hsame p q hr, hq] at hp
    cases hp
  · intro _ p q hr hp hq
    rw [hsame p q hr, hq] at hp
    cases hp

/-- Where kinds and places stay and no positional parameter is added, the positional names are the
same. -/
theorem positionalNames_eq_of_places (hf : f.WellFormed) (hg : g.WellFormed)
    (hremoved : removedNames f g = []) (hkinds : kindChanges f g = [])
    (hadds : addsPositional f g = false) (hplaces : placeChanges f g = []) :
    f.positionalNames = g.positionalNames := by
  have hsame := (kindChanges_eq_nil hf.distinct hg.distinct).1 hkinds
  have hstay := (placeChanges_eq_nil hf.distinct hg.distinct).1 hplaces
  refine List.ext_getElem? fun i => Option.ext fun x => ?_
  rw [positionalNames_place, positionalNames_place]
  constructor
  · rintro ⟨p, hp, rfl⟩
    obtain ⟨q, hr⟩ := exists_retained (mem_of_place hp)
      (removedNames_eq_nil.1 hremoved p (mem_of_place hp))
    obtain ⟨j, hj⟩ := exists_place hr.right (hsame p q hr ▸ isPositional_of_place hp)
    rw [hstay i j p q hp hj hr.name_eq]
    exact ⟨q, hj, hr.name_eq.symm⟩
  · rintro ⟨q, hq, rfl⟩
    have hname : q.name ∈ f.names := by
      by_contra hnew
      have := (addsPositional_iff hg.distinct).2
        ⟨q, mem_of_place hq, hnew, isPositional_of_place hq⟩
      rw [hadds] at this
      cases this
    obtain ⟨p, hp, hpq⟩ := mem_names.1 hname
    have hr : Retained f g p q := ⟨hp, mem_of_place hq, hpq⟩
    obtain ⟨j, hj⟩ := exists_place hp (by rw [hsame p q hr]; exact isPositional_of_place hq)
    rw [← hstay j i p q hj hq hpq]
    exact ⟨p, hj, hpq⟩

theorem grows_of_addition (hf : f.WellFormed) (hg : g.WellFormed)
    (hdefaults : defaultsRemoved f g = []) (hremoved : removedNames f g = [])
    (hdemands : demanded f g (requiredNames f g) = []) (hplaces : placeChanges f g = [])
    (hpositional : addsPositional f g = true →
      kindsBreakCalls f g = false ∧ claimsKeyword f g (removedNames g f) = false)
    (hkinds : KindsCompatible f g) : Grows f g where
  toWidens := hkinds.widens hf hg hdefaults
  removed := hremoved
  optional := hdemands
  kinds := by
    have hfit := (kindsBreakCalls_eq_false hf.distinct hg.distinct).1
    by_cases hchanged : kindChanges f g = []
    · cases hadds : addsPositional f g with
      | true => exact hfit (hpositional hadds).1
      | false =>
        exact kindsFit_of_positionalNames hf hg hremoved hchanged
          (positionalNames_eq_of_places hf hg hremoved hchanged hadds hplaces)
    · exact hfit (hkinds.shape hchanged)
  claims := by
    rw [Bool.eq_false_iff]
    intro hclaims
    obtain ⟨-, j, q, hj, hname, -, -⟩ := claimsKeyword_iff.1 hclaims
    have hadds := (addsPositional_iff hg.distinct).2
      ⟨q, mem_of_place hj, hname, isPositional_of_place hj⟩
    rw [(hpositional hadds).2] at hclaims
    cases hclaims

/-- Without added names, nothing is demanded and no keyword is claimed. -/
theorem grows_of_kinds (hw : Widens f g) (hremoved : removedNames f g = [])
    (hadded : removedNames g f = []) (hfit : KindsFit f g) : Grows f g where
  toWidens := hw
  removed := hremoved
  kinds := hfit
  optional := by
    unfold requiredNames
    rw [hadded]
    rfl
  claims := by
    rw [Bool.eq_false_iff]
    intro hclaims
    obtain ⟨-, j, q, hj, hname, -, -⟩ := claimsKeyword_iff.1 hclaims
    exact hname (removedNames_eq_nil.1 hadded q (mem_of_place hj))

theorem positionalNames_eq_filter (hf : f.WellFormed) :
    f.positionalNames = f.names.filter fun x => f.at? x (·.kind.isPositional) := by
  unfold positionalNames positionals names
  rw [List.filter_map]
  congr 1
  refine List.filter_congr fun p hp => ?_
  exact (at?_name hf.distinct hp (·.kind.isPositional)).symm

/-- Functions with the same names in the same kinds have the same positional names. -/
theorem positionalNames_eq_of_names (hf : f.WellFormed) (hg : g.WellFormed)
    (hkinds : kindChanges f g = []) (hnames : f.names = g.names) :
    f.positionalNames = g.positionalNames := by
  rw [positionalNames_eq_filter hf, positionalNames_eq_filter hg, hnames]
  refine List.filter_congr fun x hx => ?_
  obtain ⟨q, hq, rfl⟩ := mem_names.1 hx
  obtain ⟨p, hp, hpq⟩ := mem_names.1 (hnames ▸ name_mem hq)
  rw [at?_name hg.distinct hq, ← hpq, at?_name hf.distinct hp,
    (kindChanges_eq_nil hf.distinct hg.distinct).1 hkinds p q ⟨hp, hq, hpq⟩]

theorem placeChanges_of_positionalNames (hf : f.WellFormed) (hg : g.WellFormed)
    (hnames : f.positionalNames = g.positionalNames) : placeChanges f g = [] := by
  rw [placeChanges_eq_nil hf.distinct hg.distinct]
  intro i j p q hi hj hname
  obtain ⟨r, hr, hrq⟩ := positionalNames_place.1 (hnames ▸ positionalNames_place.2 ⟨q, hj, rfl⟩)
  exact place_unique hf.distinct hi hr (hname.trans hrq.symm)

theorem aligned_of_renaming (hsame : sameKinds f g = true) (hnames : renamesKeyword f g = false)
    (hother : otherSyntaxDiffers f g = false) : Aligned f g := by
  have hkind := forall₂_of_sameKinds hsame
  have hdefault : List.Forall₂ (fun p q : Parameter => (p.default, p.hint) = (q.default, q.hint))
      f.parameters g.parameters := by
    unfold otherSyntaxDiffers at hother
    simp only [Bool.or_eq_false_iff, bne_eq_false_iff_eq] at hother
    rw [← List.forall₂_map_right_iff (f := fun q : Parameter => (q.default, q.hint)),
      ← List.forall₂_map_left_iff (f := fun p : Parameter => (p.default, p.hint)) (R := Eq),
      List.forall₂_eq_eq_eq]
    exact hother.1.1.1
  have hall : List.Forall₂ Corresponds f.parameters g.parameters := by
    refine List.forall₂_iff_zip.2 ⟨hkind.length_eq, fun {p q} hpq => ⟨?_, ?_, ?_⟩⟩
    · exact List.forall₂_zip hkind hpq
    · intro hk
      by_contra hne
      unfold renamesKeyword at hnames
      have := List.any_eq_false.1 hnames _ hpq
      simp [hne, hk] at this
    · rw [(Prod.mk.inj (List.forall₂_zip hdefault hpq)).1]
      exact id
  have hmem : ∀ p ∈ f.parameters, ∃ q ∈ g.parameters, Corresponds p q := by
    intro p hp
    obtain ⟨i, hi⟩ := List.getElem?_of_mem hp
    obtain ⟨q, hq, hpq⟩ := exists_right_of_forall₂ hall hi
    exact ⟨q, List.mem_of_getElem? hq, hpq⟩
  refine ⟨?_, hasKind_of_sameKinds hsame, hasKind_of_sameKinds hsame, ?_, ?_⟩
  · exact forall₂_positionals hall fun hpq => hpq.kind
  · intro p hp hpk
    obtain ⟨q, hq, hpq⟩ := hmem p hp
    have hk : p.kind.isKeyword = true := by rw [hpk]; rfl
    exact Or.inl ⟨q, hq, hpq.kind ▸ hk, (hpq.name hk).symm⟩
  · intro q hq hqk hreq
    obtain ⟨j, hj⟩ := List.getElem?_of_mem hq
    obtain ⟨p, hp, hpq⟩ := exists_left_of_forall₂ hall hj
    have hpk : p.kind = .keywordOnly := hpq.kind.trans hqk
    exact ⟨p, List.mem_of_getElem? hp, hpk, hpq.required hreq, hpq.name (by rw [hpk]; rfl)⟩

/-! ## Compatible changes -/

/-- **Compatible changes.** Either no call is lost and no place changes, or the function grows; then a
place changes only along with a kind. -/
theorem CompatibleCase.covers_or_grows (hf : f.WellFormed) (hg : g.WellFormed)
    (hdefaults : defaultsRemoved f g = []) (h : CompatibleCase f g) :
    (f.Covers g ∧ placeChanges f g = []) ∨
      (Grows f g ∧ (kindChanges f g = [] → placeChanges f g = [])) := by
  cases h with
  | removal hadded hverdict hkinds =>
    have hshrinks := shrinks_of_removal hf hg hdefaults hadded hverdict hkinds
    exact Or.inl ⟨hshrinks.covers hf, hshrinks.placeChanges_eq_nil hf hg⟩
  | addition hremoved hdemands hplaces hpositional hkinds =>
    exact Or.inr ⟨grows_of_addition hf hg hdefaults hremoved hdemands hplaces hpositional hkinds,
      fun _ => hplaces⟩
  | renamed hsame hplaces hnames hother =>
    exact Or.inl ⟨(aligned_of_renaming hsame hnames hother).covers hf, hplaces⟩
  | kinds hremoved hadded hchanged hkinds =>
    exact Or.inr ⟨grows_of_kinds (hkinds.widens hf hg hdefaults) hremoved hadded
      ((kindsBreakCalls_eq_false hf.distinct hg.distinct).1 (hkinds.shape hchanged)),
      fun hnil => absurd hnil hchanged⟩
  | order hremoved hadded hkinds hnames =>
    -- only names that no position tells apart may change their order
    have hpositional : f.positionalNames = g.positionalNames :=
      hnames.elim (positionalNames_eq_of_names hf hg hkinds) id
    have hcompatible : KindsCompatible f g := by
      refine ⟨fun hne => absurd hkinds hne, ?_⟩
      rw [hkinds, kindOutcomes_nil]
      rintro v ⟨⟩
    exact Or.inr ⟨grows_of_kinds (hcompatible.widens hf hg hdefaults) hremoved hadded
      (kindsFit_of_positionalNames hf hg hremoved hkinds hpositional),
      fun _ => placeChanges_of_positionalNames hf hg hpositional⟩

/-- After a compatible change no call is lost exactly when shared names stay in their places. -/
theorem covers_iff_sharedPlaces (hf : f.WellFormed) (hg : g.WellFormed)
    (h : (f.assess g).verdict = .compatible) : f.Covers g ↔ f.SharedPlaces g := by
  obtain ⟨hdefaults, hcase⟩ := compatible_cases h
  rcases hcase.covers_or_grows hf hg hdefaults with ⟨hcovers, hplaces⟩ | ⟨hgrows, -⟩
  · exact iff_of_true hcovers (sharedPlaces_of_placeChanges hf hg hplaces)
  · exact ⟨hgrows.sharedPlaces hf hg, hgrows.covers hf hg⟩

/-- A compatible change that changes no kind changes no place either. -/
theorem placeChanges_of_compatible (hf : f.WellFormed) (hg : g.WellFormed)
    (h : (f.assess g).verdict = .compatible) (hkinds : kindChanges f g = []) :
    placeChanges f g = [] := by
  obtain ⟨hdefaults, hcase⟩ := compatible_cases h
  rcases hcase.covers_or_grows hf hg hdefaults with ⟨-, hplaces⟩ | ⟨-, hplaces⟩
  · exact hplaces
  · exact hplaces hkinds

/-- Where kinds and places stay, so do the arguments of fixed parameters. -/
theorem Reaches.of_retained {a : Argument} (hf : f.WellFormed) (hg : g.WellFormed)
    (hkinds : kindChanges f g = []) (hplaces : placeChanges f g = []) (h : f.Reaches a p)
    (hfixed : p.kind.isVariadic = false) (hr : Retained f g p q) : g.Reaches a q := by
  have hk := (kindChanges_eq_nil hf.distinct hg.distinct).1 hkinds p q hr
  cases h with
  | place hi =>
    obtain ⟨j, hj⟩ := exists_place hr.right (hk ▸ isPositional_of_place hi)
    rw [(placeChanges_eq_nil hf.distinct hg.distinct).1 hplaces _ j p q hi hj hr.name_eq]
    exact .place hj
  | rest _ _ hv => rw [hv] at hfixed; cases hfixed
  | name _ hkey hx => exact .name hr.right (hk ▸ hkey) (hr.name_eq.symm.trans hx)
  | keywordRest _ _ hv => rw [hv] at hfixed; cases hfixed

/-- **Compatible without changed kinds.** If no retained parameter changes its kind, a compatible verdict
means that every call stays accepted, and that the arguments of fixed parameters whose names stay are
bound to these names. -/
theorem compatible_keeps_calls {old new : Text} {a : Assessment} (hold : Signature.Declares old f)
    (hnew : Signature.Declares new g) (hf : f.names.Nodup) (hg : g.names.Nodup)
    (hkinds : ∀ p ∈ f.parameters, ∀ q ∈ g.parameters, p.name = q.name → p.kind = q.kind)
    (ha : Signature.assess .python old new = .ok a) (hv : a.verdict = .compatible) {c : Call}
    (hc : f.Accepts c) :
    g.Accepts c ∧ ∀ x ∈ c.arguments, ∀ p, f.receiver? x = some p → p.kind.isVariadic = false →
      p.name ∈ g.names → ∃ q, g.receiver? x = some q ∧ q.name = p.name := by
  have hwf := hold.wellFormed hf
  have hwg := hnew.wellFormed hg
  rw [hold.assess_eq hnew, Except.ok.injEq] at ha
  subst ha
  have hsame : kindChanges f g = [] :=
    (kindChanges_eq_nil hf hg).2 fun p q hr => hkinds p hr.left q hr.right hr.name_eq
  have hplaces := placeChanges_of_compatible hwf hwg hv hsame
  have hcovers := (covers_iff_sharedPlaces hwf hwg hv).2
    (sharedPlaces_of_placeChanges hwf hwg hplaces)
  refine ⟨hcovers.accepts hwf hwg hc, ?_⟩
  intro x _ p hp hfixed hname
  have hreach := (receiver?_eq_some hwf).1 hp
  obtain ⟨q, hr⟩ := exists_retained hreach.mem hname
  exact ⟨q, (receiver?_eq_some hwg).2 (hreach.of_retained hwf hwg hsame hplaces hfixed hr),
    hr.name_eq.symm⟩

/-- Parameters that go to collectors which were there before. -/
theorem compatible_keeps_calls_captured :
    ∃ f g : Callable, Signature.Declares "def f(a, b, *rest, c, **more)" f ∧
      Signature.Declares "def f(a, *rest, **more)" g ∧
      f.Accepts ⟨1, {("b" : Text), ("c" : Text)}⟩ ∧
      g.Accepts ⟨1, {("b" : Text), ("c" : Text)}⟩ := by
  have hold : Signature.Declares "def f(a, b, *rest, c, **more)"
      ⟨[⟨"a", .positionalOrKeyword, none, none⟩, ⟨"b", .positionalOrKeyword, none, none⟩,
        ⟨"rest", .variadicPositional, none, none⟩, ⟨"c", .keywordOnly, none, none⟩,
        ⟨"more", .variadicKeyword, none, none⟩], none, [], []⟩ := by decide +kernel
  have hnew : Signature.Declares "def f(a, *rest, **more)"
      ⟨[⟨"a", .positionalOrKeyword, none, none⟩, ⟨"rest", .variadicPositional, none, none⟩,
        ⟨"more", .variadicKeyword, none, none⟩], none, [], []⟩ := by decide +kernel
  refine ⟨_, _, hold, hnew, by decide +kernel, ?_⟩
  exact (compatible_keeps_calls hold hnew (by decide +kernel) (by decide +kernel)
    (by decide +kernel) (hold.assess_eq hnew) (by decide +kernel) (by decide +kernel)).1

/-- **Compatible with changed kinds.** A compatible verdict may lose calls in one way only: a name that is
taken both by position and by keyword, before and after, stands in another place. -/
theorem compatible_accepts_iff {old new : Text} {a : Assessment} (hold : Signature.Declares old f)
    (hnew : Signature.Declares new g) (hf : f.names.Nodup) (hg : g.names.Nodup)
    (ha : Signature.assess .python old new = .ok a) (hv : a.verdict = .compatible) :
    (∀ c, f.Accepts c → g.Accepts c) ↔ f.SharedPlaces g := by
  have hwf := hold.wellFormed hf
  have hwg := hnew.wellFormed hg
  rw [hold.assess_eq hnew, Except.ok.injEq] at ha
  subst ha
  rw [← covers_iff hwf hwg, covers_iff_sharedPlaces hwf hwg hv]

/-- Parameters of one way each that are taken both ways. -/
theorem compatible_accepts_iff_widened :
    ∃ f g : Callable, Signature.Declares "def f(a, /, *, b)" f ∧
      Signature.Declares "def f(a, b)" g ∧ ∀ c, f.Accepts c → g.Accepts c := by
  have hold : Signature.Declares "def f(a, /, *, b)"
      ⟨[⟨"a", .positionalOnly, none, none⟩, ⟨"b", .keywordOnly, none, none⟩], none, [], []⟩ := by
    decide +kernel
  have hnew : Signature.Declares "def f(a, b)"
      ⟨[⟨"a", .positionalOrKeyword, none, none⟩, ⟨"b", .positionalOrKeyword, none, none⟩],
        none, [], []⟩ := by
    decide +kernel
  refine ⟨_, _, hold, hnew, ?_⟩
  exact (compatible_accepts_iff hold hnew (by decide +kernel) (by decide +kernel)
    (hold.assess_eq hnew) (by decide +kernel)).2 (by decide +kernel)

/-- A first parameter becomes the collector and the second one moves to its place: the verdict is
compatible, yet a call with one argument of each sort is lost. -/
theorem compatible_verdict_loses_call :
    ∃ f g : Callable, Signature.Declares "def f(a, /, b)" f ∧ Signature.Declares "def f(b, *a)" g ∧
      f.names.Nodup ∧ g.names.Nodup ∧ kindChanges f g ≠ [] ∧
      (Signature.assess .python "def f(a, /, b)" "def f(b, *a)").map (·.verdict) = .ok .compatible ∧
      f.Accepts ⟨1, {("b" : Text)}⟩ ∧ ¬ g.Accepts ⟨1, {("b" : Text)}⟩ := by
  have hold : Signature.Declares "def f(a, /, b)"
      ⟨[⟨"a", .positionalOnly, none, none⟩, ⟨"b", .positionalOrKeyword, none, none⟩],
        none, [], []⟩ := by
    decide +kernel
  have hnew : Signature.Declares "def f(b, *a)"
      ⟨[⟨"b", .positionalOrKeyword, none, none⟩, ⟨"a", .variadicPositional, none, none⟩],
        none, [], []⟩ := by
    decide +kernel
  refine ⟨_, _, hold, hnew, by decide +kernel, by decide +kernel, by decide +kernel, ?_,
    by decide +kernel, by decide +kernel⟩
  rw [hold.assess_eq hnew]
  exact congrArg Except.ok (by decide +kernel)

end ChangeReview.Callable
