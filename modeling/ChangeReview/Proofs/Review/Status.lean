import ChangeReview.CommandLine.Run
import ChangeReview.Proofs.Report.Lines
import ChangeReview.Proofs.Session.Basic
import ChangeReview.Proofs.Sorting

/-!
# The status of a review

A review goes through its steps in order: the root of the repository, the diff, the analysis of the diff and
the search for references. Its status tells whether its options conflict, whether a step failed, and
whether the analysis holds a change that is worth attention. The format and the length of what it prints
have no part in it.
-/

namespace ChangeReview

/-! ## Findings -/

namespace Finding

variable (files : List FileChange) (references : List Reference)

theorem ofFiles_isEmpty : (ofFiles files references).isEmpty = !hasHighSignal files := by
  unfold ofFiles hasHighSignal
  rw [Bool.eq_iff_iff]
  simp

/-- There are names to search for if there is a finding. -/
theorem names_isEmpty : (Text.distinct ((ofFiles files references).map (·.change.name))).isEmpty
    = !hasHighSignal files := by
  rw [← ofFiles_isEmpty files references, Bool.eq_iff_iff]
  simp only [List.isEmpty_iff, List.eq_nil_iff_forall_not_mem, Text.mem_distinct]
  simp

end Finding

namespace Review

/-! ## Running the steps of a review -/

namespace Labelled

variable {α β : Type} {s t : Session}

/-- The result of an action, and the session after it. -/
def on (act : Labelled α) (s : Session) : Except (Text × Failure) α × Session := act s

theorem on_bind {x : Labelled α} {f : α → Labelled β} {a : α} (h : x.on s = (.ok a, t)) :
    (x >>= f : Labelled β).on s = (f a).on t := by
  unfold on at h ⊢
  simp only [bind, ExceptT.bind, ExceptT.mk, ExceptT.bindCont, StateT.bind, h]

theorem on_bind_error {x : Labelled α} {f : α → Labelled β} {e : Text × Failure}
    (h : x.on s = (.error e, t)) : (x >>= f : Labelled β).on s = (.error e, t) := by
  unfold on at h ⊢
  simp only [bind, ExceptT.bind, ExceptT.mk, ExceptT.bindCont, StateT.bind, h]
  rfl

theorem on_under {act : Action α} {a : α} (h : act.on s = (.ok a, t)) (label : Text) :
    (under label act).on s = (.ok a, t) := by
  unfold Action.on at h
  unfold on under ExceptT.adapt
  simp only [ExceptT.mk, Functor.map, StateT.map, h]
  rfl

theorem on_under_error {act : Action α} {e : Failure} (h : act.on s = (.error e, t)) (label : Text) :
    (under label act).on s = (.error (label, e), t) := by
  unfold Action.on at h
  unfold on under ExceptT.adapt
  simp only [ExceptT.mk, Functor.map, StateT.map, h]
  rfl

end Labelled

/-! ## What a request meets with -/

namespace Request

variable {r : Request} {s t : Session}

/-- The options of a request exclude one another. -/
def Conflicts (r : Request) : Prop :=
  (r.isStaged = true ∧ r.range.isSome = true) ∨ (r.isWorktree = true ∧ r.range.isSome = true) ∨
    (r.isStaged = true ∧ r.isWorktree = true) ∨ (r.against.isSome = true ∧ r.isWorktree = false)

/-- The repository has a root and the request comes to a diff. -/
def Opens (r : Request) (s : Session) (root : Text) (m : Material) (t : Session) : Prop :=
  ∃ subject q, r.subject = .ok subject ∧ (Repository.root r.repository).on s = (.ok root, q) ∧
    (subject.material root).on q = (.ok m, t)

/-- The diff of a request holds something, and this is its analysis. -/
def Analyses (r : Request) (s : Session) (root : Text) (m : Material) (a : Analysis) (t : Session) : Prop :=
  ∃ q, r.Opens s root m q ∧ m.diff.isBlank = false ∧
    (Analysis.ofPatch m.diff m.label (some m.contents)).on q = (.ok a, t)

/-- The names whose references are searched. -/
def searched (a : Analysis) : List Text :=
  Text.distinct ((Finding.ofFiles a.files []).map (·.change.name))

/-- A step of a review fails after all steps before it have given a result. -/
inductive Raises (r : Request) (s : Session) : Prop where
  | root {subject : Subject} {e : Failure} {t : Session} (hsubject : r.subject = .ok subject)
      (hroot : (Repository.root r.repository).on s = (.error e, t))
  | diff {subject : Subject} {root : Text} {e : Text × Failure} {q t : Session}
      (hsubject : r.subject = .ok subject)
      (hroot : (Repository.root r.repository).on s = (.ok root, q))
      (hdiff : (subject.material root).on q = (.error e, t))
  | analysis {root : Text} {m : Material} {e : Failure} {q t : Session} (hopens : r.Opens s root m q)
      (hblank : m.diff.isBlank = false)
      (hanalysis : (Analysis.ofPatch m.diff m.label (some m.contents)).on q = (.error e, t))
  | search {root : Text} {m : Material} {a : Analysis} {e : Failure} {q t : Session}
      (hanalyses : r.Analyses s root m a q) (hasks : r.searchesReferences = true)
      (hnames : Finding.hasHighSignal a.files = true)
      (hsearch : (ReferenceSearch.run root (searched a) m.snapshot).on q = (.error e, t))

/-- The analysis of a request holds a change that is worth attention. -/
def Finds (r : Request) (s : Session) : Prop :=
  ∃ root m a t, r.Analyses s root m a t ∧ Finding.hasHighSignal a.files = true

theorem conflicts_iff : r.Conflicts ↔ ∃ c, r.subject = .error c := by
  unfold Conflicts subject
  cases r.isStaged <;> cases r.isWorktree <;> cases r.range <;> cases r.against <;> simp

theorem Opens.unique {root root' : Text} {m m' : Material} {t' : Session} (h : r.Opens s root m t)
    (h' : r.Opens s root' m' t') : root = root' ∧ m = m' ∧ t = t' := by
  obtain ⟨subject, q, hsubject, hroot, hdiff⟩ := h
  obtain ⟨subject', q', hsubject', hroot', hdiff'⟩ := h'
  cases hsubject.symm.trans hsubject'
  cases hroot.symm.trans hroot'
  cases hdiff.symm.trans hdiff'
  exact ⟨rfl, rfl, rfl⟩

theorem Analyses.unique {root root' : Text} {m m' : Material} {a a' : Analysis} {t' : Session}
    (h : r.Analyses s root m a t) (h' : r.Analyses s root' m' a' t') : a = a' := by
  obtain ⟨q, hopens, -, ha⟩ := h
  obtain ⟨q', hopens', -, ha'⟩ := h'
  obtain ⟨rfl, rfl, rfl⟩ := hopens.unique hopens'
  cases ha.symm.trans ha'
  rfl

end Request

/-! ## The review of a diff -/

namespace Material

variable {m : Material} {q t : Session}

theorem review_of_isBlank (h : m.diff.isBlank = true) (root : Text) (searches : Bool) (q : Session) :
    (m.review root searches).on q = (.ok .unchanged, q) := by
  unfold review
  rw [if_pos h]
  rfl

theorem review_of_error {e : Failure} (hblank : m.diff.isBlank = false)
    (h : (Analysis.ofPatch m.diff m.label (some m.contents)).on q = (.error e, t)) (root : Text)
    (searches : Bool) : (m.review root searches).on q = (.error e, t) := by
  unfold review
  rw [if_neg (by simp [hblank])]
  exact Action.on_bind_error h

theorem review_of_analysis {a : Analysis} (hblank : m.diff.isBlank = false)
    (h : (Analysis.ofPatch m.diff m.label (some m.contents)).on q = (.ok a, t)) (root : Text)
    (searches : Bool) : (m.review root searches).on q =
      if (searches && Finding.hasHighSignal a.files) = true then
        (ReferenceSearch.run root (Request.searched a) m.snapshot >>= fun found =>
          pure (.reviewed { a with warnings := a.warnings ++ found.warnings }
            (Finding.ofFiles a.files found.references)) : Action Outcome).on t
      else (.ok (.reviewed a (Finding.ofFiles a.files [])), t) := by
  unfold review
  rw [if_neg (by simp [hblank])]
  refine (Action.on_bind h).trans ?_
  simp only [Finding.names_isEmpty]
  cases searches <;> cases Finding.hasHighSignal a.files <;> rfl

end Material

/-! ## The review of a request -/

namespace Request

variable {r : Request} {subject : Subject} {s : Session}

/-- What is left of a review that has come to its diff. -/
theorem review_of_opens {root : Text} {m : Material} {q : Session} (hsubject : r.subject = .ok subject)
    (h : r.Opens s root m q) : (subject.review r.repository r.searchesReferences).on s =
      (under m.label (m.review root r.searchesReferences) >>= fun o => pure (m.label, o)).on q := by
  obtain ⟨subject', p, hsubject', hroot, hdiff⟩ := h
  cases hsubject.symm.trans hsubject'
  unfold Subject.review
  rw [Labelled.on_bind (Labelled.on_under hroot _), Labelled.on_bind hdiff]

/-- A review fails when a step of it fails. -/
theorem Raises.on_review (hsubject : r.subject = .ok subject) (h : r.Raises s) :
    ∃ e t, (subject.review r.repository r.searchesReferences).on s = (.error e, t) := by
  cases h with
  | root hsubject' hroot =>
    exact ⟨_, _, Labelled.on_bind_error (Labelled.on_under_error hroot _)⟩
  | diff hsubject' hroot hdiff =>
    cases hsubject.symm.trans hsubject'
    unfold Subject.review
    rw [Labelled.on_bind (Labelled.on_under hroot _), Labelled.on_bind_error hdiff]
    exact ⟨_, _, rfl⟩
  | analysis hopens hblank hanalysis =>
    have hvalue := Material.review_of_error hblank hanalysis
    rw [review_of_opens hsubject hopens]
    exact ⟨_, _, Labelled.on_bind_error (Labelled.on_under_error (hvalue _ _) _)⟩
  | @search root m a e q t hanalyses hasks hnames hsearch =>
    obtain ⟨p, hopens, hblank, hanalysis⟩ := hanalyses
    have hvalue := Material.review_of_analysis hblank hanalysis root r.searchesReferences
    rw [if_pos (by rw [hasks, hnames]; rfl), Action.on_bind_error hsearch] at hvalue
    rw [review_of_opens hsubject hopens]
    exact ⟨_, _, Labelled.on_bind_error (Labelled.on_under_error hvalue _)⟩

/-- A review fails at a step, comes to an empty diff, or has an analysis with the findings that it tells. -/
theorem review_cases (hsubject : r.subject = .ok subject) (s : Session) :
    r.Raises s ∨
    (∃ root m t, r.Opens s root m t ∧ m.diff.isBlank = true ∧
      (subject.review r.repository r.searchesReferences).on s = (.ok (m.label, .unchanged), t)) ∨
    ∃ root m a q, r.Analyses s root m a q ∧ ∃ b references t,
      (subject.review r.repository r.searchesReferences).on s
        = (.ok (m.label, .reviewed b (Finding.ofFiles a.files references)), t) := by
  rcases hroot : (Repository.root r.repository).on s with ⟨e | root, p⟩
  · exact Or.inl (.root hsubject hroot)
  rcases hdiff : (subject.material root).on p with ⟨e | m, q⟩
  · exact Or.inl (.diff hsubject hroot hdiff)
  have hopens : r.Opens s root m q := ⟨subject, p, hsubject, hroot, hdiff⟩
  have hreview : ∀ {o t}, (m.review root r.searchesReferences).on q = (.ok o, t) →
      (subject.review r.repository r.searchesReferences).on s = (.ok (m.label, o), t) := by
    intro o t h
    rw [review_of_opens hsubject hopens, Labelled.on_bind (Labelled.on_under h _)]
    rfl
  by_cases hblank : m.diff.isBlank = true
  · exact Or.inr (Or.inl ⟨root, m, q, hopens, hblank, hreview (Material.review_of_isBlank hblank _ _ _)⟩)
  rw [Bool.not_eq_true] at hblank
  rcases hanalysis : (Analysis.ofPatch m.diff m.label (some m.contents)).on q with ⟨e | a, t⟩
  · exact Or.inl (.analysis hopens hblank hanalysis)
  have hanalyses : r.Analyses s root m a t := ⟨q, hopens, hblank, hanalysis⟩
  have hvalue := Material.review_of_analysis hblank hanalysis root r.searchesReferences
  by_cases hasks : (r.searchesReferences && Finding.hasHighSignal a.files) = true
  · rw [if_pos hasks] at hvalue
    rw [Bool.and_eq_true] at hasks
    rcases hsearch : (ReferenceSearch.run root (searched a) m.snapshot).on t with ⟨e | found, u⟩
    · exact Or.inl (.search hanalyses hasks.1 hasks.2 hsearch)
    · rw [Action.on_bind hsearch] at hvalue
      exact Or.inr (Or.inr ⟨root, m, a, t, hanalyses, _, _, _, hreview hvalue⟩)
  · rw [if_neg hasks] at hvalue
    exact Or.inr (Or.inr ⟨root, m, a, t, hanalyses, _, _, _, hreview hvalue⟩)

end Request

/-! ## Statuses -/

/-- The status that tells of a result. -/
def statusOf : Except (Text × Failure) (Text × Outcome) → Nat
  | .error _ => 2
  | .ok (_, .unchanged) => 0
  | .ok (_, .reviewed _ findings) => if findings.isEmpty then 0 else 1

theorem status_printFailure (format : Format) (label : Text) (mode : ReviewMode) (message : Text) :
    (printFailure format label mode message).status = 2 := by
  cases format <;> rfl

/-- A finding is told by the status, whether the review is a document or a text. -/
theorem status_printOutcome (format : Format) (isVerbose : Bool) (label : Text) (mode : ReviewMode)
    (o : Outcome) : (printOutcome format isVerbose label mode o).status = statusOf (.ok (label, o)) := by
  cases o with
  | unchanged => cases format <;> rfl
  | reviewed a findings =>
    cases format with
    | json => rfl
    | text =>
      unfold printOutcome statusOf
      simp only [Report.reviewText_isEmpty]
      cases findings.isEmpty <;> cases isVerbose <;> rfl

namespace Request

variable {r : Request} {subject : Subject}

theorem print_of_conflict {c : Conflict} (h : r.subject = .error c) (format : Format) (isVerbose : Bool)
    (s : Session) : ∃ printed, (r.print format isVerbose) s = (printed, s) ∧ printed.status = 2 := by
  unfold Request.print
  rw [h]
  exact ⟨_, rfl, status_printFailure format _ _ _⟩

theorem print_of_subject (h : r.subject = .ok subject) (format : Format) (isVerbose : Bool) (s : Session) :
    ∃ printed, (r.print format isVerbose) s
        = (printed, ((subject.review r.repository r.searchesReferences).on s).2) ∧
      printed.status = statusOf ((subject.review r.repository r.searchesReferences).on s).1 := by
  rcases hreview : (subject.review r.repository r.searchesReferences).on s with ⟨⟨label, e⟩ | ⟨label, o⟩, t⟩
  · refine ⟨printFailure format label subject.mode e.message, ?_, status_printFailure format _ _ _⟩
    unfold Request.print
    rw [h]
    unfold Labelled.on at hreview
    simp only [ExceptT.run, bind, StateT.bind, hreview]
    rfl
  · refine ⟨printOutcome format isVerbose label subject.mode o, ?_, status_printOutcome ..⟩
    unfold Request.print
    rw [h]
    unfold Labelled.on at hreview
    simp only [ExceptT.run, bind, StateT.bind, hreview]
    rfl

theorem statusOf_review (h : r.subject = .ok subject) (s : Session) :
    let status := statusOf ((subject.review r.repository r.searchesReferences).on s).1
    (status = 2 ↔ r.Raises s) ∧ (status = 1 ↔ ¬ r.Raises s ∧ r.Finds s) ∧
      (status = 0 ↔ ¬ r.Raises s ∧ ¬ r.Finds s) := by
  by_cases hraises : r.Raises s
  · obtain ⟨e, t, hreview⟩ := hraises.on_review h
    simp [hreview, statusOf, hraises]
  · rcases review_cases h s with hraised | ⟨root, m, t, hopens, hblank, hreview⟩
      | ⟨root, m, a, q, hanalyses, b, references, t, hreview⟩
    · exact absurd hraised hraises
    · have hfinds : ¬ r.Finds s := by
        rintro ⟨root', m', a, t', ⟨q, hopens', hblank', -⟩, -⟩
        obtain ⟨-, rfl, -⟩ := hopens.unique hopens'
        simp [hblank] at hblank'
      simp [hreview, statusOf, hraises, hfinds]
    · have hfinds : r.Finds s ↔ Finding.hasHighSignal a.files = true := by
        constructor
        · rintro ⟨root', m', a', t', hanalyses', hsignal⟩
          rwa [hanalyses.unique hanalyses']
        · intro hsignal
          exact ⟨root, m, a, q, hanalyses, hsignal⟩
      simp only [hreview, statusOf, Finding.ofFiles_isEmpty, hfinds, hraises]
      cases Finding.hasHighSignal a.files <;> simp

end Request

/-- In every session and for every request, a review ends with the same status and in the same session
whatever it prints. The status is 2 when the options conflict or a step fails; else it is 1 when the analysis
holds a change that is worth attention, and 0 when it does not or the diff is empty. -/
theorem status_independent_of_format (r : Request) (s : Session) :
    ∃ status t,
      (∀ format isVerbose input, ∃ printed,
        ((CommandLine.Request.review r format isVerbose).perform input).on s = (.ok printed, t) ∧
        printed.status = status) ∧
      (status = 2 ↔ r.Conflicts ∨ r.Raises s) ∧
      (status = 1 ↔ ¬ (r.Conflicts ∨ r.Raises s) ∧ r.Finds s) ∧
      (status = 0 ↔ ¬ (r.Conflicts ∨ r.Raises s) ∧ ¬ r.Finds s) := by
  have hperform : ∀ {format isVerbose printed t} (input : Text), (r.print format isVerbose) s = (printed, t) →
      ((CommandLine.Request.review r format isVerbose).perform input).on s = (.ok printed, t) := by
    intro format isVerbose printed t input h
    unfold CommandLine.Request.perform Action.on
    simp only [ExceptT.lift, ExceptT.mk, Functor.map, StateT.map, h]
    rfl
  cases hsubject : r.subject with
  | error c =>
    have hconflicts : r.Conflicts := Request.conflicts_iff.2 ⟨c, hsubject⟩
    refine ⟨2, s, fun format isVerbose input => ?_, by simp [hconflicts]⟩
    obtain ⟨printed, hprint, hstatus⟩ := Request.print_of_conflict hsubject format isVerbose s
    exact ⟨printed, hperform input hprint, hstatus⟩
  | ok subject =>
    have hconflicts : ¬ r.Conflicts := by
      rw [Request.conflicts_iff, hsubject]
      simp
    refine ⟨statusOf ((subject.review r.repository r.searchesReferences).on s).1,
      ((subject.review r.repository r.searchesReferences).on s).2, fun format isVerbose input => ?_, ?_⟩
    · obtain ⟨printed, hprint, hstatus⟩ := Request.print_of_subject hsubject format isVerbose s
      exact ⟨printed, hperform input hprint, hstatus⟩
    · simpa [hconflicts] using Request.statusOf_review hsubject s

end Review

end ChangeReview
