import ChangeReview.Proofs.Session.Basic
import ChangeReview.Repository.Snapshot

/-!
# Reading files between parses

A session keeps a record of the grammars that sources were parsed by. Reading a file takes no notice of that
record and keeps the trees, so files may be read and parsed in turns.
-/

namespace ChangeReview

/-- What the reply to a command gives. -/
def Reply.outcome (c : Command) : Reply → Except Failure Outcome
  | .finished outcome => .ok outcome
  | .unavailable => .error (.file .missing (c.headD []))

namespace Action

variable {α β : Type}

theorem on_run (c : Command) (s : Session) : (run c).on s = ((s.ask c).1.outcome c, (s.ask c).2) := by
  have hask : (modifyGet (·.ask c) : Action Reply).on s = (.ok (s.ask c).1, (s.ask c).2) := rfl
  rw [run, on_bind hask]
  cases (s.ask c).1 <;> rfl

/-- The action takes no notice of the grammars that were used, and keeps the trees. -/
structure Steady (act : Action α) : Prop where
  on_dialects : ∀ s dialects, act.on { s with dialects } = ((act.on s).1, { (act.on s).2 with dialects })
  trees_eq : ∀ s, (act.on s).2.trees = s.trees

theorem steady_pure (a : α) : Steady (pure a : Action α) := ⟨fun _ _ => rfl, fun _ => rfl⟩

theorem Steady.bind {x : Action α} {f : α → Action β} (hx : Steady x) (hf : ∀ a, Steady (f a)) :
    Steady (x >>= f) := by
  constructor
  · intro s dialects
    have hmoved := hx.on_dialects s dialects
    rcases hres : x.on s with ⟨e | a, r⟩
    · rw [hres] at hmoved
      rw [on_bind_error hres, on_bind_error hmoved]
    · rw [hres] at hmoved
      rw [on_bind hres, on_bind hmoved, (hf a).on_dialects]
  · intro s
    have hkept := hx.trees_eq s
    rcases hres : x.on s with ⟨e | a, r⟩
    · rw [hres] at hkept
      rw [on_bind_error hres, hkept]
    · rw [hres] at hkept
      rw [on_bind hres, (hf a).trees_eq, hkept]

theorem steady_run (c : Command) : Steady (run c) := by
  constructor
  · intro s dialects
    have hask : Session.ask { s with dialects } c = ((s.ask c).1, { (s.ask c).2 with dialects }) := by
      unfold Session.ask
      dsimp only
      cases Prepared.take? c s.prepared <;> rfl
    rw [on_run, on_run, hask]
  · intro s
    rw [on_run]
    unfold Session.ask
    dsimp only
    cases Prepared.take? c s.prepared <;> rfl

theorem Steady.mapM {f : α → Action β} (hf : ∀ a, Steady (f a)) (xs : List α) : Steady (xs.mapM f) := by
  induction xs with
  | nil => exact steady_pure []
  | cons x xs ih =>
    rw [List.mapM_cons]
    exact (hf x).bind fun _ => ih.bind fun _ => steady_pure _

end Action

/-- Reading a file of the working tree changes nothing, and asks only where the repository is. -/
theorem Worktree.steady_content (repository path : Text) : (Worktree.content repository path).Steady := by
  have hon : ∀ s : Session, ∃ result, ∀ dialects,
      (Worktree.content repository path).on { s with dialects } = (result, { s with dialects }) := by
    intro s
    unfold Worktree.content
    split
    · exact ⟨.ok none, fun _ => rfl⟩
    · have hget : ∀ dialects, (get : Action Session).on { s with dialects }
          = (.ok { s with dialects }, { s with dialects }) := fun _ => rfl
      have hfind : ∀ dialects, Session.find { s with dialects } repository = s.find repository :=
        fun _ => rfl
      simp only [Action.on_bind (hget _), hfind]
      cases s.find repository with
      | found there directory => exact ⟨_, fun dialects => Action.on_lift _ _⟩
      | absent there fault =>
        cases fault with
        | linkLoop => exact ⟨.error (.linkCircle (s.absolute there)), fun _ => rfl⟩
        | _ => exact ⟨.ok none, fun _ => rfl⟩
  constructor
  · intro s dialects
    obtain ⟨result, hresult⟩ := hon s
    rw [hresult dialects, hresult s.dialects]
  · intro s
    obtain ⟨result, hresult⟩ := hon s
    rw [hresult s.dialects]

theorem Snapshot.steady_content (repository : Text) (snapshot : Snapshot) (path : Text) :
    (snapshot.content repository path).Steady := by
  have hshown : ∀ c, (Snapshot.shown c).Steady := fun c =>
    (Action.steady_run c).bind fun _ => Action.steady_pure _
  cases snapshot with
  | worktree => exact Worktree.steady_content repository path
  | index => exact hshown _
  | commit ref => exact hshown _

end ChangeReview
