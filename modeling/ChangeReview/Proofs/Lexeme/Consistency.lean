import Mathlib.Algebra.Order.Group.Int
import ChangeReview.Lexeme.State

/-!
# Consistency of the lexical state

Some fields of the state are set and cleared in pairs, by operations that often see only one of them.
`State.Consistent` says which fields belong together, and holds the two depths against counts of integers. Every
operation keeps it, whatever the tokens, and so does every sequence of observations.
-/

namespace ChangeReview.Lexeme

/-- What a state can be told. -/
inductive Event where
  | word (text : Text)
  | literal (text : Text)
  | token (text : Text)
  | lineBreak
  | angle

/-- How many square brackets and type arguments are open, as integers count them. -/
@[ext] structure OpenCounts where
  square : Int
  angle : Int

/-- The depths after an event. A square bracket that closes nothing is held at zero. Type arguments are not
counted down from zero, and nothing else holds them there. -/
def OpenCounts.observe (d : OpenCounts) : Event → OpenCounts
  | .token text =>
    if text = "[" then { d with square := d.square + 1 }
    else if text = "]" then { d with square := max 0 (d.square - 1) }
    else if text = ">" ∧ d.angle ≠ 0 then { d with angle := d.angle - 1 }
    else d
  | .angle => { d with angle := d.angle + 1 }
  | _ => d

/-- A parenthesis has a phase exactly if it is the head of a `for`. -/
def ParenFrame.Consistent (frame : ParenFrame) : Prop :=
  frame.forPhase.isSome = true ↔ frame.role = .forControl

namespace State

/-- The state after an event. -/
def observe (s : State) : Event → State
  | .word text => s.observeWord text
  | .literal text => s.observeLiteral text
  | .token text => s.observeToken text
  | .lineBreak => s.observeBreak
  | .angle => s.observeAngle

/-- The state after events, from a fresh one with the given goal. -/
def run (goal : Goal) (events : List Event) : State := events.foldl observe { goal }

/-- Fields that belong together agree, and the depths are those given. -/
structure Consistent (s : State) (d : OpenCounts) : Prop where
  concise : s.conciseFlags.isSome = true ↔ s.conciseBoundaryDepth.isSome = true
  arrow : s.pendingArrowBody = true → s.pendingFunctionBody.isSome = true
  method : s.methodNameSeen = true → s.pendingMethod.isSome = true
  parens : ∀ frame ∈ s.parens, frame.Consistent
  square : (s.squareDepth : Int) = d.square
  angle : (s.genericAngleDepth : Int) = d.angle

variable {s : State} {d : OpenCounts}

theorem inForHead_of_forPhase? {phase : ForPhase} (h : (s.forPhase? == some phase) = true) :
    s.inForHead = true := by
  unfold forPhase? at h
  unfold inForHead
  cases hparens : s.parens with
  | nil =>
    rw [hparens] at h
    cases h
  | cons frame rest =>
    rw [hparens] at h
    dsimp only at h ⊢
    split at h
    · assumption
    · cases h

theorem pendingMethod_setForPhase (s : State) (phase : ForPhase) :
    (s.setForPhase phase).pendingMethod = s.pendingMethod := by
  unfold setForPhase
  cases s.parens <;> rfl

theorem pendingMethod_wordGoal (s : State) (word : Text) :
    (s.wordGoal word).pendingMethod = s.pendingMethod := by
  unfold wordGoal
  simp only [apply_ite pendingMethod, pendingMethod_setForPhase, ite_self]

theorem consistent_openingFrame (s : State) : s.openingFrame.Consistent := by
  unfold ParenFrame.Consistent openingFrame
  split
  · split <;> simp
  · split
    · simp
    · split <;> simp
    · simp

namespace Consistent

theorem ite {p : Prop} [Decidable p] {t : State} (hs : p → s.Consistent d) (ht : ¬p → t.Consistent d) :
    (if p then s else t).Consistent d := by
  split
  case isTrue h => exact hs h
  case isFalse h => exact ht h

theorem fresh (goal : Goal) : Consistent { goal } ⟨0, 0⟩ where
  concise := Iff.rfl
  arrow := Bool.noConfusion
  method := Bool.noConfusion
  parens := List.forall_mem_nil _
  square := rfl
  angle := rfl

theorem startConciseBody (h : s.Consistent d) (token : Text) : (s.startConciseBody token).Consistent d := by
  unfold State.startConciseBody
  refine ite (fun _ => ?_) fun _ => h
  cases s.pendingFunctionBody with
  | some head => exact { h with concise := Iff.rfl, arrow := Bool.noConfusion }
  | none => exact { h with arrow := Bool.noConfusion }

/-- A phase is only ever given to the head of a `for`. -/
theorem setForPhase (h : s.Consistent d) (hfor : s.inForHead = true) (phase : ForPhase) :
    (s.setForPhase phase).Consistent d := by
  unfold State.setForPhase
  unfold State.inForHead at hfor
  cases hparens : s.parens with
  | nil => exact h
  | cons frame rest =>
    rw [hparens] at hfor
    have hrole : frame.role = .forControl := of_decide_eq_true hfor
    refine { h with parens := List.forall_mem_cons.2 ⟨⟨fun _ => hrole, fun _ => rfl⟩, ?_⟩ }
    exact fun other hother => h.parens other (hparens ▸ List.mem_cons_of_mem _ hother)

theorem wordGoal (h : s.Consistent d) (word : Text) : (s.wordGoal word).Consistent d := by
  unfold State.wordGoal
  refine ite (fun _ => { h with }) fun _ => ite (fun hof => ?_) fun _ => ite (fun _ => { h with }) fun _ =>
    ite (fun _ => { h with }) fun _ => ite (fun _ => { h with }) fun _ => ite (fun _ => { h with }) fun _ =>
    ite (fun _ => { h with }) fun _ => ite (fun _ => { h with }) fun _ => ite (fun _ => { h with }) fun _ => { h with }
  simp only [Bool.and_eq_true] at hof
  exact { h.setForPhase (inForHead_of_forPhase? hof.1.2) .rhs with }

theorem observeWord (h : s.Consistent d) (word : Text) : (s.observeWord word).Consistent d := by
  unfold State.observeWord
  extract_lets _ s₁ _ continuesMethod _ s₂ s₃ s₄ s₅
  have h₁ : s₁.Consistent d := h.startConciseBody word
  have hcleared : Consistent { s₁ with pendingControl := none, pendingBlock := false, possibleLabel := false } d :=
    { h₁ with }
  have h₂ : s₂.Consistent d := hcleared.wordGoal word
  have h₃ : s₃.Consistent d := by
    refine ite (fun hphase => ?_) fun _ => h₂
    simp only [Bool.and_eq_true] at hphase
    exact h₂.setForPhase (inForHead_of_forPhase? hphase.1.2) .lhs
  -- A name continues a method only if one was pending, and it is pending still.
  have hpending : continuesMethod = true → s₃.pendingMethod.isSome = true := by
    intro hcontinues
    have hword : s₂.pendingMethod = s₁.pendingMethod := pendingMethod_wordGoal _ word
    have hphase : s₃.pendingMethod = s₂.pendingMethod := by
      unfold s₃
      split
      · exact pendingMethod_setForPhase s₂ .lhs
      · rfl
    rw [hphase, hword]
    exact (Bool.and_eq_true_iff.1 hcontinues).1
  have h₄ : s₄.Consistent d :=
    ite (fun _ => { h₃ with method := fun _ => rfl }) fun _ =>
      ite (fun hcontinues => { h₃ with method := fun _ => hpending hcontinues }) fun _ =>
        ite (fun _ => { h₃ with method := Bool.noConfusion }) fun _ => h₃
  have h₅ : s₅.Consistent d :=
    ite (fun _ => { h₄ with }) fun _ => ite (fun _ => { h₄ with }) fun _ => ite (fun _ => { h₄ with }) fun _ => h₄
  exact { h₅ with }

theorem observeLiteral (h : s.Consistent d) (token : Text) : (s.observeLiteral token).Consistent d :=
  { h.startConciseBody token with method := Bool.noConfusion }

theorem observeBreak (h : s.Consistent d) : s.observeBreak.Consistent d := by
  unfold State.observeBreak
  extract_lets s₁ s₂ s₃
  have h₁ : s₁.Consistent d := ite (fun _ => { h with }) fun _ => h
  have h₂ : s₂.Consistent d := ite (fun _ => { h₁ with }) fun _ => h₁
  have h₃ : s₃.Consistent d :=
    ite (fun _ => ite (fun _ => { h₂ with method := Bool.noConfusion }) fun _ => h₂) fun _ => h₁
  exact { h₃ with }

theorem openParen (h : s.Consistent d) : s.openParen.Consistent d := by
  have hparens : ∀ frame ∈ s.openingFrame :: s.parens, frame.Consistent :=
    List.forall_mem_cons.2 ⟨s.consistent_openingFrame, h.parens⟩
  unfold State.openParen
  dsimp only
  split
  · exact { h with parens := hparens }
  · exact { h with parens := hparens }
  · split
    · exact { h with parens := hparens, method := Bool.noConfusion }
    · exact { h with parens := hparens }

theorem closeParen (h : s.Consistent d) : s.closeParen.Consistent d := by
  have hparens : ∀ frame ∈ s.parens.tail, frame.Consistent :=
    fun frame hframe => h.parens frame (List.mem_of_mem_tail hframe)
  unfold State.closeParen
  dsimp only
  split
  · exact { h with parens := hparens, arrow := fun _ => rfl }
  all_goals exact { h with parens := hparens }

theorem openBrace (h : s.Consistent d) : s.openBrace.Consistent d := by
  unfold State.openBrace
  dsimp only
  split
  · exact { h with arrow := Bool.noConfusion, method := Bool.noConfusion }
  · exact { h with method := Bool.noConfusion }

theorem star (h : s.Consistent d) : s.star.Consistent d := by
  unfold State.star
  split
  · exact { h with }
  · exact ite (fun _ => { h with method := Bool.noConfusion }) fun _ => { h with }

theorem punctuate (h : s.Consistent d) (token : Text) :
    (s.punctuate token).Consistent (d.observe (.token token)) := by
  unfold State.punctuate
  by_cases hopen : token = "["
  · subst hopen
    rw [if_neg (by decide), if_neg (by decide), if_neg (by decide), if_neg (by decide), if_neg (by decide),
      if_neg (by decide), if_neg (by decide), if_pos (by decide)]
    exact { h with square := congrArg (· + 1) h.square }
  by_cases hclose : token = "]"
  · subst hclose
    have hsquare : ((s.squareDepth - 1 : Nat) : Int) = max 0 (d.square - 1) := by
      rw [← h.square]
      omega
    rw [if_neg (by decide), if_neg (by decide), if_neg (by decide), if_neg (by decide), if_neg (by decide),
      if_neg (by decide), if_neg (by decide), if_neg (by decide), if_pos (by decide)]
    exact { h with square := hsquare }
  have hobserve : d.observe (.token token) =
      if token = ">" ∧ d.angle ≠ 0 then { d with angle := d.angle - 1 } else d := by
    unfold OpenCounts.observe
    dsimp only
    rw [if_neg hopen, if_neg hclose]
  by_cases hangle : token = ">" ∧ d.angle ≠ 0
  · rw [hobserve, if_pos hangle]
    obtain ⟨rfl, hdepth⟩ := hangle
    have hpositive : s.genericAngleDepth ≠ 0 := by
      intro hzero
      rw [← h.angle, hzero] at hdepth
      exact hdepth rfl
    have hcount : ((s.genericAngleDepth - 1 : Nat) : Int) = d.angle - 1 := by
      rw [← h.angle]
      omega
    rw [if_neg (by decide), if_neg (by decide), if_neg (by decide), if_neg (by decide), if_neg (by decide),
      if_neg (by decide), if_neg (by decide), if_neg (by decide), if_neg (by decide),
      if_neg (fun hmark => absurd (Bool.and_eq_true_iff.1 hmark).1 (by decide)), if_pos (by simp [hpositive])]
    exact { h with angle := hcount }
  -- The branches of the three punctuators above are out of reach, and no other changes a depth.
  rw [hobserve, if_neg hangle]
  refine ite (fun _ => h.openParen) fun _ => ite (fun _ => h.closeParen) fun _ => ite (fun _ => h.openBrace) fun _ =>
    ite (fun _ => { h with }) fun _ => ite (fun _ => h.star) fun _ =>
    ite (fun _ => { h with arrow := fun _ => rfl }) fun _ => ite (fun _ => { h with }) fun _ =>
    ite (fun hmark => absurd (eq_of_beq hmark) hopen) fun _ =>
    ite (fun hmark => absurd (eq_of_beq hmark) hclose) fun _ => ite (fun _ => { h with }) fun _ =>
    ite (fun hmark => absurd ?_ hangle) fun _ => ite (fun _ => { h with }) fun _ =>
    ite (fun _ => { h with }) fun _ => { h with }
  obtain ⟨htoken, hdepth⟩ := Bool.and_eq_true_iff.1 hmark
  rw [← h.angle]
  exact ⟨eq_of_beq htoken, fun hzero => bne_iff_ne.1 hdepth (Int.ofNat.inj hzero)⟩

theorem punctuateFor (h : s.Consistent d) (token : Text) : (s.punctuateFor token).Consistent d :=
  ite (fun hfor => ite (fun _ => h.setForPhase hfor .cStyle) fun _ =>
    ite (fun _ => h.setForPhase hfor .cStyle) fun _ => h) fun _ => h

theorem observeToken (h : s.Consistent d) (token : Text) :
    (s.observeToken token).Consistent (d.observe (.token token)) := by
  unfold State.observeToken
  extract_lets s₁ s₂ depth s₃ s₄ s₅ s₆ s₇ s₈ s₉
  have h₁ : s₁.Consistent d := { h with }
  have h₂ : s₂.Consistent d := ite (fun _ => h₁) fun _ => h₁.startConciseBody token
  have h₃ : s₃.Consistent d := ite (fun _ => h₂) fun _ => { h₂ with }
  have h₄ : s₄.Consistent (d.observe (.token token)) := (h₃.punctuate token).punctuateFor token
  have h₅ : s₅.Consistent (d.observe (.token token)) := ite (fun _ => h₄) fun _ => { h₄ with }
  have h₆ : s₆.Consistent (d.observe (.token token)) :=
    ite (fun _ => h₅) fun _ => { h₅ with method := Bool.noConfusion }
  have h₇ : s₇.Consistent (d.observe (.token token)) := ite (fun _ => h₆) fun _ => { h₆ with }
  have h₈ : s₈.Consistent (d.observe (.token token)) := ite (fun _ => h₇) fun _ => { h₇ with }
  have h₉ : s₉.Consistent (d.observe (.token token)) := ite (fun _ => { h₈ with concise := Iff.rfl }) fun _ => h₈
  exact { h₉ with }

/-- No event parts fields that belong together, and each changes the depths as integers do. -/
theorem observe (h : s.Consistent d) (event : Event) : (s.observe event).Consistent (d.observe event) := by
  cases event with
  | word text => exact h.observeWord text
  | literal text => exact h.observeLiteral text
  | token text => exact h.observeToken text
  | lineBreak => exact h.observeBreak
  | angle => exact { h with angle := congrArg (· + 1) h.angle }

theorem foldl_observe (h : s.Consistent d) (events : List Event) :
    (events.foldl State.observe s).Consistent (events.foldl OpenCounts.observe d) := by
  induction events generalizing s d with
  | nil => exact h
  | cons event events ih => exact ih (h.observe event)

end Consistent

/-- From a fresh state with any goal, whatever is observed: fields that belong together agree, and the two depths
are those of the integers, which never go below zero. -/
theorem run_consistent (goal : Goal) (events : List Event) :
    (run goal events).Consistent (events.foldl OpenCounts.observe ⟨0, 0⟩) ∧
      0 ≤ (events.foldl OpenCounts.observe ⟨0, 0⟩).square ∧ 0 ≤ (events.foldl OpenCounts.observe ⟨0, 0⟩).angle := by
  have h : (run goal events).Consistent _ := (Consistent.fresh goal).foldl_observe events
  refine ⟨h, ?_, ?_⟩
  · rw [← h.square]
    exact Int.natCast_nonneg _
  · rw [← h.angle]
    exact Int.natCast_nonneg _

end State

end ChangeReview.Lexeme
