import ChangeReview.Report.Envelope

/-!
# Requests for a review

What a review looks at, and the requests that contradict themselves.
-/

namespace ChangeReview.Review

/-- What a review was asked to look at. -/
structure Request where
  range : Option Text := none
  repository : Text := "."
  searchesReferences : Bool := true
  isStaged : Bool := false
  isWorktree : Bool := false
  against : Option Text := none

/-- A request that contradicts itself. -/
inductive Conflict where
  | stagedRange
  | worktreeRange
  | stagedWorktree
  | againstAlone
deriving DecidableEq

namespace Conflict

/-- The wording of a conflict. -/
def message : Conflict → Text
  | .stagedRange => "--staged cannot be combined with a ref range"
  | .worktreeRange => "--worktree cannot be combined with a ref range; use --against"
  | .stagedWorktree => "--staged and --worktree are mutually exclusive"
  | .againstAlone => "--against requires --worktree"

/-- The mode under which a conflict is reported. -/
def mode : Conflict → ReviewMode
  | .stagedRange => .staged
  | .worktreeRange | .stagedWorktree | .againstAlone => .worktree

end Conflict

/-- What a review looks at. -/
inductive Subject where
  | range (range : Text)
  | staged
  /-- The working tree from where it parted from a revision. -/
  | worktree (base : Text)

namespace Subject

/-- The mode of a review. -/
def mode : Subject → ReviewMode
  | .range _ => .committed
  | .staged => .staged
  | .worktree _ => .worktree

/-- The range by which a review is known before it has looked at the repository. -/
def label : Subject → Text
  | .range r => r
  | .staged | .worktree _ => "HEAD"

end Subject

/-- An empty text as a missing one. -/
def orHead (t : Option Text) : Text := (t.filter (!·.isEmpty)).getD "HEAD"

/-- What a request asks to look at: by default, the last commit. -/
def Request.subject (r : Request) : Except Conflict Subject :=
  if r.isStaged && r.range.isSome then .error .stagedRange
  else if r.isWorktree && r.range.isSome then .error .worktreeRange
  else if r.isStaged && r.isWorktree then .error .stagedWorktree
  else if r.against.isSome && !r.isWorktree then .error .againstAlone
  else if r.isWorktree then .ok (.worktree (orHead r.against))
  else if r.isStaged then .ok .staged
  else .ok (.range (orHead (r.range.or (some "HEAD~1..HEAD"))))

end ChangeReview.Review
