import ChangeReview.Session.Basic

/-!
# Repositories

Where a repository is, and which commits its names stand for.
-/

namespace ChangeReview.Repository

/-- Fails an action for the complaint of a command, which was run for `task` in a repository. -/
def complain {α : Type} (repository task complaint : Text) : Action α :=
  let complaint := complaint.trim
  if (Text.lower complaint).includes "not a git repository" then
    Action.failLogged (.notRepository repository)
  else
    let line := if complaint.isEmpty then ("unknown error" : Text) else Text.upTo "\n" complaint
    Action.failLogged (.commandFailed task line)

/-- A path that a command answers: one line break at its end is no part of it. -/
def answeredPath (output : Bytes) : Text :=
  Bytes.decodeCarrying (if output.getLast? == some 0x0A then output.dropLast else output)

/-- Whether a directory is inside the working tree of a repository. -/
def isInside : Action Bool := do
  match ← Action.run? ["git", "rev-parse", "--is-inside-work-tree"] with
  | some outcome => return outcome.status == 0 && outcome.outputText.trim == "true"
  | none => return false

/-- The top directory of the working tree that a directory is in. -/
def root (directory : Text) : Action Text := do
  match ← Action.run? ["git", "rev-parse", "--show-toplevel"] with
  | none => Action.failLogged (.notRepository directory)
  | some outcome =>
    if outcome.status != 0 then
      complain directory "git repository root lookup failed" (Bytes.decodeCarrying outcome.errors)
    let path := answeredPath outcome.output
    if path.isEmpty then throw (.emptyRoot directory)
    return Path.tidy path

/-- The name of a commit that a command answers. -/
def answeredCommit (c : Command) : Action (Option Text) := do
  let outcome ← Action.run c
  let name := outcome.outputText.trim
  return if outcome.status != 0 || name.isEmpty then none else some name

/-- The commit that a revision stands for. -/
def commit? (ref : Text) : Action (Option Text) :=
  answeredCommit ["git", "rev-parse", "--verify", "--end-of-options", ref ++ "^\x7bcommit\x7d"]

/-- The common ancestor of two revisions. -/
def mergeBase? (a b : Text) : Action (Option Text) :=
  answeredCommit ["git", "merge-base", "--end-of-options", a, b]

/-- The range in which three points are resolved to the common ancestor of both revisions. A range that
cannot be resolved stays as it is. -/
def resolveRange (range : Text) : Action Text :=
  match Text.cut? "..." range with
  | none => return range
  | some (old, new) => do
    let orHead (ref : Text) : Text := if ref.isEmpty then "HEAD" else ref
    match ← mergeBase? (orHead old) (orHead new) with
    | none => return range
    | some base => return base ++ ".." ++ orHead new

end ChangeReview.Repository
