import ChangeReview.Repository.Worktree

/-!
# Snapshots

A snapshot of a repository is a commit, the index or the working tree. It gives the content of its files,
the list of them, and those in which a text occurs.
-/

namespace ChangeReview

/-- A state of the files of a repository. -/
inductive Snapshot where
  | commit (ref : Text)
  | index
  | worktree

namespace Snapshot

/-- The snapshot of a name. -/
def ofText (ref : Text) : Snapshot :=
  if ref == ":worktree" then .worktree else if ref == ":index" then .index else .commit ref

/-- The content that a command shows, if it succeeds with UTF-8. -/
def shown (c : Command) : Action (Option Text) := do
  let outcome ← Action.run c
  return if outcome.status == 0 then Bytes.decode? outcome.output else none

/-- The content of a file. -/
def content (repository : Text) (snapshot : Snapshot) (path : Text) : Action (Option Text) :=
  match snapshot with
  | .worktree => Worktree.content repository path
  | .index => shown ["git", "show", ":" ++ path]
  | .commit ref => shown ["git", "show", "--end-of-options", ref ++ ":" ++ path]

/-- The command that lists the files. -/
def listing : Snapshot → Command
  | .worktree => Text.list ["git", "ls-files", "-z", "--cached", "--others", "--exclude-standard"]
  | .index => Text.list ["git", "ls-files", "-z", "--cached"]
  | .commit ref => Text.list ["git", "ls-tree", "-r", "-z", "--name-only", "--end-of-options"] ++ [ref]

/-- The parts between NULs that are not empty. -/
def records (t : Text) : List Text := (t.splitOn (CodePoint.ofNat 0)).filter (!·.isEmpty)

/-- The files of a snapshot, if they can be listed. Of the working tree only regular files are listed. -/
def files? (repository : Text) (snapshot : Snapshot) : Action (Option (List Text)) := do
  match ← Action.run? snapshot.listing with
  | none => return none
  | some outcome =>
    if outcome.status != 0 then return none
    let paths := records outcome.outputText
    match snapshot with
    | .worktree =>
      let session ← get
      return some (paths.filter fun path => Worktree.isFile session (Path.join repository path))
    | _ => return some paths

/-- The command that finds the files with a text in them. -/
def search (snapshot : Snapshot) (pattern : Text) (globs : List Text) : Command :=
  let find (options : List String) (rest : List Text) : Command :=
    Text.list (["git", "grep", "-F", "-l", "-z"] ++ options ++ ["-e"]) ++ pattern :: rest
      ++ ("--" : Text) :: globs
  match snapshot with
  | .worktree => find ["--untracked"] []
  | .index => find ["--cached"] []
  | .commit ref => find [] ["--end-of-options", ref]

/-- The path in a line of a search; a commit stands before it. -/
def foundPath (snapshot : Snapshot) (line : Text) : Text :=
  match snapshot with
  | .commit _ => ((Text.cut? ":" line).map Prod.snd).getD line
  | _ => line

/-- The files in which a text occurs, unless the search gives no definite answer. -/
def occurrences? (snapshot : Snapshot) (pattern : Text) (globs : List Text) : Action (Option (List Text)) := do
  match ← Action.run? (snapshot.search pattern globs) with
  | none => return none
  | some outcome =>
    if outcome.status == 1 then return some []
    if outcome.status != 0 then return none
    let found := outcome.outputText
    return some (if found.isBlank then [] else (records found).map snapshot.foundPath)

end Snapshot

end ChangeReview
