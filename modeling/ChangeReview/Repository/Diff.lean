import ChangeReview.OrderedMap
import ChangeReview.Patch.Records
import ChangeReview.Path.Quoted
import ChangeReview.Repository.Basic

/-!
# Diffs of a repository

The patch between two revisions, of the index, or of the working tree with its untracked files. A source
file that is hidden as binary is shown as text.
-/

namespace ChangeReview.Repository

/-- The arguments that make a diff independent of settings. -/
def machineArguments : List Text :=
  Text.list ["--no-color", "--no-ext-diff", "--no-textconv", "--src-prefix=a/", "--dst-prefix=b/",
    "--no-renames"]

/-- A diff command: what stands before and after its name. -/
structure DiffCommand where
  settings : List Text
  arguments : List Text

namespace DiffCommand

/-- A diff command with settings, each given by its name and value. -/
def make (settings arguments : List Text) : DiffCommand where
  settings := (("core.quotePath=false" : Text) :: settings).flatMap fun s => [("-c" : Text), s]
  arguments := machineArguments ++ arguments

/-- The diff of a revision or of a range. -/
def ofRevision (ref : Text) : DiffCommand := make [] ["--end-of-options", ref, "--"]

/-- The diff of the index. -/
def staged : DiffCommand := make ["core.fsmonitor=false"] ["--cached"]

/-- The diff of an untracked file against nothing. A file named by a dash alone is given by a longer path. -/
def untracked (path : Text) : DiffCommand :=
  make ["core.safecrlf=false"]
    ["--no-index", "--", "/dev/null", if path == "-" then ("./-" : Text) else path]

/-- The command line. -/
def line (d : DiffCommand) : Command :=
  ("git" : Text) :: d.settings ++ ("diff" : Text) :: d.arguments

/-- The command line that shows binary files as text too. -/
def textLine (d : DiffCommand) : Command :=
  ("git" : Text) :: d.settings ++ Text.list ["diff", "--text"] ++ d.arguments

end DiffCommand

/-- The records, each hidden source record replaced by the next record of its header in `queues`. -/
def revealed (queues : OrderedMap Text (List Text)) : List Text → Except Failure (List Text)
  | [] => .ok []
  | record :: rest =>
    let header := Patch.headerLine record
    let queue := (queues.get? header).getD []
    let later := revealed (if queue.isEmpty then queues else queues.put header queue.tail) rest
    if !Patch.isBinarySource record then later.map (record :: ·)
    else match queue with
      | [] => .error (.missingTextRecord header)
      | shown :: _ => later.map (shown :: ·)

/-- The diff with its hidden source records replaced by those of the diff as text. -/
def reveal (diff textDiff : Text) : Except Failure Text := do
  let queues := OrderedMap.groupBy Patch.headerLine (Patch.rawRecords textDiff)
  return (← revealed queues (Patch.rawRecords diff)).flatten

/-- The diff with its source records shown as text. The command is run again only if some are hidden. -/
def withSourceText (repository : Text) (d : DiffCommand) (status : Int) (diff : Text) : Action Text := do
  if !(Patch.rawRecords diff).any Patch.isBinarySource then return diff
  let outcome ← Action.run d.textLine
  if outcome.status != status then complain repository "git textual diff failed" outcome.errorText
  reveal diff outcome.outputText

/-- The diff of a range of revisions. -/
def diff (repository range : Text) : Action Text := do
  let command := DiffCommand.ofRevision range
  let outcome ← Action.run command.line
  if outcome.status != 0 then
    let complaint := outcome.errorText
    let lower := complaint.lower
    if lower.includes "unknown revision" || lower.includes "bad revision" then
      Action.failLogged (.invalidRange range (Text.upTo "\n" complaint.trim))
    complain repository "git diff failed" complaint
  withSourceText repository command outcome.status outcome.outputText

/-- The diff of the index. -/
def stagedDiff (repository : Text) : Action Text := do
  let outcome ← Action.run DiffCommand.staged.line
  if outcome.status != 0 then complain repository "git diff --cached failed" outcome.errorText
  withSourceText repository .staged outcome.status outcome.outputText

/-- The untracked files of a repository. -/
def untrackedFiles (repository : Text) : Action (List Text) := do
  let outcome ← Action.run
    (Text.list ["git", "-c", "core.fsmonitor=false", "ls-files", "-z", "--others", "--exclude-standard"])
  if outcome.status != 0 then complain repository "git ls-files failed" outcome.errorText
  return (outcome.outputText.splitOn (CodePoint.ofNat 0)).filter (!·.isEmpty)

/-- An untracked file: whether it is empty, and whether it can be run. -/
structure UntrackedFile where
  isEmpty : Bool
  isExecutable : Bool

/-- What was tried when an untracked file could not be shown. -/
def untrackedTask (path : Text) : Text := "git diff failed for " ++ path

/-- Looks at an untracked file. It has to be a regular file. -/
def untrackedFile (repository path : Text) : Action UntrackedFile := do
  let place := Path.join repository path
  let _ ← place.encodeCarrying
  match (← get).findPlain place with
  | .found _ (.file data isExecutable) => return { isEmpty := data.isEmpty, isExecutable }
  | .found _ _ =>
    complain repository (untrackedTask path) "untracked diff target is not a regular file"
  | .absent _ fault => complain repository (untrackedTask path) (Failure.file fault place).message

/-- The patch that adds an empty file. -/
def emptyAddition (path : Text) (isExecutable : Bool) : Except Failure Text := do
  let mode : Text := if isExecutable then "100755" else "100644"
  return "diff --git " ++ (← Path.quote ("a/" ++ path)) ++ " " ++ (← Path.quote ("b/" ++ path))
    ++ "\nnew file mode " ++ mode ++ "\n"

/-- The name of the empty object. -/
def emptyObject (repository : Text) : Action Text := do
  let task : Text := "git empty-blob hash failed"
  let outcome ← Action.run ["git", "hash-object", "--stdin"]
  if outcome.status != 0 then complain repository task outcome.errorText
  let answer := outcome.outputText
  let name := answer.dropLast
  let isName := answer.getLast? == some (CodePoint.ofChar '\n') && 4 ≤ name.length
    && name.all Patch.isObjectDigit
  if !isName then complain repository task "git hash-object returned a malformed object ID"
  return name

/-- The patch that adds an untracked file, and the name of the empty object once it is known. -/
def addition (repository path : Text) (known : Option Text) : Action (Text × Option Text) := do
  let task := untrackedTask path
  let file ← untrackedFile repository path
  let command := DiffCommand.untracked path
  let outcome ← Action.run command.line
  let complaint := outcome.errorText
  if (outcome.status != 0 && outcome.status != 1) || !complaint.isBlank then
    complain repository task complaint
  let patch := outcome.outputText
  let known ←
    if !patch.isEmpty && file.isEmpty && known.isNone then some <$> emptyObject repository else pure known
  let expected := if !patch.isEmpty && file.isEmpty then known else none
  let isComplete := Patch.isCompleteAddition patch expected
  if (outcome.status == 1 || !patch.isEmpty) && !isComplete then
    complain repository task "git diff --no-index produced no valid patch"
  if !patch.isEmpty then
    let patch ← withSourceText repository command outcome.status patch
    return (if path == "-" then Patch.restoreDash patch else patch, known)
  let file ← untrackedFile repository path
  if !file.isEmpty then
    complain repository task "git diff --no-index produced no patch for a non-empty file"
  return (← emptyAddition path file.isExecutable, known)

/-- The patches that add untracked files. -/
def additions (repository : Text) : (paths : List Text) → (known : Option Text) → Action (List Text)
  | [], _ => return []
  | path :: rest, known => do
    let (patch, known) ← addition repository path known
    return patch :: (← additions repository rest known)

/-- The diff of the working tree, untracked files included, from a commit. -/
def worktreeDiff (repository base : Text) : Action Text := do
  let command := DiffCommand.ofRevision base
  let outcome ← Action.run command.line
  if outcome.status != 0 then complain repository "git worktree diff failed" outcome.errorText
  let tracked ← withSourceText repository command outcome.status outcome.outputText
  let untracked ← additions repository (← untrackedFiles repository) none
  return tracked ++ untracked.flatten

end ChangeReview.Repository
