import ChangeReview.Hook.Script
import ChangeReview.Repository.Basic

/-!
# Installing hooks

Writes the script of a hook into the hooks directory of a repository.
-/

namespace ChangeReview.Hook

/-- The hooks directory of a repository, links followed. -/
def directory (repository : Text) : Action Text := do
  if !(← Repository.isInside) then throw (.notRepository repository)
  let outcome ← Action.run ["git", "rev-parse", "--git-path", "hooks"]
  if outcome.status != 0 then
    Repository.complain repository "git hook path lookup failed" (Bytes.decodeCarrying outcome.errors)
  let answer := Repository.answeredPath outcome.output
  if answer.isEmpty then throw (.emptyHooksPath repository)
  let session ← get
  let path := Path.join repository answer
  match session.inside? path with
  | none => return path
  | some parts =>
    match session.files.canonical FileTree.linkLimit [] parts with
    | .ok parts => return session.absolute parts
    | .error there => throw (.linkCircle (session.absolute there))

/-- The failures that only say that the hook could not be installed. -/
def isRefusal : Failure → Bool
  | .unencodable .. => false
  | _ => true

/-- Makes a directory and those above it. -/
def makeDirectory (path : Text) : Action Unit := do
  let session ← get
  match session.find path, session.inside? path with
  | .found _ entry, _ => if !entry.isDirectory then throw (.file .inTheWay path)
  | .absent _ .missing, some parts => set { session with files := session.files.put parts .empty }
  | .absent _ fault, _ => throw (.file fault path)

/-- Writes a file that can be run. -/
def writeScript (path script : Text) : Action Unit := do
  let session ← get
  match session.find path, session.inside? path with
  | .found there entry, _ =>
    if entry.isDirectory then throw (.file .isDirectory path)
    set { session with files := session.files.put there (← file) }
  | .absent there .missing, some _ =>
    if !((session.files.at? there.dropLast).any FileTree.isDirectory) then throw (.file .missing path)
    set { session with files := session.files.put there (← file) }
  | .absent _ fault, _ => throw (.file fault path)
where
  /-- The file of the script. -/
  file : Action FileTree := return .file (← script.encode) true

/-- Installs a hook and gives its path. An existing hook is kept unless `force` is set. -/
def install (repository name : Text) (force : Bool) : Action Text := do
  let directory ← tryCatch (directory repository) fun f =>
    throw (if isRefusal f then .hook f else f)
  makeDirectory directory
  let path := directory ++ "/" ++ name
  match (← get).find path with
  | .found _ _ => if !force then throw (.hook (.hookExists path))
  | .absent _ _ => pure ()
  match script? name with
  | none => throw (.unknownHook name)
  | some script =>
    writeScript path script
    return path

end ChangeReview.Hook
