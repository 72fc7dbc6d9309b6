import ChangeReview.Session.Basic

/-!
# The working tree

Files of the working tree are read only where no symbolic link leads. A path from a patch cannot reach
outside of the repository.
-/

namespace ChangeReview.Worktree

/-- Whether a path names a file inside a repository: it is relative, and each of its parts leads down. -/
def isPlain (path : Text) : Bool :=
  !path.isEmpty && !path.contains (CodePoint.ofNat 0) && !Path.isAbsolute path
    && (path.splitOn '/').all fun part => !part.isEmpty && part != "." && part != ".."

/-- The bytes of the regular file that the parts lead to, through directories alone. A name that no file
can have fails the search. -/
def bytes? (t : FileTree) : List Text → Except Failure (Option Bytes)
  | [] => .ok none
  | name :: rest => do
    let _ ← name.encodeCarrying
    match t.entry? name, rest with
    | some (.file data _), [] => return some data
    | some (.directory entries), _ :: _ => bytes? (.directory entries) rest
    | _, _ => return none

/-- The text of a file in a directory, if the path is plain, no link is on it, and the file is UTF-8. -/
def read? (directory : FileTree) (path : Text) : Except Failure (Option Text) := do
  if !isPlain path then return none
  return ((← bytes? directory (path.splitOn '/')).bind Bytes.decode?).map Text.unifyBreaks

/-- The text of a file in the working tree of a repository. -/
def content (repository path : Text) : Action (Option Text) := do
  if !isPlain path then return none
  let session ← get
  match session.find repository with
  | .found _ directory => read? directory path
  | .absent there .linkLoop => throw (.linkCircle (session.absolute there))
  | .absent _ _ => return none

/-- Whether a path leads to a regular file, links followed. -/
def isFile (session : Session) (path : Text) : Bool :=
  match session.find path with
  | .found _ entry => entry.isFile
  | .absent _ _ => false

end ChangeReview.Worktree
