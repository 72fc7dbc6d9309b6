import ChangeReview.Reference.Scan
import ChangeReview.Repository.Snapshot

/-!
# References in a snapshot

The files in which a changed name occurs as text are parsed, and the names in them are told from bindings.
What could not be searched is reported as a gap.
-/

namespace ChangeReview

/-- The references that were found, and the gaps of the search. -/
structure ReferenceSearch where
  references : List Reference := []
  warnings : List Text := []

namespace ReferenceSearch

/-- The files that are searched. -/
def globs : List Text := Text.list ["*.py", "*.ts", "*.js", "*.go", "*.tsx", "*.jsx"]

/-- The warning that a file could not be read. -/
def unreadableWarning (path ref : Text) : Text :=
  path ++ ": reference candidate at snapshot " ++ ref ++ " is unreadable — reference analysis incomplete"

/-- The warning that the files could not be listed. -/
def unlistedWarning (ref : Text) : Text :=
  "reference file listing unavailable at snapshot " ++ ref ++ " — reference analysis incomplete"

/-- The warning that a file could not be parsed. -/
def gapWarning (path : Text) : Text := path ++ ": reference scan has a parse gap"

/-- The files in which one of the names occurs, unless one search gives no definite answer. -/
def candidates? (snapshot : Snapshot) : List Text → Action (Option (List Text))
  | [] => return some []
  | name :: rest => do
    match ← snapshot.occurrences? name globs with
    | none => return none
    | some found => return (← candidates? snapshot rest).map (found ++ ·)

/-- The occurrences of names in a source, and whether its parse has a gap. -/
def scanSource (language : Language) (names : List Text) (path : Option Text) (source : Text) :
    Action (List Hit × Bool) := do
  let dialect ← Dialect.select language path
  let (root, bytes) ← Action.parse dialect source
  return (← Hit.scan language names source bytes root, root.hasError)

/-- The references in one file of a snapshot. -/
def ofFile (repository ref : Text) (names : List Text) (path : Text) : Action ReferenceSearch := do
  match Path.language? path with
  | none => return {}
  | some language =>
    match ← (Snapshot.ofText ref).content repository path with
    | none => return { warnings := [unreadableWarning path ref] }
    | some source =>
      if source.any CodePoint.isSurrogate then return { warnings := [unreadableWarning path ref] }
      let (hits, hasGap) ← scanSource language names (some path) source
      if hasGap then return { warnings := [gapWarning path] }
      return { references := hits.map fun h =>
        { file := path, line := h.line, symbolName := h.name, context := h.context
          sourceLine := h.sourceLine } }

/-- The order of references: by file and line. -/
def le (a b : Reference) : Bool :=
  if a.file != b.file then Text.lt a.file b.file else a.line ≤ b.line

/-- The references to any of the names in a snapshot. Where a search by text gives no definite answer,
all files are parsed. -/
def run (repository : Text) (names : List Text) (ref : Text) : Action ReferenceSearch := do
  if names.isEmpty then return {}
  let names := Text.distinct names
  let snapshot := Snapshot.ofText ref
  let (paths, unlisted) ← match ← candidates? snapshot names with
    | some found => pure (Text.sort (Text.distinct found), ([] : List Text))
    | none => do
      match ← snapshot.files? repository with
      | some files => pure (files, [])
      | none => pure ([], [unlistedWarning ref])
  let parts ← paths.mapM (ofFile repository ref names)
  return {
    references := (parts.flatMap references).mergeSort le
    warnings := Text.sort (Text.distinct (unlisted ++ parts.flatMap warnings)) }

end ReferenceSearch

end ChangeReview
