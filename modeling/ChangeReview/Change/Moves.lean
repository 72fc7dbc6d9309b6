import ChangeReview.Change.Classification
import ChangeReview.Signature.Comparison

/-!
# Moves among file changes

A move takes the place of the removal in its source file and of the addition in its destination.
-/

namespace ChangeReview.FileChange

/-- Takes out the change that stands for a symbol: the one of its signature and line, else the first of
its name. `isKind` tells removals or additions. -/
def withoutSymbol (isKind : ChangeKind → Bool) (symbol : Symbol) (changes : List Change) : List Change :=
  let byName (c : Change) : Bool := c.name == symbol.name && isKind c.kind
  let exactly (c : Change) : Bool :=
    byName c && c.signature == some symbol.signature && c.line == some symbol.startLine
  if changes.any exactly then changes.eraseP exactly else changes.eraseP byName

/-- The comparison of signatures in the language of a file. -/
def comparator (language : Option Text) : Change.Comparator :=
  Signature.compare (Language.ofText (match language with
    | some name => if name.isEmpty then "unknown" else name
    | none => "unknown"))

/-- The changes of the file of a path. -/
def atPath (files : List FileChange) (path : Text) (f : List Change → List Change) : List FileChange :=
  files.map fun file => if file.path == path then { file with changes := f file.changes } else file

/-- The file changes after one move. A move between paths that are not unique, or between languages,
changes nothing. -/
def applyMove (files : List FileChange) (move : Symbol.Match) : Except Failure (List FileChange) :=
  match move.old, move.new, move.fileFrom, move.fileTo with
  | some old, some new, some source, some destination =>
    match files.filter (·.path == source), files.filter (·.path == destination) with
    | [sourceFile], [destinationFile] =>
      if sourceFile.language != destinationFile.language then return files
      else do
        let compare := comparator destinationFile.language
        let more ←
          if old.signature == new.signature then pure []
          else Change.classify compare [{ old := some old, new := some new }]
        let files := atPath files source (withoutSymbol ChangeKind.isRemoval old)
        return atPath files destination fun changes =>
          withoutSymbol ChangeKind.isAddition new changes ++ Change.ofMove source new :: more
    | _, _ => return files
  | _, _, _, _ => return files

/-- The file changes after several moves. -/
def applyMoves (files : List FileChange) (moves : List Symbol.Match) : Except Failure (List FileChange) :=
  moves.foldlM applyMove files

end ChangeReview.FileChange
