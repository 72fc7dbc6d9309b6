import ChangeReview.Analysis
import ChangeReview.Change.Moves
import ChangeReview.Patch.Records
import ChangeReview.Symbol.Extraction
import ChangeReview.Symbol.Moves

/-!
# Analysing a patch

Each file of a patch is read on both sides and its symbols are compared. A side that cannot be read or
parsed is a gap: the file is then kept without changes, since a comparison with nothing would show
everything as added or removed.
-/

namespace ChangeReview

/-- The old and the new revision that a range names. -/
structure RefRange where
  old : Text
  new : Text
deriving DecidableEq

namespace RefRange

/-- A revision, and the current one for an empty text. -/
def orHead (ref : Text) : Text := if ref.isEmpty then "HEAD" else ref

/-- The revisions of a range. A single revision stands against its parent. -/
def ofText (range : Text) : RefRange :=
  match (Text.cut? "..." range).or (Text.cut? ".." range) with
  | some (old, new) => ⟨orHead old, orHead new⟩
  | none => ⟨range ++ ("~1" : Text), range⟩

end RefRange

namespace Analysis

/-- Gives the source of a path at a revision, if there is one. -/
abbrev Contents := (ref path : Text) → Action (Option Text)

/-- How a patch is analysed. -/
structure Options where
  skipGenerated : Bool := false
  summary : SummaryOptions := {}

/-- What the analysis of one file gives. -/
structure FileResult where
  change : FileChange
  warnings : List Text := []
  /-- The symbols that are only on the old side. -/
  removed : List Symbol := []
  /-- The symbols that are only on the new side. -/
  added : List Symbol := []

/-- The warning that not all of the patch was read. -/
def incompleteWarning : Text := "diff contains file headers that could not be parsed — analysis incomplete"

/-- The warning that a side of a file could not be had. -/
def unavailableWarning (path : Text) : Text :=
  path ++ ": content unavailable at ref — symbol analysis skipped"

/-- The warning that a side of a file could not be parsed. -/
def gapWarning (path : Text) : Text := path ++ ": parse gap — symbol analysis skipped"

/-- The source of one side of a file, if the side exists. -/
def side (contents : Contents) (ref : Text) (path : Option Text) : Action (Option Text) :=
  match path.filter (!·.isEmpty) with
  | some path => contents ref path
  | none => return none

/-- The symbols of one side of a file; a missing side has none. -/
def parseSide (language : Language) (path source : Option Text) : Action ParsedFile :=
  match source with
  | some source => ParsedFile.read language path source
  | none => return { symbols := [], hasGap := false }

/-- The comparison of both sides of a file. -/
def compareSides (file : FileChange) (language : Language) (old new : List Symbol) :
    Except Failure FileResult := do
  let ms := Symbol.matchAll old new
  return {
    change := { file with changes := ← Change.classify (Signature.compare language) ms }
    removed := Symbol.unpairedOld old ms
    added := Symbol.unpairedNew new ms }

/-- The analysis of one file. Without contents no symbols are compared. -/
def ofRecord (range : Text) (contents : Option Contents) (f : Patch.FileRecord) : Action FileResult := do
  let file : FileChange := { path := f.path, changeType := f.changeType }
  if f.isGenerated then return { change := { file with isGenerated := true } }
  if f.isBinary then return { change := { file with isBinary := true } }
  match Path.language? f.path, contents with
  | none, _ => return { change := { file with isUnsupported := true } }
  | some language, none => return { change := { file with language := some language.toText } }
  | some language, some contents =>
    let file := { file with language := some language.toText }
    let refs := RefRange.ofText range
    let oldSource ← side contents refs.old f.oldPath
    let newSource ← side contents refs.new f.newPath
    if (f.oldPath.isSome && oldSource.isNone) || (f.newPath.isSome && newSource.isNone) then
      return { change := file, warnings := [unavailableWarning f.path] }
    let old ← parseSide language f.oldPath oldSource
    let new ← parseSide language f.newPath newSource
    if old.hasGap || new.hasGap then
      return { change := { file with hasParseError := true }, warnings := [gapWarning f.path] }
    compareSides file language old.symbols new.symbols

/-- The files with symbols that may have moved. A path that occurs twice tells nothing about its symbols. -/
def candidates (results : List FileResult) (pick : FileResult → List Symbol) :
    OrderedMap Text Symbol.Candidates :=
  results.filterMap fun r =>
    let path := r.change.path
    if (pick r).isEmpty || (results.countP fun other => other.change.path == path) != 1 then none
    else some (path, { language := r.change.language.getD [], symbols := pick r })

/-- The file changes once moves between files are told from removals and additions. -/
def withMoves (results : List FileResult) : Except Failure (List FileChange) :=
  let moves := Symbol.moves (candidates results FileResult.removed) (candidates results FileResult.added)
  FileChange.applyMoves (results.map FileResult.change) moves

/-- The analysis of a patch between the revisions of a range. -/
def ofPatch (diff range : Text) (contents : Option Contents) (options : Options := {}) :
    Action Analysis := do
  let records := Patch.read options.skipGenerated Path.generatedPatterns diff
  let results ← records.mapM (ofRecord range contents)
  let files ← withMoves results
  let summary := Summary.ofFiles files
  let incomplete := if Patch.hasUnread diff then [incompleteWarning] else []
  return {
    refRange := range
    stats := {
      files := records.length
      additions := total (records.map (·.additions))
      deletions := total (records.map (·.deletions)) }
    warnings := incomplete ++ results.flatMap FileResult.warnings
    timing := some .zero
    files
    summary
    tiers := Tiers.ofFiles files summary options.summary }

end Analysis

end ChangeReview
