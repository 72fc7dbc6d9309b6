import ChangeReview.Summary.Basic

/-!
# Summary texts

A summary in three lengths: one line, a few phrases, and sections. Tests are left out unless asked for,
and the sections show a limited number of changes.
-/

namespace ChangeReview

/-- A summary in three lengths. -/
structure Tiers where
  oneLine : Text := []
  short : Text := []
  detailed : Text := []
deriving DecidableEq

/-- What a summary text shows. -/
structure SummaryOptions where
  includeTests : Bool := false
  showSkipped : Bool := false

namespace Tiers

open PlacedChange

/-- The same text in all lengths. -/
def always (t : Text) : Tiers := ⟨t, t, t⟩

/-- A number of files, plural unless it is one. -/
def pluralEnding (n : Nat) : Text := if n == 1 then [] else "s"

/-! ## One line and short -/

/-- What was done to a symbol. -/
def verb : ChangeKind → Text
  | .functionAdded | .classAdded => "Add"
  | .functionRemoved | .classRemoved => "Remove"
  | .functionModified | .classModified => "Modify"
  | .signatureChanged => "Change signature of"
  | .moved => "Move"

/-- The most important change: the first breaking one, else the first in the order of review. -/
def oneLineOf (changes : List PlacedChange) (summary : Summary) : Text :=
  match summary.breaking, changes with
  | b :: _, _ => "BREAKING: " ++ quoted b.name ++ (" signature changed" : Text)
  | [], top :: _ => verb top.change.kind ++ (" " : Text) ++ quoted top.change.name
  | [], [] => []

/-- Whether a change alters what a file offers. -/
def isBehavioural (c : Change) : Bool :=
  !c.isBreaking && (c.kind.isAddition || c.kind.isRemoval || c.kind == .signatureChanged)

/-- A change with the last word of its kind. -/
def behaviourText (c : Change) : Text :=
  quoted c.name ++ (" (" : Text) ++ Text.afterLast "_" c.kind.toText ++ (")" : Text)

/-- Changes of structure only, by their numbers. -/
def structureText (changes : List PlacedChange) : Text :=
  let count (p : ChangeKind → Bool) : Nat := changes.countP fun c => p c.change.kind
  let modified := count ChangeKind.isModification
  let moved := count (· == .moved)
  let bits : List Text :=
    (if modified == 0 then [] else [Text.ofNat modified ++ (" modified" : Text)])
      ++ (if moved == 0 then [] else [Text.ofNat moved ++ (" moved" : Text)])
  if bits.isEmpty then "Minor changes" else "Refactor: " ++ Text.join ", " bits

/-- Breaking changes, then up to four that alter behaviour; changes of structure only if there are no
others. -/
def shortOf (changes : List PlacedChange) (summary : Summary) : Text :=
  let breaking : List Text :=
    if summary.breaking.isEmpty then []
    else ["Breaking: " ++ Text.join ", " ((summary.breaking.take 3).map fun c => quoted c.name)]
  let behavioural := (changes.filter fun c => isBehavioural c.change).take 4
  let parts := breaking
    ++ if behavioural.isEmpty then []
      else [Text.join "; " (behavioural.map fun c => behaviourText c.change)]
  Text.join ". " (if parts.isEmpty then [structureText changes] else parts)

/-! ## Sections -/

/-- How many changes the sections show. -/
def sectionLimit : Nat := 15

/-- A change of a signature in a line. -/
def signatureItem (c : Change) : Text :=
  "- " ++ quoted c.name ++ (": " : Text) ++ shown c.beforeSignature ++ (" → " : Text)
    ++ shown c.afterSignature

/-- A change with its file in a line. -/
def fileItem (c : PlacedChange) : Text :=
  "- " ++ quoted c.change.name ++ (" (" : Text) ++ c.path ++ (")" : Text)

/-- A move in a line. -/
def moveItem (c : Change) : Text :=
  "- " ++ quoted c.name ++ (" from " : Text) ++ shown c.fileFrom

/-- The sections of changes that do not break, with their headings. -/
def sections (changes : List PlacedChange) : List (Text × List Text) :=
  let pick (p : ChangeKind → Bool) (item : PlacedChange → Text) : List Text :=
    (changes.filter fun c => !c.change.isBreaking && p c.change.kind).map item
  [("Removed", pick ChangeKind.isRemoval fileItem),
    ("Signature Changes", pick (· == .signatureChanged) fun c => signatureItem c.change),
    ("Added", pick ChangeKind.isAddition fileItem),
    ("Modified", pick ChangeKind.isModification fileItem),
    ("Moved", pick (· == .moved) fun c => moveItem c.change)]

/-- The lines of the sections, up to `limit` items, and how many items they show. -/
def sectionLines : (limit : Nat) → List (Text × List Text) → List Text × Nat
  | _, [] => ([], 0)
  | limit, (heading, items) :: rest =>
    if items.isEmpty then sectionLines limit rest
    else if limit == 0 then ([], 0)
    else
      let shown := items.take limit
      let (lines, count) := sectionLines (limit - shown.length) rest
      (("## " ++ heading) :: shown ++ [[]] ++ lines, shown.length + count)

/-- The section of breaking changes, which are always shown. -/
def breakingLines (breaking : List Change) : List Text :=
  if breaking.isEmpty then []
  else ("## Breaking Changes" : Text) :: breaking.map signatureItem ++ [[]]

/-- Why a file was skipped. -/
def skipReason (f : FileChange) : Text :=
  if f.isGenerated then "generated" else if f.isBinary then "binary" else "unsupported"

/-- The section of skipped files. -/
def skippedLines (files : List FileChange) : List Text :=
  let skipped := files.filter fun f => f.isGenerated || f.isBinary || f.isUnsupported
  if skipped.isEmpty then []
  else ("## Skipped" : Text)
    :: skipped.map (fun f => "- " ++ f.path ++ (" (" : Text) ++ skipReason f ++ (")" : Text)) ++ [[]]

/-- All sections: breaking changes, changes of production files, changes of tests, how many are hidden,
and skipped files. -/
def detailedOf (production tests all : List FileChange) (summary : Summary) (showSkipped : Bool) : Text :=
  let changes := sorted production
  let testChanges := sorted tests
  let (lines, emitted) := sectionLines sectionLimit (sections changes)
  let hidden := changes.length - emitted - changes.countP fun c => c.change.isBreaking
  let (testLines, testEmitted) :=
    sectionLines (if emitted < sectionLimit then sectionLimit - emitted else 5) (sections testChanges)
  let hidden := hidden + (testChanges.length - testEmitted)
  Text.trim (Text.join "\n" (breakingLines summary.breaking ++ lines
    ++ (if testChanges.isEmpty then [] else ("## Test Changes" : Text) :: testLines)
    ++ (if hidden == 0 then [] else ["(and " ++ Text.ofNat hidden ++ (" more)" : Text), []])
    ++ if showSkipped then skippedLines all else []))

/-! ## All lengths -/

/-- A warning about files of unsupported languages, by their endings or names. -/
def unsupportedWarning? (files : List FileChange) : Option Text :=
  let unsupported := files.filter (·.isUnsupported)
  let ending (f : FileChange) : Text :=
    let e := Path.extension f.path
    if e.isEmpty then Path.fileName f.path else e
  if unsupported.isEmpty then none
  else
    let n := unsupported.length
    some ("⚠ " ++ Text.ofNat n ++ (" file" : Text) ++ pluralEnding n
      ++ (" skipped (unsupported: " : Text)
      ++ Text.join ", " (Text.sort (Text.distinct (unsupported.map ending)))
      ++ (") — review manually" : Text))

/-- The texts when no symbol changed. -/
def withoutChanges (files : List FileChange) : Tiers :=
  let n := files.countP fun f => !f.isGenerated && !f.isBinary && !f.isUnsupported
  if n == 0 then always "No substantive code changes."
  else always ("Changed " ++ Text.ofNat n ++ (" file(s) with no symbol-level modifications." : Text))

/-- The texts of a summary. -/
def ofFiles (files : List FileChange) (summary : Summary) (options : SummaryOptions) : Tiers :=
  let production := files.filter fun f => !Path.isTest f.path
  let tests := files.filter fun f => Path.isTest f.path
  let changes := sorted production
  if files.all (·.changes.isEmpty) then withoutChanges files
  else
    let (oneLine, short) : Text × Text :=
      if !changes.isEmpty then (oneLineOf changes summary, shortOf changes summary)
      else if tests.any (!·.changes.isEmpty) then ("Test-only changes", "Test-only changes")
      else ("No substantive code changes.", "No substantive code changes.")
    let detailed :=
      detailedOf production (if options.includeTests then tests else []) files summary options.showSkipped
    match if options.showSkipped then none else unsupportedWarning? files with
    | some warning =>
      { oneLine
        short := short ++ ("\n" : Text) ++ warning
        detailed := if detailed.isEmpty then warning else detailed ++ ("\n" : Text) ++ warning }
    | none => { oneLine, short, detailed }

end Tiers

end ChangeReview
