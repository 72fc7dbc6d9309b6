import ChangeReview.Change.Basic
import ChangeReview.OrderedMap

/-!
# Summaries

The changes of all files in the order in which they should be reviewed, how many there are of each kind,
and the few to look at first.
-/

namespace ChangeReview

/-- A change with the path of its file. -/
structure PlacedChange where
  path : Text
  change : Change

namespace PlacedChange

/-- How early a change is reviewed; breaking changes come first. -/
def priority (c : Change) : Nat :=
  if c.isBreaking then 0
  else match c.kind with
    | .functionRemoved | .classRemoved => 1
    | .signatureChanged => 2
    | .functionAdded | .classAdded => 3
    | .functionModified | .classModified => 4
    | .moved => 5

/-- The order of review: by priority, path and name. -/
def le (a b : PlacedChange) : Bool :=
  if priority a.change != priority b.change then priority a.change < priority b.change
  else if a.path != b.path then Text.lt a.path b.path
  else Text.le a.change.name b.change.name

/-- The changes of all files in the order of review. -/
def sorted (files : List FileChange) : List PlacedChange :=
  (files.flatMap fun file => file.changes.map fun change => ⟨file.path, change⟩).mergeSort le

/-- A name in backquotes. -/
def quoted (name : Text) : Text := "\x60" ++ name ++ ("\x60" : Text)

/-- A text that may be missing. -/
def shown (t : Option Text) : Text := t.getD "None"

/-- What a change asks a reviewer to look at. -/
def focusLabel (c : Change) : Text :=
  let name := quoted c.name
  if c.isBreaking then "BREAKING: " ++ name ++ (" signature changed" : Text)
  else match c.kind with
    | .functionRemoved => "Removed " ++ name
    | .classRemoved => "Removed class " ++ name
    | .functionAdded => "New " ++ name
    | .classAdded => "New class " ++ name
    | .signatureChanged => "Signature change: " ++ name
    | .functionModified => "Modified " ++ name
    | .classModified => "Modified class " ++ name
    | .moved => "Moved " ++ name ++ (" from " : Text) ++ shown c.fileFrom

end PlacedChange

/-- The changes of all files in short. -/
structure Summary where
  counts : OrderedMap Text Nat := []
  breaking : List Change := []
  focus : List Text := []

/-- The summary of files, tests included. -/
def Summary.ofFiles (files : List FileChange) : Summary :=
  let changes := files.flatMap (·.changes)
  { counts := changes.foldl (fun counts c => counts.update c.kind.toText 0 (· + 1)) []
    breaking := changes.filter (·.isBreaking)
    focus :=
      (Text.distinct ((PlacedChange.sorted files).map fun p => PlacedChange.focusLabel p.change)).take 5 }

end ChangeReview
