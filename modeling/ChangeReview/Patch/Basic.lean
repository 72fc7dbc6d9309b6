import ChangeReview.Path.Basic

/-!
# Patches

The files of a unified diff with their hunks. A line carries its numbers on the sides where it stands.
-/

namespace ChangeReview

/-- What happens to a file. A patch is read without renames, so none of its files is renamed. -/
inductive ChangeType where
  | added
  | removed
  | modified
  | renamed
deriving DecidableEq

namespace ChangeType

/-- The name of a change type. -/
def toText : ChangeType → Text
  | .added => "added"
  | .removed => "removed"
  | .modified => "modified"
  | .renamed => "renamed"

/-- The change type of a given name. -/
def ofText? (t : Text) : Option ChangeType :=
  [ChangeType.added, .removed, .modified, .renamed].find? (·.toText == t)

end ChangeType

namespace Patch

/-- The head of a hunk: where it starts and how many lines it has on each side. -/
structure HunkHeader where
  oldStart : Nat
  oldCount : Nat
  newStart : Nat
  newCount : Nat
  heading : Text
deriving DecidableEq

/-- A line of a hunk. -/
inductive Line where
  | added (content : Text) (newLine : Nat)
  | removed (content : Text) (oldLine : Nat)
  | context (content : Text) (oldLine newLine : Nat)
deriving DecidableEq

/-- A contiguous run of lines. -/
structure Hunk where
  header : HunkHeader
  lines : List Line
deriving DecidableEq

/-- What a patch says about one file. A path is missing on the side where the file does not exist. -/
structure FileRecord where
  oldPath : Option Text
  newPath : Option Text
  changeType : ChangeType
  isBinary : Bool
  isGenerated : Bool
  hunks : List Hunk
deriving DecidableEq

namespace Line

/-- An added line. -/
def isAdded : Line → Bool
  | .added .. => true
  | _ => false

/-- A removed line. -/
def isRemoved : Line → Bool
  | .removed .. => true
  | _ => false

end Line

namespace FileRecord

/-- The path a file goes by: the new one, else the old one. An empty path counts as missing. -/
def pathOf (newPath oldPath : Option Text) : Text :=
  ((newPath.filter (!·.isEmpty)).or oldPath).getD []

/-- The path of a file. -/
def path (f : FileRecord) : Text := pathOf f.newPath f.oldPath

/-- The number of added lines. -/
def additions (f : FileRecord) : Nat := total (f.hunks.map fun h => h.lines.countP Line.isAdded)

/-- The number of removed lines. -/
def deletions (f : FileRecord) : Nat := total (f.hunks.map fun h => h.lines.countP Line.isRemoved)

/-- A removal that has an old side only. -/
def isRemoval (f : FileRecord) : Bool :=
  f.changeType == .removed && f.oldPath.isSome && f.newPath.isNone

/-- An addition that has a new side only. -/
def isAddition (f : FileRecord) : Bool :=
  f.changeType == .added && f.oldPath.isNone && f.newPath.isSome

end FileRecord

end Patch

end ChangeReview
