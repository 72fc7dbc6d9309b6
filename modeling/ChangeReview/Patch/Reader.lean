import ChangeReview.Patch.Header

/-!
# Reading a patch

A patch is read line by line. What is no header of a record is passed over until the first one; inside
a record, unknown lines are passed over too. A removal and an addition of the same path become one
modification.
-/

namespace ChangeReview.Patch

/-- What the lines before the first hunk of a file say. -/
structure Head where
  oldPath : Option Text
  newPath : Option Text
  changeType : ChangeType := .modified
  isBinary : Bool := false

/-- What one line before the first hunk says. -/
def Head.next (h : Head) (line : Text) : Head :=
  if Text.startsWith line "new file mode" || line == "--- /dev/null" then
    { h with oldPath := none, changeType := .added }
  else if Text.startsWith line "deleted file mode" || line == "+++ /dev/null" then
    { h with newPath := none, changeType := .removed }
  else h

/-- Reads the lines before the first hunk, and what follows them. -/
def readHead (h : Head) : List Text → Head × List Text
  | [] => (h, [])
  | line :: rest =>
    if Text.startsWith line recordMark then (h, line :: rest)
    else if Text.startsWith line "Binary files" then ({ h with isBinary := true }, rest)
    else if Text.startsWith line "@@" then (h, line :: rest)
    else readHead (h.next line) rest

/-- Whether an empty line is an empty line of context: when more of the patch follows. -/
def continues : List Text → Bool
  | [] => false
  | line :: _ =>
    (recordMark :: Text.list ["@@", "+", "-", " ", "\\ "]).any (Text.startsWith line)

/-- What was read with one more item in front. -/
def consFirst {α β : Type} (item : α) (result : List α × β) : List α × β := (item :: result.1, result.2)

@[simp] theorem consFirst_snd {α β : Type} (item : α) (result : List α × β) :
    (consFirst item result).2 = result.2 := rfl

/-- Reads the lines of a hunk from the given line numbers on, and what follows them. -/
def readLines (oldLine newLine : Nat) : List Text → List Line × List Text
  | [] => ([], [])
  | line :: rest =>
    if Text.startsWith line recordMark || Text.startsWith line "@@" then ([], line :: rest)
    else match line with
      | [] =>
        if continues rest then
          consFirst (.context [] oldLine newLine) (readLines (oldLine + 1) (newLine + 1) rest)
        else ([], rest)
      | c :: content =>
        if c == '+' then
          consFirst (.added content newLine) (readLines oldLine (newLine + 1) rest)
        else if c == '-' then
          consFirst (.removed content oldLine) (readLines (oldLine + 1) newLine rest)
        else if c == ' ' then
          consFirst (.context content oldLine newLine) (readLines (oldLine + 1) (newLine + 1) rest)
        else readLines oldLine newLine rest

theorem length_readHead_le (h : Head) (lines : List Text) :
    (readHead h lines).2.length ≤ lines.length := by
  induction lines generalizing h with
  | nil => simp [readHead]
  | cons line rest ih =>
    rw [readHead]
    split
    · simp
    · split
      · simp
      · split
        · simp
        · exact Nat.le_succ_of_le (ih _)

theorem length_readLines_le (oldLine newLine : Nat) (lines : List Text) :
    (readLines oldLine newLine lines).2.length ≤ lines.length := by
  fun_induction readLines oldLine newLine lines <;> simp <;> omega

/-- Reads the hunks of a file, and what follows them. -/
def readHunks : List Text → List Hunk × List Text
  | [] => ([], [])
  | line :: rest =>
    if Text.startsWith line recordMark then ([], line :: rest)
    else match hunkHeader? line with
      | none => readHunks rest
      | some header =>
        consFirst ⟨header, (readLines header.oldStart header.newStart rest).1⟩
          (readHunks (readLines header.oldStart header.newStart rest).2)
termination_by lines => lines.length
decreasing_by
  · simp
  · exact Nat.lt_succ_of_le (length_readLines_le ..)

theorem length_readHunks_le (lines : List Text) : (readHunks lines).2.length ≤ lines.length := by
  fun_induction readHunks lines with
  | case1 => simp
  | case2 => simp
  | case3 line rest _ _ ih => exact Nat.le_succ_of_le ih
  | case4 line rest _ header _ ih =>
    exact Nat.le_trans ih (Nat.le_succ_of_le (length_readLines_le ..))

/-- Reads the hunks of a file unless it is binary, and what follows them. -/
def readContent (isBinary : Bool) (lines : List Text) : List Hunk × List Text :=
  if isBinary then ([], lines) else readHunks lines

theorem length_readContent_le (isBinary : Bool) (lines : List Text) :
    (readContent isBinary lines).2.length ≤ lines.length := by
  unfold readContent
  split
  · exact Nat.le_refl _
  · exact length_readHunks_le lines

/-- Reads the records of all files; `isGenerated` tells generated paths. -/
def readRecords (isGenerated : Text → Bool) : List Text → List FileRecord
  | [] => []
  | line :: rest =>
    match headerPaths? line with
    | none => readRecords isGenerated rest
    | some (old, new) =>
      let h := readHead { oldPath := some old, newPath := some new } rest
      let content := readContent h.1.isBinary h.2
      { oldPath := h.1.oldPath
        newPath := h.1.newPath
        changeType := h.1.changeType
        isBinary := h.1.isBinary
        isGenerated := isGenerated (FileRecord.pathOf h.1.newPath h.1.oldPath)
        hunks := content.1 } :: readRecords isGenerated content.2
termination_by lines => lines.length
decreasing_by
  · simp
  · exact Nat.lt_succ_of_le (Nat.le_trans (length_readContent_le ..) (length_readHead_le ..))

/-- The key of a file's path. -/
def FileRecord.key (f : FileRecord) : Text := Path.key f.path

/-- One modification made of a removal and an addition. -/
def FileRecord.recreate (removal addition : FileRecord) : FileRecord :=
  { removal with
    newPath := addition.newPath
    changeType := .modified
    isBinary := removal.isBinary || addition.isBinary
    isGenerated := removal.isGenerated || addition.isGenerated
    hunks := removal.hunks ++ addition.hunks }

/-- The removal and the addition that follows it, if they are all there is under a key. -/
def recreated? (files : List FileRecord) (key : Text) : Option (FileRecord × FileRecord) :=
  if key.isEmpty then none
  else match files.filter (·.key == key) with
    | [removal, addition] =>
      if removal.isRemoval && addition.isAddition then some (removal, addition) else none
    | _ => none

/-- The files with each recreated one as a modification in the place of its removal. -/
def coalesce (files : List FileRecord) : List FileRecord :=
  files.filterMap fun f =>
    match recreated? files f.key with
    | none => some f
    | some (removal, addition) => if f.isRemoval then some (removal.recreate addition) else none

/-- The files of a patch. With `skipGenerated`, no file is marked as generated. -/
def read (skipGenerated : Bool) (patterns : List Text) (diff : Text) : List FileRecord :=
  coalesce (readRecords (fun path => !skipGenerated && Path.isGenerated patterns path)
    (Text.splitOn '\n' diff))

end ChangeReview.Patch
