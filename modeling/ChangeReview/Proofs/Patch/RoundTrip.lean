import ChangeReview.Patch.Reader
import ChangeReview.Proofs.Patch.Writer

/-!
# Reading a written patch

A written record is read back whatever follows it: each of its readers stops at the line where the next
one has to start. What is written for one line of a hunk, one hunk and one record is read in one step, and
so are lines, hunks and records in a row. No two files share a key, so none of them is coalesced.
-/

namespace ChangeReview.Patch

open Text (Apart OneLine startsWith)

/-! ## Lines -/

variable {oldLine newLine : Nat} {rest : List Text}

theorem readLines_cons {c : CodePoint} {content : Text}
    (hmark : Apart [c] recordMark) (hhunk : Apart [c] "@@") :
    readLines oldLine newLine ((c :: content) :: rest)
      = if c == '+' then consFirst (.added content newLine) (readLines oldLine (newLine + 1) rest)
        else if c == '-' then consFirst (.removed content oldLine) (readLines (oldLine + 1) newLine rest)
        else if c == ' ' then
          consFirst (.context content oldLine newLine) (readLines (oldLine + 1) (newLine + 1) rest)
        else readLines oldLine newLine rest := by
  have hbody : (startsWith (c :: content) recordMark || startsWith (c :: content) "@@") = false := by
    rw [Bool.or_eq_false_iff]
    exact ⟨hmark.not_startsWith content, hhunk.not_startsWith content⟩
  rw [readLines, hbody, if_neg Bool.false_ne_true]

theorem readLines_stop {line : Text} (h : (startsWith line recordMark || startsWith line "@@") = true) :
    readLines oldLine newLine (line :: rest) = ([], line :: rest) := by
  rw [readLines.eq_def]
  dsimp only
  rw [if_pos h]

/-- Lines are read up to where their reader stops. -/
theorem readLines_write {lines : List Line} {start : List Text}
    (hrest : ∀ oldLine newLine, readLines oldLine newLine rest = ([], start))
    (hlines : Counted oldLine newLine lines) :
    readLines oldLine newLine (lines.map Line.write ++ rest) = (lines, start) := by
  induction lines generalizing oldLine newLine with
  | nil => exact hrest oldLine newLine
  | cons line lines ih =>
    rw [List.map_cons, List.cons_append]
    cases line with
    | added content number =>
      obtain ⟨rfl, hlines⟩ := hlines
      rw [Line.write, readLines_cons (by decide) (by decide), ih hlines]
      rfl
    | removed content number =>
      obtain ⟨rfl, hlines⟩ := hlines
      rw [Line.write, readLines_cons (by decide) (by decide), ih hlines]
      rfl
    | context content oldNumber newNumber =>
      obtain ⟨⟨rfl, rfl⟩, hlines⟩ := hlines
      rw [Line.write, readLines_cons (by decide) (by decide), ih hlines]
      rfl

/-! ## Hunks -/

/-- The reader of a head and the reader of a hunk both stop at the start of what is left, from where on
the hunks are read. -/
def Resumes (lines : List Text) (hunks : List Hunk) (left : List Text) : Prop :=
  ∃ start, (∀ h, readHead h lines = (h, start)) ∧
    (∀ oldLine newLine, readLines oldLine newLine lines = ([], start)) ∧ readHunks start = (hunks, left)

theorem resumes_end : Resumes [[]] [] [] :=
  ⟨[], fun _ => rfl, fun _ _ => rfl, by rw [readHunks]⟩

theorem resumes_record {line : Text} (h : startsWith line recordMark = true) (rest : List Text) :
    Resumes (line :: rest) [] (line :: rest) := by
  refine ⟨line :: rest, fun _ => ?_, fun _ _ => readLines_stop ?_, ?_⟩
  · rw [readHead, if_pos h]
  · rw [h, Bool.true_or]
  · rw [readHunks, if_pos h]

theorem Resumes.hunk {lines left : List Text} {hunks : List Hunk} {h : Hunk} (hh : h.Regular)
    (hlines : Resumes lines hunks left) : Resumes (h.write ++ lines) (h :: hunks) left := by
  obtain ⟨start, -, hstop, hhunks⟩ := hlines
  have hmark : startsWith h.header.write recordMark = false :=
    Apart.not_startsWith (by decide) _
  have hbinary : startsWith h.header.write "Binary files" = false :=
    Apart.not_startsWith (by decide) _
  have hopen : startsWith h.header.write "@@" = true := Text.startsWith_append (by decide) _
  rw [Hunk.write, List.cons_append]
  refine ⟨h.header.write :: (h.lines.map Line.write ++ lines), fun _ => ?_, fun _ _ => readLines_stop ?_, ?_⟩
  · rw [readHead, hmark, hbinary, hopen]
    rfl
  · rw [hopen, Bool.or_true]
  · rw [readHunks, hmark, if_neg Bool.false_ne_true, hunkHeader?_write hh.heading_trim]
    dsimp only
    -- The lines of the hunk end where the next hunk starts, or what follows the record.
    rw [readLines_write hstop hh.counted, hhunks]
    rfl

theorem resumes_hunks {hunks : List Hunk} {left : List Text} (hhunks : ∀ h ∈ hunks, h.Regular)
    (hrest : Resumes rest [] left) : Resumes (hunks.flatMap Hunk.write ++ rest) hunks left := by
  induction hunks with
  | nil => exact hrest
  | cons h hunks ih =>
    obtain ⟨hh, hhunks⟩ := List.forall_mem_cons.1 hhunks
    rw [List.flatMap_cons, List.append_assoc]
    exact (ih hhunks).hunk hh

/-! ## Heads -/

/-- A line that a reader of a head takes in. -/
def InHead (line : Text) : Prop :=
  startsWith line recordMark = false ∧ startsWith line "Binary files" = false ∧ startsWith line "@@" = false

theorem inHead_append {t : Text} (h : Apart t recordMark ∧ Apart t "Binary files" ∧ Apart t "@@") (r : Text) :
    InHead (t ++ r) :=
  ⟨h.1.not_startsWith r, h.2.1.not_startsWith r, h.2.2.not_startsWith r⟩

theorem readHead_append {lines : List Text} (hlines : ∀ l ∈ lines, InHead l) (h : Head) (rest : List Text) :
    readHead h (lines ++ rest) = readHead (lines.foldl Head.next h) rest := by
  induction lines generalizing h with
  | nil => rfl
  | cons line lines ih =>
    obtain ⟨⟨hmark, hbinary, hopen⟩, hlines⟩ := List.forall_mem_cons.1 hlines
    rw [List.cons_append, readHead, hmark, hbinary, hopen, List.foldl_cons, ← ih hlines]
    rfl

namespace Head

variable (h : Head)

theorem next_newMode (mode : Text) :
    h.next ("new file mode " ++ mode) = { h with oldPath := none, changeType := .added } := by
  have hmode : startsWith ("new file mode " ++ mode) "new file mode" = true :=
    Text.startsWith_append (by decide) mode
  rw [next, hmode, Bool.true_or, if_pos rfl]

theorem next_deletedMode (mode : Text) :
    h.next ("deleted file mode " ++ mode) = { h with newPath := none, changeType := .removed } := by
  have hnew : startsWith ("deleted file mode " ++ mode) "new file mode" = false :=
    Apart.not_startsWith (by decide) mode
  have hold : ("deleted file mode " ++ mode == "--- /dev/null") = false :=
    Apart.beq_eq_false (by decide) mode
  have hmode : startsWith ("deleted file mode " ++ mode) "deleted file mode" = true :=
    Text.startsWith_append (by decide) mode
  rw [next, hnew, hold, hmode]
  rfl

/-- A line with the path of a side says nothing. -/
theorem next_path {t : Text} (path : Text)
    (ht : (Apart t "new file mode" ∧ Apart t "--- /dev/null") ∧
      Apart t "deleted file mode" ∧ Apart t "+++ /dev/null") :
    h.next (t ++ path) = h := by
  obtain ⟨⟨hnew, hold⟩, hdeleted, hgone⟩ := ht
  rw [next, hnew.not_startsWith, hold.beq_eq_false, hdeleted.not_startsWith, hgone.beq_eq_false]
  rfl

end Head

namespace FileRecord

variable {mode : Option Text} {f : FileRecord}

theorem inHead_headLines (mode : Option Text) (f : FileRecord) : ∀ l ∈ f.headLines mode, InHead l := by
  intro l hl
  rcases List.mem_append.1 hl with hl | hl
  · unfold modeLines at hl
    split at hl
    · rw [List.mem_singleton.1 hl]
      exact inHead_append (by decide) _
    · rw [List.mem_singleton.1 hl]
      exact inHead_append (by decide) _
    · cases hl
  · split at hl
    · cases hl
    · rcases List.mem_pair.1 hl with rfl | rfl
      · exact inHead_append (by decide) _
      · exact inHead_append (by decide) _

theorem next_oldName (h : Head) (f : FileRecord) :
    h.next ("--- " ++ f.oldName)
      = if f.oldPath.isNone then { h with oldPath := none, changeType := .added } else h := by
  unfold oldName
  cases f.oldPath with
  | none => rfl
  | some path =>
    rw [Option.map_some, Option.getD_some, ← List.append_assoc]
    exact h.next_path path (by decide)

theorem next_newName (h : Head) (f : FileRecord) :
    h.next ("+++ " ++ f.newName)
      = if f.newPath.isNone then { h with newPath := none, changeType := .removed } else h := by
  unfold newName
  cases f.newPath with
  | none => rfl
  | some path =>
    rw [Option.map_some, Option.getD_some, ← List.append_assoc]
    exact h.next_path path (by decide)

/-- What the line that opens the record says about a file. -/
def opened (f : FileRecord) : Head := { oldPath := some f.path, newPath := some f.path }

/-- What the head of its record says about a file. -/
def head (f : FileRecord) : Head :=
  { oldPath := f.oldPath, newPath := f.newPath, changeType := f.changeType }

theorem Regular.opened_eq_head (hf : f.Regular mode) (h : f.changeType = .modified) : f.opened = f.head := by
  unfold opened head
  rw [hf.oldPath_eq, hf.newPath_eq, h]
  rfl

/-- The mode line, if there is one, tells on which sides the file exists. -/
theorem foldl_modeLines (hf : f.Regular mode) :
    (f.modeLines mode).foldl Head.next f.opened = if mode.isSome then f.head else f.opened := by
  unfold modeLines
  cases mode with
  | none =>
    cases f.changeType <;> rfl
  | some mode =>
    rw [Option.isSome_some, if_pos rfl]
    rcases hf.cases with ⟨hkind, hold, hnew⟩ | ⟨hkind, hold, hnew⟩ | ⟨hkind, -⟩
    · rw [hkind, List.foldl_cons, Head.next_newMode, head, hold, hnew, hkind]
      rfl
    · rw [hkind, List.foldl_cons, Head.next_deletedMode, head, hold, hnew, hkind]
      rfl
    · rw [hkind]
      exact hf.opened_eq_head hkind

/-- So do the lines that name the sides. -/
theorem foldl_sideLines (hf : f.Regular mode) {h : Head} (hh : h = f.opened ∨ h = f.head) :
    ["--- " ++ f.oldName, "+++ " ++ f.newName].foldl Head.next h = f.head := by
  rw [List.foldl_cons, List.foldl_cons, List.foldl_nil, next_oldName, next_newName]
  rcases hf.cases with ⟨hkind, hold, hnew⟩ | ⟨hkind, hold, hnew⟩ | ⟨hkind, hold, hnew⟩ <;>
    rcases hh with rfl | rfl <;> simp [opened, head, hkind, hold, hnew]

theorem foldl_headLines (hf : f.Regular mode) : (f.headLines mode).foldl Head.next f.opened = f.head := by
  rw [headLines, List.foldl_append, foldl_modeLines hf]
  by_cases hbinary : f.isBinary = true
  · rw [if_pos hbinary, List.foldl_nil]
    split
    · rfl
    · rename_i hmode
      exact hf.opened_eq_head (not_not.1 fun hkind => hmode (hf.mode_isSome hbinary hkind))
  · rw [if_neg hbinary]
    apply foldl_sideLines hf
    split
    · exact Or.inr rfl
    · exact Or.inl rfl

end FileRecord

/-! ## Records -/

/-- What may follow a record: the readers of the record stop there. -/
def Ends (rest : List Text) : Prop :=
  ∃ left, Resumes rest [] left ∧ ∀ isGenerated, readRecords isGenerated left = readRecords isGenerated rest

theorem readRecords_last (isGenerated : Text → Bool) : readRecords isGenerated [[]] = [] := by
  rw [readRecords.eq_def]
  dsimp only
  rw [show headerPaths? [] = none from rfl]
  exact readRecords.eq_1 isGenerated

theorem ends_last : Ends [[]] :=
  ⟨[], resumes_end, fun isGenerated => by rw [readRecords_last, readRecords]⟩

theorem ends_record {line : Text} (h : startsWith line recordMark = true) (rest : List Text) :
    Ends (line :: rest) :=
  ⟨line :: rest, resumes_record h rest, fun _ => rfl⟩

theorem readHead_binary (h : Head) (t : Text) (rest : List Text) :
    readHead h (("Binary files " ++ t) :: rest) = ({ h with isBinary := true }, rest) := by
  have hmark : startsWith ("Binary files " ++ t) recordMark = false := Apart.not_startsWith (by decide) t
  have hfiles : startsWith ("Binary files " ++ t) "Binary files" = true :=
    Text.startsWith_append (by decide) t
  rw [readHead, hmark, hfiles]
  rfl

section

variable {mode : Option Text} {f : FileRecord}

/-- Behind the lines before it, the content of a record is read and what follows is left. -/
theorem exists_content (hf : f.Regular mode) (hrest : Ends rest) (isGenerated : Text → Bool) :
    ∃ start left, readHead f.head (f.contentLines ++ rest) = ({ f.head with isBinary := f.isBinary }, start) ∧
      readContent f.isBinary start = (f.hunks, left) ∧
      readRecords isGenerated left = readRecords isGenerated rest := by
  unfold FileRecord.contentLines
  cases hbinary : f.isBinary with
  | true =>
    rw [if_pos rfl, List.singleton_append, readHead_binary, hf.hunks_eq_nil hbinary]
    exact ⟨rest, rest, rfl, rfl, rfl⟩
  | false =>
    obtain ⟨left, hresumes, hleft⟩ := hrest
    obtain ⟨start, hhead, -, hhunks⟩ := resumes_hunks hf.hunks_regular hresumes
    rw [if_neg Bool.false_ne_true, hhead]
    exact ⟨start, left, rfl, hhunks, hleft isGenerated⟩

theorem readRecords_write (hf : f.Regular mode) (hrest : Ends rest) (isGenerated : Text → Bool) :
    readRecords isGenerated (f.write mode ++ rest)
      = { f with isGenerated := isGenerated f.path } :: readRecords isGenerated rest := by
  obtain ⟨start, left, hhead, hcontent, hrecords⟩ := exists_content hf hrest isGenerated
  rw [FileRecord.write, List.cons_append, readRecords, headerPaths?_headerLine, List.append_assoc]
  dsimp only
  rw [readHead_append (FileRecord.inHead_headLines mode f), ← FileRecord.opened,
    FileRecord.foldl_headLines hf, hhead]
  dsimp only
  rw [hcontent, hrecords]
  rfl

end

variable {mode : FileRecord → Option Text} {files : List FileRecord}

theorem ends_flatMap_write (mode : FileRecord → Option Text) (files : List FileRecord) :
    Ends (files.flatMap (fun f => f.write (mode f)) ++ [[]]) := by
  cases files with
  | nil => exact ends_last
  | cons f files => exact ends_record (Text.startsWith_append (by decide) _) _

theorem readRecords_flatMap_write (hfiles : ∀ f ∈ files, f.Regular (mode f)) (isGenerated : Text → Bool) :
    readRecords isGenerated (files.flatMap (fun f => f.write (mode f)) ++ [[]])
      = files.map fun f => { f with isGenerated := isGenerated f.path } := by
  induction files with
  | nil => exact readRecords_last isGenerated
  | cons f files ih =>
    obtain ⟨hf, hfiles⟩ := List.forall_mem_cons.1 hfiles
    rw [List.flatMap_cons, List.append_assoc, readRecords_write hf (ends_flatMap_write mode files),
      ih hfiles, List.map_cons]

/-- Without a second file of its key, no file is recreated. -/
theorem coalesce_eq_self (hkeys : (files.map FileRecord.key).Nodup) : coalesce files = files := by
  have hnone : ∀ key, recreated? files key = none := by
    intro key
    unfold recreated?
    split
    · rfl
    · split
      · rename_i removal addition hpair
        have hsub : [removal, addition].Sublist files := hpair ▸ List.filter_sublist
        have hkey : ∀ f ∈ [removal, addition], f.key = key := by
          intro f hf
          rw [← hpair] at hf
          exact beq_iff_eq.1 (List.mem_filter.1 hf).2
        have hnodup := hkeys.sublist (hsub.map FileRecord.key)
        simp [hkey removal (by simp), hkey addition (by simp)] at hnodup
      · rfl
  unfold coalesce
  simp only [hnone]
  exact List.filterMap_some

/-- Reading a written patch gives its files back, in order, with their paths, change types, binary flags,
hunk headers and numbered lines; a path may hold anything but a line feed. Only which files are generated is
told by their paths. -/
theorem read_write_eq_files (skipGenerated : Bool) (patterns : List Text)
    (hfiles : ∀ f ∈ files, f.Regular (mode f)) (hkeys : (files.map FileRecord.key).Nodup) :
    read skipGenerated patterns (write mode files)
      = files.map fun f => { f with isGenerated := !skipGenerated && Path.isGenerated patterns f.path } := by
  have hlines : ∀ l ∈ files.flatMap (fun f => f.write (mode f)), OneLine l := by
    intro l hl
    obtain ⟨f, hf, hl⟩ := List.mem_flatMap.1 hl
    exact FileRecord.oneLine_write (hfiles f hf) l hl
  rw [read, write, Text.splitOn_unlines hlines, readRecords_flatMap_write hfiles]
  apply coalesce_eq_self
  rw [List.map_map]
  exact hkeys

/-- Files whose paths and lines look like the marks of a patch. -/
def lookalikes : List FileRecord :=
  [{ oldPath := some "x b/y b/x.py", newPath := some "x b/y b/x.py", changeType := .modified
     isBinary := false, isGenerated := false
     hunks := [
      { header := ⟨1, 2, 1, 2, "def f():"⟩
        lines := [.removed "-- /dev/null" 1, .added "@@ -1 +1 @@" 1, .context "" 2 2] },
      { header := ⟨10, 0, 10, 1, ""⟩, lines := [.added "++ /dev/null" 10] }] },
    { oldPath := some " b/", newPath := none, changeType := .removed, isBinary := false, isGenerated := false
      hunks := [{ header := ⟨1, 1, 0, 0, ""⟩, lines := [.removed "diff --git a/z b/z" 1] }] },
    { oldPath := none, newPath := some "a.png", changeType := .added, isBinary := true, isGenerated := false
      hunks := [] }]

/-- The mode line is left out where another line tells that a file is new or deleted. -/
def lookalikeMode (f : FileRecord) : Option Text := if f.isBinary then some "100644" else none

theorem read_write_eq_files_lookalikes :
    (∀ f ∈ lookalikes, f.Regular (lookalikeMode f)) ∧ (lookalikes.map FileRecord.key).Nodup ∧
      read true [] (write lookalikeMode lookalikes) = lookalikes := by
  have hfiles : ∀ f ∈ lookalikes, f.Regular (lookalikeMode f) := by decide +kernel
  have hkeys : (lookalikes.map FileRecord.key).Nodup := by decide +kernel
  exact ⟨hfiles, hkeys, read_write_eq_files true [] hfiles hkeys⟩

end ChangeReview.Patch
