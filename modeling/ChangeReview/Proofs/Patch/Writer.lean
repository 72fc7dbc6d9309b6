import ChangeReview.Patch.Header
import ChangeReview.Proofs.Text.Basic
import Mathlib.Data.List.TakeDrop
import Mathlib.Tactic.MkIffOfInductiveProp

/-!
# Writing a patch

The text of a patch without renames, and the files that it can describe. Its header lines are read back:
the one of a record, although a path may hold what divides its two paths, and the one of a hunk.
-/

namespace ChangeReview.Patch

open Text (ofNat OneLine unlines)

/-! ## The written form -/

namespace Line

/-- The content of a line. -/
def content : Line → Text
  | .added content _ => content
  | .removed content _ => content
  | .context content _ _ => content

/-- A line with the mark of its side in front. -/
def write : Line → Text
  | .added content _ => '+' :: content
  | .removed content _ => '-' :: content
  | .context content _ _ => ' ' :: content

end Line

/-- The line that opens a hunk. -/
def HunkHeader.write (h : HunkHeader) : Text :=
  let heading : Text := if h.heading.isEmpty then [] else ' ' :: h.heading
  "@@ -" ++ (ofNat h.oldStart ++ ("," ++ (ofNat h.oldCount ++ (" +" ++ (ofNat h.newStart ++ ("," ++
    (ofNat h.newCount ++ (" @@" ++ heading))))))))

/-- The lines of a hunk. -/
def Hunk.write (h : Hunk) : List Text := h.header.write :: h.lines.map Line.write

namespace FileRecord

/-- The line that opens a record. -/
def headerLine (f : FileRecord) : Text := recordMark ++ ("a/" ++ (f.path ++ (" b/" ++ f.path)))

/-- The line that tells the mode of a file that is new or deleted. -/
def modeLines (mode : Option Text) (f : FileRecord) : List Text :=
  match f.changeType, mode with
  | .added, some mode => ["new file mode " ++ mode]
  | .removed, some mode => ["deleted file mode " ++ mode]
  | _, _ => []

/-- The name of the old side; a missing side has a name of its own. -/
def oldName (f : FileRecord) : Text := (f.oldPath.map (("a/" : Text) ++ ·)).getD "/dev/null"

/-- The name of the new side. -/
def newName (f : FileRecord) : Text := (f.newPath.map (("b/" : Text) ++ ·)).getD "/dev/null"

/-- The lines of a record before its content. -/
def headLines (mode : Option Text) (f : FileRecord) : List Text :=
  f.modeLines mode ++ if f.isBinary then [] else ["--- " ++ f.oldName, "+++ " ++ f.newName]

/-- The lines of the content: the hunks, or that the file is binary. -/
def contentLines (f : FileRecord) : List Text :=
  if f.isBinary then ["Binary files " ++ (f.oldName ++ (" and " ++ (f.newName ++ " differ")))]
  else f.hunks.flatMap Hunk.write

/-- The lines of a record. -/
def write (mode : Option Text) (f : FileRecord) : List Text :=
  f.headerLine :: (f.headLines mode ++ f.contentLines)

end FileRecord

/-- The text of a patch, with the given modes. -/
def write (mode : FileRecord → Option Text) (files : List FileRecord) : Text :=
  unlines (files.flatMap fun f => f.write (mode f))

/-! ## What can be written -/

/-- The lines are numbered from the given numbers on, on the sides where they stand. -/
def Counted : (oldLine newLine : Nat) → List Line → Prop
  | _, _, [] => True
  | oldLine, newLine, .added _ number :: lines => number = newLine ∧ Counted oldLine (newLine + 1) lines
  | oldLine, newLine, .removed _ number :: lines => number = oldLine ∧ Counted (oldLine + 1) newLine lines
  | oldLine, newLine, .context _ oldNumber newNumber :: lines =>
    (oldNumber = oldLine ∧ newNumber = newLine) ∧ Counted (oldLine + 1) (newLine + 1) lines

instance decidableCounted : (oldLine newLine : Nat) → (lines : List Line) →
    Decidable (Counted oldLine newLine lines)
  | _, _, [] => isTrue trivial
  | _, _, .added .. :: lines => @instDecidableAnd _ _ _ (decidableCounted _ _ lines)
  | _, _, .removed .. :: lines => @instDecidableAnd _ _ _ (decidableCounted _ _ lines)
  | _, _, .context .. :: lines => @instDecidableAnd _ _ _ (decidableCounted _ _ lines)

/-- A hunk of one-line texts, its lines numbered from its starts on. -/
@[mk_iff] structure Hunk.Regular (h : Hunk) : Prop where
  heading_trim : h.header.heading.trim = h.header.heading
  heading_oneLine : OneLine h.header.heading
  lines_oneLine : ∀ l ∈ h.lines, OneLine l.content
  counted : Counted h.header.oldStart h.header.newStart h.lines

instance (h : Hunk) : Decidable h.Regular := decidable_of_iff' _ (Hunk.regular_iff h)

/-- A file with one path, on the sides where it exists, and with the mode that its record shows. Only the
mode line tells that a binary file is new or deleted. -/
@[mk_iff] structure FileRecord.Regular (mode : Option Text) (f : FileRecord) : Prop where
  not_renamed : f.changeType ≠ .renamed
  oldPath_eq : f.oldPath = if f.changeType = .added then none else some f.path
  newPath_eq : f.newPath = if f.changeType = .removed then none else some f.path
  path_oneLine : OneLine f.path
  mode_oneLine : ∀ m ∈ mode, OneLine m
  mode_isSome : f.isBinary = true → f.changeType ≠ .modified → mode.isSome = true
  hunks_eq_nil : f.isBinary = true → f.hunks = []
  hunks_regular : ∀ h ∈ f.hunks, h.Regular

instance (mode : Option Text) (f : FileRecord) : Decidable (f.Regular mode) :=
  decidable_of_iff' _ (FileRecord.regular_iff mode f)

theorem Line.oneLine_write {l : Line} (h : OneLine l.content) : OneLine l.write := by
  cases l with
  | added => exact Text.oneLine_append.2 ⟨(by decide : OneLine ['+']), h⟩
  | removed => exact Text.oneLine_append.2 ⟨(by decide : OneLine ['-']), h⟩
  | context => exact Text.oneLine_append.2 ⟨(by decide : OneLine [' ']), h⟩

theorem HunkHeader.oneLine_write {h : HunkHeader} (hheading : OneLine h.heading) : OneLine h.write := by
  have hend : OneLine (if h.heading.isEmpty then [] else ' ' :: h.heading) := by
    split
    · decide
    · exact Text.oneLine_append.2 ⟨(by decide : OneLine [' ']), hheading⟩
  simp only [write, Text.oneLine_append, Text.oneLine_ofNat, true_and]
  exact ⟨by decide, by decide, by decide, by decide, by decide, hend⟩

theorem Hunk.oneLine_write {h : Hunk} (hh : h.Regular) : ∀ l ∈ h.write, OneLine l := by
  intro l hl
  rcases List.mem_cons.1 hl with rfl | hl
  · exact HunkHeader.oneLine_write hh.heading_oneLine
  · obtain ⟨line, hline, rfl⟩ := List.mem_map.1 hl
    exact Line.oneLine_write (hh.lines_oneLine line hline)

namespace FileRecord

variable {mode : Option Text} {f : FileRecord}

theorem Regular.cases (hf : f.Regular mode) :
    (f.changeType = .added ∧ f.oldPath = none ∧ f.newPath = some f.path) ∨
    (f.changeType = .removed ∧ f.oldPath = some f.path ∧ f.newPath = none) ∨
    (f.changeType = .modified ∧ f.oldPath = some f.path ∧ f.newPath = some f.path) := by
  have hold := hf.oldPath_eq
  have hnew := hf.newPath_eq
  cases hkind : f.changeType with
  | added => exact Or.inl ⟨rfl, by simpa [hkind] using hold, by simpa [hkind] using hnew⟩
  | removed => exact Or.inr (Or.inl ⟨rfl, by simpa [hkind] using hold, by simpa [hkind] using hnew⟩)
  | modified => exact Or.inr (Or.inr ⟨rfl, by simpa [hkind] using hold, by simpa [hkind] using hnew⟩)
  | renamed => exact absurd hkind hf.not_renamed

theorem oneLine_modeLines (hf : f.Regular mode) : ∀ l ∈ f.modeLines mode, OneLine l := by
  intro l hl
  unfold modeLines at hl
  split at hl
  · rw [List.mem_singleton.1 hl]
    exact Text.oneLine_append.2 ⟨by decide, hf.mode_oneLine _ rfl⟩
  · rw [List.mem_singleton.1 hl]
    exact Text.oneLine_append.2 ⟨by decide, hf.mode_oneLine _ rfl⟩
  · cases hl

theorem oneLine_names (hf : f.Regular mode) : OneLine f.oldName ∧ OneLine f.newName := by
  have hnone : OneLine ("/dev/null" : Text) := by decide
  have hold : OneLine (("a/" : Text) ++ f.path) := Text.oneLine_append.2 ⟨by decide, hf.path_oneLine⟩
  have hnew : OneLine (("b/" : Text) ++ f.path) := Text.oneLine_append.2 ⟨by decide, hf.path_oneLine⟩
  unfold oldName newName
  rcases hf.cases with ⟨-, ho, hn⟩ | ⟨-, ho, hn⟩ | ⟨-, ho, hn⟩
  · rw [ho, hn]
    exact ⟨hnone, hnew⟩
  · rw [ho, hn]
    exact ⟨hold, hnone⟩
  · rw [ho, hn]
    exact ⟨hold, hnew⟩

theorem oneLine_write (hf : f.Regular mode) : ∀ l ∈ f.write mode, OneLine l := by
  obtain ⟨hold, hnew⟩ := oneLine_names hf
  intro l hl
  rw [write, List.mem_cons, List.mem_append, headLines, List.mem_append] at hl
  rcases hl with rfl | (hl | hl) | hl
  · simp only [headerLine, Text.oneLine_append]
    exact ⟨by decide, by decide, hf.path_oneLine, by decide, hf.path_oneLine⟩
  · exact oneLine_modeLines hf l hl
  · split at hl
    · cases hl
    · rcases List.mem_pair.1 hl with rfl | rfl
      · exact Text.oneLine_append.2 ⟨by decide, hold⟩
      · exact Text.oneLine_append.2 ⟨by decide, hnew⟩
  · unfold contentLines at hl
    split at hl
    · rw [List.mem_singleton.1 hl]
      simp only [Text.oneLine_append]
      exact ⟨by decide, hold, by decide, hnew, by decide⟩
    · obtain ⟨h, hh, hl⟩ := List.mem_flatMap.1 hl
      exact Hunk.oneLine_write (hf.hunks_regular h hh) l hl

end FileRecord

/-! ## Header lines -/

theorem mem_divisions {t old new : Text} : (old, new) ∈ divisions t ↔ t = old ++ (" b/" ++ new) := by
  induction t generalizing old with
  | nil =>
    have hmark : (" b/" : Text) ≠ [] := by decide
    simp [divisions, hmark]
  | cons c r ih =>
    have hlater : (old, new) ∈ (divisions r).map (fun p => (c :: p.1, p.2))
        ↔ ∃ old', old = c :: old' ∧ r = old' ++ (" b/" ++ new) := by
      rw [List.mem_map]
      constructor
      · rintro ⟨⟨old', new'⟩, hmem, heq⟩
        cases heq
        exact ⟨old', rfl, ih.1 hmem⟩
      · rintro ⟨old', rfl, h⟩
        exact ⟨(old', new), ih.2 h, rfl⟩
    have hcases : (c :: r = old ++ (" b/" ++ new)) ↔
        (old = [] ∧ Text.after? " b/" (c :: r) = some new) ∨
          ∃ old', old = c :: old' ∧ r = old' ++ (" b/" ++ new) := by
      rw [Text.after?_eq_some_iff]
      cases old with
      | nil => simp
      | cons d old =>
        rw [List.cons_append, List.cons.injEq]
        constructor
        · rintro ⟨rfl, h⟩
          exact Or.inr ⟨old, rfl, h⟩
        · rintro (⟨h, -⟩ | ⟨old', h, hr⟩)
          · cases h
          · cases h
            exact ⟨rfl, hr⟩
    rw [hcases, ← hlater, divisions]
    dsimp only
    cases hafter : Text.after? " b/" (c :: r) with
    | none => simp
    | some new' =>
      rw [List.mem_cons, Prod.mk.injEq, Option.some_inj, eq_comm (a := new)]

/-- The line that opens a record has both paths, whatever the path holds: they are its only halves of equal
length. -/
theorem headerPaths?_headerLine (f : FileRecord) : headerPaths? f.headerLine = some (f.path, f.path) := by
  have hmem : (f.path, f.path) ∈ divisions (f.path ++ (" b/" ++ f.path)) := mem_divisions.2 rfl
  have hfirst : (divisions (f.path ++ (" b/" ++ f.path))).find? (fun p => p.1 == p.2)
      = some (f.path, f.path) := by
    cases hfind : (divisions (f.path ++ (" b/" ++ f.path))).find? (fun p => p.1 == p.2) with
    | none => exact absurd (beq_self_eq_true f.path) (List.find?_eq_none.1 hfind _ hmem)
    | some p =>
      obtain ⟨old, new⟩ := p
      have heq : old = new := by simpa using List.find?_some hfind
      subst heq
      have hwhole := mem_divisions.1 (List.mem_of_find?_eq_some hfind)
      have hlength := congrArg List.length hwhole
      simp only [List.length_append] at hlength
      rw [(List.append_inj hwhole (by omega)).1]
  have hquote : Text.startsWith ("a/" ++ (f.path ++ (" b/" ++ f.path))) "\"" = false :=
    Text.Apart.not_startsWith (by decide) _
  unfold headerPaths? FileRecord.headerLine
  rw [Text.after?_append]
  dsimp only [Option.bind_eq_bind, Option.bind_some]
  rw [hquote, if_neg Bool.false_ne_true, Text.after?_append, Option.bind_some]
  rw [hfirst, Option.some_or]

/-- A numeral is read up to where no digit follows. -/
theorem number?_ofNat {rest : Text} (h : rest.takeWhile CodePoint.isDigit = []) (n : Nat) :
    number? (ofNat n ++ rest) = some (n, rest) := by
  have hdigits : ∀ d ∈ ofNat n, d.isDigit = true := fun d => Text.isDigit_of_mem_ofNat
  have hrest : rest.dropWhile CodePoint.isDigit = rest := by
    have hsplit := List.takeWhile_append_dropWhile (p := CodePoint.isDigit) (l := rest)
    rwa [h, List.nil_append] at hsplit
  unfold number?
  rw [List.span_eq_takeWhile_dropWhile, List.takeWhile_append_of_pos hdigits,
    List.dropWhile_append_of_pos hdigits, h, hrest, List.append_nil]
  dsimp only
  rw [Text.decimal?_ofNat]
  rfl

theorem range?_ofNat {rest : Text} (h : rest.takeWhile CodePoint.isDigit = []) (start count : Nat) :
    range? (ofNat start ++ ("," ++ (ofNat count ++ rest))) = some (start, count, rest) := by
  have hcomma : (("," : Text) ++ (ofNat count ++ rest)).takeWhile CodePoint.isDigit = [] := rfl
  unfold range?
  rw [number?_ofNat hcomma, Option.bind_eq_bind, Option.bind_some]
  dsimp only
  rw [Text.after?_append, Option.bind_some, number?_ofNat h]
  rfl

theorem hunkHeader?_write {h : HunkHeader} (htrim : h.heading.trim = h.heading) :
    hunkHeader? h.write = some h := by
  have hplus : ∀ t : Text, ((" +" : Text) ++ t).takeWhile CodePoint.isDigit = [] := fun _ => rfl
  have hat : ∀ t : Text, ((" @@" : Text) ++ t).takeWhile CodePoint.isDigit = [] := fun _ => rfl
  have hheading : Text.trim (if h.heading.isEmpty then [] else ' ' :: h.heading) = h.heading := by
    split
    · rename_i hempty
      rw [List.isEmpty_iff.1 hempty]
      rfl
    · exact htrim
  unfold hunkHeader? HunkHeader.write
  simp only [Option.bind_eq_bind]
  rw [Text.after?_append, Option.bind_some, range?_ofNat (hplus _), Option.bind_some]
  dsimp only
  rw [Text.after?_append, Option.bind_some, range?_ofNat (hat _), Option.bind_some]
  dsimp only
  rw [Text.after?_append, Option.bind_some, hheading]
  rfl

end ChangeReview.Patch
