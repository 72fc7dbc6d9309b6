import ChangeReview.Proofs.Patch.RoundTrip
import ChangeReview.Proofs.Path.Quoted
import ChangeReview.Repository.Diff

/-!
# The patch that adds an empty file

A file is named in the patch by its path in quotes. The first quote behind the opening one closes it, so
the header of the patch gives the path back; the path has no line feed in quotes, so the patch is
read as the one addition that it is.
-/

namespace ChangeReview.Repository

open ChangeReview.Bytes (decodeCarrying)
open ChangeReview.Patch
open ChangeReview.Path (digit digits quoteOctet quoted)

/-! ## The header -/

theorem closingQuote?_cons {c : CodePoint} (hquote : c.val ≠ 0x22)
    (hslash : c ≠ CodePoint.ofChar '\\') (escaped : Bool) (rest : Text) :
    closingQuote? escaped (c :: rest) = (closingQuote? false rest).map (· + 1) := by
  rw [closingQuote?, beq_eq_false_iff_ne.2 hquote, beq_eq_false_iff_ne.2 hslash, Bool.false_and,
    if_neg Bool.false_ne_true]

theorem closingQuote?_backslash (rest : Text) :
    closingQuote? false ('\\' :: rest) = (closingQuote? true rest).map (· + 1) := rfl

/-- An octet inside quotes is passed over. -/
theorem closingQuote?_quoteOctet (b : UInt8) (rest : Text) :
    closingQuote? false (quoteOctet b ++ rest)
      = (closingQuote? false rest).map (· + (quoteOctet b).length) := by
  have hlt := b.toNat_lt
  have hdigit : ∀ n < 8, ∀ (escaped : Bool) (rest : Text),
      closingQuote? escaped (digit n :: rest) = (closingQuote? false rest).map (· + 1) := by
    intro n hn
    exact closingQuote?_cons (by rw [Path.digit_val hn]; omega) (Path.digit_ne_backslash hn)
  rcases Path.quoteOctet_cases b with ⟨hplain, h⟩ | h
  · rw [h, List.singleton_append, closingQuote?_cons _ hplain.ne_backslash]
    · rfl
    · rw [Path.ofNat_val (by omega)]
      exact hplain.2.1
  · rw [h, digits, List.cons_append, closingQuote?_backslash, List.cons_append, hdigit _ (by omega),
      List.cons_append, hdigit _ (by omega), List.cons_append, hdigit _ (by omega), List.nil_append,
      Option.map_map, Option.map_map, Option.map_map]
    rfl

theorem closingQuote?_flatMap (bs : Bytes) (rest : Text) :
    closingQuote? false (bs.flatMap quoteOctet ++ ("\"" ++ rest)) = some (bs.flatMap quoteOctet).length := by
  induction bs with
  | nil => rfl
  | cons b bs ih =>
    rw [List.flatMap_cons, List.append_assoc, closingQuote?_quoteOctet, ih, Option.map_some,
      List.length_append, Nat.add_comm]

/-- The line that opens the record of a file whose path is written in quotes. -/
def headerOf (bs cs : Bytes) : Text := recordMark ++ (quoted bs ++ (" " ++ quoted cs))

/-- Both paths of a header in quotes are read, without the marks of their sides. -/
theorem headerPaths?_headerOf {bs cs : Bytes} {old new : Text}
    (hold : decodeCarrying bs = "a/" ++ old) (hnew : decodeCarrying cs = "b/" ++ new) :
    headerPaths? (headerOf bs cs) = some (old, new) := by
  set payload := quoted bs ++ (" " ++ quoted cs) with hpayload
  have hclose : closingQuote? false (payload.drop 1) = some (bs.flatMap quoteOctet).length := by
    rw [hpayload, quoted, List.cons_append, List.drop_succ_cons, List.drop_zero, List.append_assoc]
    exact closingQuote?_flatMap bs _
  have hlength : (quoted bs).length = (bs.flatMap quoteOctet).length + 2 := by
    simp [quoted]
  have hfirst : payload.take ((bs.flatMap quoteOctet).length + 2) = quoted bs := by
    rw [← hlength, hpayload, List.take_left]
  have hsecond : payload.drop ((bs.flatMap quoteOctet).length + 2) = (" " ++ quoted cs) := by
    rw [← hlength, hpayload, List.drop_left]
  have hquote : Text.startsWith payload "\"" = true := rfl
  have htrim : Text.trimLeft (" " ++ quoted cs) = quoted cs := rfl
  unfold headerPaths? headerOf
  rw [← hpayload, Text.after?_append, Option.bind_eq_bind, Option.bind_some, hquote, if_pos rfl]
  unfold quotedPaths?
  rw [hclose, Option.bind_eq_bind, Option.bind_some]
  dsimp only
  rw [hfirst, hsecond, htrim, Path.decode_quoted, Path.decode_quoted, hold, hnew]
  rw [if_neg (by simp [Text.ofString])]
  dsimp only [Except.toOption]
  rw [Option.bind_eq_bind, Option.bind_some, Option.bind_some, Text.after?_append, Text.after?_append]
  rfl

/-! ## The patch -/

/-- The octets of a path on the side `mark`. -/
def sideOctets (mark : UInt8) (bs : Bytes) : Bytes := mark :: 0x2F :: bs

theorem decodeCarrying_sideOctets (mark : UInt8) (h : mark.toNat < 0x80) (bs : Bytes) :
    decodeCarrying (sideOctets mark bs)
      = CodePoint.ofNat mark.toNat :: CodePoint.ofChar '/' :: decodeCarrying bs := by
  rw [sideOctets, Bytes.decodeCarrying_cons_ascii h, Bytes.decodeCarrying_cons_ascii (by decide)]
  rfl

theorem oneLine_quoted (bs : Bytes) : Text.OneLine (quoted bs) := by
  intro h
  rw [quoted, List.mem_cons, List.mem_append, List.mem_singleton] at h
  rcases h with h | h | h
  · exact absurd h (by decide)
  · exact absurd (Path.mem_flatMap_quoteOctet h).1.1 (by decide)
  · exact absurd h (by decide)

theorem oneLine_headerOf (bs cs : Bytes) : Text.OneLine (headerOf bs cs) := by
  simp only [headerOf, Text.oneLine_append]
  exact ⟨by decide, oneLine_quoted bs, by decide, oneLine_quoted cs⟩

theorem pathOf_addition (path : Text) : FileRecord.pathOf (some path) none = path := by
  cases path <;> rfl

/-- A new file of a mode, without content. -/
theorem read_newFile {header path : Text} (hheader : headerPaths? header = some (path, path))
    (hline : Text.OneLine header) {mode : Text} (hmode : Text.OneLine mode) (skipGenerated : Bool)
    (patterns : List Text) :
    Patch.read skipGenerated patterns (Text.unlines [header, "new file mode " ++ mode])
      = [{ oldPath := none, newPath := some path, changeType := .added, isBinary := false
           isGenerated := !skipGenerated && Path.isGenerated patterns path, hunks := [] }] := by
  have hlines : ∀ l ∈ [header, "new file mode " ++ mode], Text.OneLine l := by
    simp only [List.forall_mem_cons, Text.oneLine_append]
    exact ⟨hline, ⟨by decide, hmode⟩, List.forall_mem_nil _⟩
  have hhead : ∀ l ∈ [("new file mode " : Text) ++ mode], InHead l := by
    intro l hl
    rw [List.mem_singleton.1 hl]
    exact inHead_append (by decide) mode
  obtain ⟨start, hstart, -, hhunks⟩ := resumes_end
  rw [Patch.read, Text.splitOn_unlines hlines, List.cons_append, readRecords, hheader]
  dsimp only
  rw [readHead_append hhead, List.foldl_cons, List.foldl_nil, Head.next_newMode, hstart]
  dsimp only [readContent]
  rw [if_neg Bool.false_ne_true, hhunks, readRecords, pathOf_addition]
  apply coalesce_eq_self
  simp

theorem quote_side (mark : UInt8) (h : mark.toNat < 0x80) (bs : Bytes) :
    Path.quote (CodePoint.ofNat mark.toNat :: CodePoint.ofChar '/' :: decodeCarrying bs)
      = .ok (quoted (sideOctets mark bs)) := by
  rw [← decodeCarrying_sideOctets mark h, Path.quote_decodeCarrying]

/-- A path that was decoded from any octets is read back from its quoted form, from the header in which it
is quoted on both sides, and from the patch that adds the empty file of the path: the patch is one addition
without hunks. -/
theorem quoted_path_reads_back (bs : Bytes) (isExecutable skipGenerated : Bool) (patterns : List Text) :
    let path := decodeCarrying bs
    let mode : Text := if isExecutable then "100755" else "100644"
    ∃ token old new patch : Text,
      (Path.quote path = .ok token ∧ Path.decode token = .ok path) ∧
      (Path.quote ("a/" ++ path) = .ok old ∧ Path.quote ("b/" ++ path) = .ok new ∧
        headerPaths? ("diff --git " ++ (old ++ (" " ++ new))) = some (path, path)) ∧
      (emptyAddition path isExecutable = .ok patch ∧
        patch = "diff --git " ++ (old ++ (" " ++ (new ++ ("\nnew file mode " ++ (mode ++ "\n"))))) ∧
        Patch.read skipGenerated patterns patch
          = [{ oldPath := none, newPath := some path, changeType := .added, isBinary := false
               isGenerated := !skipGenerated && Path.isGenerated patterns path, hunks := [] }]) := by
  intro path mode
  have hold : Path.quote ("a/" ++ path) = .ok (quoted (sideOctets 0x61 bs)) :=
    quote_side 0x61 (by decide) bs
  have hnew : Path.quote ("b/" ++ path) = .ok (quoted (sideOctets 0x62 bs)) :=
    quote_side 0x62 (by decide) bs
  have hheader : headerPaths? (headerOf (sideOctets 0x61 bs) (sideOctets 0x62 bs)) = some (path, path) :=
    headerPaths?_headerOf (decodeCarrying_sideOctets 0x61 (by decide) bs)
      (decodeCarrying_sideOctets 0x62 (by decide) bs)
  have hpatch : Text.unlines [headerOf (sideOctets 0x61 bs) (sideOctets 0x62 bs), "new file mode " ++ mode]
      = "diff --git " ++ (quoted (sideOctets 0x61 bs) ++ (" " ++ (quoted (sideOctets 0x62 bs) ++
          ("\nnew file mode " ++ (mode ++ "\n"))))) := by
    simp only [Text.unlines, headerOf, List.flatMap_cons, List.flatMap_nil, List.append_assoc]
    rfl
  have hmode : Text.OneLine mode := by
    unfold mode
    cases isExecutable <;> decide
  refine ⟨quoted bs, _, _, _, ⟨Path.quote_decodeCarrying bs, Path.decode_quoted bs⟩,
    ⟨hold, hnew, hheader⟩, ?_, rfl, ?_⟩
  · unfold emptyAddition
    rw [hold, hnew]
    simp only [List.append_assoc]
    rfl
  · rw [← hpatch]
    exact read_newFile hheader (oneLine_headerOf _ _) hmode skipGenerated patterns

/-! Octets that are no UTF-8, two that are one character, a quote, a backslash and a line feed. -/

example : Path.quote (decodeCarrying [0xFF, 0xC3, 0xA9, 0x22, 0x5C, 0x0A, 0x37])
    = .ok "\"\\377\\303\\251\\042\\134\\0127\"" := by decide +kernel

end ChangeReview.Repository
