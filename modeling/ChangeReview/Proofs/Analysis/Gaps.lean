import ChangeReview.Proofs.Analysis.Conservation
import ChangeReview.Proofs.Analysis.Inspection
import ChangeReview.Proofs.Change.Moves
import ChangeReview.Proofs.Symbol.Extraction

/-!
# Files with a gap

A file with a side that cannot be had or that does not parse is kept without changes and with one warning.
The symbols that are found in it all the same go nowhere: the search for moves does not see them, and
no other text or tree with an error would make a difference to the analysis.
-/

namespace ChangeReview

/-! ## Moves stay at their files -/

namespace FileChange

variable {files files' : List FileChange} {m : Symbol.Match} {path : Text}

/-- What one move can do: nothing, or strike out a symbol in its source and report it in its
destination. -/
theorem applyMove_cases (h : applyMove files m = .ok files') :
    files' = files ∨ ∃ old new source destination more,
      m.fileFrom = some source ∧ m.fileTo = some destination ∧ (∀ c ∈ more, c.kind ≠ .moved) ∧
      files' = atPath (atPath files source (withoutSymbol ChangeKind.isRemoval old)) destination fun cs =>
        withoutSymbol ChangeKind.isAddition new cs ++ Change.ofMove source new :: more := by
  unfold applyMove at h
  split at h
  · rename_i old new source destination _ _ hsource hdestination
    split at h
    · split at h
      · cases h
        exact Or.inl rfl
      · dsimp only at h
        split at h
        · cases h
          exact Or.inr ⟨old, new, source, destination, [], hsource, hdestination, by simp, rfl⟩
        · obtain ⟨more, hmore, h⟩ := Except.eq_ok_of_bind h
          cases h
          exact Or.inr ⟨old, new, source, destination, more, hsource, hdestination,
            Change.not_moved_of_classify (by simp) hmore, rfl⟩
    · cases h
      exact Or.inl rfl
  · cases h
    exact Or.inl rfl

/-- The file of a path that a move does not name is left as it is. -/
theorem getElem?_atPath_of_ne {other : Text} (hne : path ≠ other) (f : List Change → List Change) {k : Nat}
    {file : FileChange} (hpath : file.path = path) (h : files[k]? = some file) :
    (atPath files other f)[k]? = some file := by
  unfold atPath
  rw [List.getElem?_map, h, Option.map_some, if_neg (by simpa [hpath] using hne)]

/-- No file reports a move from the path or to it. -/
def Unmoved (path : Text) (files : List FileChange) : Prop :=
  ∀ file ∈ files, ∀ c ∈ file.changes, c.kind = .moved → file.path ≠ path ∧ c.fileFrom ≠ some path

theorem mem_of_mem_withoutSymbol {isKind : ChangeKind → Bool} {s : Symbol} {c : Change} {cs : List Change}
    (h : c ∈ withoutSymbol isKind s cs) : c ∈ cs := by
  unfold withoutSymbol at h
  dsimp only at h
  split at h <;> exact List.mem_of_mem_eraseP h

theorem Unmoved.atPath (h : Unmoved path files) {other : Text} {f : List Change → List Change}
    (hf : ∀ cs, ∀ c ∈ f cs, c.kind = .moved → c ∈ cs ∨ other ≠ path ∧ c.fileFrom ≠ some path) :
    Unmoved path (atPath files other f) := by
  intro file hfile c hc hmoved
  obtain ⟨before, hbefore, rfl⟩ := List.mem_map.1 hfile
  split at hc
  · rename_i hpath
    rw [if_pos hpath]
    rcases hf before.changes c hc hmoved with hin | ⟨hne, hfrom⟩
    · exact h before hbefore c hin hmoved
    · exact ⟨beq_iff_eq.1 hpath ▸ hne, hfrom⟩
  · rename_i hpath
    rw [if_neg hpath]
    exact h before hbefore c hc hmoved

/-- A run of moves that do not name a path leaves its files as they are, and reports no move from it or
to it. -/
theorem applyMoves_of_ne {moves : List Symbol.Match}
    (hmoves : ∀ m ∈ moves, m.fileFrom ≠ some path ∧ m.fileTo ≠ some path)
    (h : applyMoves files moves = .ok files') :
    (∀ (k : Nat) (file : FileChange), file.path = path → files[k]? = some file → files'[k]? = some file) ∧
      (Unmoved path files → Unmoved path files') := by
  induction moves generalizing files with
  | nil =>
    cases h
    exact ⟨fun _ _ _ hfile => hfile, id⟩
  | cons m moves ih =>
    obtain ⟨middle, hmiddle, h⟩ := Except.eq_ok_of_bind h
    obtain ⟨⟨hfrom, hto⟩, hmoves⟩ := List.forall_mem_cons.1 hmoves
    obtain ⟨hfiles, hunmoved⟩ := ih hmoves h
    rcases applyMove_cases hmiddle with rfl | ⟨old, new, source, destination, more, hsource, hdestination,
      hmore, rfl⟩
    · exact ⟨hfiles, hunmoved⟩
    have hsourcePath : path ≠ source := fun heq => hfrom (hsource.trans (congrArg some heq.symm))
    have hdestinationPath : path ≠ destination := fun heq => hto (hdestination.trans (congrArg some heq.symm))
    refine ⟨fun k file hpath hfile => ?_, fun hbefore => hunmoved ?_⟩
    · exact hfiles k file hpath (getElem?_atPath_of_ne hdestinationPath _ hpath
        (getElem?_atPath_of_ne hsourcePath _ hpath hfile))
    · have hstruck : Unmoved path (FileChange.atPath files source (withoutSymbol ChangeKind.isRemoval old)) :=
        hbefore.atPath fun cs c hc _ => Or.inl (mem_of_mem_withoutSymbol hc)
      refine hstruck.atPath fun cs c hc hmoved => ?_
      rcases List.mem_append.1 hc with hc | hc
      · exact Or.inl (mem_of_mem_withoutSymbol hc)
      rcases List.mem_cons.1 hc with rfl | hc
      · refine Or.inr ⟨Ne.symm hdestinationPath, fun heq => hsourcePath (Option.some.inj heq).symm⟩
      · exact absurd hmoved (hmore c hc)

end FileChange

namespace Analysis

/-! ## The result for a file with a gap -/

variable {f : Patch.FileRecord} {i : Inspection} {r : FileResult}

/-- The symbols of the file are to be compared. -/
def Analysed (f : Patch.FileRecord) : Prop :=
  f.isGenerated = false ∧ f.isBinary = false ∧ (Path.language? f.path).isSome = true

instance (f : Patch.FileRecord) : Decidable (Analysed f) := inferInstanceAs (Decidable (_ ∧ _))

/-- Whether the tree of one of the sides has an error. -/
def Inspection.hasError (i : Inspection) : Bool := i.old.hasError || i.new.hasError

/-- A side of the file cannot be had, or its tree has an error. -/
def Gap (f : Patch.FileRecord) (i : Inspection) : Prop := Analysed f ∧ (i.lacks f || i.hasError) = true

instance (f : Patch.FileRecord) (i : Inspection) : Decidable (Gap f i) :=
  inferInstanceAs (Decidable (_ ∧ _))

/-- Both sides of the file can be had, and the tree of one has an error. -/
def ParseGap (f : Patch.FileRecord) (i : Inspection) : Prop :=
  Analysed f ∧ i.lacks f = false ∧ i.hasError = true

instance (f : Patch.FileRecord) (i : Inspection) : Decidable (ParseGap f i) :=
  inferInstanceAs (Decidable (_ ∧ _))

theorem ParseGap.gap (h : ParseGap f i) : Gap f i := ⟨h.1, by rw [h.2.2, Bool.or_true]⟩

/-- The tree of a side is a tree of its text. -/
def View.Spans (v : View) : Prop := ∀ text ∈ v.text, ∀ tree ∈ v.tree, tree.Spans (text.flatMap CodePoint.utf8)

/-- The trees of both sides are trees of their texts. -/
def Inspection.Spans (i : Inspection) : Prop := i.old.Spans ∧ i.new.Spans

instance (i : Inspection) : Decidable i.Spans :=
  inferInstanceAs (Decidable ((∀ text ∈ i.old.text, ∀ tree ∈ i.old.tree, _) ∧
    ∀ text ∈ i.new.text, ∀ tree ∈ i.new.tree, _))

/-- The result for a file with a gap. -/
def gapResult (f : Patch.FileRecord) (i : Inspection) : FileResult :=
  { change := {
      path := f.path
      changeType := f.changeType
      language := (Path.language? f.path).map Language.toText
      hasParseError := !i.lacks f }
    warnings := [if i.lacks f then unavailableWarning f.path else gapWarning f.path] }

theorem exists_warning (f : Patch.FileRecord) (i : Inspection) :
    ∃ w, (gapResult f i).warnings = [w] ∧ f.path <+: w := by
  refine ⟨_, rfl, ?_⟩
  split <;> exact List.prefix_append _ _

theorem View.hasGap_of_parsed {v : View} {language : Language} {p : ParsedFile}
    (h : v.parsed language = .ok p) : p.hasGap = v.hasError := by
  unfold View.parsed at h
  split at h
  · obtain ⟨symbols, -, h⟩ := Except.eq_ok_of_bind h
    cases h
    rfl
  · cases h
    rfl

/-- The symbols of a tree are read whether or not the tree has an error. -/
theorem View.Spans.isOk_parsed {v : View} (h : v.Spans) {language : Language}
    (hlanguage : ∀ name, language ≠ .other name) : (v.parsed language).isOk = true := by
  unfold View.parsed
  split
  · rename_i text tree htext htree
    exact Except.isOk_bind (Symbol.isOk_extract (h text htext tree htree) hlanguage) fun _ _ => rfl
  · rfl

/-- What both sides can imply: a gap has a result of its own, and nothing else warns. -/
theorem Inspection.conclude_cases {language : Language} (hlanguage : Path.language? f.path = some language)
    (h : i.conclude f language = .ok r) : r.change.path = f.path ∧
    (∀ c ∈ r.change.changes, c.kind ≠ .moved) ∧
    if i.lacks f || i.hasError then r = gapResult f i else r.warnings = [] := by
  unfold Inspection.conclude at h
  split at h
  · rename_i hlacks
    cases h
    refine ⟨rfl, by simp, ?_⟩
    simp [gapResult, hlacks, hlanguage]
  · rename_i hpresent
    obtain ⟨old, hold, h⟩ := Except.eq_ok_of_bind h
    obtain ⟨new, hnew, h⟩ := Except.eq_ok_of_bind h
    unfold concludeParsed at h
    rw [View.hasGap_of_parsed hold, View.hasGap_of_parsed hnew] at h
    dsimp only at h
    split at h
    · rename_i herror
      cases h
      refine ⟨rfl, by simp, ?_⟩
      rw [if_pos (by simp [Inspection.hasError, herror])]
      simp [gapResult, hpresent, hlanguage]
    · rename_i hwhole
      obtain ⟨cs, hcs, h⟩ := Except.eq_ok_of_bind h
      cases h
      refine ⟨rfl, Change.not_moved_of_classify (fun m => Symbol.fileFrom_of_mem_matchAll) hcs, ?_⟩
      rw [if_neg (by simpa [Inspection.hasError, hpresent] using hwhole)]

/-- What the result for a file can be: a file with a gap has a result of its own, and no other warns. -/
theorem judge_cases (h : judge f i = .ok r) : r.change.path = f.path ∧
    (∀ c ∈ r.change.changes, c.kind ≠ .moved) ∧ if Gap f i then r = gapResult f i else r.warnings = [] := by
  unfold judge at h
  dsimp only at h
  split at h
  · rename_i hgenerated
    cases h
    refine ⟨rfl, by simp, ?_⟩
    rw [if_neg (fun hgap : Gap f i => by simp [hgap.1.1] at hgenerated)]
  rename_i hgenerated
  split at h
  · rename_i hbinary
    cases h
    refine ⟨rfl, by simp, ?_⟩
    rw [if_neg (fun hgap : Gap f i => by simp [hgap.1.2.1] at hbinary)]
  rename_i hbinary
  cases hlanguage : Path.language? f.path with
  | none =>
    rw [hlanguage] at h
    cases h
    refine ⟨rfl, by simp, ?_⟩
    rw [if_neg (fun hgap : Gap f i => by simpa [hlanguage] using hgap.1.2.2)]
  | some language =>
    rw [hlanguage] at h
    have hgap : Gap f i ↔ (i.lacks f || i.hasError) = true :=
      and_iff_right ⟨by simpa using hgenerated, by simpa using hbinary, by rw [hlanguage]; rfl⟩
    simp only [hgap]
    exact Inspection.conclude_cases hlanguage h

/-- A file with a gap has a result, whatever the trees are. -/
theorem judge_of_gap (hgap : Gap f i) (hspans : i.Spans) : judge f i = .ok (gapResult f i) := by
  obtain ⟨⟨hgenerated, hbinary, hlanguage⟩, hside⟩ := id hgap
  have hok : (judge f i).isOk = true := by
    obtain ⟨language, hlanguage⟩ := Option.isSome_iff_exists.1 hlanguage
    have hgrammar := Path.language?_ne_other hlanguage
    unfold judge
    simp only [hgenerated, hbinary, hlanguage, Bool.false_eq_true, if_false]
    unfold Inspection.conclude
    split
    · rfl
    · rename_i hpresent
      refine Except.isOk_bind (hspans.1.isOk_parsed hgrammar) fun old hold =>
        Except.isOk_bind (hspans.2.isOk_parsed hgrammar) fun new hnew => ?_
      unfold concludeParsed
      rw [View.hasGap_of_parsed hold, View.hasGap_of_parsed hnew, if_pos]
      · rfl
      · simpa [hpresent, Inspection.hasError] using hside
  obtain ⟨r, hr⟩ := Except.isOk_iff.1 hok
  have hcases := (judge_cases hr).2.2
  rw [if_pos hgap] at hcases
  rw [hr, hcases]

/-! ## Moves between files with results -/

variable {results : List FileResult} {files : List FileChange} {k : Nat}

/-- A file without leftover symbols is no candidate of the search for moves, nor is another file of its
path. -/
theorem file_ne_of_mem_locate {pick : FileResult → List Symbol} (hr : r ∈ results) (hpick : pick r = [])
    {l : Symbol.Located} (hl : l ∈ Symbol.locate (candidates results pick)) : l.file ≠ r.change.path := by
  obtain ⟨⟨file, found⟩, hfile, hl⟩ := List.mem_flatMap.1 hl
  obtain ⟨symbol, -, rfl⟩ := List.mem_map.1 hl
  obtain ⟨other, hother, hcandidate⟩ := List.mem_filterMap.1 hfile
  dsimp only at hcandidate
  split at hcandidate
  · cases hcandidate
  rename_i hsingle
  cases hcandidate
  simp only [Bool.or_eq_true, List.isEmpty_iff, bne_iff_ne, ne_eq, not_or, not_not] at hsingle
  obtain ⟨hleft, hcount⟩ := hsingle
  intro hpath
  dsimp only at hpath
  -- Both results have the path, which occurs once.
  rw [List.countP_eq_length_filter] at hcount
  obtain ⟨single, hsingle⟩ := List.length_eq_one_iff.1 hcount
  have hsame : ∀ x ∈ results, x.change.path = other.change.path → x = single := by
    intro x hx hxpath
    exact List.mem_singleton.1 (hsingle ▸ List.mem_filter.2 ⟨hx, beq_iff_eq.2 hxpath⟩)
  rw [hsame other hother rfl, ← hsame r hr hpath.symm] at hleft
  exact hleft hpick

/-- The moves leave a file without leftover symbols as it is, and none of them names it. -/
theorem file_of_withMoves (h : withMoves results = .ok files)
    (hmoved : ∀ x ∈ results, ∀ c ∈ x.change.changes, c.kind ≠ .moved) (hr : results[k]? = some r)
    (hremoved : r.removed = []) (hadded : r.added = []) :
    files[k]? = some r.change ∧ FileChange.Unmoved r.change.path files := by
  have hmem := List.mem_of_getElem? hr
  have hmoves : ∀ m ∈
      Symbol.moves (candidates results FileResult.removed) (candidates results FileResult.added),
      m.fileFrom ≠ some r.change.path ∧ m.fileTo ≠ some r.change.path := by
    intro m hm
    rw [Symbol.moves_eq] at hm
    obtain ⟨p, hp, rfl⟩ := List.mem_map.1 hm
    have hold := (Symbol.movedPairs_fst_subperm _ _).subset (List.mem_map_of_mem hp)
    have hnew := (Symbol.movedPairs_snd_subperm _ _).subset (List.mem_map_of_mem hp)
    exact ⟨fun heq => file_ne_of_mem_locate hmem hremoved hold (Option.some.inj heq),
      fun heq => file_ne_of_mem_locate hmem hadded hnew (Option.some.inj heq)⟩
  obtain ⟨hfiles, hunmoved⟩ := FileChange.applyMoves_of_ne hmoves h
  refine ⟨hfiles k r.change rfl (by rw [List.getElem?_map, hr, Option.map_some]), hunmoved ?_⟩
  intro file hfile c hc hkind
  obtain ⟨x, hx, rfl⟩ := List.mem_map.1 hfile
  exact absurd hkind (hmoved x hx c hc)

/-! ## The analysis of a patch -/

variable {diff range : Text} {options : Options} {inspections : List Inspection}

theorem exists_judge_of_mem (h : judgeAll diff options inspections = .ok results) (hr : r ∈ results) :
    ∃ f i, judge f i = .ok r := by
  have hmap := Except.mapM_eq_ok_iff.1 h
  rw [List.map_id] at hmap
  obtain ⟨k, hk⟩ := List.mem_iff_getElem?.1 (hmap ▸ List.mem_map_of_mem hr)
  obtain ⟨f, i, -, -, hjudge⟩ := List.getElem?_zipWith_eq_some.1 hk
  exact ⟨f, i, hjudge⟩

theorem exists_result (h : judgeAll diff options inspections = .ok results)
    (hf : (records diff options)[k]? = some f) (hi : inspections[k]? = some i) :
    ∃ r, judge f i = .ok r ∧ results[k]? = some r := by
  have hmap := congrArg (·[k]?) (Except.mapM_eq_ok_iff.1 h)
  simp only [List.map_id, List.getElem?_zipWith, List.getElem?_map, hf, hi] at hmap
  obtain ⟨r, hr, hjudge⟩ := Option.map_eq_some_iff.1 hmap.symm
  exact ⟨r, hjudge.symm, hr⟩

/-- In the analysis a file with a gap keeps its result, and no move names it. -/
theorem file_of_gap (h : judgeAll diff options inspections = .ok results)
    (hfiles : withMoves results = .ok files) (hf : (records diff options)[k]? = some f)
    (hi : inspections[k]? = some i) (hgap : Gap f i) :
    results[k]? = some (gapResult f i) ∧ files[k]? = some (gapResult f i).change ∧
      FileChange.Unmoved f.path files := by
  obtain ⟨r, hjudge, hr⟩ := exists_result h hf hi
  have hcases := (judge_cases hjudge).2.2
  rw [if_pos hgap] at hcases
  subst hcases
  have hmoved : ∀ r ∈ results, ∀ c ∈ r.change.changes, c.kind ≠ .moved := by
    intro r hr
    obtain ⟨f, i, hjudge⟩ := exists_judge_of_mem h hr
    exact (judge_cases hjudge).2.1
  exact ⟨hr, file_of_withMoves hfiles hmoved hr rfl rfl⟩

theorem report_eq {a : Analysis} (h : report diff range options results = .ok a) :
    withMoves results = .ok a.files ∧ a.warnings =
      (if Patch.hasUnread diff then [incompleteWarning] else []) ++ results.flatMap FileResult.warnings := by
  obtain ⟨files, hfiles, h⟩ := Except.eq_ok_of_bind h
  cases h
  exact ⟨hfiles, rfl⟩

/-- Two inspections of a file are the same, or both have a parse gap. -/
def SameOrGaps (f : Patch.FileRecord) (i j : Inspection) : Prop :=
  i = j ∨ (ParseGap f i ∧ i.Spans) ∧ ParseGap f j ∧ j.Spans

theorem SameOrGaps.judge_eq {j : Inspection} (h : SameOrGaps f i j) : judge f i = judge f j := by
  rcases h with rfl | ⟨⟨hi, hispans⟩, hj, hjspans⟩
  · rfl
  · rw [judge_of_gap hi.gap hispans, judge_of_gap hj.gap hjspans]
    unfold gapResult
    rw [hi.2.1, hj.2.1]

/-- Inspections that are the same but for parse gaps have the same conclusions. -/
theorem judgeAll_congr {others : List Inspection} (hlength : inspections.length = others.length)
    (h : ∀ (k : Nat) f i j, (records diff options)[k]? = some f → inspections[k]? = some i →
      others[k]? = some j → SameOrGaps f i j) :
    judgeAll diff options inspections = judgeAll diff options others := by
  unfold judgeAll
  congr 1
  apply List.ext_getElem
  · rw [List.length_zipWith, List.length_zipWith, hlength]
  · intro k hk hk'
    rw [List.length_zipWith] at hk hk'
    rw [List.getElem_zipWith, List.getElem_zipWith]
    exact (h k _ _ _ (List.getElem?_eq_getElem (by omega)) (List.getElem?_eq_getElem (by omega))
      (List.getElem?_eq_getElem (by omega))).judge_eq

/-- A file with a gap cannot influence an analysis. Its own analysis gives a result as long as the trees are
trees of the texts. In the analysis of a patch the file has no changes and one warning, no other file has its
warning, and no move names the file. And if the texts and trees of files with parse gaps are replaced by
others with parse gaps, the outcome is the same. -/
theorem gaps_have_no_influence (diff range : Text) (contents : Contents) (options : Options) (s : Session) :
    (∀ f i s t, (inspect range contents f).on s = (.ok i, t) → Gap f i → i.Spans →
      (ofRecord range (some contents) f).on s = (.ok (gapResult f i), t)) ∧
    (∀ a t, (ofPatch diff range (some contents) options).on s = (.ok a, t) →
      ∃ (inspections : List Inspection) (shares : List (List Text)),
        (inspectAll diff range contents options).on s = (.ok inspections, t) ∧
        a.warnings = (if Patch.hasUnread diff then [incompleteWarning] else []) ++ shares.flatten ∧
        ∀ (k : Nat) f, (records diff options)[k]? = some f → ∃ i, inspections[k]? = some i ∧
          (Gap f i →
            (∃ file : FileChange, a.files[k]? = some file ∧ file.path = f.path ∧ file.changes = []) ∧
            (∃ w, shares[k]? = some [w] ∧ f.path <+: w) ∧ FileChange.Unmoved f.path a.files) ∧
          (¬ Gap f i → shares[k]? = some [])) ∧
    ∀ inspections t (contents' : Contents) s' inspections' t',
      (inspectAll diff range contents options).on s = (.ok inspections, t) →
      (inspectAll diff range contents' options).on s' = (.ok inspections', t') →
      (∀ (k : Nat) f i j, (records diff options)[k]? = some f → inspections[k]? = some i →
        inspections'[k]? = some j → SameOrGaps f i j) →
      ((ofPatch diff range (some contents') options).on s').1
        = ((ofPatch diff range (some contents) options).on s).1 := by
  refine ⟨fun f i s t hi hgap hspans => ?_, fun a t h => ?_, ?_⟩
  · exact (concludes_ofRecord range contents f).on_eq hi (judge_of_gap hgap hspans)
  · obtain ⟨hconclude, hinspect⟩ := concludes_ofPatch diff range contents options s
    obtain ⟨inspections, hinspections⟩ := hinspect a t h
    have ha := hconclude inspections t hinspections
    rw [h] at ha
    obtain ⟨results, hresults, hreport⟩ := Except.eq_ok_of_bind ha.symm
    obtain ⟨hfiles, hwarnings⟩ := report_eq hreport
    refine ⟨inspections, results.map FileResult.warnings, hinspections, ?_, fun k f hf => ?_⟩
    · rw [hwarnings, List.flatMap_def]
    · have hk : k < inspections.length :=
        (Action.length_of_mapM hinspections).symm ▸ (List.getElem?_eq_some_iff.1 hf).1
      have hi : inspections[k]? = some inspections[k] := List.getElem?_eq_getElem hk
      refine ⟨inspections[k], hi, fun hgap => ?_, fun hno => ?_⟩
      · obtain ⟨hr, hfile, hunmoved⟩ := file_of_gap hresults hfiles hf hi hgap
        obtain ⟨w, hw, hstart⟩ := exists_warning f inspections[k]
        refine ⟨⟨_, hfile, rfl, rfl⟩, ⟨w, ?_, hstart⟩, hunmoved⟩
        rw [List.getElem?_map, hr, Option.map_some, hw]
      · obtain ⟨r, hjudge, hr⟩ := exists_result hresults hf hi
        have hsilent := (judge_cases hjudge).2.2
        rw [if_neg hno] at hsilent
        rw [List.getElem?_map, hr, Option.map_some, hsilent]
  · intro inspections t contents' s' inspections' t' h h' hsame
    rw [(concludes_ofPatch diff range contents options s).1 inspections t h,
      (concludes_ofPatch diff range contents' options s').1 inspections' t' h']
    dsimp only
    rw [judgeAll_congr ((Action.length_of_mapM h).trans (Action.length_of_mapM h').symm) hsame]

/-! A function is deleted in a file that does not parse, and added in another. -/

def brokenContents (text : Text) : Contents := fun _ path =>
  return some (if path == "a.go" then text else "func F()")

def brokenTree : SyntaxNode :=
  { kind := "source_file", start := 0, stop := 10, hasError := true, children := [Symbol.Go.functionAt 0] }

def wholeTree : SyntaxNode :=
  { kind := "source_file", start := 0, stop := 8, children := [Symbol.Go.functionAt 0] }

def brokenTrees : Session :=
  { trees := .ofList [("func F()\n(", brokenTree), ("func G()\n)", brokenTree), ("func F()", wholeTree)] }

def brokenInspections (text : Text) : List Inspection :=
  [{ old := ⟨some text, some brokenTree⟩ }, { new := ⟨some "func F()", some wholeTree⟩ }]

/-- The function is not reported as moved, and it makes no difference which function was deleted. -/
theorem gaps_have_no_influence_broken :
    ∃ (a : Analysis) (t : Session),
      (ofPatch relocation "x..y" (some (brokenContents "func F()\n("))).on brokenTrees = (.ok a, t) ∧
      a.warnings = [gapWarning "a.go"] ∧ FileChange.Unmoved "a.go" a.files ∧
      ((ofPatch relocation "x..y" (some (brokenContents "func G()\n)"))).on brokenTrees).1 = .ok a := by
  have hrun : (((ofPatch relocation "x..y" (some (brokenContents "func F()\n("))).on brokenTrees).1.map
      Analysis.warnings).toOption = some [gapWarning "a.go"] := by decide +kernel
  have hrecords : records relocation {} =
      [⟨some "a.go", none, .removed, false, false, []⟩, ⟨none, some "b.go", .added, false, false, []⟩] := by
    decide +kernel
  have hinspect : ∀ text ∈ [("func F()\n(" : Text), "func G()\n)"],
      (inspectAll relocation "x..y" (brokenContents text) {}).on brokenTrees
        = (.ok (brokenInspections text), { brokenTrees with dialects := [.go, .go] }) := by
    unfold inspectAll
    rw [hrecords]
    simp only [List.forall_mem_cons]
    exact ⟨rfl, rfl, by simp⟩
  rcases h : (ofPatch relocation "x..y" (some (brokenContents "func F()\n("))).on brokenTrees with ⟨_ | a, t⟩
  · rw [h] at hrun
    cases hrun
  · rw [h] at hrun
    obtain ⟨-, hgaps, hsame⟩ :=
      gaps_have_no_influence relocation "x..y" (brokenContents "func F()\n(") {} brokenTrees
    refine ⟨a, t, rfl, Option.some.inj hrun, ?_, ?_⟩
    · obtain ⟨inspections, shares, hinspections, -, hfiles⟩ := hgaps a t h
      cases (hinspect _ (by simp)).symm.trans hinspections
      rw [hrecords] at hfiles
      obtain ⟨i, hi, hgap, -⟩ := hfiles 0 _ rfl
      cases hi
      exact (hgap (by decide)).2.2
    · rw [hsame _ _ _ brokenTrees _ _ (hinspect _ (by simp)) (hinspect "func G()\n)" (by simp)), h]
      rw [hrecords]
      rintro (_ | _ | k) f i j hf hi hj
      · cases hf
        cases hi
        cases hj
        exact Or.inr (by decide +kernel)
      · cases hi
        cases hj
        exact Or.inl rfl
      · cases hf

end Analysis

end ChangeReview
