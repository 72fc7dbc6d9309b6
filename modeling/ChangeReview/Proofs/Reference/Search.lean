import ChangeReview.Proofs.Reference.Scan
import ChangeReview.Proofs.Repository.Reading
import ChangeReview.Proofs.Sorting
import ChangeReview.Reference.Search

/-!
# Searching some files for all

A search by text names files in which one of the names occurs; where it gives no answer, all files are
searched. A file that was passed over holds none of the names and has no hits. The references are sorted
by file and line, and the sort keeps those of one line in the order of the file's tree. So both ways
to search give the same list, in whatever order the files are listed.
-/

namespace ChangeReview

/-! ## The files of a snapshot -/

/-- A state of the files as a search sees it: the listed paths, the text of each that can be read, and the
trees of the texts under the grammars. Files with one text may be parsed by different grammars. -/
structure Catalogue where
  listing : List Text
  nodup : listing.Nodup
  text? : Text → Option Text
  trees : Forest

/-- Whether a path is that of a source file. -/
def isSource (path : Text) : Bool := (Path.language? path).isSome

/-- The language of a source file, and the grammar by which the file is parsed. -/
def grammar? (path : Text) : Option (Language × Dialect) := do
  let language ← Path.language? path
  let dialect ← (Dialect.select language (some path)).toOption
  return (language, dialect)

theorem grammar?_of_language {path : Text} {language : Language} (h : Path.language? path = some language) :
    ∃ dialect, Dialect.select language (some path) = .ok dialect ∧ grammar? path = some (language, dialect) := by
  obtain ⟨dialect, hdialect⟩ := Dialect.exists_select (Path.language?_ne_other h) (some path)
  refine ⟨dialect, hdialect, ?_⟩
  rw [grammar?, h, Option.bind_eq_bind, Option.bind_some, hdialect]
  rfl

theorem isSource_of_grammar {path : Text} {grammar : Language × Dialect} (h : grammar? path = some grammar) :
    isSource path = true := by
  obtain ⟨language, hlanguage, -⟩ := Option.bind_eq_some_iff.1 h
  rw [isSource, hlanguage]
  rfl

namespace Catalogue

open ReferenceSearch (unreadableWarning gapWarning ofFile)

/-- The session answers from the catalogue when the source files among the paths are read one after
another. -/
structure Serves (c : Catalogue) (repository ref : Text) (paths : List Text) (s : Session) : Prop where
  trees_eq : s.trees = c.trees
  reads : (((paths.filter isSource).mapM ((Snapshot.ofText ref).content repository)).on s).1
    = .ok ((paths.filter isSource).map c.text?)

/-- The reference that a hit in a file is reported as. -/
def ofHit (path : Text) (h : Hit) : Reference :=
  { file := path, line := h.line, symbolName := h.name, context := h.context, sourceLine := h.sourceLine }

/-- What the search finds in a file. -/
def search (c : Catalogue) (ref : Text) (names : List Text) (path : Text) : Except Failure ReferenceSearch :=
  match grammar? path, c.text? path with
  | none, _ => .ok {}
  | some _, none => .ok { warnings := [unreadableWarning path ref] }
  | some (language, dialect), some text =>
    if text.any CodePoint.isSurrogate then .ok { warnings := [unreadableWarning path ref] }
    else
      let bytes := text.flatMap CodePoint.utf8
      let tree := c.trees.tree dialect text bytes
      (Hit.scan language names text bytes tree).map fun hits =>
        if tree.hasError then { warnings := [gapWarning path] }
        else { references := hits.map (ofHit path) }

variable {c : Catalogue} {repository ref path : Text} {names paths : List Text} {s r : Session}

theorem on_scanSource {language : Language} {path : Option Text} {text : Text} {bytes : Bytes}
    {dialect : Dialect} (hdialect : Dialect.select language path = .ok dialect)
    (hencode : text.encode = .ok bytes) (names : List Text) (s : Session) :
    (ReferenceSearch.scanSource language names path text).on s
      = ((Hit.scan language names text bytes (s.trees.tree dialect text bytes)).map
          (·, (s.trees.tree dialect text bytes).hasError),
        { s with dialects := s.dialects ++ [dialect] }) := by
  rw [ReferenceSearch.scanSource, Action.on_bind (Action.on_lift_of_eq hdialect s),
    Action.on_bind (Action.on_parse hencode dialect s)]
  dsimp only
  cases hscan : Hit.scan language names text bytes (s.trees.tree dialect text bytes) with
  | error e =>
    rw [Action.on_bind_error (Action.on_lift _ _)]
    rfl
  | ok hits =>
    rw [Action.on_bind (Action.on_lift _ _)]
    rfl

/-- Once a file is read, it is searched without regard to what was read before. -/
theorem on_ofFile {language : Language} (hlanguage : Path.language? path = some language)
    (hread : ((Snapshot.ofText ref).content repository path).on s = (.ok (c.text? path), r))
    (htrees : r.trees = c.trees) :
    ∃ dialects, (ofFile repository ref names path).on s = (c.search ref names path, { r with dialects }) := by
  obtain ⟨dialect, hdialect, hgrammar⟩ := grammar?_of_language hlanguage
  unfold ofFile search
  rw [hlanguage, hgrammar, ← htrees]
  dsimp only
  rw [Action.on_bind hread]
  cases c.text? path with
  | none => exact ⟨r.dialects, rfl⟩
  | some text =>
    dsimp only
    split
    · exact ⟨r.dialects, rfl⟩
    · rename_i hsurrogate
      have hscanned := on_scanSource hdialect (Text.encode_of_not_any hsurrogate) names r
      refine ⟨r.dialects ++ [dialect], ?_⟩
      cases hscan : Hit.scan language names text (text.flatMap CodePoint.utf8)
          (r.trees.tree dialect text (text.flatMap CodePoint.utf8)) with
      | error e =>
        rw [hscan] at hscanned
        rw [Action.on_bind_error hscanned]
        rfl
      | ok hits =>
        rw [hscan] at hscanned
        rw [Action.on_bind hscanned]
        dsimp only [Except.map]
        split <;> rfl

theorem reads_cons {f : Text → Action (Option Text)} {x : Option Text} {xs : List (Option Text)}
    (h : (((path :: paths).mapM f).on s).1 = .ok (x :: xs)) :
    ∃ r, (f path).on s = (.ok x, r) ∧ ((paths.mapM f).on r).1 = .ok xs := by
  rw [List.mapM_cons] at h
  rcases hfirst : (f path).on s with ⟨e | a, r⟩
  · rw [Action.on_bind_error hfirst] at h
    cases h
  · rw [Action.on_bind hfirst, Action.on_bind_pure] at h
    rcases hrest : (paths.mapM f).on r with ⟨e | as, q⟩
    · rw [hrest] at h
      cases h
    · rw [hrest] at h
      cases h
      exact ⟨r, rfl, by rw [hrest]⟩

/-- The first file is searched as the catalogue has it, and the session serves the others after that. -/
theorem Serves.on_ofFile (h : c.Serves repository ref (path :: paths) s) :
    ∃ rest, (ofFile repository ref names path).on s = (c.search ref names path, rest) ∧
      c.Serves repository ref paths rest := by
  obtain ⟨htrees, hreads⟩ := h
  cases hlanguage : Path.language? path with
  | none =>
    refine ⟨s, ?_, htrees, ?_⟩
    · unfold ofFile search grammar?
      rw [hlanguage]
      rfl
    · rwa [List.filter_cons_of_neg (by simp [isSource, hlanguage])] at hreads
  | some language =>
    rw [List.filter_cons_of_pos (by simp [isSource, hlanguage]), List.map_cons] at hreads
    obtain ⟨r, hread, hrest⟩ := reads_cons hreads
    have hsteady := Snapshot.steady_content repository (Snapshot.ofText ref)
    have hkept : r.trees = c.trees := by
      rw [← htrees, ← (hsteady path).trees_eq s, hread]
    obtain ⟨dialects, hfile⟩ := Catalogue.on_ofFile hlanguage hread hkept
    refine ⟨_, hfile, hkept, ?_⟩
    rw [(Action.Steady.mapM hsteady _).on_dialects, hrest]

/-- The files are searched one by one as the catalogue has them. -/
theorem Serves.on_mapM_ofFile (h : c.Serves repository ref paths s) :
    ((paths.mapM (ofFile repository ref names)).on s).1 = paths.mapM (c.search ref names) := by
  induction paths generalizing s with
  | nil => rfl
  | cons path paths ih =>
    obtain ⟨rest, hfile, hrest⟩ := h.on_ofFile
    rw [List.mapM_cons, List.mapM_cons]
    cases hsearch : c.search ref names path with
    | error e =>
      rw [hsearch] at hfile
      rw [Action.on_bind_error hfile]
      rfl
    | ok a =>
      rw [hsearch] at hfile
      rw [Action.on_bind hfile, Action.on_bind_pure, ih hrest]
      rfl

/-! ## What the searches find -/

/-- The references that the search finds in a file. -/
def found (c : Catalogue) (ref : Text) (names : List Text) (path : Text) : List Reference :=
  match c.search ref names path with
  | .ok result => result.references
  | .error _ => []

/-- A file without a language or without a proper text gives no references. Any other file is scanned. -/
theorem search_cases (c : Catalogue) (ref : Text) (names : List Text) (path : Text) :
    (∃ result, c.search ref names path = .ok result ∧ result.references = []) ∨
    ∃ language dialect text, grammar? path = some (language, dialect) ∧ c.text? path = some text ∧
      text.encode = .ok (text.flatMap CodePoint.utf8) ∧
      c.search ref names path = (Hit.scan language names text (text.flatMap CodePoint.utf8)
        (c.trees.tree dialect text (text.flatMap CodePoint.utf8))).map fun hits =>
          if (c.trees.tree dialect text (text.flatMap CodePoint.utf8)).hasError then
            { warnings := [gapWarning path] }
          else { references := hits.map (ofHit path) } := by
  unfold search
  rcases grammar? path with _ | ⟨language, dialect⟩
  · exact Or.inl ⟨_, rfl, rfl⟩
  · cases c.text? path with
    | none => exact Or.inl ⟨_, rfl, rfl⟩
    | some text =>
      dsimp only
      split
      · exact Or.inl ⟨_, rfl, rfl⟩
      · rename_i hsurrogate
        exact Or.inr ⟨language, dialect, text, rfl, rfl, Text.encode_of_not_any hsurrogate, rfl⟩

/-- What is found in a file comes from a hit in its text. -/
theorem exists_hit_of_mem_found {x : Reference} (h : x ∈ c.found ref names path) :
    ∃ language dialect text hits, grammar? path = some (language, dialect) ∧ c.text? path = some text ∧
      text.encode = .ok (text.flatMap CodePoint.utf8) ∧
      Hit.scan language names text (text.flatMap CodePoint.utf8)
        (c.trees.tree dialect text (text.flatMap CodePoint.utf8)) = .ok hits ∧ x ∈ hits.map (ofHit path) := by
  unfold found at h
  rcases c.search_cases ref names path with
    ⟨result, hsearch, hnone⟩ | ⟨language, dialect, text, hgrammar, htext, hencode, hsearch⟩
  · rw [hsearch] at h
    dsimp only at h
    rw [hnone] at h
    cases h
  · rw [hsearch] at h
    cases hscan : Hit.scan language names text (text.flatMap CodePoint.utf8)
        (c.trees.tree dialect text (text.flatMap CodePoint.utf8)) with
    | error e =>
      rw [hscan] at h
      cases h
    | ok hits =>
      rw [hscan] at h
      dsimp only [Except.map] at h
      split at h
      · cases h
      · exact ⟨language, dialect, text, hits, hgrammar, htext, hencode, hscan, h⟩

theorem file_of_mem_found {x : Reference} (h : x ∈ c.found ref names path) : x.file = path := by
  obtain ⟨-, -, -, hits, -, -, -, -, h⟩ := exists_hit_of_mem_found h
  obtain ⟨hit, -, rfl⟩ := List.mem_map.1 h
  rfl

/-- Where something is found, one of the names occurs. -/
theorem includes_of_mem_found {x : Reference} (h : x ∈ c.found ref names path) :
    isSource path = true ∧
      ∃ text, c.text? path = some text ∧ ∃ name ∈ names, Text.includes text name = true := by
  obtain ⟨language, dialect, text, hits, hgrammar, htext, hencode, hscan, h⟩ := exists_hit_of_mem_found h
  obtain ⟨hit, hmem, -⟩ := List.mem_map.1 h
  obtain ⟨hname, hincludes⟩ := Hit.includes_of_mem_scan hencode hscan hmem
  exact ⟨isSource_of_grammar hgrammar, text, htext, hit.name, hname, hincludes⟩

theorem flatMap_references {parts : List ReferenceSearch} (h : paths.mapM (c.search ref names) = .ok parts) :
    parts.flatMap ReferenceSearch.references = paths.flatMap (c.found ref names) := by
  rw [Except.mapM_eq_ok_iff] at h
  induction paths generalizing parts with
  | nil =>
    obtain rfl : parts = [] := by simpa using h.symm
    rfl
  | cons path paths ih =>
    cases parts with
    | nil => cases h
    | cons part parts =>
      rw [List.map_cons, List.map_cons, List.cons.injEq] at h
      have hpart : c.found ref names path = part.references := by
        unfold found
        rw [h.1]
      rw [List.flatMap_cons, List.flatMap_cons, hpart, ih h.2]

/-- The paths are listed, and each source file whose text holds one of the names is among them. -/
structure Covers (c : Catalogue) (names paths : List Text) : Prop where
  listed : paths ⊆ c.listing
  complete : ∀ path ∈ c.listing, isSource path = true → ∀ text, c.text? path = some text →
    (∃ name ∈ names, Text.includes text name = true) → path ∈ paths

/-- The trees of the listed files, each under the grammar of its file, are trees of their texts. -/
def Spans (c : Catalogue) : Prop :=
  ∀ path ∈ c.listing, ∀ grammar ∈ grammar? path, ∀ text ∈ c.text? path, ∀ bytes ∈ text.encode.toOption,
    (c.trees.tree grammar.2 text bytes).Spans bytes

instance (c : Catalogue) : Decidable c.Spans :=
  inferInstanceAs (Decidable (∀ path ∈ _, ∀ grammar ∈ grammar? path, ∀ text ∈ c.text? path,
    ∀ bytes ∈ text.encode.toOption, _))

theorem Spans.isOk_search (h : c.Spans) (hpath : path ∈ c.listing) :
    (c.search ref names path).isOk = true := by
  rcases c.search_cases ref names path with
    ⟨result, hsearch, -⟩ | ⟨language, dialect, text, hgrammar, htext, hencode, hsearch⟩
  · rw [hsearch]
    rfl
  · have hspans := h path hpath _ hgrammar text htext _ (by rw [hencode]; rfl)
    obtain ⟨hits, hhits⟩ := Except.isOk_iff.1 (Hit.isOk_scan hspans)
    rw [hsearch, hhits]
    rfl

end Catalogue

namespace ReferenceSearch

/-! ## The order of references -/

theorem le_iff {x y : Reference} :
    le x y = true ↔ Text.lt x.file y.file = true ∨ x.file = y.file ∧ x.line ≤ y.line := by
  unfold le
  by_cases h : x.file = y.file
  · rw [h, bne_self_eq_false, if_neg Bool.false_ne_true, Text.lt_irrefl, decide_eq_true_eq]
    simp
  · rw [if_pos (bne_iff_ne.2 h)]
    simp [h]

theorem le_trans (x y z : Reference) (hxy : le x y = true) (hyz : le y z = true) : le x z = true := by
  rw [le_iff] at hxy hyz ⊢
  rcases hxy with hxy | ⟨hxy, hline⟩
  · rcases hyz with hyz | ⟨hyz, -⟩
    · exact Or.inl (Text.lt_trans hxy hyz)
    · exact Or.inl (hyz ▸ hxy)
  · rcases hyz with hyz | ⟨hyz, hline'⟩
    · exact Or.inl (hxy ▸ hyz)
    · exact Or.inr ⟨hxy.trans hyz, Int.le_trans hline hline'⟩

theorem le_total (x y : Reference) : (le x y || le y x) = true := by
  rw [Bool.or_eq_true, le_iff, le_iff]
  by_cases h : x.file = y.file
  · rcases Int.le_total x.line y.line with hline | hline
    · exact Or.inl (Or.inr ⟨h, hline⟩)
    · exact Or.inr (Or.inr ⟨h.symm, hline⟩)
  · rcases Text.lt_or_lt_of_ne h with hlt | hlt
    · exact Or.inl (Or.inl hlt)
    · exact Or.inr (Or.inl hlt)

/-- References on one level are in one file. -/
theorem file_eq_of_le {x y : Reference} (hxy : le x y = true) (hyx : le y x = true) : x.file = y.file := by
  by_contra h
  rw [le_iff] at hxy hyx
  have hxy := hxy.resolve_right fun hsame => h hsame.1
  have hyx := hyx.resolve_right fun hsame => h hsame.1.symm
  exact Bool.false_ne_true ((Text.lt_irrefl _).symm.trans (Text.lt_trans hxy hyx))

/-- A level of the references of several files lies in one file. -/
theorem level_flatMap {refs : Text → List Reference} (hrefs : ∀ path, ∀ x ∈ refs path, x.file = path)
    {paths : List Text} (hpaths : paths.Nodup) (x : Reference) :
    level le x (paths.flatMap refs) = if x.file ∈ paths then level le x (refs x.file) else [] := by
  have hother : ∀ path, path ≠ x.file → level le x (refs path) = [] := by
    intro path hne
    rw [List.eq_nil_iff_forall_not_mem]
    intro y hy
    obtain ⟨hmem, hxy, hyx⟩ := mem_level.1 hy
    exact hne ((hrefs path y hmem).symm.trans (file_eq_of_le hyx hxy))
  induction paths with
  | nil => rfl
  | cons path paths ih =>
    obtain ⟨hnot, hpaths⟩ := List.nodup_cons.1 hpaths
    have happ : level le x ((path :: paths).flatMap refs)
        = level le x (refs path) ++ level le x (paths.flatMap refs) := by
      rw [List.flatMap_cons, level, List.filter_append]
      rfl
    rw [happ, ih hpaths]
    by_cases hpath : path = x.file
    · subst hpath
      rw [if_neg hnot, if_pos List.mem_cons_self, List.append_nil]
    · rw [hother path hpath, List.nil_append]
      have hmem : x.file ∈ path :: paths ↔ x.file ∈ paths := by
        rw [List.mem_cons, or_iff_right (Ne.symm hpath)]
      simp only [hmem]

/-! ## Both ways to search -/

variable {c : Catalogue} {repository ref : Text} {names : List Text} {s r t u v : Session}

/-- The references of a run over given paths, which are those of the catalogue's files in order. -/
theorem references_of_paths {paths : List Text} (h : c.Serves repository ref paths s)
    (finish : List ReferenceSearch → ReferenceSearch)
    (hfinish : ∀ parts, (finish parts).references = (parts.flatMap references).mergeSort le) :
    (((paths.mapM (ofFile repository ref names)) >>= fun parts => pure (finish parts)).on s).1.map references
      = (paths.mapM (c.search ref names)).map fun _ => (paths.flatMap (c.found ref names)).mergeSort le := by
  rw [Action.on_bind_pure, h.on_mapM_ofFile]
  cases hparts : paths.mapM (c.search ref names) with
  | error e => rfl
  | ok parts =>
    show Except.ok _ = Except.ok _
    rw [hfinish, Catalogue.flatMap_references hparts]

theorem references_run_of_found {found : List Text} (hnames : names ≠ [])
    (hfound : (candidates? (Snapshot.ofText ref) (Text.distinct names)).on s = (.ok (some found), r))
    (h : c.Serves repository ref (Text.sort (Text.distinct found)) r) :
    ((run repository names ref).on s).1.map references
      = ((Text.sort (Text.distinct found)).mapM (c.search ref (Text.distinct names))).map fun _ =>
        ((Text.sort (Text.distinct found)).flatMap (c.found ref (Text.distinct names))).mergeSort le := by
  unfold run
  rw [if_neg (by simpa using hnames)]
  dsimp only
  rw [Action.on_bind hfound]
  exact references_of_paths h _ fun _ => rfl

theorem references_run_of_listing (hnames : names ≠ [])
    (hnone : (candidates? (Snapshot.ofText ref) (Text.distinct names)).on t = (.ok none, u))
    (hfiles : ((Snapshot.ofText ref).files? repository).on u = (.ok (some c.listing), v))
    (h : c.Serves repository ref c.listing v) :
    ((run repository names ref).on t).1.map references
      = (c.listing.mapM (c.search ref (Text.distinct names))).map fun _ =>
        (c.listing.flatMap (c.found ref (Text.distinct names))).mergeSort le := by
  unfold run
  rw [if_neg (by simpa using hnames)]
  dsimp only
  rw [Action.on_bind hnone]
  dsimp only
  rw [Action.on_bind hfiles]
  exact references_of_paths h _ fun _ => rfl

theorem names_ne_nil
    (hnone : (candidates? (Snapshot.ofText ref) (Text.distinct names)).on t = (.ok none, u)) :
    names ≠ [] := by
  rintro rfl
  cases hnone

/-- The files that hold a name give the same references as all files. -/
theorem mergeSort_found_eq {found : List Text} (h : c.Covers names found) :
    ((Text.sort (Text.distinct found)).flatMap (c.found ref (Text.distinct names))).mergeSort le
      = (c.listing.flatMap (c.found ref (Text.distinct names))).mergeSort le := by
  have hfile : ∀ path, ∀ x ∈ c.found ref (Text.distinct names) path, x.file = path :=
    fun _ _ => Catalogue.file_of_mem_found
  apply mergeSort_eq_of_level_eq le_trans le_total
  intro x
  rw [level_flatMap hfile (Text.nodup_sort.2 (Text.nodup_distinct found)), level_flatMap hfile c.nodup]
  have hiff : x.file ∈ Text.sort (Text.distinct found) ↔ x.file ∈ found :=
    Text.mem_sort.trans Text.mem_distinct
  by_cases hmem : x.file ∈ found
  · rw [if_pos (hiff.2 hmem), if_pos (h.listed hmem)]
  · rw [if_neg fun hin => hmem (hiff.1 hin)]
    split
    · rename_i hlisted
      -- A file that was passed over holds none of the names.
      have hnone : c.found ref (Text.distinct names) x.file = [] := by
        rw [List.eq_nil_iff_forall_not_mem]
        intro y hy
        obtain ⟨hsource, text, htext, name, hname, hincludes⟩ := Catalogue.includes_of_mem_found hy
        exact hmem (h.complete x.file hlisted hsource text htext
          ⟨name, Text.mem_distinct.1 hname, hincludes⟩)
      rw [hnone]
      rfl
    · rfl

/-- **Searching some files for all.** A search of the files in which a search by text finds one of the names
gives the references, and their order, that a search of all files gives. The latter gives a result for each
catalogue of trees that are trees of their texts. -/
theorem candidates_give_all_references {found : List Text}
    (hfound : (candidates? (Snapshot.ofText ref) (Text.distinct names)).on s = (.ok (some found), r))
    (hcovers : c.Covers names found)
    (hserves : c.Serves repository ref (Text.sort (Text.distinct found)) r)
    (hnone : (candidates? (Snapshot.ofText ref) (Text.distinct names)).on t = (.ok none, u))
    (hfiles : ((Snapshot.ofText ref).files? repository).on u = (.ok (some c.listing), v))
    (hserves' : c.Serves repository ref c.listing v) :
    (∀ full, ((run repository names ref).on t).1 = .ok full →
      ∃ filtered, ((run repository names ref).on s).1 = .ok filtered ∧
        filtered.references = full.references) ∧
    (c.Spans → ∃ full, ((run repository names ref).on t).1 = .ok full) := by
  have hnames := names_ne_nil hnone
  have hfast := references_run_of_found hnames hfound hserves
  have hslow := references_run_of_listing hnames hnone hfiles hserves'
  constructor
  · intro full hfull
    rw [hfull] at hslow
    have hall : (c.listing.mapM (c.search ref (Text.distinct names))).isOk = true := by
      rw [← Except.isOk_map, ← hslow]
      rfl
    have hsome :
        ((Text.sort (Text.distinct found)).mapM (c.search ref (Text.distinct names))).isOk = true := by
      rw [Except.isOk_mapM_iff] at hall ⊢
      intro path hpath
      exact hall path (hcovers.listed (Text.mem_distinct.1 (Text.mem_sort.1 hpath)))
    obtain ⟨parts, hparts⟩ := Except.isOk_iff.1 hall
    obtain ⟨parts', hparts'⟩ := Except.isOk_iff.1 hsome
    rw [hparts] at hslow
    rw [hparts', mergeSort_found_eq hcovers] at hfast
    cases hrun : ((run repository names ref).on s).1 with
    | error e =>
      rw [hrun] at hfast
      cases hfast
    | ok filtered =>
      rw [hrun] at hfast
      exact ⟨filtered, rfl, (Except.ok.inj hfast).trans (Except.ok.inj hslow).symm⟩
  · intro hspans
    have hall : (c.listing.mapM (c.search ref (Text.distinct names))).isOk = true :=
      Except.isOk_mapM_iff.2 fun path hpath => hspans.isOk_search hpath
    rw [← Except.isOk_iff, ← Except.isOk_map references, hslow, Except.isOk_map]
    exact hall

/-- A reply to whatever command comes next. -/
def answer (status : Int) (output : String) : Prepared :=
  { line := none, reply := .finished { status, output := (output : Text).flatMap CodePoint.utf8 } }

/-- Four files, of which three hold the text `f`. Under the grammar for markup the text has a gap. -/
def fourFiles : Catalogue where
  listing := Text.list ["d.tsx", "b.ts", "c.ts", "a.ts"]
  nodup := by decide
  text? path := some (if path == "c.ts" then "x" else "f")
  trees.tree? dialect source :=
    if source == "f" then
      some { kind := "identifier", start := 0, stop := 1, hasError := dialect = .tsx }
    else none

/-- A session in which the search by text answers. -/
def searched : Session where
  prepared := [answer 0 "HEAD:a.ts\x00HEAD:b.ts\x00HEAD:d.tsx\x00", answer 0 "f", answer 0 "f", answer 0 "f"]
  trees := fourFiles.trees

/-- A session in which only the listing answers. -/
def listed : Session where
  prepared := [answer 2 "", answer 0 "d.tsx\x00b.ts\x00c.ts\x00a.ts\x00", answer 0 "f", answer 0 "f",
    answer 0 "x", answer 0 "f"]
  trees := fourFiles.trees

/-- The search by text leaves one file out, and the listing has the others in another order. Of three files
with one text only two have references, since the third is parsed by another grammar. -/
theorem candidates_give_all_references_listed :
    ∃ filtered full, ((run "." ["f"] "HEAD").on searched).1 = .ok filtered ∧
      ((run "." ["f"] "HEAD").on listed).1 = .ok full ∧
      filtered.references = full.references ∧
      filtered.references.map (·.file) = Text.list ["a.ts", "b.ts"] := by
  have hsort : Text.sort (Text.distinct (Text.list ["a.ts", "b.ts", "d.tsx"]))
      = Text.list ["a.ts", "b.ts", "d.tsx"] := List.mergeSort_of_pairwise (by decide)
  have hfound : ((candidates? (Snapshot.ofText "HEAD") (Text.distinct ["f"])).on searched).1
      = .ok (some (Text.list ["a.ts", "b.ts", "d.tsx"])) := by decide +kernel
  have hnone : ((candidates? (Snapshot.ofText "HEAD") (Text.distinct ["f"])).on listed).1 = .ok none := by
    decide +kernel
  have hfiles : (((Snapshot.ofText "HEAD").files? ".").on
      ((candidates? (Snapshot.ofText "HEAD") (Text.distinct ["f"])).on listed).2).1
      = .ok (some fourFiles.listing) := by decide +kernel
  have hserves : fourFiles.Serves "." "HEAD" (Text.sort (Text.distinct (Text.list ["a.ts", "b.ts", "d.tsx"])))
      ((candidates? (Snapshot.ofText "HEAD") (Text.distinct ["f"])).on searched).2 := by
    rw [hsort]
    exact ⟨rfl, by decide +kernel⟩
  have hcovers : fourFiles.Covers ["f"] (Text.list ["a.ts", "b.ts", "d.tsx"]) := by
    refine ⟨by decide, ?_⟩
    intro path hpath _ text htext hname
    simp only [fourFiles, Text.list, List.map_cons, List.map_nil, List.mem_cons, List.not_mem_nil,
      or_false] at hpath
    rcases hpath with rfl | rfl | rfl | rfl
    · decide
    · decide
    · cases htext
      exact absurd hname (by decide)
    · decide
  have hall := candidates_give_all_references (Action.on_eq hfound) hcovers hserves (Action.on_eq hnone)
    (Action.on_eq hfiles) ⟨rfl, by decide +kernel⟩
  obtain ⟨full, hfull⟩ := hall.2 (by decide +kernel)
  obtain ⟨filtered, hfiltered, heq⟩ := hall.1 full hfull
  have hrefs := references_run_of_found (by decide) (Action.on_eq hfound) hserves
  rw [hfiltered, hsort] at hrefs
  refine ⟨filtered, full, hfiltered, hfull, heq, ?_⟩
  cases hparts : (Text.list ["a.ts", "b.ts", "d.tsx"]).mapM
      (fourFiles.search "HEAD" (Text.distinct ["f"])) with
  | error e =>
    rw [hparts] at hrefs
    cases hrefs
  | ok parts =>
    rw [hparts] at hrefs
    dsimp only [Except.map] at hrefs
    rw [Except.ok.inj hrefs, List.mergeSort_of_pairwise (by decide +kernel)]
    decide +kernel

end ReferenceSearch

end ChangeReview
