import Mathlib.Data.List.Nodup
import ChangeReview.Proofs.Json.RoundTrip
import ChangeReview.Report.Envelope

/-!
# Reports read back

A review is written as a document of plain lines. A reader of documents gets every field of the review in
its place. The only strings that it does not get as they were are those with surrogates, which stand as
escapes.
-/

namespace ChangeReview

namespace Json

/-! ## The strings of a value -/

mutual

/-- The value with its strings changed by `f`. Keys stay, and so does the order of items and members. -/
def mapStrings (f : Text → Text) : Json → Json
  | .str t => .str (f t)
  | .arr items => .arr (mapStringItems f items)
  | .obj members => .obj (mapStringMembers f members)
  | other => other

/-- `mapStrings` on the items of an array. -/
def mapStringItems (f : Text → Text) : List Json → List Json
  | [] => []
  | item :: items => mapStrings f item :: mapStringItems f items

/-- `mapStrings` on the members of an object. -/
def mapStringMembers (f : Text → Text) : List (Text × Json) → List (Text × Json)
  | [] => []
  | (key, value) :: members => (key, mapStrings f value) :: mapStringMembers f members

end

variable {p q : Text → Prop} {f : Text → Text} {v : Json}

theorem mapStringItems_eq (f : Text → Text) (items : List Json) :
    mapStringItems f items = items.map (mapStrings f) := by
  induction items with
  | nil => rfl
  | cons v items ih => rw [mapStringItems, ih, List.map_cons]

theorem mapStringMembers_eq (f : Text → Text) (members : List (Text × Json)) :
    mapStringMembers f members = members.map fun m => (m.1, mapStrings f m.2) := by
  induction members with
  | nil => rfl
  | cons m members ih => rw [mapStringMembers, ih, List.map_cons]

theorem mapTextItems_eq (f : Text → Text) (items : List Json) :
    mapTextItems f items = items.map (mapText f) := by
  induction items with
  | nil => rfl
  | cons v items ih => rw [mapTextItems, ih, List.map_cons]

theorem mapTextMembers_eq (f : Text → Text) (members done : List (Text × Json)) :
    mapTextMembers f members done = (members.map fun m => (f m.1, mapText f m.2)).foldl
      (fun m (key, value) => OrderedMap.put m key value) done := by
  induction members generalizing done with
  | nil => rfl
  | cons m members ih => rw [mapTextMembers, ih, List.map_cons, List.foldl_cons]

/-- A change that leaves proper texts as they are changes no key, so that no two members fall together. -/
theorem Tidy.mapText_eq (hf : ∀ t, t.Proper → f t = t) (h : Tidy p v) : mapText f v = mapStrings f v := by
  induction h with
  | null => rfl
  | bool b => rfl
  | int n => rfl
  | str h => rfl
  | arr _ ih => rw [mapText, mapStrings, mapTextItems_eq, mapStringItems_eq, List.map_congr_left ih]
  | @obj members hkeys hproper _ ih =>
    have hsame : (members.map fun m => (f m.1, mapText f m.2))
        = members.map fun m => (m.1, mapStrings f m.2) := by
      apply List.map_congr_left
      intro m hm
      rw [hf m.1 (hproper m hm), ih m hm]
    have hnodup : ((members.map fun m => (m.1, mapStrings f m.2)).map Prod.fst).Nodup := by
      rw [List.map_map]
      exact hkeys
    rw [mapText, mapStrings, mapTextMembers_eq, mapStringMembers_eq, hsame,
      OrderedMap.foldl_put (by simpa using hnodup), List.nil_append]

theorem Tidy.mapStrings (hf : ∀ t, p t → q (f t)) (h : Tidy p v) : Tidy q (v.mapStrings f) := by
  induction h with
  | null => exact .null
  | bool b => exact .bool b
  | int n => exact .int n
  | str h => exact .str (hf _ h)
  | arr _ ih =>
    rw [Json.mapStrings, mapStringItems_eq]
    refine .arr fun w hw => ?_
    obtain ⟨v, hv, rfl⟩ := List.mem_map.1 hw
    exact ih v hv
  | obj hkeys hproper _ ih =>
    rw [Json.mapStrings, mapStringMembers_eq]
    refine .obj ?_ (fun m hm => ?_) fun m hm => ?_
    · rw [List.map_map]
      exact hkeys
    · obtain ⟨n, hn, rfl⟩ := List.mem_map.1 hm
      exact hproper n hn
    · obtain ⟨n, hn, rfl⟩ := List.mem_map.1 hm
      exact ih n hn

/-! ## Values that can be written -/

theorem tidy_object {members : List (String × Json)} (hkeys : (members.map Prod.fst).Nodup)
    (h : ∀ m ∈ members, Tidy p m.2) : Tidy p (.object members) := by
  have hinjective : Function.Injective Text.ofString := by
    intro a b hab
    have hchar : Function.Injective CodePoint.ofChar := by
      intro c d hcd
      exact Char.toNat_inj.1 (congrArg CodePoint.val hcd)
    exact String.toList_inj.1 (List.map_injective_iff.2 hchar hab)
  refine .obj ?_ (fun m hm => ?_) fun m hm => ?_
  · rw [List.map_map]
    have hnodup := hkeys.map hinjective
    rwa [List.map_map] at hnodup
  · obtain ⟨n, -, rfl⟩ := List.mem_map.1 hm
    exact Text.proper_ofString n.1
  · obtain ⟨n, hn, rfl⟩ := List.mem_map.1 hm
    exact h n hn

theorem tidy_ofOption {α : Type} {encode : α → Json} (h : ∀ a, Tidy p (encode a)) (o : Option α) :
    Tidy p (ofOption encode o) := by
  cases o with
  | none => exact .null
  | some a => exact h a

theorem tidy_ofList {α : Type} {encode : α → Json} (h : ∀ a, Tidy p (encode a)) (items : List α) :
    Tidy p (ofList encode items) := by
  refine .arr fun v hv => ?_
  obtain ⟨a, -, rfl⟩ := List.mem_map.1 hv
  exact h a

end Json

namespace Report

open Json (Tidy tidy_object tidy_ofOption tidy_ofList)

/-- Any string may stand in the value. -/
abbrev Writable (v : Json) : Prop := Tidy (fun _ => True) v

theorem writable_str (t : Text) : Writable (.str t) := .str trivial

theorem writable_evidenceJson (kind : String) (message : Text) : Writable (evidenceJson kind message) := by
  refine tidy_object (by simp) ?_
  simp [writable_str]

theorem writable_referenceJson (r : Reference) : Writable (referenceJson r) := by
  refine tidy_object (by simp) ?_
  simp [writable_str, Tidy.int]

theorem writable_findingJson (f : Finding) : Writable (findingJson f) := by
  have hverdict : Writable f.change.verdict.toJson := by
    cases f.change.verdict
    · exact .bool true
    · exact .bool false
    · exact .null
  have hevidence : Writable (.arr (f.change.evidence.map (evidenceJson "syntax")
      ++ f.change.gaps.map (evidenceJson "analysis_gap"))) := by
    refine .arr (List.forall_mem_append.2 ⟨fun v hv => ?_, fun v hv => ?_⟩)
    · obtain ⟨message, -, rfl⟩ := List.mem_map.1 hv
      exact writable_evidenceJson _ message
    · obtain ⟨message, -, rfl⟩ := List.mem_map.1 hv
      exact writable_evidenceJson _ message
  refine tidy_object (by simp) ?_
  simp [writable_str, Json.optional, Json.texts, tidy_ofOption, tidy_ofList, writable_referenceJson, Tidy.int,
    hverdict, hevidence]

theorem writable_warning (w : Warning) : Writable w.toJson := by
  refine tidy_object (by simp) ?_
  simp [writable_str, Json.optional, tidy_ofOption]

theorem writable_envelope (e : Envelope) : Writable e.toJson := by
  have hstats : Writable (.object [("files_analyzed", .int e.stats.filesAnalyzed),
      ("symbols_changed", .int e.stats.symbolsChanged), ("parse_errors", .int e.stats.parseErrors),
      ("reference_count", .int e.stats.referenceCount),
      ("silence_reason", .optional e.stats.silenceReason)]) := by
    refine tidy_object (by simp) ?_
    simp [writable_str, Json.optional, tidy_ofOption, Tidy.int]
  have herror : ∀ message : Text,
      Writable (.object [("code", .str "tool_error"), ("message", .str message)]) := by
    intro message
    refine tidy_object (by simp) ?_
    simp [writable_str]
  refine tidy_object (by simp) ?_
  simp [writable_str, tidy_ofList, writable_findingJson, writable_warning, hstats, tidy_ofOption, herror]

/-! ## Reading a report back -/

theorem mapText_surrogateFree {v : Json} (h : Writable v) :
    v.mapText Text.surrogateFree = v.mapStrings Text.surrogateFree :=
  h.mapText_eq fun _ ht => ht.surrogateFree_eq

theorem plainLines_document {v : Json} (h : Writable v) : (document v).PlainLines := by
  unfold document
  rw [mapText_surrogateFree h]
  exact (h.mapStrings (q := fun _ => True) fun _ _ => trivial).plainLines 0

theorem read?_report {v : Json} (h : Writable v) :
    Json.read? (document v) = some (v.mapStrings Text.surrogateFree) := by
  unfold document
  rw [mapText_surrogateFree h]
  exact Json.read?_document (h.mapStrings fun t _ => Text.proper_surrogateFree t)

/-- A review as a document is made of plain lines, whatever the strings of its findings. A reader gets the
fields of the review in their order, each string without its surrogates; a string without surrogates
is not changed at all. -/
theorem reviewDocument_reads_back (a : Analysis) (refRange : Text) (mode : ReviewMode)
    (findings : List Finding) :
    (∀ c ∈ reviewDocument a refRange mode findings, c = '\n' ∨ (0x20 ≤ c.val ∧ c.val ≤ 0x7E)) ∧
    Json.read? (reviewDocument a refRange mode findings) = some (.object
      [("version", .str "1.1.0"), ("status", .str "ok"), ("mode", .str mode.toText),
        ("ref_range", .str refRange.surrogateFree),
        ("findings", .arr (findings.map fun f => (findingJson f).mapStrings Text.surrogateFree)),
        ("warnings", .arr (a.warnings.map fun w => (Warning.ofText w).toJson.mapStrings Text.surrogateFree)),
        ("stats", .object
          [("files_analyzed", .int a.files.length),
            ("symbols_changed", .int (total (a.files.map (·.changes.length)))),
            ("parse_errors", .int (a.files.countP (·.hasParseError))),
            ("reference_count", .int (total (findings.map fun f => f.production.length + f.tests.length))),
            ("silence_reason", if findings.isEmpty then .str "no high-signal changes" else .null)]),
        ("error", .null)]) ∧
    ∀ t : Text, (∀ c ∈ t.surrogateFree, c.isSurrogate = false) ∧
      ((∀ c ∈ t, c.isSurrogate = false) → t.surrogateFree = t) := by
  refine ⟨plainLines_document (writable_envelope _), (read?_report (writable_envelope _)).trans ?_,
    fun t => ⟨Text.proper_surrogateFree t, fun h => Text.Proper.surrogateFree_eq h⟩⟩
  have hliteral : ∀ s : String, (Text.ofString s).surrogateFree = Text.ofString s :=
    fun s => (Text.proper_ofString s).surrogateFree_eq
  have hmode : mode.toText.surrogateFree = mode.toText := by cases mode <;> exact hliteral _
  have hstatus : (Status.ofError (none : Option Text).isSome).toText = ("ok" : Text) := rfl
  simp only [Envelope.toJson, Json.object, Json.mapStrings, Json.mapStringMembers, Json.ofList,
    Json.mapStringItems_eq, List.map_cons, List.map_nil, List.map_map, hliteral, hmode, hstatus]
  cases findings.isEmpty
  · simp [Json.optional, Json.ofOption, Json.mapStrings, Function.comp_def]
  · simp [Json.optional, Json.ofOption, Json.mapStrings, Function.comp_def, hliteral]

/-- A range with a byte that is not UTF-8 is read back with an escape in its place. -/
theorem reviewDocument_reads_back_undecodable :
    (('"' : CodePoint) ∈ reviewDocument { refRange := [] } [CodePoint.ofNat 0xDCFF] .staged [] ∧
      ('"' = ('\n' : CodePoint) ∨ (0x20 ≤ CodePoint.val '"' ∧ CodePoint.val '"' ≤ 0x7E))) ∧
    Json.read? (reviewDocument { refRange := [] } [CodePoint.ofNat 0xDCFF] .staged []) = some (.object
      [("version", .str "1.1.0"), ("status", .str "ok"), ("mode", .str "staged"), ("ref_range", .str "\\xff"),
        ("findings", .arr []), ("warnings", .arr []),
        ("stats", .object
          [("files_analyzed", .int 0), ("symbols_changed", .int 0), ("parse_errors", .int 0),
            ("reference_count", .int 0), ("silence_reason", .str "no high-signal changes")]),
        ("error", .null)]) ∧
    ((∀ c ∈ ("\\xff" : Text), c.isSurrogate = false) ∧ Text.surrogateFree "\\xff" = "\\xff") := by
  obtain ⟨hplain, hread, hfree⟩ :=
    reviewDocument_reads_back { refRange := [] } [CodePoint.ofNat 0xDCFF] .staged []
  have hquote : ('"' : CodePoint) ∈ reviewDocument { refRange := [] } [CodePoint.ofNat 0xDCFF] .staged [] := by
    decide +kernel
  have hrange : Text.surrogateFree [CodePoint.ofNat 0xDCFF] = "\\xff" := by decide +kernel
  have hproper : ∀ c ∈ ("\\xff" : Text), c.isSurrogate = false := by decide
  refine ⟨⟨hquote, hplain _ hquote⟩, ?_, hproper, (hfree _).2 hproper⟩
  rw [hread, hrange]
  rfl

end Report

end ChangeReview
