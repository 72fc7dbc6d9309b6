import ChangeReview.Summary.Tiers

/-!
# Analyses

The outcome of analysing a patch: the changed files with their symbols, a summary of them, and the gaps
that were met. An analysis is also a document.
-/

namespace ChangeReview

/-- How large a patch is. -/
structure PatchStats where
  files : Int := 0
  additions : Int := 0
  deletions : Int := 0

/-- The outcome of analysing a patch. -/
structure Analysis where
  refRange : Text
  stats : PatchStats := {}
  warnings : List Text := []
  timing : Option Binary64 := none
  files : List FileChange := []
  summary : Summary := {}
  tiers : Tiers := {}

namespace Verdict

/-- A verdict as a document value: breaking or not, or null. -/
def toJson : Verdict → Json
  | .breaking => .bool true
  | .compatible => .bool false
  | .unknown => .null

end Verdict

namespace Change

/-- A change as a document value. -/
def toJson (c : Change) : Json :=
  .object [("kind", .str c.kind.toText), ("name", .str c.name), ("signature", .optional c.signature),
    ("before_signature", .optional c.beforeSignature), ("after_signature", .optional c.afterSignature),
    ("file_from", .optional c.fileFrom), ("line", .ofOption .int c.line), ("breaking", c.verdict.toJson),
    ("rule_id", .optional c.ruleId), ("category_id", .optional c.categoryId),
    ("category", .optional c.category),
    ("confidence", .optional (c.confidence.map Confidence.toText)), ("evidence", .texts c.evidence),
    ("analysis_gaps", .texts c.gaps), ("detail", c.detail.getD .null)]

end Change

namespace FileChange

/-- A changed file as a document value. -/
def toJson (f : FileChange) : Json :=
  .object [("path", .str f.path), ("language", .optional f.language),
    ("change_type", .str f.changeType.toText), ("generated", .bool f.isGenerated),
    ("binary", .bool f.isBinary), ("parse_error", .bool f.hasParseError),
    ("unsupported_language", .bool f.isUnsupported), ("changes", .ofList Change.toJson f.changes)]

end FileChange

namespace Summary

/-- A summary as a document value. -/
def toJson (s : Summary) : Json :=
  .object [("change_types", .obj (s.counts.map fun (kind, n) => (kind, .int n))),
    ("breaking_changes", .ofList Change.toJson s.breaking), ("focus", .texts s.focus)]

end Summary

namespace Tiers

/-- Summary texts as a document value. -/
def toJson (t : Tiers) : Json :=
  .object [("oneliner", .str t.oneLine), ("short", .str t.short), ("detailed", .str t.detailed)]

end Tiers

namespace Analysis

/-- An analysis as a document value. -/
def toJson (a : Analysis) : Json :=
  .object [("schema_version", .str "2.0"),
    ("meta", .object [("ref_range", .str a.refRange),
      ("stats", .object [("files", .int a.stats.files), ("additions", .int a.stats.additions),
        ("deletions", .int a.stats.deletions)]),
      ("warnings", .texts a.warnings), ("timing_ms", .ofOption .real a.timing)]),
    ("files", .ofList FileChange.toJson a.files), ("summary", a.summary.toJson),
    ("tiered", a.tiers.toJson)]

end Analysis

end ChangeReview
