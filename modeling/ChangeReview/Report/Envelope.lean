import ChangeReview.Analysis
import ChangeReview.Failure
import ChangeReview.Finding
import ChangeReview.Json.Writer
import ChangeReview.Report.Hints
import ChangeReview.Text.Visible

/-!
# Reports as documents

Reports are indented documents in plain ASCII, in which surrogates are shown as escapes. The review is
an envelope around the findings: the status of the review, warnings with the files they concern, and
statistics. The status is an error exactly if the envelope carries one.
-/

namespace ChangeReview

/-- What a review looks at. -/
inductive ReviewMode where
  | committed
  | staged
  | worktree
deriving DecidableEq

namespace ReviewMode

/-- The name of a mode. -/
def toText : ReviewMode → Text
  | .committed => "committed"
  | .staged => "staged"
  | .worktree => "worktree"

/-- The mode of a given name. -/
def ofText? (t : Text) : Option ReviewMode :=
  [ReviewMode.committed, .staged, .worktree].find? (·.toText == t)

end ReviewMode

namespace Report

/-- The document of a value that may hold surrogates. -/
def document (value : Json) : Text := Json.document (value.mapText Text.surrogateFree)

/-- The document of an analysis. -/
def summaryDocument (a : Analysis) : Text := document a.toJson

/-- The document of an analysis without any change. -/
def emptySummaryDocument (refRange : Text) : Text := summaryDocument { refRange }

/-- A warning with its code and the file it concerns. -/
structure Warning where
  code : Text
  message : Text
  file : Option Text
deriving DecidableEq

/-- The endings of warnings that begin with a path, with their codes. -/
def pathWarnings : List (Text × Text) :=
  [(": content unavailable at ref — symbol analysis skipped", "analysis_gap"),
    (": parse gap — symbol analysis skipped", "parse_gap"),
    (": reference scan has a parse gap", "parse_gap")]

/-- What stands between the path and the snapshot in a warning about an unreadable candidate. -/
def unreadableMark : Text := ": reference candidate at snapshot "

/-- The end of a warning about an unreadable candidate. -/
def unreadableEnd : Text := " is unreadable — reference analysis incomplete"

/-- The path in a warning about an unreadable candidate. -/
def unreadablePath? (message : Text) : Option Text := do
  let (file, snapshot) ← Text.cutLast? unreadableMark (← Text.before? unreadableEnd message)
  if file.isEmpty || snapshot.isEmpty then none else some file

/-- A warning taken apart. -/
def Warning.ofText (message : Text) : Warning :=
  match pathWarnings.findSome? fun (ending, code) =>
      (Text.before? ending message).map fun file => (file, code) with
  | some (file, code) => ⟨code, message, some file⟩
  | none => ⟨"analysis_gap", message, unreadablePath? message⟩

/-- Numbers of a review. -/
structure Stats where
  filesAnalyzed : Nat := 0
  symbolsChanged : Nat := 0
  parseErrors : Nat := 0
  referenceCount : Nat := 0
  silenceReason : Option Text := none

/-- A review as it is handed out. -/
structure Envelope where
  mode : ReviewMode
  refRange : Text
  findings : List Finding := []
  warnings : List Warning := []
  stats : Stats
  error : Option Text := none

/-- Whether a review went well. -/
inductive Status where
  | ok
  | error
deriving DecidableEq

namespace Status

/-- The name of a status. -/
def toText : Status → Text
  | .ok => "ok"
  | .error => "error"

/-- The status of a review that has an error or not. -/
def ofError (hasError : Bool) : Status := if hasError then .error else .ok

/-- Accepts a status that fits the presence of an error. -/
def check (status : Status) (hasError : Bool) : Except Failure Status :=
  if status == ofError hasError then .ok status else .error .inconsistentStatus

end Status

/-- An item of evidence as a document value. -/
def evidenceJson (kind : String) (message : Text) : Json :=
  .object [("kind", .str kind), ("message", .str message)]

/-- A reference as a document value. -/
def referenceJson (r : Reference) : Json :=
  .object [("file", .str r.file), ("line", .int r.line), ("symbol", .str r.symbolName),
    ("kind", .str r.context.toText), ("source", .str r.sourceLine),
    ("confidence", .str r.confidence.toText), ("resolution", .str "unresolved"),
    ("evidence", .str r.evidence)]

/-- A text that is there and not empty, or another. -/
def orElse (t : Option Text) (other : Text) : Text := (t.filter (!·.isEmpty)).getD other

/-- A signature without blanks at its ends, if it is there and not empty. -/
def trimmed (t : Option Text) : Option Text := (t.filter (!·.isEmpty)).map Text.trim

/-- A finding as a document value, with its first references. -/
def findingJson (f : Finding) : Json :=
  let c := f.change
  .object [("rule_id", .str (orElse c.ruleId "DG000")), ("category_id", .str (orElse c.categoryId "changed")),
    ("category", .str f.category), ("symbol", .str c.name), ("file", .str f.file.path),
    ("source_file", .optional c.fileFrom), ("line", .ofOption .int c.line),
    ("language", .optional f.file.language), ("before_signature", .optional (trimmed c.beforeSignature)),
    ("after_signature", .optional (trimmed c.afterSignature)), ("breaking", c.verdict.toJson),
    ("confidence", .str (c.confidence.getD .low).toText),
    ("evidence", .arr (c.evidence.map (evidenceJson "syntax") ++ c.gaps.map (evidenceJson "analysis_gap"))),
    ("references", .ofList referenceJson ((f.production ++ f.tests).take 20)),
    ("analysis_gaps", .texts c.gaps), ("review_hint", .str (hint f.category))]

/-- A warning as a document value. -/
def Warning.toJson (w : Warning) : Json :=
  .object [("code", .str w.code), ("message", .str w.message), ("file", .optional w.file)]

/-- An envelope as a document value. -/
def Envelope.toJson (e : Envelope) : Json :=
  .object [("version", .str "1.1.0"), ("status", .str (Status.ofError e.error.isSome).toText),
    ("mode", .str e.mode.toText), ("ref_range", .str e.refRange),
    ("findings", .ofList findingJson e.findings), ("warnings", .ofList Warning.toJson e.warnings),
    ("stats", .object [("files_analyzed", .int e.stats.filesAnalyzed),
      ("symbols_changed", .int e.stats.symbolsChanged), ("parse_errors", .int e.stats.parseErrors),
      ("reference_count", .int e.stats.referenceCount),
      ("silence_reason", .optional e.stats.silenceReason)]),
    ("error", .ofOption (fun message =>
      .object [("code", .str "tool_error"), ("message", .str message)]) e.error)]

/-- The document of a review. -/
def reviewDocument (a : Analysis) (refRange : Text) (mode : ReviewMode) (findings : List Finding) : Text :=
  document (Envelope.toJson
    { mode, refRange, findings
      warnings := a.warnings.map Warning.ofText
      stats :=
        { filesAnalyzed := a.files.length
          symbolsChanged := total (a.files.map (·.changes.length))
          parseErrors := a.files.countP (·.hasParseError)
          referenceCount := total (findings.map fun f => f.production.length + f.tests.length)
          silenceReason := if findings.isEmpty then some "no high-signal changes" else none } })

/-- The document of a review that found nothing to analyse. -/
def emptyDocument (refRange : Text) (mode : ReviewMode) (reason : Text) : Text :=
  document (Envelope.toJson { mode, refRange, stats := { silenceReason := some reason } })

/-- The document of a review that failed. -/
def errorDocument (refRange : Text) (mode : ReviewMode) (message : Text) : Text :=
  document (Envelope.toJson
    { mode, refRange, stats := { silenceReason := some "tool error" }, error := some message })

end Report

end ChangeReview
