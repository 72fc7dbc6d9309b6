import ChangeReview.Report.Hints
import ChangeReview.Report.SignatureText

/-!
# The review as text

Findings for a reader at a terminal. Whatever comes from the repository stays on its line and is
printable.
-/

namespace ChangeReview.Report

/-- A number with a word, plural unless it is one. -/
def plural (n : Int) (word : Text) : Text :=
  let ending : Text :=
    if n == 1 then []
    else if (Text.list ["s", "x", "ch", "sh"]).any (Text.endsWith word) then "es" else "s"
  Text.ofInt n ++ (" " : Text) ++ word ++ ending

/-- How many references each file name has. -/
def byFile (references : List Reference) : List Text :=
  (references.foldl (fun (counts : OrderedMap Text Nat) r =>
      counts.update (Path.fileName r.file) 0 (· + 1)) []).map
    fun (name, n) => name.terminalSafe ++ (" (" : Text) ++ plural n "reference" ++ (")" : Text)

/-- A reference in a line. -/
def referenceLine (r : Reference) : Text :=
  "     " ++ (Path.fileName r.file).terminalSafe ++ (":" : Text) ++ Text.ofInt r.line ++ (" [" : Text)
    ++ r.context.toText ++ ("] \x60" : Text) ++ r.sourceLine.terminalSafe ++ ("\x60" : Text)

/-- What a verdict says about compatibility. -/
def compatibilityLine : Verdict → Text
  | .breaking => "   Compatibility: bounded syntax rule indicates a breaking call shape"
  | .compatible => "   Compatibility: no breaking call shape detected by the bounded rule"
  | .unknown => "   Compatibility: unknown — compiler/type resolution not performed"

/-- The compatibility, the first references and the gaps of a finding. -/
def impactLines (f : Finding) : List Text :=
  let references := f.production ++ f.tests
  compatibilityLine f.change.verdict
    :: (if references.isEmpty then []
      else ("   Syntactic references: " ++ plural references.length "name match"
          ++ (" (ownership unresolved):" : Text))
        :: (references.take 5).map referenceLine)
    ++ f.change.gaps.map fun gap => ("   Gap: " : Text) ++ gap.terminalSafe

/-- The lines of one finding, with an empty line after them. -/
def findingLines (index : Nat) (f : Finding) : List Text :=
  let place : Text := match f.change.line with
    | some n => if n == 0 then [] else ":" ++ Text.ofInt n
    | none => []
  [Text.ofNat index ++ (". " : Text) ++ f.category.terminalSafe ++ (": " : Text)
      ++ signatureDisplay f.change,
    "   File: " ++ f.file.path.terminalSafe ++ place]
    ++ impactLines f
    ++ (if f.tests.isEmpty then []
      else ["   Test evidence: " ++ Text.join ", " (byFile f.tests)])
    ++ ["   Review: " ++ hint f.category, []]

/-- The review of findings as text; nothing if there are none. -/
def reviewText (findings : List Finding) : Text :=
  if findings.isEmpty then []
  else
    let n := findings.length
    let need : Text := if n == 1 then " change needs review" else " changes need review"
    let title : Text := "⚠ DiffGuard: " ++ Text.ofNat n ++ need
    Text.trimRight (Text.join "\n" (title :: []
      :: (findings.zipIdx 1).flatMap fun (f, index) => findingLines index f))

end ChangeReview.Report
