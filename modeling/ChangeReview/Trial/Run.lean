import ChangeReview.Json.Display
import ChangeReview.Review.Printed
import ChangeReview.Trial.Command
import ChangeReview.Trial.Reviewer

/-!
# Trials

A trial has a change reviewed twice, from its diff alone and with the context of a structured review, and
keeps both answers to be compared.
-/

namespace ChangeReview

/-- A change that is reviewed twice. -/
structure Trial where
  name : Text
  repository : Text
  range : Text

namespace Trial

/-- How much of a diff a reviewer is shown. -/
def diffLimit : Nat := 50000

/-- A diff as a reviewer is shown it. -/
def fenced (diff : Text) : Text := "\x60\x60\x60diff\n" ++ diff.take diffLimit ++ "\n\x60\x60\x60"

/-- The question about a diff alone. -/
def baselineQuestion (diff : Text) : Text := "Here is the git diff to review:\n\n" ++ fenced diff

/-- The question about a diff and its context. -/
def treatmentQuestion (context diff : Text) : Text :=
  "Here is structured context about the changes:\n\n" ++ context
    ++ "\n\nHere is the full git diff:\n\n" ++ fenced diff

/-- The diff of the change. -/
def diff (t : Trial) : Action Text :=
  Action.runChecked ["git", "diff", t.range] (some t.repository) [0]

/-- The context of the change: a structured review, with findings or without. -/
def context (t : Trial) : Action Text := do
  let program := Path.join (← get).directory ".venv/bin/diffguard"
  Action.runChecked [program, "review", t.range, "--repo", t.repository, "--format", "json"]
    (some t.repository) [0, 1]

/-- The name of a trial in file names. -/
def fileStem (t : Trial) : Text := t.name.map fun (c : CodePoint) => if c == ' ' || c == '/' then '_' else c

/-- Writes a result. A text that cannot be encoded leaves an empty file. -/
def write (t : Trial) (ending content : Text) : Action Unit := do
  let put (data : Bytes) : Action Unit := modify fun s =>
    { s with files := s.files.put ["tests", "ab_results", t.fileStem ++ ending] (.file data false) }
  put []
  put (← content.encode)

/-- A line between trials. -/
def rule : Text := List.replicate 60 (CodePoint.ofChar '=')

/-- Runs a trial and gives both reviews. -/
def run (t : Trial) (key : Text) : Action (Json × Json) := do
  Action.print ("\n" ++ rule)
  Action.print ("TEST: " ++ t.name)
  Action.print ("Repo: " ++ t.repository ++ ", Range: " ++ t.range)
  Action.print rule
  let diff ← t.diff
  let context ← t.context
  Action.print ("\nDiff size: " ++ Text.ofNat diff.length ++ " chars")
  Action.print ("Context size: " ++ Text.ofNat context.length ++ " chars")
  Action.print ("\n--- DiffGuard Context ---\n" ++ context ++ "\n--- End Context ---\n")
  Action.print "Running baseline review (diff only)..."
  let baseline ← ask key (baselineQuestion diff)
  Action.print "Running treatment review (context + diff)..."
  let treatment ← ask key (treatmentQuestion context diff)
  t.write "_A_baseline.md" ("# Baseline Review: " ++ t.name ++ "\n\n" ++ baseline.display)
  t.write "_B_treatment.md" ("# Treatment Review: " ++ t.name ++ "\n\n" ++ treatment.display)
  t.write "_context.md" ("# DiffGuard Context: " ++ t.name ++ "\n\n" ++ context)
  Action.print ("\nResults written to tests/ab_results/" ++ t.fileStem ++ "_*.md")
  return (baseline, treatment)

/-- The trials of a checkout. -/
def standard (checkout : Text) : List Trial :=
  [{ name := "react-restructure"
     repository := Path.join checkout "tests/ab_repos/react-test-app"
     range := "HEAD~1..HEAD" },
   { name := "diffguard-filter-tests", repository := checkout, range := "2f5d45a..335190f" },
   { name := "diffguard-cli-packaging", repository := checkout, range := "11efd59..f549226" }]

/-- Runs trials one after the other; one that fails leaves a remark. -/
def runAll (key : Text) : List Trial → StateM Session Unit
  | [] => pure ()
  | t :: rest => do
    match ← ExceptT.run (t.run key) with
    | .ok _ => pure ()
    | .error f =>
      let _ ← ExceptT.run (Action.print ("ERROR on " ++ t.name ++ ": " ++ f.message))
    runAll key rest

/-- Runs the trials of the working directory. Nothing is run without a key. -/
def print (key : Text) : StateM Session Printed := do
  if key.isEmpty then
    return { status := 1, output := Printed.line "Set ANTHROPIC_API_KEY environment variable" }
  runAll key (standard (← get).directory)
  return { status := 0, output := (← get).printed }

end Trial

end ChangeReview
