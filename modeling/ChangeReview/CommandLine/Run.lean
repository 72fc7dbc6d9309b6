import ChangeReview.CommandLine.Arguments
import ChangeReview.CommandLine.Help
import ChangeReview.Hook.Install
import ChangeReview.Summary.Printed

/-!
# The command line

Three commands: one reviews changes, one summarises them, one installs a hook.
-/

namespace ChangeReview.CommandLine

/-- The version of the program. -/
def version : Text := "0.2.0"

/-- The option that prints help. -/
def helpForm : OptionForm := { key := "help", names := ["--help"], kind := .flag true }

/-- A flag that is off unless it is given. -/
def switch (key : String) (names : List String) : OptionForm :=
  { key, names := Text.list names, kind := .flag true }

/-- An option with a text. -/
def textOption (key name : String) : OptionForm := { key, names := [Text.ofString name], kind := .text }

/-- An option with one of some texts. -/
def choiceOption (key name : String) (values : List String) : OptionForm :=
  { key, names := [Text.ofString name], kind := .choice (Text.list values) }

/-- The options before the command. -/
def groupForms : List OptionForm :=
  [{ key := "version", names := ["--version"], kind := .flag true, letter := some 'v' }, helpForm]

/-- The options of a summary. -/
def summarizeForms : List OptionForm :=
  [textOption "diff" "--diff", choiceOption "format" "--format" ["json", "oneliner", "short", "detailed"],
    choiceOption "tier" "--tier" ["oneliner", "short", "detailed"],
    switch "generated" ["--skip-generated", "--no-generated"], switch "tests" ["--include-tests"],
    switch "skipped" ["--show-skipped"], textOption "repo" "--repo", helpForm]

/-- The options of a review. -/
def reviewForms : List OptionForm :=
  [textOption "repo" "--repo", switch "deps" ["--deps"],
    { key := "deps", names := ["--no-deps"], kind := .flag false }, switch "verbose" ["--verbose"],
    choiceOption "format" "--format" ["text", "json"], switch "staged" ["--staged"],
    switch "worktree" ["--worktree"], textOption "against" "--against", helpForm]

/-- The options of the installation of a hook. -/
def hookForms : List OptionForm :=
  [textOption "repo" "--repo", choiceOption "hook" "--hook-type" ["pre-push", "pre-commit"],
    switch "force" ["--force"], helpForm]

/-- What a command does. -/
inductive Request where
  | show (text : Text)
  | summarize (source : Text → Summary.Source) (format : Summary.Format) (options : Analysis.Options)
  | review (request : Review.Request) (format : Review.Format) (isVerbose : Bool)
  | installHook (repository name : Text) (force : Bool)

/-- The path of the repository. -/
def repositoryOf (a : Arguments) : Text := (a.text? "repo").getD "."

/-- The summary that arguments ask for. The source may be a diff that is given as input. -/
def summaryRequest (a : Arguments) : Request :=
  let source (input : Text) : Summary.Source :=
    if a.text? "diff" == some "-" then .given input
    else match a.positionals.head? with
      | some range => .range (repositoryOf a) range
      | none => .worktree (repositoryOf a)
  let format : Summary.Format :=
    match Report.Tier.ofText ((a.text? "format").getD "json") with
    | .ok tier => .text tier
    | .error _ => .json
  .summarize source format
    { skipGenerated := a.flag "generated"
      summary := { includeTests := a.flag "tests", showSkipped := a.flag "skipped" } }

/-- The review that arguments ask for. -/
def reviewRequest (a : Arguments) : Request :=
  .review
    { range := a.positionals.head?, repository := repositoryOf a
      searchesReferences := a.flag "deps" true, isStaged := a.flag "staged"
      isWorktree := a.flag "worktree", against := a.text? "against" }
    (if a.text? "format" == some "json" then .json else .text) (a.flag "verbose")

/-- The hook that arguments ask for. -/
def hookRequest (a : Arguments) : Request :=
  .installHook (repositoryOf a) ((a.text? "hook").getD "pre-push") (a.flag "force")

/-- The request of a command with its options, or its help. At most `limit` other arguments may stand. -/
def commandRequest (forms : List OptionForm) (help : Text) (limit : Nat) (make : Arguments → Request)
    (args : List Text) : Except UsageError Request := do
  let a ← Arguments.scan forms true args
  if a.flag "help" then return .show help
  a.check forms
  if limit < a.positionals.length then throw .unexpectedArgument
  return make a

/-- Whether a word that is no command could be meant as an option: it does not begin with a letter or a
number. -/
def resemblesOption (word : Text) : Bool := word.head?.any (!·.isLetterOrNumber)

/-- The request that arguments make. A word in the place of the command that could be meant as an option
asks for help. -/
def request (args : List Text) : Except UsageError Request := do
  if args.isEmpty then return .show mainHelp
  let a ← Arguments.scan groupForms false args
  match a.options.head?, a.positionals with
  | some (key, _), _ =>
    return .show (if key == "version" then Printed.line ("main, version " ++ version) else mainHelp)
  | none, [] => throw .missingCommand
  | none, command :: rest =>
    if command == "summarize" then commandRequest summarizeForms summarizeHelp 1 summaryRequest rest
    else if command == "review" then commandRequest reviewForms reviewHelp 1 reviewRequest rest
    else if command == "install-hook" then commandRequest hookForms hookHelp 0 hookRequest rest
    else if resemblesOption command then return .show mainHelp
    else throw .unknownCommand

/-- The failures of an installation that are printed. -/
def isPrintedFailure : Failure → Bool
  | .hook _ | .linkCircle _ | .notRepository _ | .commandFailed .. | .emptyRoot _ => true
  | _ => false

/-- Installs a hook and prints where it is. -/
def printInstallation (repository name : Text) (force : Bool) : Action Printed := do
  let act : Action Printed := do
    let path ← Hook.install (← Repository.root repository) name force
    return { status := 0
             output := Printed.line ("Installed " ++ name ++ " hook: " ++ path.terminalSafe) }
  tryCatch act fun f =>
    if isPrintedFailure f then return Printed.failed f.message.terminalSafe else throw f

/-- Does what a request asks, with the given input. -/
def Request.perform (r : Request) (input : Text) : Action Printed :=
  match r with
  | .show text => return { status := 0, output := text }
  | .summarize source format options => ExceptT.lift (Summary.print (source input) format options)
  | .review request format isVerbose => ExceptT.lift (request.print format isVerbose)
  | .installHook repository name force => printInstallation repository name force

end ChangeReview.CommandLine
