import ChangeReview.Text.Basic

/-!
# Help texts
-/

namespace ChangeReview.CommandLine

/-- Lines, each with its break. -/
def page (lines : List String) : Text := (Text.list lines).flatMap (· ++ ("\n" : Text))

/-- The help of the program. -/
def mainHelp : Text :=
  page
    ["Usage: main [OPTIONS] COMMAND [ARGS]...",
      "",
      "  DiffGuard — Catches the structural breaks that pass code review. Analyzes",
      "  git diffs to surface high-signal changes.",
      "",
      "Options:",
      "  -v, --version  Show the version and exit.",
      "  --help         Show this message and exit.",
      "",
      "Commands:",
      "  install-hook  Install a git hook that runs diffguard review before...",
      "  review        Analyze git changes and surface high-signal findings for...",
      "  summarize     Summarize git changes."]

/-- The help of a summary. -/
def summarizeHelp : Text :=
  page
    ["Usage: main summarize [OPTIONS] [REF_RANGE]",
      "",
      "  Summarize git changes.",
      "",
      "  REF_RANGE: Git ref range like HEAD~1..HEAD or main..feature. Default:",
      "  staged, unstaged, and untracked worktree changes.",
      "",
      "Options:",
      "  --diff TEXT                     Read unified diff from stdin. Use '--diff -'",
      "                                  for pipe input.",
      "  --format [json|oneliner|short|detailed]",
      "                                  Output format (default: json).",
      "  --tier [oneliner|short|detailed]",
      "                                  Summary tier for JSON output (default:",
      "                                  detailed).",
      "  --skip-generated, --no-generated",
      "                                  Skip generated file detection.",
      "  --include-tests                 Include test file changes in summary text",
      "                                  output.",
      "  --show-skipped                  Show skipped (unsupported/binary/generated)",
      "                                  files in summary text.",
      "  --repo TEXT                     Repository path or a directory within it",
      "                                  (default: current directory).",
      "  --help                          Show this message and exit."]

/-- The help of a review. -/
def reviewHelp : Text :=
  page
    ["Usage: main review [OPTIONS] [REF_RANGE]",
      "",
      "  Analyze git changes and surface high-signal findings for code review.",
      "",
      "  REF_RANGE: Git ref range like HEAD~3..HEAD or main..feature. Default:",
      "  HEAD~1..HEAD (last commit).",
      "",
      "  Detects signature changes, breaking changes, removed/moved symbols, and",
      "  reports syntactic imports, calls, and non-call references. Name matches do",
      "  not prove symbol ownership.",
      "",
      "  Exit codes:",
      "    0 — No high-signal findings (silence)",
      "    1 — Findings present (read the output)",
      "    2 — Error",
      "",
      "Options:",
      "  --repo TEXT           Repository path or a directory within it (default:",
      "                        current directory).",
      "  --deps / --no-deps    Enable dependency scanning (default: enabled).",
      "  --verbose             Show full output even when no high-signal changes.",
      "  --format [text|json]  Output format: 'text' for human-readable review,",
      "                        'json' for structured output.",
      "  --staged              Review staged/index changes for pre-commit use.",
      "  --worktree            Review staged, unstaged, added, and deleted worktree",
      "                        state.",
      "  --against TEXT        Base ref for --worktree; its merge base with HEAD is",
      "                        used (default: HEAD).",
      "  --help                Show this message and exit."]

/-- The help of the installation of a hook. -/
def hookHelp : Text :=
  page
    ["Usage: main install-hook [OPTIONS]",
      "",
      "  Install a git hook that runs diffguard review before push/commit.",
      "",
      "Options:",
      "  --repo TEXT                     Repository path or a directory within it",
      "                                  (default: current directory).",
      "  --hook-type [pre-push|pre-commit]",
      "                                  Git hook type to install (default: pre-",
      "                                  push).",
      "  --force                         Overwrite existing hook.",
      "  --help                          Show this message and exit."]

end ChangeReview.CommandLine
