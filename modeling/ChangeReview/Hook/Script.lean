import ChangeReview.Text.Basic

/-!
# Hook scripts

The scripts that a repository runs before a push or a commit. A finding or a failure stops either.
-/

namespace ChangeReview.Hook

/-- Lines, each with its break. -/
def lines (ls : List String) : Text := (Text.list ls).flatMap (· ++ ("\n" : Text))

/-- Reviews what each pushed branch adds to its remote or to the default branch. -/
def prePushScript : Text :=
  lines
    ["#!/bin/sh",
      "# DiffGuard pre-push hook — runs diffguard review on pushed changes",
      "# Installed by: diffguard install-hook",
      "",
      "remote=\"$1\"",
      "",
      "# Git represents a missing object with an all-zero object ID whose width follows",
      "# the repository object format (40 hex digits for SHA-1, 64 for SHA-256). Keep",
      "# this format-agnostic so the hook also works with future Git object formats.",
      "is_zero_oid() \x7b",
      "    case \"$1\" in",
      "        ''|*[!0]*) return 1 ;;",
      "        *) return 0 ;;",
      "    esac",
      "\x7d",
      "",
      "while read -r _local_ref local_sha _remote_ref remote_sha; do",
      "    if is_zero_oid \"$local_sha\"; then",
      "        # Branch deletion — there is no local snapshot to review.",
      "        continue",
      "    fi",
      "",
      "    if is_zero_oid \"$remote_sha\"; then",
      "        # New branch — compare its commits against the default branch merge base.",
      "        base_ref=$(git symbolic-ref --quiet \"refs/remotes/$remote/HEAD\" 2>/dev/null || echo \"\")",
      "        if [ -z \"$base_ref\" ]; then",
      "            for candidate in \"refs/remotes/$remote/main\" \"refs/remotes/$remote/master\" refs/heads/main refs/heads/master; do",
      "                if git rev-parse --verify \"$candidate^\x7bcommit\x7d\" >/dev/null 2>&1; then",
      "                    base_ref=\"$candidate\"",
      "                    break",
      "                fi",
      "            done",
      "        fi",
      "        if [ -z \"$base_ref\" ]; then",
      "            echo \"DiffGuard could not determine a default branch for new-branch review.\" >&2",
      "            exit 2",
      "        fi",
      "        base=$(git rev-parse --verify \"$base_ref^\x7bcommit\x7d\" 2>/dev/null || echo \"\")",
      "        if [ -z \"$base\" ]; then",
      "            echo \"DiffGuard could not resolve default branch $base_ref.\" >&2",
      "            exit 2",
      "        fi",
      "        merge_base=$(git merge-base \"$base\" \"$local_sha\" 2>/dev/null || echo \"\")",
      "        if [ -z \"$merge_base\" ]; then",
      "            echo \"DiffGuard could not find a merge base for the new branch.\" >&2",
      "            exit 2",
      "        fi",
      "        range=\"$merge_base..$local_sha\"",
      "    else",
      "        range=\"$remote_sha..$local_sha\"",
      "    fi",
      "",
      "    echo \"Running diffguard review $range ...\"",
      "    diffguard review \"$range\"",
      "    status=$?",
      "    if [ $status -eq 1 ]; then",
      "        echo \"\"",
      "        echo \"DiffGuard found changes that need review (see above).\"",
      "        echo \"Push anyway with: git push --no-verify\"",
      "        exit 1",
      "    elif [ $status -ne 0 ]; then",
      "        echo \"\"",
      "        echo \"DiffGuard failed with exit $status; blocking push.\"",
      "        exit $status",
      "    fi",
      "done",
      "",
      "exit 0"]

/-- Reviews what is staged. -/
def preCommitScript : Text :=
  lines
    ["#!/bin/sh",
      "# DiffGuard pre-commit hook — runs diffguard review on staged changes",
      "# Installed by: diffguard install-hook",
      "",
      "echo \"Running diffguard review --staged ...\"",
      "diffguard review --staged",
      "status=$?",
      "if [ $status -eq 1 ]; then",
      "    echo \"\"",
      "    echo \"DiffGuard found changes that need review (see above).\"",
      "    echo \"Commit anyway with: git commit --no-verify\"",
      "    exit 1",
      "elif [ $status -ne 0 ]; then",
      "    echo \"\"",
      "    echo \"DiffGuard failed with exit $status; blocking commit.\"",
      "    exit $status",
      "fi",
      "",
      "exit 0"]

/-- The script of a hook. -/
def script? (name : Text) : Option Text :=
  if name == "pre-push" then some prePushScript
  else if name == "pre-commit" then some preCommitScript
  else none

end ChangeReview.Hook
