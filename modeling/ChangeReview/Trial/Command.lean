import ChangeReview.Session.Basic

/-!
# Checked commands

A command whose status must be one of those allowed. A complaint shows it as a shell would read it back.
-/

namespace ChangeReview

namespace Text

/-- A character that a shell takes as it is. -/
def isShellPlain (c : CodePoint) : Bool :=
  c.isAsciiDigit || c.isAsciiLetter || (ofString "_@%+=:,./-").contains c

/-- A word as a shell reads it back: in single quotes unless all of it is plain. A single quote closes them,
stands in double quotes, and opens them again. -/
def shellWord (t : Text) : Text :=
  if !t.isEmpty && t.all isShellPlain then t
  else
    let quote (c : CodePoint) : Text := if c == '\'' then "'\"'\"'" else [c]
    "'" ++ t.flatMap quote ++ "'"

end Text

/-- A command as a shell reads it back. -/
def Command.shellLine (c : Command) : Text := Text.join " " (c.map Text.shellWord)

/-- The output of a command run in a place, if its status is allowed. -/
def Action.runChecked (c : Command) (place : Option Text) (allowed : List Int) : Action Text := do
  let outcome ← Action.run c
  let output := Text.unifyBreaks (← Bytes.decode outcome.output)
  let errors := Text.unifyBreaks (← Bytes.decode outcome.errors)
  if allowed.contains outcome.status then return output
  let details := [errors.trim, output.trim].filter (!·.isEmpty)
  throw (.badStatus outcome.status place (Command.shellLine c)
    (details.headD "no stderr/stdout captured"))

end ChangeReview
