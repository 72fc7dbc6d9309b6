import ChangeReview.Patch.Basic
import ChangeReview.Path.Quoted

/-!
# Headers of a patch

The line that opens the record of a file, and the line that opens a hunk.
-/

namespace ChangeReview.Patch

/-- What opens the record of a file. -/
def recordMark : Text := "diff --git "

/-- The position of the quote that closes a path, its opening quote read. -/
def closingQuote? (escaped : Bool) : Text → Option Nat
  | [] => none
  | c :: r =>
    if c.val == 0x22 && !escaped then some 0
    else (closingQuote? (c == '\\' && !escaped) r).map (· + 1)

/-- The paths of a header that starts with a quoted path. -/
def quotedPaths? (payload : Text) : Option (Text × Text) := do
  let close ← closingQuote? false (payload.drop 1)
  let rest := payload.drop (close + 2)
  if rest.isEmpty then none
  else
    let old ← (Path.decode (payload.take (close + 2))).toOption
    let new ← (Path.decode (Text.trimLeft rest)).toOption
    return (← Text.after? "a/" old, ← Text.after? "b/" new)

/-- The ways to divide a header without quotes into two paths. -/
def divisions : Text → List (Text × Text)
  | [] => []
  | c :: r =>
    let later := (divisions r).map fun (old, new) => (c :: old, new)
    match Text.after? " b/" (c :: r) with
    | some new => ([], new) :: later
    | none => later

/-- The old and the new path of the line that opens a record. Without quotes the first division into
equal paths is taken, else the last division. -/
def headerPaths? (line : Text) : Option (Text × Text) := do
  let payload ← Text.after? recordMark line
  if Text.startsWith payload "\"" then quotedPaths? payload
  else
    let all := divisions (← Text.after? "a/" payload)
    (all.find? fun (old, new) => old == new).or all.getLast?

/-- The number at the front of a text, and what follows it. -/
def number? (t : Text) : Option (Nat × Text) := do
  let (digits, rest) := t.span CodePoint.isDigit
  return (← Text.decimal? digits, rest)

/-- A start and a count, one line if the count is missing. -/
def range? (t : Text) : Option (Nat × Nat × Text) := do
  let (start, rest) ← number? t
  match (Text.after? "," rest).bind number? with
  | some (count, rest) => return (start, count, rest)
  | none => return (start, 1, rest)

/-- The head of a hunk. -/
def hunkHeader? (line : Text) : Option HunkHeader := do
  let (oldStart, oldCount, rest) ← range? (← Text.after? "@@ -" line)
  let (newStart, newCount, rest) ← range? (← Text.after? " +" rest)
  let heading ← Text.after? " @@" rest
  return { oldStart, oldCount, newStart, newCount, heading := heading.trim }

end ChangeReview.Patch
