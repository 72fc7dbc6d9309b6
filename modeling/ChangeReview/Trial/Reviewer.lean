import ChangeReview.Json.Reader
import ChangeReview.Session.Basic

/-!
# Reviewers

A language model that is asked over the network to review a change.
-/

namespace ChangeReview.Trial

/-- What a reviewer is told to do. -/
def instructions : Text :=
  Text.join "\n" (Text.list [
    "You are a senior code reviewer. Review this pull request and list every issue you find.",
    "",
    "For each issue, provide:",
    "- **Severity**: critical / warning / info",
    "- **File**: which file",
    "- **Line**: approximate line if known",
    "- **Issue**: what's wrong",
    "- **Why**: why it matters",
    "",
    "Focus on:",
    "- Breaking changes that affect callers",
    "- Missing updates to dependent code",
    "- Type mismatches",
    "- Behavioral changes that could cause bugs",
    "- API contract violations",
    "",
    "Be thorough. List ALL issues, even minor ones."])

/-- The model that reviews. -/
def model : Text := "claude-sonnet-4-20250514"

/-- The message that asks a reviewer. -/
def letter (key question : Text) : Letter :=
  { address := "https://api.anthropic.com/v1/messages"
    headers := [("x-api-key", key), ("anthropic-version", "2023-06-01"), ("content-type", "application/json")]
    body := Json.object [("model", .str model), ("max_tokens", .int 4096),
      ("messages", .arr [Json.object [("role", .str "user"), ("content", .str question)]]),
      ("system", .str instructions)] }

/-- The member of an object. -/
def member (key : Text) (value : Json) : Except Failure Json :=
  match value with
  | .obj _ => (value.member? key).elim (.error (.missingMember key)) .ok
  | _ => .error .notObject

/-- The first item of a list, or the first letter of a text. -/
def first : Json → Except Failure Json
  | .arr (item :: _) => .ok item
  | .str (c :: _) => .ok (.str [c])
  | .arr [] | .str [] => .error .emptyList
  | .obj _ => .error (.missingMember "0")
  | _ => .error .notObject

/-- The review in an answer: the text of the first item of its content. A byte order mark is skipped. -/
def reviewOf (answer : Bytes) : Except Failure Json := do
  let text ← Bytes.decode answer
  let text := match text with
    | c :: r => if c.val == 0xFEFF then r else text
    | [] => text
  match Json.read? text with
  | none => throw .notJson
  | some value => member "text" (← first (← member "content" value))

/-- The review that a reviewer answers. -/
def ask (key question : Text) : Action Json := do reviewOf (← Action.send (letter key question))

end ChangeReview.Trial
