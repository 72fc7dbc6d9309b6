import ChangeReview.Finding
import ChangeReview.Text.Visible

/-!
# Signatures in a report

A signature on one line: the line of its declaration, with parameters on several lines joined.
-/

namespace ChangeReview.Report

/-- The words that open a declaration. -/
def declarationWords : List Text := Text.list ["def ", "class ", "func ", "function "]

/-- The text up to the parenthesis that closes the first one, line feeds as blanks, and what follows. -/
def throughParameters (depth : Int) : Text → Text × Text
  | [] => ([], [])
  | c :: r =>
    let depth := if c == '(' then depth + 1 else if c == ')' then depth - 1 else depth
    if c == ')' && depth == 0 then ([c], r)
    else
      let (t, rest) := throughParameters depth r
      ((if c == '\n' then CodePoint.ofChar ' ' else c) :: t, rest)

/-- The words of a text, one blank apart. -/
def spaced (t : Text) : Text := Text.join " " t.words

/-- A declaration whose parameters go on after its first line, on one line. -/
def joined (declaration : Text) : Text :=
  let (head, rest) := throughParameters 0 declaration
  let arrow := Text.trim (Text.upTo "\n" rest)
  spaced (if Text.startsWith arrow "->" then head ++ (" " : Text) ++ arrow else head)

/-- A signature on one line. -/
def compact (signature : Text) : Text :=
  match ((Text.splitOn '\n' signature).map Text.trim).find? fun line =>
      declarationWords.any (Text.startsWith line) with
  | some line =>
    if line.contains (CodePoint.ofChar '(') && !line.contains (CodePoint.ofChar ')') then
      joined (signature.drop ((Text.indexOf? signature line).getD 0))
    else line
  | none => spaced signature

/-- A text without the word that opens a declaration. -/
def withoutWord (t : Text) : Text := (declarationWords.findSome? (Text.after? · t)).getD t

/-- A text without what follows the first parenthesis that an arrow follows. -/
def withoutReturn : Text → Text
  | [] => []
  | c :: r =>
    if c == ')' && Text.startsWith (Text.trimLeft r) "->" then [c] else c :: withoutReturn r

/-- A signature without its first word, and if asked without its return annotation. -/
def bare (keepReturn : Bool) (signature : Text) : Text :=
  let t := withoutWord signature
  Text.dropRightWhile (· == ':') (if keepReturn then t else withoutReturn t)

/-- The signatures of a change on one line. Both sides keep their return annotations, which may be all
that changed. -/
def signatureDisplay (c : Change) : Text :=
  let shown (keepReturn : Bool) (t : Text) : Text := Text.terminalSafe (bare keepReturn (compact t))
  match c.beforeSignature.filter (!·.isEmpty), c.afterSignature.filter (!·.isEmpty) with
  | some before, some after => shown true before ++ (" → " : Text) ++ shown true after
  | _, _ =>
    match c.signature.filter (!·.isEmpty) with
    | some signature => shown false signature
    | none => "\x60" ++ c.name.terminalSafe ++ ("\x60" : Text)

end ChangeReview.Report
