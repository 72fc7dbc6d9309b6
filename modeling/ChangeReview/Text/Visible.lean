import ChangeReview.Text.Basic

/-!
# Visible texts

Texts from a repository may hold control characters and surrogates. Before they reach a terminal or a
document, what cannot be shown is written as an escape.
-/

namespace ChangeReview

namespace CodePoint

/-- A code point by its number, as short as it goes. -/
def numbered (c : CodePoint) : Text :=
  if c.val ≤ 0xFF then "\\x" ++ Text.hex 2 c.val
  else if c.val ≤ 0xFFFF then "\\u" ++ Text.hex 4 c.val
  else "\\U" ++ Text.hex 8 c.val

/-- The byte that a surrogate carries. -/
def carried (c : CodePoint) : Text := "\\x" ++ Text.hex 2 (c.val - 0xDC00)

/-- A code point as a terminal may show it: on its line, and printable. -/
def terminalSafe (c : CodePoint) : Text :=
  if c == '\n' then "\\n"
  else if c == '\r' then "\\r"
  else if c == '\t' then "\\t"
  else if c.isEscapedByte then c.carried
  else if c.isPrintable then [c]
  else c.numbered

/-- A code point as a document may hold it: no surrogate. -/
def surrogateFree (c : CodePoint) : Text :=
  if c.isEscapedByte then c.carried else if c.isSurrogate then c.numbered else [c]

end CodePoint

namespace Text

/-- A text as a terminal may show it, on one line. -/
def terminalSafe (t : Text) : Text := t.flatMap CodePoint.terminalSafe

/-- A text without surrogates. -/
def surrogateFree (t : Text) : Text := t.flatMap CodePoint.surrogateFree

/-- A text as a literal: between single quotes, or double ones if only they avoid an escape. -/
def quoted (t : Text) : Text :=
  let quote : CodePoint :=
    if t.contains (CodePoint.ofNat 0x27) && !t.contains (CodePoint.ofNat 0x22) then CodePoint.ofNat 0x22
    else CodePoint.ofNat 0x27
  let escaped (c : CodePoint) : Text :=
    if c == quote || c == '\\' then ['\\', c]
    else if c == '\n' then "\\n"
    else if c == '\r' then "\\r"
    else if c == '\t' then "\\t"
    else if c.isPrintable then [c]
    else c.numbered
  quote :: t.flatMap escaped ++ [quote]

end Text

end ChangeReview
