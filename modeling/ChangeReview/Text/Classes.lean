import ChangeReview.Text.CodePoint
import ChangeReview.Text.IdentifierRanges
import ChangeReview.Text.LetterRanges
import ChangeReview.Text.NumberRanges
import ChangeReview.Text.PrintableRanges

/-!
# Classes of code points

Blank, printable, letter, number and identifier classes of Unicode 14. Each class states its ASCII
part as a rule and takes the rest from a table of ranges. A surrogate is in none of them.
-/

namespace ChangeReview.Text

/-- Membership of `n` in a table of closed ranges. -/
def inRanges (ranges : Array (Nat × Nat)) (n : Nat) : Bool :=
  ranges.any fun range => range.1 ≤ n && n ≤ range.2

end ChangeReview.Text

namespace ChangeReview.CodePoint

open ChangeReview.Text

/-- White space: separators, and the controls that break a line or divide information. -/
def isBlank (c : CodePoint) : Bool :=
  (0x09 ≤ c.val && c.val ≤ 0x0D) || (0x1C ≤ c.val && c.val ≤ 0x20) || c.val == 0x85
    || c.val == 0xA0 || c.val == 0x1680 || (0x2000 ≤ c.val && c.val ≤ 0x200A)
    || c.val == 0x2028 || c.val == 0x2029 || c.val == 0x202F || c.val == 0x205F || c.val == 0x3000

/-- A code point that ends a line of text. -/
def isLineBreak (c : CodePoint) : Bool :=
  (0x0A ≤ c.val && c.val ≤ 0x0D) || (0x1C ≤ c.val && c.val ≤ 0x1E) || c.val == 0x85
    || c.val == 0x2028 || c.val == 0x2029

/-- A code point that a terminal shows as itself. -/
def isPrintable (c : CodePoint) : Bool :=
  if c.isAscii then 0x20 ≤ c.val && c.val ≤ 0x7E else inRanges printableRanges c.val

/-- A letter of any script. -/
def isLetter (c : CodePoint) : Bool :=
  if c.isAscii then c.isAsciiLetter else inRanges letterRanges c.val

/-- A letter, or a code point with a numeric value. -/
def isLetterOrNumber (c : CodePoint) : Bool :=
  if c.isAscii then c.isAsciiLetter || c.isAsciiDigit
  else inRanges letterRanges c.val || inRanges numericRanges c.val

/-- A code point with a digit value, superscripts and the like included. -/
def isDigit (c : CodePoint) : Bool :=
  if c.isAscii then c.isAsciiDigit else inRanges digitRanges c.val

/-- The value of a decimal digit of any script. -/
def decimalValue? (c : CodePoint) : Option Nat :=
  if c.isAscii then if c.isAsciiDigit then some (c.val - 0x30) else none
  else (decimalZeros.find? fun range => range.1 ≤ c.val && c.val ≤ range.2).map
    fun range => (c.val - range.1) % 10

/-- A code point that may start a name. -/
def isNameStart (c : CodePoint) : Bool :=
  if c.isAscii then c.isAsciiLetter || c == '_'
  else (inRanges letterRanges c.val && !inRanges identifierStartExcluded c.val)
    || inRanges identifierStartExtra c.val

/-- A code point that may stand in a name after its start. -/
def isNameContinue (c : CodePoint) : Bool :=
  if c.isAscii then c.isAsciiLetter || c.isAsciiDigit || c == '_'
  else c.isNameStart || inRanges identifierContinueExtra c.val

end ChangeReview.CodePoint
