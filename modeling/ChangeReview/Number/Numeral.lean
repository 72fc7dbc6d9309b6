import ChangeReview.Number.Binary64

/-!
# Numbers as they are typed

Integers and doubles written with digits of any script. Blanks may stand around a number, and a single
underscore between two of its digits.
-/

namespace ChangeReview.Numeral

/-- A blank around a number. Of the ASCII controls only those that move the cursor count. -/
def isMargin (c : CodePoint) : Bool :=
  if c.isAscii then c.val == 0x20 || (9 ≤ c.val && c.val ≤ 13) else c.isBlank

/-- A digit of any script as the ASCII digit of its value. -/
def plainDigit (c : CodePoint) : CodePoint :=
  match c.decimalValue? with
  | some value => CodePoint.ofNat (0x30 + value)
  | none => c

/-- A text without the underscores between its digits. An underscore anywhere else is refused. -/
def undivided? : Text → Option Text
  | [] => some []
  | [c] => if c == '_' then none else some [c]
  | c :: d :: r =>
    if c == '_' then none
    else if d == '_' then
      match r with
      | [] => none
      | e :: _ => if c.isAsciiDigit && e.isAsciiDigit then (undivided? r).map (c :: ·) else none
    else (undivided? (d :: r)).map (c :: ·)

/-- The characters of a number: no margins, plain digits, no underscores. -/
def characters? (t : Text) : Option Text :=
  undivided? ((Text.dropRightWhile isMargin (t.dropWhile isMargin)).map plainDigit)

/-- Whether a minus stands in front, and the text behind the sign. -/
def signed : Text → Bool × Text
  | [] => (false, [])
  | c :: r => if c == '-' then (true, r) else if c == '+' then (false, r) else (false, c :: r)

/-- How many digits an integer may have. -/
def digitLimit : Nat := 4300

/-- The integer that a text writes. -/
def integer? (t : Text) : Option Int := do
  let (isNegative, digits) := signed (← characters? t)
  if digits.isEmpty || digitLimit < digits.length || !digits.all CodePoint.isAsciiDigit then none
  let value ← Text.decimal? digits
  return if isNegative then -value else value

/-- The exponent of a number, zero where none is written. -/
def exponent? : Text → Option Int
  | [] => some 0
  | e :: r => do
    if e != 'e' && e != 'E' then none
    let (isNegative, digits) := signed r
    if !digits.all CodePoint.isAsciiDigit then none
    let value ← Text.decimal? digits
    return if isNegative then -value else value

/-- The double that a text without its sign writes. -/
def magnitude? (isNegative : Bool) (t : Text) : Option Binary64 := do
  let word := Text.lower t
  if word == "inf" || word == "infinity" then return .infinite isNegative
  if word == "nan" then return .notANumber
  let (whole, rest) := t.span CodePoint.isAsciiDigit
  let (places, rest) := match rest with
    | c :: r => if c == '.' then r.span CodePoint.isAsciiDigit else ([], rest)
    | [] => ([], rest)
  let digits ← Text.decimal? (whole ++ places)
  return Binary64.ofDecimal isNegative digits ((← exponent? rest) - places.length)

/-- The double that a text writes. -/
def double? (t : Text) : Option Binary64 := do
  let (isNegative, t) := signed (← characters? t)
  magnitude? isNegative t

end ChangeReview.Numeral
