import ChangeReview.Text.Basic

/-!
# Numerals of a declaration

How many code points a numeral takes: integers in four bases, decimals with a point or an exponent,
and imaginary numbers. A single underscore may stand between digits.
-/

namespace ChangeReview.Declaration.Numeral

/-- The length of digits of a class, single underscores allowed between two of them; zero without a
first digit. -/
def digitsLength (isDigit : CodePoint → Bool) : Text → Nat
  | [] => 0
  | [c] => if isDigit c then 1 else 0
  | c :: d :: r =>
    if !isDigit c then 0
    else if d == '_' then
      match digitsLength isDigit r with
      | 0 => 1
      | n + 1 => n + 3
    else 1 + digitsLength isDigit (d :: r)

/-- The length of a run of decimal digits. -/
def decimalLength (t : Text) : Nat := digitsLength CodePoint.isAsciiDigit t

/-- The length of an exponent with at least one digit. -/
def exponentLength (t : Text) : Nat :=
  match t with
  | e :: r =>
    if e == 'e' || e == 'E' then
      let sign := match r with
        | s :: _ => if s == '+' || s == '-' then 1 else 0
        | [] => 0
      match decimalLength (r.drop sign) with
      | 0 => 0
      | n + 1 => 1 + sign + (n + 1)
    else 0
  | [] => 0

/-- The length of a decimal with a point, its exponent not counted. -/
def pointLength (t : Text) : Nat :=
  let whole := decimalLength t
  match t.drop whole with
  | p :: r =>
    if p != '.' then 0
    else
      let fraction := decimalLength r
      if whole == 0 && fraction == 0 then 0 else whole + 1 + fraction
  | [] => 0

/-- The length of a decimal with a point or an exponent. -/
def floatLength (t : Text) : Nat :=
  match pointLength t with
  | 0 =>
    let whole := decimalLength t
    if whole == 0 then 0
    else match exponentLength (t.drop whole) with
      | 0 => 0
      | n + 1 => whole + (n + 1)
  | n + 1 => n + 1 + exponentLength (t.drop (n + 1))

/-- Whether the text starts with the mark of an imaginary number. -/
def startsImaginary : Text → Bool
  | c :: _ => c == 'j' || c == 'J'
  | [] => false

/-- The length of digits after a base mark, an underscore allowed before each. -/
def basedLength (isDigit : CodePoint → Bool) (t : Text) : Nat :=
  match t with
  | c :: r =>
    if c == '_' then
      match digitsLength isDigit r with
      | 0 => 0
      | n + 1 => n + 2
    else digitsLength isDigit t
  | [] => 0

/-- The length of an integer. One that starts with zero is all zeros, or has a base mark. -/
def integerLength (t : Text) : Nat :=
  match t with
  | z :: b :: r =>
    if z != '0' then decimalLength t
    else
      let digits : Nat :=
        if b == 'x' || b == 'X' then basedLength (fun c => c.hexValue?.isSome) r
        else if b == 'b' || b == 'B' then basedLength (fun c => c == '0' || c == '1') r
        else if b == 'o' || b == 'O' then basedLength (fun c => 0x30 ≤ c.val && c.val ≤ 0x37) r
        else 0
      if digits == 0 then digitsLength (· == '0') t else 2 + digits
  | _ => decimalLength t

/-- The length of the numeral at the start of the text, zero if there is none. -/
def length (t : Text) : Nat :=
  let whole := decimalLength t
  let float := floatLength t
  if whole != 0 && startsImaginary (t.drop whole) then whole + 1
  else if float != 0 then if startsImaginary (t.drop float) then float + 1 else float
  else integerLength t

end ChangeReview.Declaration.Numeral
