import ChangeReview.Text.Basic

/-!
# Double precision numbers

Doubles as exact integers: a significand times a power of two. A decimal rounds to the nearest double,
ties to the even significand. A double is written with the fewest digits that read back as itself.
-/

namespace ChangeReview

/-- A double. A finite one has 53 significant bits, or the least exponent. -/
inductive Binary64 where
  | finite (negative : Bool) (significand : Nat) (exponent : Int)
  | infinite (negative : Bool)
  | notANumber
deriving DecidableEq

namespace Binary64

/-- A power of two. -/
def twoTo (exponent : Nat) : Nat := Nat.pow 2 exponent

/-- A power of ten. -/
def tenTo (exponent : Nat) : Nat := Nat.pow 10 exponent

/-- The exponent of the smallest doubles. -/
def leastExponent : Int := -1074

/-- The exponent of the largest doubles. -/
def greatestExponent : Int := 971

/-- Zero, without a sign. -/
def zero : Binary64 := .finite false 0 leastExponent

/-- The quotient of two naturals rounded to the nearest natural, a half to the even one. -/
def roundDiv (num den : Nat) : Nat :=
  let low := num / den
  let twice := 2 * (num % den)
  if twice < den then low
  else if den < twice then low + 1
  else if low % 2 = 0 then low else low + 1

/-- `num / (den · 2 ^ exponent)` as a quotient of naturals. -/
def scaled (num den : Nat) (exponent : Int) : Nat × Nat :=
  if 0 ≤ exponent then (num, den * twoTo exponent.toNat) else (num * twoTo (-exponent).toNat, den)

/-- The double nearest to `num / den`. -/
def ofRatio (negative : Bool) (num den : Nat) : Binary64 :=
  if num = 0 then .finite negative 0 leastExponent
  else
    let guess : Int := max ((num.log2 : Int) - (den.log2 : Int) - 53) leastExponent
    let exponent :=
      let (n, d) := scaled num den guess
      if twoTo 53 ≤ n / d then guess + 1 else guess
    let (n, d) := scaled num den exponent
    let significand := roundDiv n d
    let (significand, exponent) :=
      if significand = twoTo 53 then (twoTo 52, exponent + 1) else (significand, exponent)
    if greatestExponent < exponent then .infinite negative
    else .finite negative significand exponent

/-- The double nearest to `digits · 10 ^ exponent`. -/
def ofDecimal (negative : Bool) (digits : Nat) (exponent : Int) : Binary64 :=
  let size : Int := (Nat.toDigits 10 digits).length
  if digits = 0 || size + exponent < -400 then .finite negative 0 leastExponent
  else if 400 < size + exponent then .infinite negative
  else if 0 ≤ exponent then ofRatio negative (digits * tenTo exponent.toNat) 1
  else ofRatio negative digits (tenTo (-exponent).toNat)

/-- The decimal exponent of the leading digit of `num / den`, for a positive quotient. -/
def leadingDecade (num den : Nat) : Int :=
  if den ≤ num then ((Nat.toDigits 10 (num / den)).length : Int) - 1
  else
    let steps := ((List.range 400).find? fun j => den ≤ num * tenTo (j + 1)).getD 400
    Int.negSucc steps

/-- The shortest decimal `digits · 10 ^ exponent` that reads back as `significand · 2 ^ exponent`, and
of several the nearest. -/
def shortest (significand : Nat) (exponent : Int) : Nat × Int :=
  let below := if significand = twoTo 52 && leastExponent < exponent then 1 else 2
  let quarter (n : Nat) : Nat × Nat := scaled n 4 (-exponent)
  let (value, den) := quarter (4 * significand)
  let low := (quarter (4 * significand - below)).1
  let high := (quarter (4 * significand + 2)).1
  let decade := leadingDecade value den
  let admits (candidate : Nat) (place : Int) : Bool :=
    let (c, unit) :=
      if 0 ≤ place then (candidate * tenTo place.toNat * den, 1)
      else (candidate * den, tenTo (-place).toNat)
    if significand % 2 = 0 then low * unit ≤ c && c ≤ high * unit
    else low * unit < c && c < high * unit
  let attempt (count : Nat) : Option (Nat × Int) :=
    let place : Int := decade - count + 1
    let (n, d) :=
      if 0 ≤ place then (value, den * tenTo place.toNat) else (value * tenTo (-place).toNat, den)
    let near := roundDiv n d
    let other := if near = n / d then near + 1 else n / d
    if admits near place then some (near, place)
    else if admits other place then some (other, place)
    else none
  ((List.range 17).findSome? fun i => attempt (i + 1)).getD (0, 0)

/-- Digits without trailing zeros, the place of the last digit moved along. -/
def dropZeros : Nat → Nat × Int → Nat × Int
  | 0, decimal => decimal
  | steps + 1, (digits, place) =>
    if digits % 10 = 0 && digits != 0 then dropZeros steps (digits / 10, place + 1)
    else (digits, place)

/-- Zeros written `count` times. -/
def zeros (count : Int) : Text := List.replicate count.toNat (CodePoint.ofChar '0')

/-- An exponent with its sign and two digits or more. -/
def exponentText (exponent : Int) : Text :=
  let size := Text.ofNat exponent.natAbs
  "e" ++ (if exponent < 0 then "-" else "+") ++ (if size.length < 2 then "0" ++ size else size)

/-- A decimal in positional notation from `0.0001` to below `10 ^ 16`, with a point always, and in
scientific notation with a signed exponent of two digits or more elsewhere. -/
def layout (digits : Nat) (place : Int) : Text :=
  let ds := Text.ofNat digits
  let point : Int := (ds.length : Int) + place
  if -4 < point && point ≤ 16 then
    if point ≤ 0 then "0." ++ zeros (-point) ++ ds
    else if (ds.length : Int) ≤ point then ds ++ zeros (point - ds.length) ++ ".0"
    else ds.take point.toNat ++ "." ++ ds.drop point.toNat
  else
    (if ds.length = 1 then ds else ds.take 1 ++ "." ++ ds.drop 1) ++ exponentText (point - 1)

/-- The text of a double. -/
def toText : Binary64 → Text
  | .notANumber => "nan"
  | .infinite negative => if negative then "-inf" else "inf"
  | .finite negative significand exponent =>
    let magnitude : Text :=
      if significand = 0 then "0.0"
      else
        let (digits, place) := dropZeros 400 (shortest significand exponent)
        layout digits place
    if negative then "-" ++ magnitude else magnitude

/-- A decimal without zeros at its end: in positional notation from `0.0001` to below a million, and in
scientific notation elsewhere. -/
def briefLayout (digits : Nat) (place : Int) : Text :=
  let ds := Text.ofNat digits
  let point : Int := (ds.length : Int) + place
  if -4 < point && point ≤ 6 then
    if point ≤ 0 then "0." ++ zeros (-point) ++ ds
    else if (ds.length : Int) ≤ point then ds ++ zeros (point - ds.length)
    else ds.take point.toNat ++ "." ++ ds.drop point.toNat
  else (if ds.length = 1 then ds else ds.take 1 ++ "." ++ ds.drop 1) ++ exponentText (point - 1)

/-- A double with at most six significant digits. -/
def brief : Binary64 → Text
  | .finite negative significand exponent =>
    let magnitude : Text :=
      if significand = 0 then "0"
      else
        let (n, d) := scaled significand 1 (-exponent)
        let place := leadingDecade n d - 5
        let (n, d) := if 0 ≤ place then (n, d * tenTo place.toNat) else (n * tenTo (-place).toNat, d)
        let (digits, place) := dropZeros 7 (roundDiv n d, place)
        briefLayout digits place
    if negative then "-" ++ magnitude else magnitude
  | other => other.toText

/-- A double rounded to `places` decimal places, a half to the even digit. -/
def roundPlaces (places : Nat) : Binary64 → Binary64
  | .finite negative significand exponent =>
    let (n, d) := scaled (significand * tenTo places) 1 (-exponent)
    ofRatio negative (roundDiv n d) (tenTo places)
  | other => other

/-- Whether a double is greater than zero. -/
def isPositive : Binary64 → Bool
  | .finite negative significand _ => !negative && significand != 0
  | .infinite negative => !negative
  | .notANumber => false

/-- The exact value of a finite double as a quotient. -/
def fraction? : Binary64 → Option (Int × Nat)
  | .finite negative significand exponent =>
    let (n, d) := scaled significand 1 (-exponent)
    some (if negative then -(n : Int) else n, d)
  | _ => none

/-- The double nearest to a quotient. -/
def ofFraction (num : Int) (den : Nat) : Binary64 := ofRatio (num < 0) num.natAbs den

/-- The sum of two doubles. An operand that is not finite is the sum. -/
def plus (a b : Binary64) : Binary64 :=
  match a.fraction?, b.fraction? with
  | some (n, d), some (m, e) => ofFraction (n * e + m * d) (d * e)
  | none, _ => a
  | _, none => b

/-- A double taken `count` times. -/
def times (count : Nat) (a : Binary64) : Binary64 :=
  match a.fraction? with
  | some (n, d) => ofFraction (n * count) d
  | none => a

/-- Whether one finite double is not less than another. -/
def reaches (a b : Binary64) : Bool :=
  match a.fraction?, b.fraction? with
  | some (n, d), some (m, e) => m * d ≤ n * e
  | _, _ => false

/-- Neither infinite nor undefined. -/
def isFinite : Binary64 → Bool
  | .finite .. => true
  | _ => false

end Binary64

end ChangeReview
