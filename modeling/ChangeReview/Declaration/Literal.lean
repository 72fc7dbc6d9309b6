import ChangeReview.Declaration.Term
import ChangeReview.Declaration.Token
import ChangeReview.Number.Binary64

/-!
# Literals of a declaration

The values of number and string tokens. A number is an integer, a double or an imaginary double; a
string is text or bytes, with its escapes resolved.
-/

namespace ChangeReview.Declaration.Literal

/-- The number written by digits in a base, underscores passed over. -/
def digitsValue (base : Nat) (t : Text) : Nat :=
  t.foldl (fun n (c : CodePoint) => if c == '_' then n else n * base + c.hexValue?.getD 0) 0

/-- The double written by a decimal with an optional fraction and exponent. -/
def floatValue (t : Text) : Binary64 :=
  let t := t.filter (· != CodePoint.ofChar '_')
  let (whole, rest) := t.span CodePoint.isAsciiDigit
  let (fraction, rest) := match Text.after? "." rest with
    | some rest => rest.span CodePoint.isAsciiDigit
    | none => ([], rest)
  let exponent : Int := match rest with
    | _ :: s :: r =>
      if s == '-' then -(digitsValue 10 r : Int)
      else if s == '+' then digitsValue 10 r else digitsValue 10 (s :: r)
    | _ => 0
  Binary64.ofDecimal false (digitsValue 10 (whole ++ fraction)) (exponent - fraction.length)

/-- The value of a number token. A decimal integer has at most 4300 digits. -/
def number? (t : Text) : Option Term :=
  let integer (n : Nat) : Term := .node .integer [.atom (Text.ofNat n)]
  let based := (t.drop 1).head?.map CodePoint.toChar
  let isBased := Text.startsWith t "0" && (Text.ofString "xXoObB").any fun c => some c.toChar == based
  if isBased then
    let base := match based with
      | some 'x' | some 'X' => 16
      | some 'o' | some 'O' => 8
      | _ => 2
    some (integer (digitsValue base (t.drop 2)))
  else if t.any fun (c : CodePoint) => c == 'j' || c == 'J' then
    some (.node .imaginary [.atom (floatValue t.dropLast).toText])
  else if t.any fun (c : CodePoint) => c == '.' || c == 'e' || c == 'E' then
    some (.node .float [.atom (floatValue t).toText])
  else
    let digits := t.filter (· != CodePoint.ofChar '_')
    if 4300 < digits.length then none else some (integer (digitsValue 10 digits))

/-- A string token taken apart. -/
structure Quoted where
  isBytes : Bool
  isRaw : Bool
  isFormatted : Bool
  isMarked : Bool
  body : Text

/-- The parts of a string token. -/
def quoted (t : Text) : Quoted :=
  let n := (LooseToken.leadLength? t).getD 0
  let lead := Text.lower (t.take n)
  let rest := t.drop n
  let size := match rest with
    | q :: _ => if 6 ≤ rest.length && Text.startsWith rest [q, q, q] then 3 else 1
    | [] => 0
  { isBytes := lead.contains (CodePoint.ofChar 'b')
    isRaw := lead.contains (CodePoint.ofChar 'r')
    isFormatted := lead.contains (CodePoint.ofChar 'f')
    isMarked := Text.startsWith t "u"
    body := (rest.drop size).take (rest.length - 2 * size) }

/-- The number written by exactly `count` hexadecimal digits, and what follows them. -/
def hexDigits? (count : Nat) (t : Text) : Option (Nat × Text) :=
  let digits := t.take count
  if digits.length == count && digits.all (fun c => c.hexValue?.isSome) then
    some (digitsValue 16 digits, t.drop count)
  else none

/-- What a one-letter escape stands for. -/
def shortEscape? (c : CodePoint) : Option Nat :=
  match c.val with
  | 0x5C | 0x27 | 0x22 => some c.val
  | 0x61 => some 0x07
  | 0x62 => some 0x08
  | 0x66 => some 0x0C
  | 0x6E => some 0x0A
  | 0x72 => some 0x0D
  | 0x74 => some 0x09
  | 0x76 => some 0x0B
  | _ => none

/-- An octal digit. -/
def isOctal (c : CodePoint) : Bool := 0x30 ≤ c.val && c.val ≤ 0x37

/-- One escape after its backslash: the code points it writes and what follows it. `named?` looks up a
character by its name. An unknown escape keeps its backslash. -/
def escape? (isBytes : Bool) (named? : Text → Option CodePoint) (t : Text) : Option (Text × Text) :=
  match t with
  | [] => some (['\\'], [])
  | c :: r =>
    if c == '\n' then some ([], r)
    else if isOctal c then
      let digits := (t.take 3).takeWhile isOctal
      let value := digitsValue 8 digits
      some ([CodePoint.ofNat (if isBytes then value % 256 else value)], t.drop digits.length)
    else match shortEscape? c with
      | some n => some ([CodePoint.ofNat n], r)
      | none =>
        if c == 'x' then (hexDigits? 2 r).map fun (n, rest) => ([CodePoint.ofNat n], rest)
        else if isBytes then some (['\\', c], r)
        else if c == 'u' then (hexDigits? 4 r).map fun (n, rest) => ([CodePoint.ofNat n], rest)
        else if c == 'U' then do
          let (n, rest) ← hexDigits? 8 r
          if n < 0x110000 then return ([CodePoint.ofNat n], rest) else none
        else if c == 'N' then do
          let rest ← Text.after? "\x7b" r
          let (name, rest) ← Text.cut? "\x7d" rest
          return ([← named? name], rest)
        else some (['\\', c], r)

/-- A string with its escapes resolved; `steps` bounds the code points. -/
def unescape? (isBytes : Bool) (named? : Text → Option CodePoint) : (steps : Nat) → Text → Option Text
  | 0, _ => some []
  | _ + 1, [] => some []
  | steps + 1, c :: r =>
    if c == '\\' then do
      let (written, rest) ← escape? isBytes named? r
      return written ++ (← unescape? isBytes named? steps rest)
    else return c :: (← unescape? isBytes named? steps r)

/-- The value of a string without expressions. Bytes are written in ASCII. -/
def value? (named? : Text → Option CodePoint) (isBytes isRaw : Bool) (body : Text) : Option Text :=
  if isBytes && !body.all CodePoint.isAscii then none
  else if isRaw then some body
  else unescape? isBytes named? (body.length + 1) body

end ChangeReview.Declaration.Literal
