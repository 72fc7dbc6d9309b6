import ChangeReview.Text.Encoding

/-!
# Quoted paths

A path in the header of a patch may stand in double quotes, with escapes for octets that are not
printable ASCII. Writing quotes every path; reading also takes paths without quotes.
-/

namespace ChangeReview.Path

/-- One octet inside quotes. -/
def quoteOctet (b : UInt8) : Text :=
  let n := b.toNat
  if 0x20 ≤ n && n ≤ 0x7E && n != 0x22 && n != 0x5C then [CodePoint.ofNat n]
  else '\\' :: [n / 64, n / 8 % 8, n % 8].map fun digit => CodePoint.ofNat (0x30 + digit)

/-- A path in quotes. -/
def quote (path : Text) : Except Failure Text := do
  return "\"" ++ (← path.encodeCarrying).flatMap quoteOctet ++ ("\"" : Text)

/-- An octal digit. -/
def isOctal (c : CodePoint) : Bool := 0x30 ≤ c.val && c.val ≤ 0x37

/-- What a one-letter escape stands for. -/
def shortEscape? (c : CodePoint) : Option CodePoint :=
  match c.val with
  | 0x61 => some (CodePoint.ofNat 0x07)
  | 0x62 => some (CodePoint.ofNat 0x08)
  | 0x74 => some (CodePoint.ofNat 0x09)
  | 0x6E => some (CodePoint.ofNat 0x0A)
  | 0x76 => some (CodePoint.ofNat 0x0B)
  | 0x66 => some (CodePoint.ofNat 0x0C)
  | 0x72 => some (CodePoint.ofNat 0x0D)
  | 0x5C | 0x22 => some c
  | _ => none

/-- The number of octal digits, of at most three, at the front. -/
def octalLength (t : Text) : Nat := ((t.take 3).takeWhile isOctal).length

/-- The number written by octal digits. -/
def octalValue (digits : Text) : Nat := digits.foldl (fun n c => n * 8 + (c.val - 0x30)) 0

/-- The inside of quotes with its escapes resolved. Octets in a row are decoded together; `octets` are
those just read, last first. -/
def unquote (octets : Bytes) : Text → Except Failure Text
  | [] => .ok (Bytes.decodeCarrying octets.reverse)
  | c :: r =>
    let before := Bytes.decodeCarrying octets.reverse
    if c != '\\' then do return before ++ c :: (← unquote [] r)
    else match r with
      | [] => .error .incompleteEscape
      | d :: rest =>
        if isOctal d then
          let count := octalLength (d :: rest)
          let value := octalValue ((d :: rest).take count)
          if 0xFF < value then .error .octetOutOfRange
          else unquote (UInt8.ofNat value :: octets) (rest.drop (count - 1))
        else match shortEscape? d with
          | some e => do return before ++ e :: (← unquote [] rest)
          | none => .error (.unsupportedEscape d)
termination_by t => t.length
decreasing_by all_goals simp_all [List.length_drop]; try omega

/-- A path as written in a patch, without quotes and escapes. -/
def decode (token : Text) : Except Failure Text :=
  if Text.startsWith token "\"" && Text.endsWith token "\"" then unquote [] (token.drop 1).dropLast
  else .ok token

end ChangeReview.Path
