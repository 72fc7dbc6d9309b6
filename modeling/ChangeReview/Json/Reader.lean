import ChangeReview.Json.Basic

/-!
# Reading JSON

A reader for one JSON document. It also takes the words `NaN`, `Infinity` and `-Infinity`, and a lone
surrogate written as an escape. A repeated key keeps its first place and its last value.
-/

namespace ChangeReview.Json

/-- The rest after blanks. -/
def skipBlanks (t : Text) : Text :=
  t.dropWhile fun c => c == ' ' || c == '\t' || c == '\n' || c == '\r'

/-- Four hexadecimal digits. -/
def readUnit : Text → Option (Nat × Text)
  | a :: b :: c :: d :: rest => do
    return (((← a.hexValue?) * 16 + (← b.hexValue?)) * 256 + (← c.hexValue?) * 16 + (← d.hexValue?),
      rest)
  | _ => none

/-- A `\u` escape after its two first characters: a pair of surrogates is one code point. -/
def readEscapedUnit (t : Text) : Option (CodePoint × Text) := do
  let (high, rest) ← readUnit t
  if 0xD800 ≤ high && high < 0xDC00 then
    match (Text.after? "\\u" rest).bind readUnit with
    | some (low, rest') =>
      if 0xDC00 ≤ low && low < 0xE000 then
        return (CodePoint.ofNat (0x10000 + (high - 0xD800) * 0x400 + (low - 0xDC00)), rest')
    | none => pure ()
  return (CodePoint.ofNat high, rest)

/-- What a one-letter escape stands for. -/
def shortEscape? (c : CodePoint) : Option CodePoint :=
  match c.toChar with
  | '"' => some '"'
  | '\\' => some '\\'
  | '/' => some '/'
  | 'b' => some (CodePoint.ofNat 0x08)
  | 'f' => some (CodePoint.ofNat 0x0C)
  | 'n' => some '\n'
  | 'r' => some '\r'
  | 't' => some '\t'
  | _ => none

/-- The body of a string up to its closing quote; at most `steps` code points. -/
def readString : (steps : Nat) → Text → Option (Text × Text)
  | 0, _ => none
  | _ + 1, [] => none
  | steps + 1, c :: rest =>
    if c == '"' then some ([], rest)
    else if c == '\\' then
      match rest with
      | [] => none
      | e :: rest' =>
        if e == 'u' then do
          let (unit, rest'') ← readEscapedUnit rest'
          let (body, tail) ← readString steps rest''
          return (unit :: body, tail)
        else do
          let (body, tail) ← readString steps rest'
          return ((← shortEscape? e) :: body, tail)
    else if c.val < 0x20 then none
    else do
      let (body, tail) ← readString steps rest
      return (c :: body, tail)

/-- A run of ASCII digits and what follows it. -/
def readDigits (t : Text) : Text × Text := t.span CodePoint.isAsciiDigit

/-- The number written by ASCII digits. -/
def digitsValue (t : Text) : Nat := t.foldl (fun n c => n * 10 + (c.val - 0x30)) 0

/-- The exponent part of a numeral, when one stands there. -/
def readExponent (t : Text) : Option (Int × Text) :=
  match t with
  | e :: rest =>
    if e == 'e' || e == 'E' then
      let (negative, rest) :=
        match rest with
        | s :: rest' => if s == '-' then (true, rest') else if s == '+' then (false, rest') else (false, rest)
        | [] => (false, rest)
      let (digits, rest) := readDigits rest
      if digits.isEmpty then none
      else some (if negative then -(digitsValue digits : Int) else digitsValue digits, rest)
    else none
  | [] => none

/-- The fraction of a numeral, when one stands there. -/
def readFraction (t : Text) : Option (Text × Text) :=
  match t with
  | p :: rest =>
    let (digits, rest') := readDigits rest
    if p == '.' && !digits.isEmpty then some (digits, rest') else none
  | [] => none

/-- A numeral without its sign. An integer part has no leading zero. -/
def readMagnitude (negative : Bool) (t : Text) : Option (Json × Text) :=
  let (run, _) := readDigits t
  let whole := if run.startsWith "0" then run.take 1 else run
  let rest := t.drop whole.length
  if whole.isEmpty then none
  else
    let fraction := readFraction rest
    let afterFraction := (fraction.map (·.2)).getD rest
    let exponent := readExponent afterFraction
    let afterExponent := (exponent.map (·.2)).getD afterFraction
    if fraction.isNone && exponent.isNone then
      let n := digitsValue whole
      some (.int (if negative then -(n : Int) else n), rest)
    else
      let decimals := (fraction.map (·.1)).getD []
      let power := (exponent.map (·.1)).getD 0 - decimals.length
      some (.real (Binary64.ofDecimal negative (digitsValue (whole ++ decimals)) power), afterExponent)

/-- A fixed word, or a number. -/
def readWord (t : Text) : Option (Json × Text) :=
  let words : List (Text × Json) :=
    [("null", .null), ("true", .bool true), ("false", .bool false), ("NaN", .real .notANumber),
      ("Infinity", .real (.infinite false)), ("-Infinity", .real (.infinite true))]
  match words.findSome? fun (word, value) => (Text.after? word t).map fun rest => (value, rest) with
  | some found => some found
  | none =>
    match Text.after? "-" t with
    | some rest => readMagnitude true rest
    | none => readMagnitude false t

mutual

/-- One value at the start of the text. -/
def readValue : (depth : Nat) → Text → Option (Json × Text)
  | 0, _ => none
  | depth + 1, t =>
    match t with
    | [] => none
    | c :: rest =>
      if c == '"' then (readString (rest.length + 1) rest).map fun (body, tail) => (.str body, tail)
      else if c == '[' then
        match skipBlanks rest with
        | [] => none
        | d :: after =>
          if d == ']' then some (.arr [], after)
          else (readItems depth (d :: after)).map fun (items, tail) => (.arr items, tail)
      else if c == '\x7b' then
        match skipBlanks rest with
        | [] => none
        | d :: after =>
          if d == '\x7d' then some (.obj [], after)
          else (readMembers depth (d :: after)).map fun (members, tail) =>
            (.obj (OrderedMap.ofList members), tail)
      else readWord t

/-- The items of an array up to its closing bracket. -/
def readItems : (depth : Nat) → Text → Option (List Json × Text)
  | 0, _ => none
  | depth + 1, t => do
    let (item, rest) ← readValue depth t
    match skipBlanks rest with
    | [] => none
    | d :: after =>
      if d == ']' then return ([item], after)
      else if d == ',' then
        let (items, tail) ← readItems depth (skipBlanks after)
        return (item :: items, tail)
      else none

/-- The members of an object up to its closing brace. -/
def readMembers : (depth : Nat) → Text → Option (List (Text × Json) × Text)
  | 0, _ => none
  | depth + 1, t => do
    match t with
    | [] => none
    | c :: rest =>
      if c != '"' then none
      else
        let (key, rest) ← readString (rest.length + 1) rest
        let rest ← Text.after? ":" (skipBlanks rest)
        let (value, rest) ← readValue depth (skipBlanks rest)
        match skipBlanks rest with
        | [] => none
        | d :: after =>
          if d == '\x7d' then return ([(key, value)], after)
          else if d == ',' then
            let (members, tail) ← readMembers depth (skipBlanks after)
            return ((key, value) :: members, tail)
          else none

end

/-- The value of a whole document. -/
def read? (t : Text) : Option Json := do
  let (value, rest) ← readValue (t.length + 1) (skipBlanks t)
  if (skipBlanks rest).isEmpty then return value else none

end ChangeReview.Json
