import ChangeReview.Text.Classes

/-!
# Texts

A text is a list of code points. String literals stand for texts wherever a text is expected.
Here are the operations on texts that the rest of the library is written in: cutting at a separator,
splitting into lines and words, trimming, replacing, and decimal and hexadecimal numerals. Counts of
parts, lines or code points are summed up to totals.
-/

namespace ChangeReview

/-- A sequence of code points. -/
abbrev Text := List CodePoint

namespace Text

/-- The text a string literal writes. -/
def ofString (s : String) : Text := s.toList.map CodePoint.ofChar

instance : Coe String Text := ⟨ofString⟩

/-- The texts a list of string literals writes. -/
def list (strings : List String) : List Text := strings.map ofString

/-- The characters of a text as a string. Surrogates come out as NUL. -/
def toString (t : Text) : String := String.ofList (t.map CodePoint.toChar)

/-- Order by code point, a shorter text before its extensions. -/
def lt : Text → Text → Bool
  | _, [] => false
  | [], _ :: _ => true
  | a :: r, b :: s => a.val < b.val || (a.val == b.val && lt r s)

/-- `t` stands at or before `u` in the order by code point. -/
def le (t u : Text) : Bool := !lt u t

/-- Sorted by code point, equal texts in their given order. -/
def sort (ts : List Text) : List Text := ts.mergeSort le

/-- Whether `t` begins with `lead`. -/
def startsWith (t lead : Text) : Bool := lead.isPrefixOf t

/-- Whether `t` ends with `tail`. -/
def endsWith (t tail : Text) : Bool := tail.isSuffixOf t

/-- What follows `lead` in a text that begins with it. -/
def after? : (lead t : Text) → Option Text
  | [], t => some t
  | _ :: _, [] => none
  | a :: lead, b :: t => if a == b then after? lead t else none

/-- What precedes `tail` in a text that ends with it. -/
def before? (tail : Text) (t : Text) : Option Text :=
  if t.endsWith tail then some (t.take (t.length - tail.length)) else none

/-- The parts of `t` around the first occurrence of `sep`. -/
def cut? (sep : Text) : Text → Option (Text × Text)
  | [] => if sep.isEmpty then some ([], []) else none
  | c :: r =>
    match after? sep (c :: r) with
    | some rest => some ([], rest)
    | none => (cut? sep r).map fun (before, rest) => (c :: before, rest)

/-- The parts of `t` around the last occurrence of `sep`. -/
def cutLast? (sep : Text) : Text → Option (Text × Text)
  | [] => if sep.isEmpty then some ([], []) else none
  | c :: r =>
    match cutLast? sep r with
    | some (before, rest) => some (c :: before, rest)
    | none => (after? sep (c :: r)).map fun rest => ([], rest)

/-- Whether `part` occurs in `t`. -/
def includes (t part : Text) : Bool := (cut? part t).isSome

/-- The position of the first occurrence of `part`. -/
def indexOf? (t part : Text) : Option Nat := (cut? part t).map (·.1.length)

/-- The part before the first `sep`, or all of a text without one. -/
def upTo (sep : Text) (t : Text) : Text := ((cut? sep t).map (·.1)).getD t

/-- The part after the last `sep`, or all of a text without one. -/
def afterLast (sep : Text) (t : Text) : Text := ((cutLast? sep t).map (·.2)).getD t

/-- The pieces of `t` between occurrences of one code point. -/
def splitOn (sep : CodePoint) : Text → List Text
  | [] => [[]]
  | c :: r =>
    if c == sep then [] :: splitOn sep r
    else match splitOn sep r with
      | [] => [[c]]
      | piece :: pieces => (c :: piece) :: pieces

/-- The pieces of `t` between occurrences of `sep`, taken from the left; `steps` bounds their number. -/
def splitSteps (sep : Text) : (steps : Nat) → Text → List Text
  | 0, t => [t]
  | steps + 1, t =>
    match cut? sep t with
    | some (piece, rest) => piece :: splitSteps sep steps rest
    | none => [t]

/-- The pieces of `t` between occurrences of `sep`, taken from the left. -/
def splitBy (sep t : Text) : List Text := splitSteps sep t.length t

/-- The maximal runs of `t` without white space. -/
def words : Text → List Text
  | [] => []
  | c :: r =>
    if c.isBlank then words r
    else match r with
      | [] => [[c]]
      | d :: s =>
        if d.isBlank then [c] :: words (d :: s)
        else match words (d :: s) with
          | [] => [[c]]
          | word :: rest => (c :: word) :: rest

/-- The lines of `t`, each with the line break that ends it. A carriage return and the line feed
after it are one break. -/
def linesWithBreaks : Text → List Text
  | [] => []
  | c :: r =>
    if c == '\r' then
      match r with
      | [] => [[c]]
      | d :: s => if d == '\n' then [c, d] :: linesWithBreaks s else [c] :: linesWithBreaks (d :: s)
    else if c.isLineBreak then [c] :: linesWithBreaks r
    else match linesWithBreaks r with
      | [] => [[c]]
      | line :: lines => (c :: line) :: lines

/-- A line without the break that ends it. -/
def withoutBreak (line : Text) : Text := line.takeWhile (!·.isLineBreak)

/-- The lines of `t` without their breaks. -/
def lines (t : Text) : List Text := t.linesWithBreaks.map withoutBreak

/-- `t` without leading white space. -/
def trimLeft (t : Text) : Text := t.dropWhile CodePoint.isBlank

/-- `t` without the code points of a class at its end. -/
def dropRightWhile (p : CodePoint → Bool) (t : Text) : Text :=
  t.foldr (fun c kept => if kept.isEmpty && p c then [] else c :: kept) []

/-- `t` without trailing white space. -/
def trimRight (t : Text) : Text := t.dropRightWhile CodePoint.isBlank

/-- `t` without white space at either end. -/
def trim (t : Text) : Text := t.trimLeft.trimRight

/-- Only white space, or nothing. -/
def isBlank (t : Text) : Bool := t.all CodePoint.isBlank

/-- The texts joined by `sep`. -/
def join (sep : Text) (ts : List Text) : Text := List.intercalate sep ts

/-- The texts without their later repetitions. -/
def distinct (ts : List Text) : List Text :=
  ts.foldl (fun seen t => if seen.contains t then seen else seen ++ [t]) []

/-- `t` with each run of white space written as one blank. -/
def collapseBlanks : Text → Text
  | [] => []
  | c :: r =>
    if c.isBlank then
      match collapseBlanks r with
      | [] => [CodePoint.ofChar ' ']
      | d :: s => if d == ' ' then d :: s else ' ' :: d :: s
    else c :: collapseBlanks r

/-- Carriage returns, and those before a line feed, as line feeds. -/
def unifyBreaks : Text → Text
  | [] => []
  | c :: r =>
    if c == '\r' then
      match r with
      | [] => ['\n']
      | d :: r' => if d == '\n' then '\n' :: unifyBreaks r' else '\n' :: unifyBreaks (d :: r')
    else c :: unifyBreaks r

/-- The numeral of `n` in base ten. -/
def ofNat (n : Nat) : Text := (Nat.toDigits 10 n).map CodePoint.ofChar

/-- The numeral of `n` in base ten, a minus sign before a negative one. -/
def ofInt : Int → Text
  | .ofNat n => ofNat n
  | .negSucc n => '-' :: ofNat (n + 1)

/-- The numeral of `n` in lower-case base sixteen, filled with zeros to `width` digits. -/
def hex (width n : Nat) : Text :=
  let digits : Text := (Nat.toDigits 16 n).map CodePoint.ofChar
  List.replicate (width - digits.length) (CodePoint.ofChar '0') ++ digits

/-- The number written by decimal digits of any script; a numeral has at least one. -/
def decimal? (t : Text) : Option Nat :=
  if t.isEmpty then none
  else t.foldl (fun value c => do return (← value) * 10 + (← c.decimalValue?)) (some 0)

/-- ASCII capitals, and the Kelvin sign, in lower case. Enough to look for ASCII words in any case. -/
def lower (t : Text) : Text :=
  t.map fun c =>
    if 0x41 ≤ c.val && c.val ≤ 0x5A then CodePoint.ofNat (c.val + 0x20)
    else if c.val == 0x212A then 'k' else c

end Text

/-- The sum of counts. -/
def total (counts : List Nat) : Nat := counts.foldr (· + ·) 0

@[simp] theorem total_nil : total [] = 0 := rfl

@[simp] theorem total_cons (n : Nat) (counts : List Nat) : total (n :: counts) = n + total counts := rfl

theorem total_append (a b : List Nat) : total (a ++ b) = total a + total b := by
  induction a with
  | nil => rw [List.nil_append, total_nil, Nat.zero_add]
  | cons n a ih => rw [List.cons_append, total_cons, total_cons, ih, Nat.add_assoc]

end ChangeReview
