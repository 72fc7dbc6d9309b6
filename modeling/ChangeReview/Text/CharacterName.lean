import ChangeReview.Text.Basic
import ChangeReview.Text.NameRows.Words
import ChangeReview.Text.NameRows.Modern
import ChangeReview.Text.NameRows.Symbols
import ChangeReview.Text.NameRows.Further

/-!
# Characters by name

Finds the character of a Unicode name. Most names are listed, in any case of letters. Names of ideographs hold
their code point, and names of Hangul syllables are made of the sounds they are written with.
-/

namespace ChangeReview.CharacterName

/-- What is read at a place of the rows. -/
inductive Part where
  | number
  | mark
  | letters
deriving DecidableEq

/-- A place in the rows of names: the name that is read there, and the character found before it. -/
structure Cursor where
  code : Nat := 0
  /-- The letters of the name, the last first. -/
  letters : List Char := []
  shared : Nat := 0
  part : Part := .mark
  found : Option Nat := none

namespace Cursor

/-- The cursor at the end of a name: the name is compared with the one sought, its last letter first. -/
def finish (sought : List Char) (c : Cursor) : Cursor :=
  if c.part = .letters && c.found.isNone && c.letters == sought then { c with found := some c.code } else c

/-- The cursor after a small letter: the next name begins with what it shares. -/
def share (c : Cursor) (mark : Char) : Cursor :=
  let shared := c.shared + (mark.toNat - 97)
  { c with
    code := if c.part = .number then c.code else c.code + 1
    letters := c.letters.drop (c.letters.length - shared)
    shared := 0
    part := .letters }

/-- The cursor after one more character of the rows. -/
def step (sought : List Char) (c : Cursor) (next : Char) : Cursor :=
  if next = ';' then { c.finish sought with code := 0, part := .number }
  else if next = '+' then
    let c := c.finish sought
    { c with
      code := if c.part = .letters then c.code + 1 else c.code
      shared := c.shared + 26
      part := .number }
  else if next.isLower then (c.finish sought).share next
  else if c.part = .number then
    { c with code := c.code * 16 + ((CodePoint.ofChar next).hexValue?.getD 0) }
  else { c with letters := next :: c.letters }

end Cursor

/-- The words that the rows have marks for. -/
def words : Array String := (Text.nameWords.flatMap (·.splitOn "|")).toArray

/-- The place of the word that a character of the rows stands for: marks come first, then letters beyond
ASCII in three runs. -/
def wordIndex? (c : Char) : Option Nat :=
  if c.toNat < 0x80 then Text.nameMarks.toList.idxOf? c
  else if c.toNat < 0x400 then some (23 + (c.toNat - 0xC0))
  else if c.toNat < 0x482 then some (599 + (c.toNat - 0x400))
  else some (729 + (c.toNat - 0x48A))

/-- A character of the rows, or the word it stands for. -/
def spelled (c : Char) : String := ((wordIndex? c).bind (words[·]?)).getD (String.singleton c)

/-- The code point of a listed name, written in capitals. -/
def listed? (table : List String) (name : Text) : Option Nat :=
  let sought := (name.map CodePoint.toChar).reverse
  let read (c : Cursor) (next : Char) : Cursor := (spelled next).foldl (Cursor.step sought) c
  let last := table.foldl (fun c row => row.foldl read c) {}
  (last.finish sought).found

/-- The tables of listed names. -/
def tables : List (List String) :=
  [Text.modernNames, Text.otherNames, Text.symbolNames, Text.easternNames, Text.ancientNames, Text.furtherNames]

/-- A small ASCII letter as a capital. -/
def capital (c : CodePoint) : CodePoint :=
  if 0x61 ≤ c.val && c.val ≤ 0x7A then CodePoint.ofNat (c.val - 0x20) else c

/-- The number of four or five hexadecimal digits in capitals. -/
def codePoint? (digits : Text) : Option Nat :=
  let isCapital (c : CodePoint) : Bool := c.isAsciiDigit || (0x41 ≤ c.val && c.val ≤ 0x46)
  if (digits.length = 4 || digits.length = 5) && digits.all isCapital then
    some (digits.foldl (fun n c => n * 16 + c.hexValue?.getD 0) 0)
  else none

/-- The code point of a name made of a lead and a number, in one of the ranges. -/
def numbered? (lead : Text) (ranges : List (Nat × Nat)) (name : Text) : Option Nat := do
  let n ← codePoint? (← Text.after? lead name)
  if ranges.any fun (first, last) => first ≤ n && n ≤ last then some n else none

/-- The unified ideographs. -/
def ideographs : List (Nat × Nat) :=
  [(0x3400, 0x4DBF), (0x4E00, 0x9FFF), (0x20000, 0x2A6DF), (0x2A700, 0x2B738), (0x2B740, 0x2B81D),
    (0x2B820, 0x2CEA1), (0x2CEB0, 0x2EBE0), (0x30000, 0x3134A)]

/-- The sounds that begin a syllable. -/
def leads : List Text :=
  Text.list ["G", "GG", "N", "D", "DD", "R", "M", "B", "BB", "S", "SS", "", "J", "JJ", "C", "K", "T", "P", "H"]

/-- The vowels of a syllable. -/
def vowels : List Text :=
  Text.list ["A", "AE", "YA", "YAE", "EO", "E", "YEO", "YE", "O", "WA", "WAE", "OE", "YO", "U", "WEO", "WE",
    "WI", "YU", "EU", "YI", "I"]

/-- The sounds that end a syllable. -/
def tails : List Text :=
  Text.list ["", "G", "GG", "GS", "N", "NJ", "NH", "D", "L", "LG", "LM", "LB", "LS", "LT", "LP", "LH", "M",
    "B", "BS", "S", "SS", "NG", "J", "C", "K", "T", "P", "H"]

/-- The code point of a Hangul syllable by its sounds. -/
def syllable? (name : Text) : Option Nat := do
  let isVowel (c : CodePoint) : Bool := (Text.ofString "AEIOUWY").contains c
  let sounds ← Text.after? "HANGUL SYLLABLE " name
  let (lead, rest) := sounds.span (!isVowel ·)
  let (vowel, tail) := rest.span isVowel
  return 0xAC00 + ((← leads.idxOf? lead) * 21 + (← vowels.idxOf? vowel)) * 28 + (← tails.idxOf? tail)

/-- The character of a name. -/
def named? (name : Text) : Option CodePoint :=
  let capitals := name.map capital
  let found :=
    if name.startsWith "HANGUL SYLLABLE " then syllable? name
    else if name.startsWith "CJK UNIFIED IDEOGRAPH-" then numbered? "CJK UNIFIED IDEOGRAPH-" ideographs name
    else
      (numbered? "CJK COMPATIBILITY IDEOGRAPH-" [(0xF900, 0xFA6D), (0xFA70, 0xFAD9), (0x2F800, 0x2FA1D)]
        capitals).or <|
      (numbered? "KHITAN SMALL SCRIPT CHARACTER-" [(0x18B00, 0x18CD5)] capitals).or <|
      (numbered? "NUSHU CHARACTER-" [(0x1B170, 0x1B2FB)] capitals).or <|
      tables.findSome? (listed? · capitals)
  found.map CodePoint.ofNat

end ChangeReview.CharacterName
