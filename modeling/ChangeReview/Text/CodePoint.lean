/-!
# Code points

The unit of every text in this library. Surrogates are code points here, since a path or a file may
hold bytes that are not UTF-8 and each such byte is carried as one low surrogate.
-/

namespace ChangeReview

/-- A Unicode code point, a surrogate included. -/
structure CodePoint where
  val : Nat
  isLt : val < 0x110000
deriving DecidableEq

namespace CodePoint

/-- The code point of a character. -/
def ofChar (c : Char) : CodePoint :=
  ⟨c.toNat, by
    have h := c.valid
    simp only [UInt32.isValidChar, Nat.isValidChar] at h
    simp only [Char.toNat]
    omega⟩

instance : Coe Char CodePoint := ⟨ofChar⟩

instance : Inhabited CodePoint := ⟨ofChar 'a'⟩

/-- The code point numbered `n`, and U+FFFD for a number past the last code point. -/
def ofNat (n : Nat) : CodePoint :=
  if h : n < 0x110000 then ⟨n, h⟩ else ofChar '�'

/-- The character of a code point. A surrogate, which is no character, gives NUL. -/
def toChar (c : CodePoint) : Char := Char.ofNat c.val

/-- One half of a UTF-16 pair, never a character by itself. -/
def isSurrogate (c : CodePoint) : Bool := 0xD800 ≤ c.val && c.val ≤ 0xDFFF

/-- A surrogate that carries one undecodable byte, `0x80` to `0xFF`. -/
def isEscapedByte (c : CodePoint) : Bool := 0xDC80 ≤ c.val && c.val ≤ 0xDCFF

/-- One of the first 128 code points. -/
def isAscii (c : CodePoint) : Bool := c.val < 0x80

/-- An ASCII digit. -/
def isAsciiDigit (c : CodePoint) : Bool := 0x30 ≤ c.val && c.val ≤ 0x39

/-- An ASCII letter. -/
def isAsciiLetter (c : CodePoint) : Bool :=
  (0x41 ≤ c.val && c.val ≤ 0x5A) || (0x61 ≤ c.val && c.val ≤ 0x7A)

/-- The value of an ASCII hexadecimal digit. -/
def hexValue? (c : CodePoint) : Option Nat :=
  if c.isAsciiDigit then some (c.val - 0x30)
  else if 0x61 ≤ c.val && c.val ≤ 0x66 then some (c.val - 0x61 + 10)
  else if 0x41 ≤ c.val && c.val ≤ 0x46 then some (c.val - 0x41 + 10)
  else none

theorem ext {a b : CodePoint} (h : a.val = b.val) : a = b := by
  cases a; cases b; cases h; rfl

@[simp] theorem ofChar_val (c : Char) : (ofChar c).val = c.toNat := rfl

end CodePoint

/-- The first and last number of each run of a class, from `start` on. The counts are of the numbers outside
and inside the class, in turn. -/
def Text.runs (start : Nat) : List Nat → List (Nat × Nat)
  | outside :: inside :: counts =>
    let first := start + outside
    (first, first + inside - 1) :: runs (first + inside) counts
  | _ => []

end ChangeReview
