import ChangeReview.Text.Encoding

/-!
# The MD5 digest

The digest by which bodies are compared. It marks equality only; nothing rests on its strength.
-/

namespace ChangeReview.Digest

/-- The four words of the running digest. -/
structure Words where
  a : UInt32
  b : UInt32
  c : UInt32
  d : UInt32

/-- The digest of nothing. -/
def Words.start : Words := ⟨0x67452301, 0xEFCDAB89, 0x98BADCFE, 0x10325476⟩

/-- The constant added in each step. -/
def additions : List UInt32 :=
  [0xD76AA478, 0xE8C7B756, 0x242070DB, 0xC1BDCEEE, 0xF57C0FAF, 0x4787C62A, 0xA8304613, 0xFD469501,
    0x698098D8, 0x8B44F7AF, 0xFFFF5BB1, 0x895CD7BE, 0x6B901122, 0xFD987193, 0xA679438E, 0x49B40821,
    0xF61E2562, 0xC040B340, 0x265E5A51, 0xE9B6C7AA, 0xD62F105D, 0x02441453, 0xD8A1E681, 0xE7D3FBC8,
    0x21E1CDE6, 0xC33707D6, 0xF4D50D87, 0x455A14ED, 0xA9E3E905, 0xFCEFA3F8, 0x676F02D9, 0x8D2A4C8A,
    0xFFFA3942, 0x8771F681, 0x6D9D6122, 0xFDE5380C, 0xA4BEEA44, 0x4BDECFA9, 0xF6BB4B60, 0xBEBFBC70,
    0x289B7EC6, 0xEAA127FA, 0xD4EF3085, 0x04881D05, 0xD9D4D039, 0xE6DB99E5, 0x1FA27CF8, 0xC4AC5665,
    0xF4292244, 0x432AFF97, 0xAB9423A7, 0xFC93A039, 0x655B59C3, 0x8F0CCC92, 0xFFEFF47D, 0x85845DD1,
    0x6FA87E4F, 0xFE2CE6E0, 0xA3014314, 0x4E0811A1, 0xF7537E82, 0xBD3AF235, 0x2AD7D2BB, 0xEB86D391]

/-- The rotations of the four rounds, each for four steps in turn. -/
def rotations (step : Nat) : UInt32 :=
  let pick (a b c d : UInt32) : UInt32 :=
    match step % 4 with
    | 0 => a
    | 1 => b
    | 2 => c
    | _ => d
  match step / 16 with
  | 0 => pick 7 12 17 22
  | 1 => pick 5 9 14 20
  | 2 => pick 4 11 16 23
  | _ => pick 6 10 15 21

/-- A word rotated to the left. -/
def rotate (x count : UInt32) : UInt32 := (x <<< count) ||| (x >>> (32 - count))

/-- One step of the compression of a block. -/
def step (block : Array UInt32) (w : Words) (index : Nat) (addition : UInt32) : Words :=
  let (mix, place) : UInt32 × Nat :=
    match index / 16 with
    | 0 => ((w.b &&& w.c) ||| (~~~w.b &&& w.d), index)
    | 1 => ((w.d &&& w.b) ||| (~~~w.d &&& w.c), (5 * index + 1) % 16)
    | 2 => (w.b ^^^ w.c ^^^ w.d, (3 * index + 5) % 16)
    | _ => (w.c ^^^ (w.b ||| ~~~w.d), (7 * index) % 16)
  let sum := w.a + mix + addition + (block[place]?).getD 0
  ⟨w.d, w.b + rotate sum (rotations index), w.b, w.c⟩

/-- The digest after one more block. -/
def compress (w : Words) (block : Array UInt32) : Words :=
  let r := additions.zipIdx.foldl (fun r (addition, index) => step block r index addition) w
  ⟨w.a + r.a, w.b + r.b, w.c + r.c, w.d + r.d⟩

/-- The bytes of a number, least first. -/
def littleEndian (count n : Nat) : Bytes :=
  (List.range count).map fun i => UInt8.ofNat (n / Nat.pow 256 i % 256)

/-- The message with its padding: a one bit, zeros, and the length in bits. -/
def padded (message : Bytes) : Bytes :=
  let zeros := (119 - message.length % 64) % 64
  message ++ [0x80] ++ List.replicate zeros 0 ++ littleEndian 8 (message.length * 8)

/-- Bytes read as words, least byte first. -/
def words : Bytes → List UInt32
  | a :: b :: c :: d :: r =>
    (a.toUInt32 ||| (b.toUInt32 <<< 8) ||| (c.toUInt32 <<< 16) ||| (d.toUInt32 <<< 24)) :: words r
  | _ => []

/-- The digest after `blocks` blocks of sixteen words. -/
def fold : (blocks : Nat) → Words → List UInt32 → Words
  | 0, w, _ => w
  | blocks + 1, w, message => fold blocks (compress w (message.take 16).toArray) (message.drop 16)

/-- The digest of a message in hexadecimal. -/
def md5 (message : Bytes) : Text :=
  let all := words (padded message)
  let w := fold (all.length / 16) .start all
  [w.a, w.b, w.c, w.d].flatMap fun x => (littleEndian 4 x.toNat).flatMap fun b => Text.hex 2 b.toNat

/-- The digest of a body, blanks at its ends left out and others counted as one. -/
def ofBody (body : Text) : Except Failure Text := do
  return md5 (← (Text.collapseBlanks body.trim).encode)

end ChangeReview.Digest
