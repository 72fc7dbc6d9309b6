import ChangeReview.Failure

/-!
# Texts as bytes

UTF-8 in both directions. A byte that is no part of a well-formed sequence can be carried through a text
as one low surrogate, and comes back as the same byte.
-/

namespace ChangeReview

/-- A sequence of bytes. -/
abbrev Bytes := List UInt8

namespace CodePoint

/-- The UTF-8 sequence of a code point. -/
def utf8 (c : CodePoint) : Bytes :=
  let tail (unit : Nat) : UInt8 := UInt8.ofNat (0x80 + c.val / unit % 64)
  if c.val < 0x80 then [UInt8.ofNat c.val]
  else if c.val < 0x800 then [UInt8.ofNat (0xC0 + c.val / 64), tail 1]
  else if c.val < 0x10000 then [UInt8.ofNat (0xE0 + c.val / 4096), tail 64, tail 1]
  else [UInt8.ofNat (0xF0 + c.val / 262144), tail 4096, tail 64, tail 1]

end CodePoint

namespace Bytes

/-- A byte inside or at the end of a sequence. -/
def isTail (b : UInt8) : Bool := 0x80 ≤ b.toNat && b.toNat < 0xC0

/-- The code point whose sequence starts with `b`, the last six bits of each following byte appended.
Refused if a byte is no tail, or if the value is below `least` or a surrogate or past the last one. -/
def assemble? (least lead : Nat) (tails : Bytes) : Option CodePoint :=
  let value := tails.foldl (fun n b => n * 64 + b.toNat % 64) lead
  if h : value < 0x110000 then
    let c : CodePoint := ⟨value, h⟩
    if tails.all isTail && least ≤ value && !c.isSurrogate then some c else none
  else none

/-- The code point at the front of the bytes, and how many bytes follow its first. -/
def first? (b : UInt8) (r : Bytes) : Option (CodePoint × Nat) :=
  let n := b.toNat
  let sequence (least lead count : Nat) : Option (CodePoint × Nat) :=
    if (r.take count).length = count then (assemble? least lead (r.take count)).map (·, count) else none
  if n < 0x80 then sequence 0 n 0
  else if n < 0xC0 then none
  else if n < 0xE0 then sequence 0x80 (n - 0xC0) 1
  else if n < 0xF0 then sequence 0x800 (n - 0xE0) 2
  else if n < 0xF8 then sequence 0x10000 (n - 0xF0) 3
  else none

/-- The code points of the bytes; a byte outside every sequence stands by itself. -/
def units : Bytes → List (CodePoint ⊕ UInt8)
  | [] => []
  | b :: r =>
    match first? b r with
    | some (c, count) => .inl c :: units (r.drop count)
    | none => .inr b :: units r
termination_by bytes => bytes.length
decreasing_by all_goals simp [List.length_drop]; try omega

/-- The text of the bytes, if they are UTF-8. -/
def decode? (bytes : Bytes) : Option Text :=
  (units bytes).mapM fun unit => match unit with
    | .inl c => some c
    | .inr _ => none

/-- Whether the byte after `lead` keeps its sequence within the shortest forms and the code points. -/
def isSecond (lead b : UInt8) : Bool :=
  let n := b.toNat
  if lead == 0xE0 then 0xA0 ≤ n && n < 0xC0
  else if lead == 0xED then 0x80 ≤ n && n < 0xA0
  else if lead == 0xF0 then 0x90 ≤ n && n < 0xC0
  else if lead == 0xF4 then 0x80 ≤ n && n < 0x90
  else isTail b

/-- Why no sequence starts with `lead`, and how many bytes are at fault. -/
def fault (lead : UInt8) (r : Bytes) : Nat × DecodeFault :=
  let n := lead.toNat
  if n < 0xC2 || 0xF4 < n then (1, .startByte)
  else
    let count := if n < 0xE0 then 1 else if n < 0xF0 then 2 else 3
    let valid := match r with
      | [] => 0
      | b :: rest => if isSecond lead b then 1 + ((rest.take (count - 1)).takeWhile isTail).length else 0
    (1 + valid, if r.length == valid then .endOfData else .continuation)

/-- The text of the bytes from a position on, or the first fault. -/
def decodeFrom (position : Nat) : Bytes → Except Failure Text
  | [] => .ok []
  | b :: r =>
    match first? b r with
    | some (c, count) => (decodeFrom (position + 1 + count) (r.drop count)).map (c :: ·)
    | none =>
      let (length, why) := fault b r
      .error (.undecodable position ((b :: r).take length) why)
termination_by bytes => bytes.length
decreasing_by
  rw [List.length_drop]
  exact Nat.lt_succ_of_le (Nat.sub_le ..)

/-- The text of the bytes, or the first fault in them. -/
def decode (bytes : Bytes) : Except Failure Text := decodeFrom 0 bytes

/-- The surrogate that carries a byte. -/
def carrier (b : UInt8) : CodePoint := CodePoint.ofNat (0xDC00 + b.toNat)

/-- The text of the bytes, each byte outside UTF-8 carried by a surrogate. -/
def decodeCarrying (bytes : Bytes) : Text :=
  (units bytes).map fun unit => match unit with
    | .inl c => c
    | .inr b => carrier b

end Bytes

namespace Text

/-- The UTF-8 bytes of a text; a surrogate has none. -/
def encode (t : Text) : Except Failure Bytes := do
  t.checkEncodable
  return t.flatMap CodePoint.utf8

/-- The bytes of a text in which surrogates may carry bytes. Any other surrogate is refused. -/
def encodeCarrying (t : Text) : Except Failure Bytes :=
  let isStray (c : CodePoint) := c.isSurrogate && !c.isEscapedByte
  match t.findIdx? isStray with
  | none => .ok (t.flatMap fun c => if c.isEscapedByte then [UInt8.ofNat (c.val - 0xDC00)] else c.utf8)
  | some position => .error (.unencodable position ((t.drop position).takeWhile isStray))

end Text

end ChangeReview
