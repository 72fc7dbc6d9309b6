import ChangeReview.Text.Basic
import ChangeReview.Text.CompatibilityRows

/-!
# Compatibility composition

Identifiers that differ only by compatibility characters are the same name. A name is decomposed,
its combining marks are put in canonical order, and it is composed again. The tables hold identifier
characters; Hangul syllables follow their arithmetic.
-/

namespace ChangeReview.Text

/-- The rows of a table, each with its first code point in place of the distance. -/
def readRows (table : List String) : Array (List Nat) :=
  let number (word : String) : Nat := (ofString word).foldl (fun n c => n * 16 + c.hexValue?.getD 0) 0
  let add (rows : Array (List Nat)) (row : String) : Array (List Nat) :=
    match row.splitOn " " with
    | [] => rows
    | distance :: rest =>
      let before := (rows.back?.bind List.head?).getD 0
      rows.push ((before + if distance.isEmpty then 1 else number distance) :: rest.map number)
  (table.flatMap (·.splitOn ";")).foldl add #[]

/-- Runs of code points that map to single code points. -/
def singleRows : Array (List Nat) := readRows singleMappings

/-- Code points that map to sequences. -/
def sequenceRows : Array (List Nat) := readRows sequenceMappings

/-- Runs of code points of one combining class. -/
def combiningRows : Array (List Nat) := readRows combiningClasses

/-- Pairs of code points with their composite. -/
def compositeRows : Array (List Nat) := readRows primaryComposites

/-- The parts of a Hangul syllable. -/
def decomposeHangul (n : Nat) : List Nat :=
  let index := n - 0xAC00
  let trail := index % 28
  [0x1100 + index / 588, 0x1161 + index % 588 / 28] ++ if trail = 0 then [] else [0x11A7 + trail]

/-- The code point that a code point maps to. -/
def singleTarget? (n : Nat) : Option Nat :=
  singleRows.findSome? fun row =>
    match row with
    | first :: target :: count =>
      if first ≤ n && n < first + count.headD 1 then some (target + (n - first)) else none
    | _ => none

/-- The listed sequence that a code point maps to. -/
def sequence? (n : Nat) : Option (List Nat) :=
  sequenceRows.findSome? fun row =>
    match row with
    | key :: target => if key = n then some target else none
    | [] => none

/-- The two parts of a composite. -/
def parts? (n : Nat) : Option (Nat × Nat) :=
  compositeRows.findSome? fun row =>
    match row with
    | [composite, first, second] => if composite = n then some (first, second) else none
    | _ => none

/-- The full compatibility decomposition of an identifier character. A composite has that of its first part,
which comes before it in the order of code points, and its second part. -/
def decompose (n : Nat) : List Nat :=
  if n < 0x80 then [n]
  else if 0xAC00 ≤ n && n ≤ 0xD7A3 then decomposeHangul n
  else
    match singleTarget? n, sequence? n, parts? n with
    | some target, _, _ => [target]
    | none, some target, _ => target
    | none, none, some (first, second) => if first < n then decompose first ++ [second] else [n]
    | none, none, none => [n]
termination_by n

/-- The canonical combining class. -/
def combiningClass (n : Nat) : Nat :=
  if n < 0x300 then 0
  else (combiningRows.findSome? fun row =>
    match row with
    | first :: value :: count => if first ≤ n && n < first + count.headD 1 then some value else none
    | _ => none).getD 0

/-- A mark put in its place among the marks before it, which are given last first. -/
def insertMark (mark : Nat) : List Nat → List Nat
  | [] => [mark]
  | last :: before =>
    if combiningClass mark != 0 && combiningClass mark < combiningClass last then
      last :: insertMark mark before
    else mark :: last :: before

/-- Combining marks in canonical order. -/
def orderMarks (ns : List Nat) : List Nat := (ns.foldl (fun done n => insertMark n done) []).reverse

/-- The composite of two code points. -/
def compose? (a b : Nat) : Option Nat :=
  if 0x1100 ≤ a && a ≤ 0x1112 && 0x1161 ≤ b && b ≤ 0x1175 then
    some (0xAC00 + ((a - 0x1100) * 21 + (b - 0x1161)) * 28)
  else if 0xAC00 ≤ a && a ≤ 0xD7A3 && (a - 0xAC00) % 28 = 0 && 0x11A8 ≤ b && b ≤ 0x11C2 then
    some (a + (b - 0x11A7))
  else compositeRows.findSome? fun row =>
    match row with
    | [composite, first, second] => if first = a && second = b then some composite else none
    | _ => none

/-- Composition under way: finished code points last first, the current starter, and the marks kept
after it, last first. -/
structure Composing where
  done : List Nat := []
  starter : Option Nat := none
  marks : List Nat := []

/-- All code points of a composition under way, last first. -/
def Composing.finish (s : Composing) : List Nat :=
  match s.starter with
  | none => s.marks ++ s.done
  | some starter => s.marks ++ starter :: s.done

/-- Adds a code point: it joins the starter unless a kept mark stands in its way. -/
def Composing.add (s : Composing) (n : Nat) : Composing :=
  let keep : Composing :=
    if combiningClass n = 0 then { done := s.finish, starter := some n } else { s with marks := n :: s.marks }
  match s.starter with
  | none => keep
  | some starter =>
    let blocked := match s.marks with
      | [] => false
      | mark :: _ => combiningClass mark = 0 || combiningClass n ≤ combiningClass mark
    if blocked then keep
    else match compose? starter n with
      | some composite => { s with starter := some composite }
      | none => keep

/-- The name an identifier stands for. -/
def compatible (t : Text) : Text :=
  if t.all CodePoint.isAscii then t
  else
    let ordered := orderMarks (t.flatMap fun c => decompose c.val)
    ((ordered.foldl Composing.add {}).finish.reverse).map CodePoint.ofNat

end ChangeReview.Text
