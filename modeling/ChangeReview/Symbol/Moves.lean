import ChangeReview.Symbol.Matching

/-!
# Moves between files

Symbols that are gone from one file and new in another may have moved. A pair is taken only if the
evidence for it is unique in both directions; the strongest evidence comes first.
-/

namespace ChangeReview.Symbol

/-- The symbols of one file that are left to match, with its language. -/
structure Candidates where
  language : Text
  symbols : List Symbol

/-- A symbol with its file and language. -/
structure Located where
  file : Text
  language : Text
  symbol : Symbol
deriving DecidableEq

/-- What two located symbols must share to be one that moved. -/
def Located.moveKey (l : Located) : Text × Key := (l.language, l.symbol.key)

/-- The symbols of all files with their places. -/
def locate (files : OrderedMap Text Candidates) : List Located :=
  files.flatMap fun (file, candidates) => candidates.symbols.map fun s => ⟨file, candidates.language, s⟩

/-- Evidence that two symbols of different files are one. -/
inductive Evidence where
  | signatureAndBody
  | signature
  | body

/-- Whether the evidence holds of two symbols. -/
def Evidence.holds (e : Evidence) (old new : Located) : Bool :=
  let sameSignature := old.symbol.signature == new.symbol.signature
  let sameBody := old.symbol.bodyHash == new.symbol.bodyHash
  old.file != new.file && match e with
    | .signatureAndBody => sameSignature && sameBody
    | .signature => sameSignature
    | .body => sameBody

/-- The pairs for which the evidence is unique in both directions. -/
def uniquePairs (e : Evidence) (olds news : List (Located × Nat)) :
    List ((Located × Nat) × (Located × Nat)) :=
  olds.filterMap fun o =>
    match news.filter fun n => e.holds o.1 n.1 with
    | [n] => if (olds.countP fun o => e.holds o.1 n.1) == 1 then some (o, n) else none
    | _ => none

/-- The moves by each kind of evidence in turn, among symbols of one key that are numbered. -/
def movesBy : List Evidence → (olds news : List (Located × Nat)) → List Match
  | [], _, _ => []
  | e :: weaker, olds, news =>
    let pairs := uniquePairs e olds news
    let oldsLeft := olds.filter fun o => !pairs.any fun (p, _) => p.2 == o.2
    let newsLeft := news.filter fun n => !pairs.any fun (_, q) => q.2 == n.2
    pairs.map (fun (o, n) =>
      { old := some o.1.symbol, new := some n.1.symbol, fileFrom := some o.1.file, fileTo := some n.1.file })
      ++ movesBy weaker oldsLeft newsLeft

/-- The moves between files. -/
def moves (old new : OrderedMap Text Candidates) : List Match :=
  let olds := locate old
  let news := locate new
  let keys := (olds ++ news).foldl
    (fun seen l => if seen.contains l.moveKey then seen else seen ++ [l.moveKey]) []
  keys.flatMap fun key =>
    movesBy [.signatureAndBody, .signature, .body]
      (olds.filter (·.moveKey == key)).zipIdx (news.filter (·.moveKey == key)).zipIdx

end ChangeReview.Symbol
