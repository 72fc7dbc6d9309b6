import ChangeReview.OrderedMap
import ChangeReview.Symbol.Basic

/-!
# Matching symbols of one file

The symbols of a file before and after a change are paired key by key. Under one key equal signatures
are paired first, the rest by position.
-/

namespace ChangeReview.Symbol

/-- Takes the first element that satisfies `p` out of a list. -/
def takeFirst? {α : Type} (p : α → Bool) : List α → Option (α × List α)
  | [] => none
  | x :: xs => if p x then some (x, xs) else (takeFirst? p xs).map fun (y, ys) => (y, x :: ys)

/-- Pairs of equal signature, and what is left on both sides. -/
def pairSignatures : (olds news : List Symbol) → List (Symbol × Symbol) × List Symbol × List Symbol
  | [], news => ([], [], news)
  | o :: olds, news =>
    match takeFirst? (fun n => o.signature == n.signature) news with
    | some (n, news) =>
      let (pairs, olds, news) := pairSignatures olds news
      ((o, n) :: pairs, olds, news)
    | none =>
      let (pairs, olds, news) := pairSignatures olds news
      (pairs, o :: olds, news)

/-- Pairs by position, and then the symbols of the longer side alone. -/
def pairPositions : (olds news : List Symbol) → List Match
  | o :: olds, n :: news => { old := some o, new := some n } :: pairPositions olds news
  | olds, news =>
    olds.map (fun o => { old := some o, new := none }) ++ news.map fun n => { old := none, new := some n }

/-- The matches of the symbols under one key. -/
def matchGroup (olds news : List Symbol) : List Match :=
  let (pairs, olds, news) := pairSignatures olds news
  pairs.map (fun (o, n) => { old := some o, new := some n }) ++ pairPositions olds news

/-- The keys of symbols, each once, in order of appearance. -/
def keys (symbols : List Symbol) : List Key :=
  symbols.foldl (fun seen s => if seen.contains s.key then seen else seen ++ [s.key]) []

/-- The matches of the symbols of a file, in the order of their keys. -/
def matchAll (old new : List Symbol) : List Match :=
  (keys (old ++ new)).flatMap fun key =>
    matchGroup (old.filter (·.key == key)) (new.filter (·.key == key))

/-- The symbols that no match pairs, given the sides of the pairs. -/
def unpaired (symbols paired : List Symbol) : List Symbol := paired.foldl List.erase symbols

/-- The old symbols that have no new side. -/
def unpairedOld (symbols : List Symbol) (ms : List Match) : List Symbol :=
  unpaired symbols (ms.filterMap fun m => if m.new.isSome then m.old else none)

/-- The new symbols that have no old side. -/
def unpairedNew (symbols : List Symbol) (ms : List Match) : List Symbol :=
  unpaired symbols (ms.filterMap fun m => if m.old.isSome then m.new else none)

end ChangeReview.Symbol
