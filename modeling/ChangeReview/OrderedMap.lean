/-!
# Maps in insertion order

A finite map as the list of its entries. A key keeps the place of its first insertion, and the value
of its last.
-/

namespace ChangeReview

/-- Entries in the order in which their keys first came. -/
abbrev OrderedMap (κ α : Type) := List (κ × α)

namespace OrderedMap

variable {κ α : Type} [BEq κ]

/-- The value at a key. -/
def get? (m : OrderedMap κ α) (key : κ) : Option α := List.lookup key m

/-- Whether a key has an entry. -/
def hasKey (m : OrderedMap κ α) (key : κ) : Bool := (m.get? key).isSome

/-- The map with `value` at `key`, a new key last. -/
def put : OrderedMap κ α → κ → α → OrderedMap κ α
  | [], key, value => [(key, value)]
  | (k, v) :: rest, key, value =>
    if k == key then (key, value) :: rest else (k, v) :: put rest key value

/-- The map with the value at `key` changed by `f`, from `start` when there is none. -/
def update (m : OrderedMap κ α) (key : κ) (start : α) (f : α → α) : OrderedMap κ α :=
  m.put key (f ((m.get? key).getD start))

/-- The map built by inserting the pairs in turn. -/
def ofList (pairs : List (κ × α)) : OrderedMap κ α :=
  pairs.foldl (fun m (key, value) => m.put key value) []

/-- The elements grouped by a key, groups and members in order of appearance. -/
def groupBy {β : Type} (key : β → κ) (items : List β) : OrderedMap κ (List β) :=
  items.foldl (fun m item => m.update (key item) [] (· ++ [item])) []

end OrderedMap

end ChangeReview
