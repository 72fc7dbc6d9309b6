import ChangeReview.Number.Binary64
import ChangeReview.OrderedMap

/-!
# JSON values

Values of the data format in which reviews are written and requests are read. Members keep their
order, integers have any size, and strings are texts.
-/

namespace ChangeReview

/-- A JSON value. -/
inductive Json where
  | null
  | bool (value : Bool)
  | int (value : Int)
  | real (value : Binary64)
  | str (value : Text)
  | arr (items : List Json)
  | obj (members : List (Text × Json))

namespace Json

instance : Inhabited Json := ⟨.null⟩

instance : Coe Text Json := ⟨.str⟩
instance : Coe Bool Json := ⟨.bool⟩
instance : Coe Nat Json := ⟨fun n => .int n⟩

/-- The value itself, or null. -/
def ofOption {α : Type} (encode : α → Json) : Option α → Json
  | none => .null
  | some a => encode a

/-- An array of encoded elements. -/
def ofList {α : Type} (encode : α → Json) (items : List α) : Json := .arr (items.map encode)

/-- An array of strings. -/
def texts (items : List Text) : Json := ofList .str items

/-- The value of a member of an object. -/
def member? (key : Text) : Json → Option Json
  | .obj members => List.lookup key members
  | _ => none

/-- A string, or null. -/
def optional (t : Option Text) : Json := ofOption .str t

/-- An object by names and values. -/
def object (members : List (String × Json)) : Json := .obj (members.map fun (k, v) => (Text.ofString k, v))

mutual

/-- The value with every string, keys included, changed by `f`. Members whose keys fall together keep
the first place and the last value. -/
def mapText (f : Text → Text) : Json → Json
  | .str value => .str (f value)
  | .arr items => .arr (mapTextItems f items)
  | .obj members => .obj (mapTextMembers f members [])
  | other => other

/-- `mapText` on the items of an array. -/
def mapTextItems (f : Text → Text) : List Json → List Json
  | [] => []
  | item :: items => mapText f item :: mapTextItems f items

/-- `mapText` on the members of an object, added to the members already changed. -/
def mapTextMembers (f : Text → Text) : List (Text × Json) → List (Text × Json) → List (Text × Json)
  | [], done => done
  | (key, value) :: members, done =>
    mapTextMembers f members (OrderedMap.put done (f key) (mapText f value))

end

end Json

end ChangeReview
