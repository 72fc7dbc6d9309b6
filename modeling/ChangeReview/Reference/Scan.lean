import ChangeReview.Reference.Binding
import ChangeReview.Reference.Context

/-!
# Names in a source file

The places where one of some names is referred to.
-/

namespace ChangeReview

/-- The kinds of nodes that are names. -/
def nameKinds : Language → List Text
  | .python | .other _ => Text.list ["identifier"]
  | .javascript =>
    Text.list ["identifier", "private_property_identifier", "property_identifier",
      "shorthand_property_identifier"]
  | .typescript =>
    Text.list ["identifier", "private_property_identifier", "property_identifier",
      "shorthand_property_identifier", "type_identifier"]
  | .go => Text.list ["identifier", "field_identifier", "type_identifier"]

/-- An occurrence of a name. -/
structure Hit where
  name : Text
  line : Nat
  context : ReferenceContext
  sourceLine : Text
deriving DecidableEq

namespace Hit

/-- The occurrence at a place, if the place refers to one of the names. -/
def ofPlace? (language : Language) (names : List Text) (source : Bytes) (lines : List Text) (p : Place) :
    Except Failure (Option Hit) := do
  if !(nameKinds language).contains p.node.kind then return none
  let name ← Bytes.decode (p.node.slice source)
  if !names.contains name || p.isBinding language then return none
  let line := p.node.startLine source
  return some { name, line, context := p.context, sourceLine := ((lines[line - 1]?).map Text.trim).getD [] }

/-- The occurrences in a tree, in the order of the source. -/
def scan (language : Language) (names : List Text) (text : Text) (source : Bytes) (root : SyntaxNode) :
    Except Failure (List Hit) := do
  return (← (Place.all root).mapM (ofPlace? language names source text.lines)).filterMap id

end Hit

end ChangeReview
