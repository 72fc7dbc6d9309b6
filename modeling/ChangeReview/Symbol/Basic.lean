import ChangeReview.Text.Basic

/-!
# Symbols

The declarations that a source file holds.
-/

namespace ChangeReview

/-- What a symbol declares. -/
inductive SymbolKind where
  | function
  | classOf
  | method
deriving DecidableEq

namespace SymbolKind

/-- The name of a kind of symbol. -/
def toText : SymbolKind → Text
  | .function => "function"
  | .classOf => "class"
  | .method => "method"

/-- The kind of symbol of a given name. -/
def ofText? (t : Text) : Option SymbolKind :=
  [SymbolKind.function, .classOf, .method].find? (·.toText == t)

end SymbolKind

/-- A declaration in a source file. -/
structure Symbol where
  name : Text
  kind : SymbolKind
  signature : Text
  startLine : Int
  endLine : Int
  bodyHash : Text
  parent : Option Text
deriving DecidableEq

namespace Symbol

/-- What two symbols must share to stand for the same declaration. -/
structure Key where
  name : Text
  kind : SymbolKind
  parent : Option Text
deriving DecidableEq

/-- The key of a symbol. -/
def key (s : Symbol) : Key := ⟨s.name, s.kind, s.parent⟩

/-- A symbol before and after a change, and the files of a move. A side is missing if the symbol was
added or removed. -/
structure Match where
  old : Option Symbol
  new : Option Symbol
  fileFrom : Option Text := none
  fileTo : Option Text := none
deriving DecidableEq

end Symbol

end ChangeReview
