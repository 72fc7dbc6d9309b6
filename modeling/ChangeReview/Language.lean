import ChangeReview.Text.Basic

/-!
# Languages

The source languages a review can tell apart. Any other language keeps its name.
-/

namespace ChangeReview

/-- A source language. -/
inductive Language where
  | python
  | javascript
  | typescript
  | go
  | other (name : Text)
deriving DecidableEq

namespace Language

/-- The language of a given name. -/
def ofText (name : Text) : Language :=
  if name == "python" then .python
  else if name == "javascript" then .javascript
  else if name == "typescript" then .typescript
  else if name == "go" then .go
  else .other name

/-- The name of a language. -/
def toText : Language → Text
  | .python => "python"
  | .javascript => "javascript"
  | .typescript => "typescript"
  | .go => "go"
  | .other name => name

/-- JavaScript or TypeScript, where a line break can end a statement. -/
def isScript : Language → Bool
  | .javascript | .typescript => true
  | _ => false

/-- A language whose signatures are compared token by token. -/
def comparesTokens : Language → Bool
  | .javascript | .typescript | .go => true
  | _ => false

end Language

end ChangeReview
