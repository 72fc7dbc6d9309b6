import ChangeReview.Failure
import ChangeReview.Path.Basic

/-!
# Dialects

The grammar by which a file is parsed. TypeScript has a dialect of its own for files with markup.
-/

namespace ChangeReview

/-- A grammar. -/
inductive Dialect where
  | python
  | go
  | javascript
  | typescript
  | tsx
deriving DecidableEq

namespace Dialect

/-- The name of a dialect. -/
def toText : Dialect → Text
  | .python => "python"
  | .go => "go"
  | .javascript => "javascript"
  | .typescript => "typescript"
  | .tsx => "tsx"

/-- The dialect of a language in the file of a path, if the language has a grammar. -/
def select (language : Language) (path : Option Text) : Except Failure Dialect :=
  match language with
  | .python => .ok .python
  | .go => .ok .go
  | .javascript => .ok .javascript
  | .typescript =>
    .ok (if path.any fun p => Path.extension p == ".tsx" then .tsx else .typescript)
  | .other name => .error (.unsupportedLanguage name)

end Dialect

end ChangeReview
