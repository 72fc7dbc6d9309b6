import ChangeReview.Declaration.Grammar

/-!
# Parameter lists

The parameters of a function or a lambda: positional ones, those before a slash positional only, then
keyword-only ones after a star, and the two that collect the rest.
-/

namespace ChangeReview.Declaration

/-- One declared parameter. -/
structure Declared where
  name : Text
  hint : Option Term := none
  default : Option Term := none

/-- A parameter list by kinds. -/
structure ParameterList where
  positionalOnly : List Declared := []
  positional : List Declared := []
  rest : Option Declared := none
  keywordOnly : List Declared := []
  keywords : Option Declared := none

namespace ParameterList

open ChangeReview.Declaration.Parser

/-- A parameter as a term. -/
def declaredTerm (p : Declared) : Term :=
  .node .argument [.atom p.name, .option p.hint, .option p.default]

/-- A parameter list as a term. -/
def toTerm (l : ParameterList) : Term :=
  .node .arguments [.sequence (l.positionalOnly.map declaredTerm), .sequence (l.positional.map declaredTerm),
    .option (l.rest.map declaredTerm), .sequence (l.keywordOnly.map declaredTerm),
    .option (l.keywords.map declaredTerm)]

/-- How a list is read: where it ends, and whether annotations may stand in it. -/
structure Style where
  terminator : Text
  annotated : Bool

/-- A comma, or the end of the list next. -/
def finishItem (style : Style) : Parser Unit := do
  if ← takeOperator "," then return ()
  else if ← atOperator style.terminator then return ()
  else refuse

/-- A name with its annotation. After the star an annotation may be starred itself. -/
def parameter (rules : Rules) (style : Style) (starred : Bool) : Parser Declared := do
  let name ← identifier
  if !style.annotated || !(← atOperator ":") then return { name }
  else
    skip
    if starred && (← atOperator "*") then
      skip
      let hint ← rules .bitwiseOr
      return { name, hint := some (.node .starred [hint]) }
    else return { name, hint := some (← rules .expression) }

/-- The default of a parameter. -/
def withDefault (rules : Rules) (p : Declared) : Parser Declared := do
  if ← takeOperator "=" then return { p with default := some (← rules .expression) } else return p

/-- The parameter that collects keywords, which ends the list. -/
def keywordRest (rules : Rules) (style : Style) (l : ParameterList) : Parser ParameterList := do
  operator "**"
  let p ← parameter rules style false
  finishItem style
  if ← atOperator style.terminator then return { l with keywords := some p } else refuse

/-- The keyword-only parameters, and the one that collects keywords. -/
def afterStar (rules : Rules) (style : Style) : (steps : Nat) → ParameterList → Parser ParameterList
  | 0, _ => refuse
  | steps + 1, l => do
    if ← atOperator style.terminator then return l
    else if ← atOperator "**" then keywordRest rules style l
    else
      let p ← withDefault rules (← parameter rules style false)
      finishItem style
      afterStar rules style steps { l with keywordOnly := l.keywordOnly ++ [p] }

/-- The star and what follows it. A bare star needs a keyword-only parameter. -/
def star (rules : Rules) (style : Style) (steps : Nat) (l : ParameterList) : Parser ParameterList := do
  operator "*"
  if ← takeOperator "," then
    if ← atKind .name then afterStar rules style steps l else refuse
  else
    let p ← parameter rules style true
    finishItem style
    afterStar rules style steps { l with rest := some p }

/-- Whether a positional parameter with a default has been read. -/
def hasDefaults (l : ParameterList) : Bool :=
  (l.positionalOnly ++ l.positional).any (·.default.isSome)

/-- The positional parameters, and all that follows them. None without a default comes after one with
a default. -/
def positionals (rules : Rules) (style : Style) : (steps : Nat) → ParameterList → Parser ParameterList
  | 0, _ => refuse
  | steps + 1, l => do
    if ← atOperator style.terminator then return l
    else if ← atOperator "**" then keywordRest rules style l
    else if ← atOperator "*" then star rules style steps l
    else if ← atOperator "/" then
      if l.positional.isEmpty || !l.positionalOnly.isEmpty then refuse
      else
        skip
        finishItem style
        positionals rules style steps { l with positionalOnly := l.positional, positional := [] }
    else
      let p ← withDefault rules (← parameter rules style false)
      finishItem style
      if p.default.isNone && l.hasDefaults then refuse
      else positionals rules style steps { l with positional := l.positional ++ [p] }

/-- A parameter list up to its terminator. -/
def read (rules : Rules) (style : Style) : Parser ParameterList := do
  positionals rules style ((← remaining) + 1) {}

end ParameterList

end ChangeReview.Declaration
