import ChangeReview.Declaration.Reader
import ChangeReview.Declaration.TypeParameters
import ChangeReview.Failure
import ChangeReview.Signature.Assessment
import ChangeReview.Text.CharacterName

/-!
# Callables

A Python function by what its callers see: parameters with their kinds, defaults and annotations, and
the syntax around them.
-/

namespace ChangeReview

/-- How arguments reach a parameter. -/
inductive ParameterKind where
  | positionalOnly
  | positionalOrKeyword
  | variadicPositional
  | keywordOnly
  | variadicKeyword
deriving DecidableEq

namespace ParameterKind

/-- The name of a kind. -/
def toText : ParameterKind → Text
  | .positionalOnly => "positional_only"
  | .positionalOrKeyword => "positional_or_keyword"
  | .variadicPositional => "var_positional"
  | .keywordOnly => "keyword_only"
  | .variadicKeyword => "var_keyword"

/-- The kind of a given name. -/
def ofText? (t : Text) : Option ParameterKind :=
  [ParameterKind.positionalOnly, .positionalOrKeyword, .variadicPositional, .keywordOnly,
    .variadicKeyword].find? (·.toText == t)

/-- Collects any number of arguments. -/
def isVariadic : ParameterKind → Bool
  | .variadicPositional | .variadicKeyword => true
  | _ => false

/-- Takes one positional argument. -/
def isPositional : ParameterKind → Bool
  | .positionalOnly | .positionalOrKeyword => true
  | _ => false

/-- Takes one argument by keyword. -/
def isKeyword : ParameterKind → Bool
  | .positionalOrKeyword | .keywordOnly => true
  | _ => false

end ParameterKind

/-- A parameter as callers see it. -/
structure Parameter where
  name : Text
  kind : ParameterKind
  default : Option Declaration.Term
  hint : Option Declaration.Term
deriving DecidableEq

/-- Every call must bind the parameter. -/
def Parameter.isRequired (p : Parameter) : Bool := !p.kind.isVariadic && p.default.isNone

/-- A function as callers see it. -/
structure Callable where
  parameters : List Parameter
  returns : Option Declaration.Term
  decorators : List Declaration.Term
  typeParameters : List Text
deriving DecidableEq

namespace Callable

/-- The names of the parameters. -/
def names (f : Callable) : List Text := f.parameters.map (·.name)

/-- The parameter of a name, the last one if there are several. -/
def find? (f : Callable) (name : Text) : Option Parameter :=
  f.parameters.reverse.find? (·.name == name)

/-- Whether a parameter has the name. -/
def has (f : Callable) (name : Text) : Bool := (f.find? name).isSome

/-- Whether a parameter is of the kind. -/
def hasKind (f : Callable) (kind : ParameterKind) : Bool := f.parameters.any (·.kind == kind)

/-- Whether the parameter of a name satisfies `p`. -/
def at? (f : Callable) (name : Text) (p : Parameter → Bool) : Bool := ((f.find? name).map p).getD false

/-- The parameters that take one positional argument each. -/
def positionals (f : Callable) : List Parameter := f.parameters.filter (·.kind.isPositional)

/-- The names of the parameters that take one positional argument each. -/
def positionalNames (f : Callable) : List Text := f.positionals.map (·.name)

/-- The place of a name in a list, the last one if there are several. -/
def place? (names : List Text) (name : Text) : Option Nat :=
  (names.reverse.idxOf? name).map fun i => names.length - 1 - i

/-- A parameter of a declaration. -/
def parameterOf (kind : ParameterKind) (p : Declaration.Declared) : Parameter :=
  ⟨p.name, kind, p.default, p.hint⟩

/-- A declared function as callers see it. -/
def ofFunction (form : Declaration.FunctionForm) (typeParameters : List Text) : Callable :=
  let l := form.parameters
  { parameters :=
      l.positionalOnly.map (parameterOf .positionalOnly)
        ++ l.positional.map (parameterOf .positionalOrKeyword)
        ++ (l.rest.map (parameterOf .variadicPositional)).toList
        ++ l.keywordOnly.map (parameterOf .keywordOnly)
        ++ (l.keywords.map (parameterOf .variadicKeyword)).toList
    returns := form.returns
    decorators := form.decorators
    typeParameters }

end Callable

namespace Declaration

/-- A declaration and the type parameters that were cut out of it. -/
structure Parsed where
  declaration : Declaration
  typeParameters : List Text

/-- The source that a signature stands for: the declaration with an empty body. -/
def sourceOf (signature : Text) : Text :=
  let t := signature.trimRight
  (if Text.endsWith t ":" then t else t ++ (":" : Text)) ++ ("\n    pass\n" : Text)

/-- Parses a signature. A surrogate or a NUL in it is a failure; a text that is no declaration gives
nothing. -/
def parse (signature : Text) : Except Failure (Option Parsed) := do
  let (rest, typeParameters) := withoutTypeParameters signature
  let source := sourceOf rest
  source.checkEncodable
  if source.any (fun c => c.val == 0) then throw .nulInSource
  return (read? CharacterName.named? source).map (⟨·, typeParameters⟩)

/-- Whether two parsed declarations differ in layout at most. -/
def Parsed.sameAs (a b : Parsed) : Bool :=
  a.typeParameters == b.typeParameters && a.declaration.toTerm == b.declaration.toTerm

/-- The function that was parsed. -/
def Parsed.callable? (p : Parsed) : Option Callable :=
  match p.declaration with
  | .function form => some (Callable.ofFunction form p.typeParameters)
  | .classOf _ => none

/-- Whether a class was parsed. -/
def Parsed.isClass (p : Parsed) : Bool :=
  match p.declaration with
  | .function _ => false
  | .classOf _ => true

end Declaration

end ChangeReview
