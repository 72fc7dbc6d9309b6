import ChangeReview.Callable.Basic

/-!
# Changes of parameter kinds

What it does to existing calls when a retained parameter changes its kind, alone and together with the
variadic parameters around it.
-/

namespace ChangeReview

namespace ParameterKind

/-- The verdict on a change of kind by itself. A variadic parameter takes calls that no other kind
takes; a fixed one may become variadic if all its arguments reach it the same way. -/
def transition (old new : ParameterKind) : Verdict :=
  if old == new then .compatible
  else if old.isVariadic then .breaking
  else match new with
    | .variadicPositional => if old == .positionalOnly then .compatible else .breaking
    | .variadicKeyword => if old == .keywordOnly then .compatible else .breaking
    | .positionalOrKeyword => .compatible
    | .positionalOnly | .keywordOnly => .breaking

/-- The verdict by names of kinds. A name that is no kind is judged only where the other kind
decides. -/
def transitionOfNames (old new : Text) : Verdict :=
  if old == new then .compatible
  else match ofText? old, ofText? new with
    | some old, some new => transition old new
    | some old, none => if old.isVariadic then .breaking else .unknown
    | none, some new => if new.isVariadic then .breaking else .unknown
    | none, none => .unknown

end ParameterKind

namespace Callable

/-- Whether a collected channel of arguments is gone. -/
def losesVariadic (old new : Callable) : Bool :=
  (old.hasKind .variadicPositional && !new.hasKind .variadicPositional)
    || (old.hasKind .variadicKeyword && !new.hasKind .variadicKeyword)

/-- Whether a parameter that became variadic, together with the other variadic parameter, takes every
argument it took before. -/
def complementCovers (new : Callable) (oldKind newKind : ParameterKind) : Bool :=
  match newKind with
  | .variadicPositional => oldKind.isKeyword && new.hasKind .variadicKeyword
  | .variadicKeyword => oldKind.isPositional && new.hasKind .variadicPositional
  | _ => false

/-- The verdict on a change of kind in the new function. -/
def kindOutcome (new : Callable) (name : Text) (oldKind newKind : ParameterKind) : Verdict :=
  match oldKind.transition newKind with
  | .breaking =>
    let required := new.at? name (·.isRequired)
    let ifRequired : Verdict := if required then .breaking else .unknown
    if oldKind == .variadicPositional && new.hasKind .variadicPositional then ifRequired
    else if oldKind == .variadicKeyword && new.hasKind .variadicKeyword then ifRequired
    else if new.complementCovers oldKind newKind then .compatible
    else if oldKind == .positionalOrKeyword && !required
        && ((newKind == .keywordOnly && new.hasKind .variadicPositional)
          || (newKind == .positionalOnly && new.hasKind .variadicKeyword)) then .unknown
    else .breaking
  | verdict => verdict

/-- Whether a parameter of the old function and one of the new, of one name, satisfy `p`. -/
def anyRetained (old new : Callable) (p : Parameter → Parameter → Bool) : Bool :=
  old.names.any fun name =>
    match old.find? name, new.find? name with
    | some before, some after => p before after
    | _, _ => false

/-- Whether positional arguments of a parameter still reach the new function, though it takes none by
itself any more. -/
def keptByVariadic (old new : Callable) (name : Text) : Bool :=
  match old.find? name, new.find? name with
  | some before, some after =>
    before.kind.isPositional && !after.kind.isPositional
      && (after.kind == .variadicPositional
        || (new.hasKind .variadicPositional && !after.isRequired))
  | _, _ => false

/-- Whether changed kinds alter an existing call: by losing a variadic parameter, by binding a positional
argument elsewhere, or by binding a parameter twice. -/
def kindsBreakCalls (old new : Callable) : Bool :=
  let oldPositional := old.positionalNames.filter (!keptByVariadic old new ·)
  let newPositional := new.positionalNames
  losesVariadic old new
    || newPositional.take oldPositional.length != oldPositional
    || (old.hasKind .variadicPositional && oldPositional.length < newPositional.length)
    || anyRetained old new (fun before after =>
      before.kind == .keywordOnly && after.kind == .positionalOrKeyword
        && (place? newPositional after.name).any (· < old.positionals.length))
    || (old.hasKind .variadicKeyword && anyRetained old new fun before after =>
      before.kind == .positionalOnly && after.kind == .positionalOrKeyword)

/-- A retained parameter with its kinds before and after. -/
abbrev KindChange := Text × ParameterKind × ParameterKind

/-- The retained parameters whose kind changed. -/
def kindChanges (old new : Callable) : List KindChange :=
  old.names.filterMap fun name =>
    match old.find? name, new.find? name with
    | some before, some after =>
      if before.kind != after.kind then some (name, before.kind, after.kind) else none
    | _, _ => none

/-- The verdicts on changed kinds. -/
def kindOutcomes (new : Callable) (changes : List KindChange) : List Verdict :=
  changes.map fun (name, before, after) => new.kindOutcome name before after

/-- The assessment of changed kinds. -/
def assessKinds (old new : Callable) (changes : List KindChange) : Assessment :=
  let breaks := kindsBreakCalls old new
  let verdict := if breaks then .breaking else Verdict.all (new.kindOutcomes changes)
  { category := .parameterKindChanged
    verdict
    confidence := if verdict == .unknown then .medium else .high
    evidence :=
      [if breaks then
        "Python parameter-kind transition changed an existing positional binding or variadic capture"
      else "Python positional-only/keyword-only/variadic parameter kind changed"]
    gaps :=
      if verdict == .unknown then
        ["Compatibility was not proven for every parameter-kind transition"]
      else if verdict == .compatible
          && changes.any (fun (_, before, after) => new.complementCovers before after) then
        ["Call acceptance is preserved, but argument binding and runtime behavior changed"]
      else [] }

end Callable

end ChangeReview
