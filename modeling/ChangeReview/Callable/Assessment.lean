import ChangeReview.Callable.Kinds

/-!
# Assessing a changed function

Existing calls are judged by what happened to the parameters: some removed, some added, both, or
neither. Changes of other syntax are reported beside the call shape.
-/

namespace ChangeReview.Callable

/-- The names of the old function that the new one does not have. -/
def removedNames (old new : Callable) : List Text := old.names.filter (!new.has ·)

/-- The retained parameters that became required by losing their default. -/
def defaultsRemoved (old new : Callable) : List Text :=
  old.names.filter fun name =>
    old.at? name (·.default.isSome) && new.at? name fun p => p.default.isNone && p.isRequired

/-- A retained positional parameter with its places before and after. -/
abbrev PlaceChange := Text × Nat × Nat

/-- The retained positional parameters whose place changed. -/
def placeChanges (old new : Callable) : List PlaceChange :=
  old.positionalNames.filterMap fun name => do
    let before ← place? old.positionalNames name
    let after ← place? new.positionalNames name
    if before != after then some (name, before, after) else none

/-- The wording of changed places. -/
def placeText (changes : List PlaceChange) : Text :=
  Text.join ", " (changes.map fun (name, before, after) =>
    name ++ (" (" : Text) ++ Text.ofNat before ++ (" -> " : Text) ++ Text.ofNat after ++ (")" : Text))

/-- Names in a row. -/
def nameText (names : List Text) : Text := Text.join ", " names

/-! ## Removed parameters -/

/-- Whether the new function takes none of the arguments that a removed parameter took in some way. -/
def dropsArguments (new : Callable) (p : Parameter) : Bool :=
  match p.kind with
  | .positionalOnly | .variadicPositional => !new.hasKind .variadicPositional
  | .positionalOrKeyword => !new.hasKind .variadicPositional || !new.hasKind .variadicKeyword
  | .keywordOnly | .variadicKeyword => !new.hasKind .variadicKeyword

/-- The verdict on removed parameters. Collected arguments are compatible if the removed positional
parameters were the last ones. -/
def removalVerdict (old new : Callable) (removed : List Text) : Verdict :=
  if (removed.filterMap old.find?).any (dropsArguments new) then .breaking
  else
    let retained := old.positionalNames.filter (!removed.contains ·)
    if new.positionalNames == retained && old.positionalNames.take retained.length == retained then
      .compatible
    else .unknown

/-- The assessment of a change that removes parameters and adds none. -/
def assessRemoval (old new : Callable) (removed : List Text) : Assessment :=
  let removal := removalVerdict old new removed
  let changes := kindChanges old new
  let verdict :=
    if !changes.isEmpty && kindsBreakCalls old new then .breaking
    else Verdict.all (removal :: new.kindOutcomes changes)
  let (evidence, gaps) : Text × List Text :=
    match verdict, removal with
    | .breaking, .breaking =>
      ("Python parameter(s) removed without complete variadic capture: " ++ nameText removed, [])
    | .breaking, _ =>
      ("Python parameter removal coincided with a retained parameter-kind restriction", [])
    | .compatible, _ =>
      ("Removed Python parameter channel(s) remain accepted by trailing variadic capture: "
        ++ nameText removed,
        ["Argument binding and runtime behavior can still change after capture"])
    | .unknown, _ =>
      ("Variadic capture accepts the removed Python parameter channel(s), but retained positional binding also changed",
        ["Compatibility was not proven for the compound positional shape"])
  { category := .parameterRemoved
    verdict
    confidence := if verdict == .unknown then .medium else .high
    evidence := [evidence]
    gaps }

/-! ## Added parameters -/

/-- The added required parameters that a call of the old function may leave out: a call that gives only
what it must, by keyword where it can. -/
def demanded (old new : Callable) (required : List Text) : List Text :=
  let supplied := old.parameters.countP fun p => p.isRequired && p.kind == .positionalOnly
  required.filter fun name =>
    new.at? name (·.kind == .keywordOnly) || (place? new.positionalNames name).any (supplied ≤ ·)

/-- Whether an added parameter, filled by position in an existing call, has a name that the call may also
hand to the collected keywords. -/
def claimsKeyword (old new : Callable) (added : List Text) : Bool :=
  old.hasKind .variadicKeyword
    && new.positionals.zipIdx.any fun (p, index) =>
      added.contains p.name && p.kind == .positionalOrKeyword
        && (old.hasKind .variadicPositional || index < old.positionals.length)

/-- Whether an added positional parameter stands before a retained one. -/
def insertsBefore (old new : Callable) (added : List Text) : List Text → Bool
  | [] => false
  | name :: rest =>
    (added.contains name && new.at? name (·.kind.isPositional)
        && rest.any fun later => old.has later && new.at? later (·.kind.isPositional))
      || insertsBefore old new added rest

/-- An assessment of sure evidence. -/
def sure (category : Category) (verdict : Verdict) (evidence : Text) : Assessment :=
  ⟨category, verdict, .high, [evidence], []⟩

/-- The assessment of a change that adds parameters and removes none. -/
def assessAddition (old new : Callable) (added : List Text) : Assessment :=
  let demands := demanded old new (added.filter fun name => new.at? name (·.isRequired))
  let claims := claimsKeyword old new added
  let breaks := kindsBreakCalls old new || claims
  let shifted := placeChanges old new
  let changes := kindChanges old new
  let variadic := added.filter fun name => new.at? name (·.kind.isVariadic)
  if !demands.isEmpty then
    sure .requiredParameterAdded .breaking
      ("Required Python parameter(s) added: " ++ nameText demands)
  else if !shifted.isEmpty then
    sure .parameterReordered .breaking
      ("Python parameter addition shifted retained positional binding(s): " ++ placeText shifted)
  else if (added.any fun name => new.at? name (·.kind.isPositional))
      && (new.names.filter old.has != old.names || insertsBefore old new added new.names || breaks) then
    sure .parameterReordered .breaking
      (if old.hasKind .variadicPositional && breaks then
        "An added Python positional parameter claims values previously captured by *args"
      else if claims then
        "An added Python positional-or-keyword parameter creates a duplicate binding for a name previously accepted by **kwargs"
      else
        "A Python positional parameter was inserted before an existing parameter, shifting positional argument binding")
  else if !changes.isEmpty then assessKinds old new changes
  else
    sure .optionalParameterAdded .compatible
      (if variadic.isEmpty then "Defaulted Python parameter(s) added: " ++ nameText added
      else "Variadic Python parameter(s) added: " ++ nameText variadic)

/-! ## Parameters removed and added -/

/-- Whether two functions have the same kinds of parameters in a row. -/
def sameKinds (old new : Callable) : Bool :=
  old.parameters.map (·.kind) == new.parameters.map (·.kind)

/-- What makes the new function refuse a call of the old one, when names were removed and added in no
simple way. -/
def assessCompound? (old new : Callable) (removed added : List Text) : Option Assessment :=
  let required := added.filter fun name => new.at? name (·.isRequired)
  let oldCount := old.positionals.length
  let newCount := new.positionals.length
  let fewer := !new.hasKind .variadicPositional && newCount < oldCount
  let lost := removed.filter fun name => old.at? name (·.kind.isKeyword)
  let losesKeyword := !lost.isEmpty && !new.hasKind .variadicKeyword
  if old.parameters.countP (·.isRequired) < new.parameters.countP (·.isRequired)
      || (required.any fun name => new.at? name (·.kind == .keywordOnly)) then
    some (sure .requiredParameterAdded .breaking
      ("Compound Python parameter change added required call demand: " ++ nameText required))
  else if fewer || losesKeyword then
    let capacity : Text :=
      "fixed positional capacity decreased from " ++ Text.ofNat oldCount ++ (" to " : Text)
        ++ Text.ofNat newCount
    let keywords : Text := "removed keyword-call name(s) are not captured: " ++ nameText lost
    some (sure .parameterRemoved .breaking
      ("Compound Python parameter change rejects an old call because "
        ++ Text.join "; " ((if fewer then [capacity] else []) ++ (if losesKeyword then [keywords] else []))))
  else none

/-- Whether syntax besides the parameter names differs. -/
def otherSyntaxDiffers (old new : Callable) : Bool :=
  old.parameters.map (fun p => (p.default, p.hint))
      != new.parameters.map (fun p => (p.default, p.hint))
    || old.returns != new.returns || old.decorators != new.decorators
    || old.typeParameters != new.typeParameters

/-- The assessment of renamed parameters: as many as before, of the same kinds. -/
def assessRenaming (old new : Callable) (removed added : List Text) : Assessment :=
  let pairs := old.parameters.zip new.parameters
  let shifted := placeChanges old new
  let undefaulted := pairs.filter fun (before, after) => before.default.isSome && after.default.isNone
  let byKeyword := pairs.any fun (before, after) => before.name != after.name && before.kind.isKeyword
  if !undefaulted.isEmpty then
    sure .defaultRemoved .breaking
      ("Default removed during compound Python parameter change: "
        ++ Text.join ", " (undefaulted.map fun (before, after) =>
          before.name ++ (" -> " : Text) ++ after.name))
  else if !shifted.isEmpty then
    sure .parameterReordered .breaking
      ("Retained Python positional parameter index changed: " ++ placeText shifted)
  else if otherSyntaxDiffers old new && !byKeyword then
    ⟨.parametersChanged, .unknown, .medium,
      ["Python parameter names and additional signature syntax changed together"],
      ["The bounded rules could not isolate the compound change's compatibility"]⟩
  else
    ⟨.parameterRenamed, if byKeyword then .breaking else .compatible, .high,
      ["Python parameter names changed: " ++ nameText removed ++ (" -> " : Text) ++ nameText added],
      if byKeyword then ["Positional calls may remain compatible; keyword-call compatibility breaks"]
      else []⟩

/-- The assessment of a change that removes parameters and adds others. -/
def assessReplacement (old new : Callable) (removed added : List Text) : Assessment :=
  let shifted := placeChanges old new
  if losesVariadic old new then
    sure .parametersChanged .breaking
      "Python parameter changes removed an unbounded *args or **kwargs capture"
  else if sameKinds old new then assessRenaming old new removed added
  else if !shifted.isEmpty then
    sure .parameterReordered .breaking
      ("Retained Python positional parameter index changed: " ++ placeText shifted)
  else match assessCompound? old new removed added with
    | some assessment => assessment
    | none =>
      ⟨.parametersChanged, .unknown, .medium,
        ["Python parameters were added and removed in one signature change"],
        ["The bounded rules could not prove whether this is a rename or a shape change"]⟩

/-! ## Other syntax -/

/-- A changed default or annotation of one parameter under the given wording. -/
def parameterSyntax (shown : Text) (before after : Parameter) : List Assessment :=
  let byDefault : List Assessment :=
    match before.default, after.default with
    | none, some _ => [sure .defaultAdded .compatible ("Default added to " ++ shown)]
    | some x, some y =>
      if x != y then
        [⟨.defaultChanged, .compatible, .high, ["Default changed for " ++ shown],
          ["Runtime behavior can change even though omitted-argument calls remain valid"]⟩]
      else []
    | _, _ => []
  byDefault ++
    if before.hint != after.hint then
      [⟨.parameterAnnotationChanged, .unknown, .high, ["Annotation syntax changed for " ++ shown],
        ["Python annotations alone do not prove runtime or type-checker compatibility"]⟩]
    else []

/-- Changed syntax around the parameters. -/
def surroundingSyntax (old new : Callable) : List Assessment :=
  (if old.returns != new.returns then
    [⟨.returnAnnotationChanged, .unknown, .high, ["Python return annotation syntax changed"],
      ["Annotation syntax does not prove runtime or type-checker compatibility"]⟩]
  else [])
  ++ (if old.decorators != new.decorators then
    [⟨.decoratorChanged, .unknown, .high, ["Python decorator syntax changed"],
      ["Decorator runtime behavior and call compatibility were not evaluated"]⟩]
  else [])
  ++ (if old.typeParameters != new.typeParameters then
    [⟨.typeParametersChanged, .unknown, .high, ["Python type-parameter syntax changed"],
      ["Type-checker compatibility was not evaluated"]⟩]
  else [])

/-- How a retained or renamed parameter is shown. -/
def shownPair (before after : Parameter) : Text :=
  if before.name == after.name then "Python parameter '" ++ before.name ++ ("'" : Text)
  else "renamed Python parameter '" ++ before.name ++ ("' -> '" : Text) ++ after.name ++ ("'" : Text)

/-- The parameters that stand for the same one before and after: those of one name, and in a renaming
those in one place. -/
def retainedPairs (old new : Callable) : List (Parameter × Parameter) :=
  let sameName := old.parameters.filterMap fun p => (new.find? p.name).map fun q => (p, q)
  let renames := sameKinds old new
    && !(old.names.all new.names.contains && new.names.all old.names.contains)
  let renamed := (old.parameters.zip new.parameters).filter fun (p, q) =>
    p.name != q.name && !new.has p.name && !old.has q.name
  if renames then sameName ++ renamed else sameName

/-- The changes of other syntax that may come with a changed call shape. -/
def syntaxChanges (old new : Callable) : List Assessment :=
  (retainedPairs old new).flatMap (fun (p, q) => parameterSyntax (shownPair p q) p q)
    ++ surroundingSyntax old new

/-- The syntax changes of a function whose parameters are the same by name, kind and order. A default
may be gone only if the parameter is variadic. -/
def retainedSyntax (old new : Callable) : List Assessment :=
  old.names.flatMap (fun name =>
    match old.find? name, new.find? name with
    | some before, some after => parameterSyntax (shownPair before after) before after
    | _, _ => [])
    ++ surroundingSyntax old new

/-! ## The whole change -/

/-- The assessment of the call shape. -/
def assessShape (old new : Callable) : Assessment :=
  let removed := removedNames old new
  let added := removedNames new old
  let undefaulted := defaultsRemoved old new
  let changes := kindChanges old new
  if !undefaulted.isEmpty then
    sure .defaultRemoved .breaking
      ("Default removed from retained Python parameter(s): " ++ nameText undefaulted)
  else if !removed.isEmpty && added.isEmpty then assessRemoval old new removed
  else if removed.isEmpty && !added.isEmpty then assessAddition old new added
  else if !removed.isEmpty then assessReplacement old new removed added
  else if !changes.isEmpty then assessKinds old new changes
  else if old.names != new.names then
    let moved := old.positionalNames != new.positionalNames
    sure .parameterReordered (if moved then .breaking else .compatible)
      (if moved then "Python positional parameter order changed"
      else "Python keyword-only parameter order changed")
  else match retainedSyntax old new with
    | first :: rest => Assessment.combine first rest
    | [] =>
      ⟨.signatureChanged, .unknown, .medium,
        ["Python signature syntax changed outside the bounded call-shape rules"],
        ["Compatibility was not proven for this syntax"]⟩

/-- The assessment of a changed function. -/
def assess (old new : Callable) : Assessment :=
  (assessShape old new).merge (syntaxChanges old new)

end ChangeReview.Callable
