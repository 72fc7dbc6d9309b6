import ChangeReview.Callable.Assessment
import ChangeReview.Signature.Parameters

/-!
# Comparing signatures

Two signatures are equivalent if they differ in layout at most; otherwise their difference is assessed.
Python functions are judged by their call shape, other languages by parameters and what follows them.
-/

namespace ChangeReview.Signature

/-- Drops a word and the blanks after it, of which there is at least one. -/
def afterWord? (word : Text) (t : Text) : Option Text := do
  let rest ← Text.after? word t
  if (rest.head?.map CodePoint.isBlank).getD false then some rest.trimLeft else none

/-- Whether a signature outside Python declares a class. -/
def declaresClass (signature : Text) : Bool :=
  let t := signature.trimLeft
  let t := match afterWord? "export" t with
    | some rest => (afterWord? "default" rest).getD rest
    | none => t
  let t := (afterWord? "abstract" t).getD t
  (afterWord? "class" t).isSome

/-- Whether a signature declares a class. -/
def isClass (language : Language) (signature : Text) : Except Failure Bool :=
  if language == .python then do
    return ((← Declaration.parse signature).map (·.isClass)).getD false
  else return declaresClass signature

/-- The assessment of a changed class. -/
def classAssessment (language : Language) : Assessment :=
  let name := language.toText
  let (evidence, gap) : Text × Text :=
    if language == .python then
      ("Python class base/decorator syntax changed",
        "Class compatibility requires inheritance, metaclass, and runtime analysis")
    else
      (name ++ (" class declaration/heritage syntax changed" : Text),
        name ++ (" class compatibility requires inheritance, type, and runtime analysis" : Text))
  ⟨.classSignatureChanged, .unknown, .high, [evidence], [gap]⟩

/-- The assessment of a Python signature of which one side is no function. -/
def unreadAssessment : Assessment :=
  ⟨.signatureChanged, .unknown, .low, ["Python signature syntax changed"],
    ["The running Python parser could not model this signature; compatibility is unknown"]⟩

/-- The assessment of a changed Python signature that is no class. -/
def assessPython (old new : Text) : Except Failure Assessment := do
  let old := (← Declaration.parse old).bind (·.callable?)
  let new := (← Declaration.parse new).bind (·.callable?)
  match old, new with
  | some old, some new => return Callable.assess old new
  | _, _ => return unreadAssessment

/-- The assessment of a changed signature by its parameters and what follows them. -/
def assessLexical (language : Language) (old new : Text) : Except Failure Assessment := do
  let oldParameters := parameters (some language) old
  let newParameters := parameters (some language) new
  let comparable := oldParameters.map (Lexeme.comparable language)
  let tokens (t : Text) := Lexeme.comparable language (tail (some language) t)
  let assessment (category : Category) (confidence : Confidence) (evidence : Text) : Assessment :=
    ⟨category, .unknown, confidence, [language.toText ++ evidence],
      [language.toText ++ (" compatibility requires compiler/type resolution not performed here" : Text)]⟩
  if newParameters.length < oldParameters.length then
    return assessment .parameterRemoved .medium " parameter-list arity decreased syntactically"
  else if oldParameters.length < newParameters.length then
    return assessment .parameterAdded .medium " parameter-list arity increased syntactically"
  else if comparable != newParameters.map (Lexeme.comparable language) then
    let oldNames ← oldParameters.mapM parameterName
    let newNames ← newParameters.mapM parameterName
    let reordered := oldNames != newNames && Text.sort oldNames == Text.sort newNames
    return assessment (if reordered then .parameterReordered else .parametersChanged) .medium
      " parameter syntax changed"
  else if tokens old != tokens new then
    return assessment .returnTypeChanged .medium " return-type syntax changed"
  else return assessment .signatureChanged .low " signature syntax changed"

/-- The assessment of a changed signature. -/
def assess (language : Language) (old new : Text) : Except Failure Assessment := do
  if ← isClass language old then return classAssessment language
  else if ← isClass language new then return classAssessment language
  else if language == .python then assessPython old new
  else assessLexical language old new

/-- Whether two Python signatures differ in layout at most. -/
def pythonEquivalent (old new : Text) : Except Failure Bool := do
  match ← Declaration.parse old, ← Declaration.parse new with
  | some old, some new => return old.sameAs new
  | _, _ => return false

/-- Whether two signatures differ in layout at most. -/
def equivalent (language : Language) (old new : Text) : Except Failure Bool :=
  if old == new then return true
  else if language == .python then pythonEquivalent old new
  else return language.comparesTokens && Lexeme.comparable language old == Lexeme.comparable language new

/-- Compares two signatures: nothing if they are equivalent, else the assessment of their difference. -/
def compare (language : Language) (old new : Text) : Except Failure (Option Assessment) := do
  if ← equivalent language old new then return none
  else return some (← assess language old new)

end ChangeReview.Signature
