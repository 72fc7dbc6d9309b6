import ChangeReview.Closeout.Limit
import ChangeReview.Text.Visible

/-!
# Settings of a bounded review

The options of a bounded review. An option may be shortened while it is told from the others, and its value
follows it or stands behind an equals sign.
-/

namespace ChangeReview.Closeout

/-- What a bounded review is asked to do. -/
structure Settings where
  base : Text := "origin/main"
  repository : Text := "."
  timeLimit : Binary64 := Binary64.ofDecimal false 300 0
  outputLimit : Nat := 10485760
  /-- The directory that keeps the artifacts. -/
  artifacts : Text
deriving DecidableEq

/-- An option. -/
inductive Setting where
  | help
  | base
  | repository
  | timeLimit
  | outputLimit
  | artifacts
deriving DecidableEq

namespace Setting

/-- All options, in the order of the help. -/
def all : List Setting := [.help, .base, .repository, .timeLimit, .outputLimit, .artifacts]

/-- The name of an option. -/
def name : Setting → Text
  | .help => "--help"
  | .base => "--base"
  | .repository => "--repo"
  | .timeLimit => "--timeout-seconds"
  | .outputLimit => "--max-output-bytes"
  | .artifacts => "--artifact-dir"

/-- The option of a name. -/
def ofName? (t : Text) : Option Setting := if t == "-h" then some .help else all.find? (·.name == t)

/-- The kind of number that an option takes. -/
def valueKind : Setting → Text
  | .timeLimit => "_positive_float"
  | .outputLimit => "_positive_int"
  | _ => "str"

end Setting

/-- Why the arguments are refused. -/
inductive UsageError where
  | missingValue (setting : Setting)
  | badLimit (setting : Setting) (value : Text) (fault : LimitFault)
  | ambiguous (argument : Text) (matching : List Setting)
  | unrecognized (arguments : List Text)

/-- The wording of a refusal. -/
def UsageError.message : UsageError → Text
  | .missingValue setting => "argument " ++ setting.name ++ ": expected one argument"
  | .badLimit setting value .unreadable =>
    "argument " ++ setting.name ++ ": invalid " ++ setting.valueKind ++ " value: " ++ value.quoted
  | .badLimit setting _ fault => "argument " ++ setting.name ++ ": " ++ fault.message
  | .ambiguous argument matching =>
    "ambiguous option: " ++ argument ++ " could match " ++ Text.join ", " (matching.map Setting.name)
  | .unrecognized arguments => "unrecognized arguments: " ++ Text.join " " arguments

/-- What an argument looks like on its own. -/
inductive Argument where
  /-- An option, and the value behind its equals sign. -/
  | option (setting : Setting) (value : Option Text)
  | unknownOption
  /-- Two dashes: all that follows is plain. -/
  | divider
  | plain

namespace Argument

/-- A negative decimal without an exponent; a line feed may end it. -/
def isNegativeNumber (t : Text) : Bool :=
  match (Text.before? "\n" t).getD t with
  | [] => false
  | sign :: r =>
    let isDigit (c : CodePoint) : Bool := c.decimalValue?.isSome
    let (_, rest) := r.span isDigit
    sign == '-' && match rest with
      | [] => !r.isEmpty
      | point :: places => point == '.' && !places.isEmpty && places.all isDigit

/-- An argument in dashes: an option, or one that is meant as such. -/
def ofDashed (t : Text) : Except UsageError Argument :=
  let (name, value) : Text × Option Text := match Text.cut? "=" t with
    | some (name, value) => (name, some value)
    | none => (t, none)
  match Setting.ofName? t, Setting.ofName? name with
  | some setting, _ => .ok (.option setting none)
  | none, some setting => .ok (.option setting value)
  | none, none =>
    if t.startsWith "-h" then .ok (.option .help none)
    else match if t.startsWith "--" then Setting.all.filter (Text.startsWith ·.name name) else [] with
      | [setting] => .ok (.option setting value)
      | [] => .ok (if isNegativeNumber t || t.contains ' ' then .plain else .unknownOption)
      | matching => .error (.ambiguous t matching)

/-- What an argument looks like. -/
def ofText (t : Text) : Except UsageError Argument :=
  if t == "--" then .ok .divider
  else if t.startsWith "-" && t != "-" then ofDashed t
  else .ok .plain

/-- Arguments with what they look like. -/
def ofTexts : List Text → Except UsageError (List (Text × Argument))
  | [] => return []
  | t :: rest => do
    match ← ofText t with
    | .divider => return (t, .divider) :: rest.map fun r => (r, .plain)
    | argument => return (t, argument) :: (← ofTexts rest)

end Argument

namespace Settings

/-- Settings with one option set. -/
def assign (s : Settings) (setting : Setting) (value : Text) : Except UsageError Settings :=
  match setting with
  | .help => .ok s
  | .base => .ok { s with base := value }
  | .repository => .ok { s with repository := value }
  | .artifacts => .ok { s with artifacts := value }
  | .timeLimit =>
    match Limit.seconds value with
    | .ok limit => .ok { s with timeLimit := limit }
    | .error fault => .error (.badLimit setting value fault)
  | .outputLimit =>
    match Limit.bytes value with
    | .ok limit => .ok { s with outputLimit := limit }
    | .error fault => .error (.badLimit setting value fault)

/-- Settings after the arguments, and the arguments that are left over. Nothing where help is asked for. -/
def readFrom (s : Settings) : List (Text × Argument) → Except UsageError (Option (Settings × List Text))
  | [] => return some (s, [])
  | (_, .option .help _) :: _ => return none
  | (_, .option setting (some value)) :: rest => do readFrom (← s.assign setting value) rest
  | (_, .option setting none) :: (value, .plain) :: rest => do readFrom (← s.assign setting value) rest
  | (_, .option setting none) :: _ => throw (.missingValue setting)
  | (t, _) :: rest => do
    return (← readFrom s rest).map fun (s, others) => (s, t :: others)

/-- The settings that arguments ask for, or nothing where they ask for help. -/
def ofArguments (artifacts : Text) (arguments : List Text) : Except UsageError (Option Settings) := do
  match ← readFrom { artifacts } (← Argument.ofTexts arguments) with
  | none => return none
  | some (s, []) => return some s
  | some (_, others) => throw (.unrecognized others)

end Settings

end ChangeReview.Closeout
