import ChangeReview.OrderedMap
import ChangeReview.Text.Basic

/-!
# Command line arguments

Options may stand anywhere among the other arguments, until a double dash. Of an option that is given
twice the last one counts.
-/

namespace ChangeReview.CommandLine

/-- Why arguments are refused. -/
inductive UsageError where
  | unknownOption
  /-- An option without the value it needs, or with one that it does not take. -/
  | misusedOption
  | badValue
  | unexpectedArgument
  | unknownCommand
  | missingCommand
deriving DecidableEq

/-- What an option takes. -/
inductive OptionKind where
  | text
  | choice (values : List Text)
  | flag (value : Bool)

/-- An option. -/
structure OptionForm where
  key : Text
  names : List Text
  kind : OptionKind
  /-- The letter that stands for the option after a single dash. -/
  letter : Option CodePoint := none

/-- What is given for an option. -/
inductive Given where
  | text (value : Text)
  | flag (value : Bool)
deriving DecidableEq

/-- The arguments, options told from others. -/
structure Arguments where
  options : List (Text × Given) := []
  positionals : List Text := []

namespace Arguments

/-- One more option before the others. -/
def withOption (key : Text) (value : Given) (a : Arguments) : Arguments :=
  { a with options := (key, value) :: a.options }

/-- One more argument before the others. -/
def withPositional (value : Text) (a : Arguments) : Arguments :=
  { a with positionals := value :: a.positionals }

/-- The last that is given for an option. -/
def last? (a : Arguments) (key : Text) : Option Given := a.options.reverse.lookup key

/-- The text that is given for an option. -/
def text? (a : Arguments) (key : Text) : Option Text :=
  match a.last? key with
  | some (.text value) => some value
  | _ => none

/-- Whether an option is switched on. -/
def flag (a : Arguments) (key : Text) (default : Bool := false) : Bool :=
  match a.last? key with
  | some (.flag value) => value
  | _ => default

end Arguments

/-- Whether an argument is an option. -/
def isOption (arg : Text) : Bool := arg.startsWith "-" && 1 < arg.length

/-- The flags of letters after a single dash. -/
def letterFlags (forms : List OptionForm) : Text → Except UsageError (List (Text × Given))
  | [] => .ok []
  | letter :: rest =>
    match forms.find? (·.letter == some letter) with
    | some { key, kind := .flag value, .. } => (letterFlags forms rest).map ((key, .flag value) :: ·)
    | _ => .error .unknownOption

/-- The name of an option, and the value after an equals sign. -/
def divided (arg : Text) : Text × Option Text :=
  match Text.cut? "=" arg with
  | some (name, value) => (name, some value)
  | none => (arg, none)

/-- Tells options from other arguments. Unless they are mixed, all from the first other argument on is
left as it is. -/
def Arguments.scan (forms : List OptionForm) (mixed : Bool) : List Text → Except UsageError Arguments
  | [] => .ok {}
  | arg :: rest =>
    if arg == "--" then .ok { positionals := rest }
    else if !isOption arg then
      if mixed then (scan forms mixed rest).map (withPositional arg) else .ok { positionals := arg :: rest }
    else
      match forms.find? (·.names.contains (divided arg).1) with
      | none =>
        if arg.startsWith "--" then .error .unknownOption
        else do
          let flags ← letterFlags forms (arg.drop 1)
          let later ← scan forms mixed rest
          return { later with options := flags ++ later.options }
      | some { key, kind := .flag value, .. } =>
        if (divided arg).2.isSome then .error .misusedOption
        else (scan forms mixed rest).map (withOption key (.flag value))
      | some { key, .. } =>
        match (divided arg).2 with
        | some value => (scan forms mixed rest).map (withOption key (.text value))
        | none =>
          match rest with
          | value :: later => (scan forms mixed later).map (withOption key (.text value))
          | [] => .error .misusedOption

/-- Accepts arguments whose options have the values they may have. -/
def Arguments.check (forms : List OptionForm) (a : Arguments) : Except UsageError Unit :=
  let isBad (f : OptionForm) : Bool :=
    match f.kind, a.text? f.key with
    | .choice values, some value => !values.contains value
    | _, _ => false
  if forms.any isBad then .error .badValue else .ok ()

end ChangeReview.CommandLine
