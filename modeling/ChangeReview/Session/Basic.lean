import ChangeReview.FileTree.Basic
import ChangeReview.Json.Basic
import ChangeReview.Syntax.Dialect
import ChangeReview.Syntax.Node

/-!
# Sessions

A session holds all that a review asks of its surroundings: the answers of commands, the files, and the
trees of sources. It keeps a record of what was asked. An action on a session may fail; what it has
recorded until then stays.
-/

namespace ChangeReview

/-- A program and its arguments. -/
abbrev Command := List Text

/-- What a finished command leaves. -/
structure Outcome where
  status : Int := 0
  output : Bytes := []
  errors : Bytes := []

/-- The answer to a command: it finishes, or its program cannot be started. -/
inductive Reply where
  | finished (outcome : Outcome)
  | unavailable

/-- A reply that is kept for a command, or for any. -/
structure Prepared where
  /-- The command line, its parts divided by single spaces. -/
  line : Option Text
  reply : Reply

/-- A message to a service. -/
structure Letter where
  address : Text
  headers : List (Text × Text)
  body : Json

/-- What the grammars make of sources. One source may have a tree of its own under each of them. -/
structure Forest where
  tree? : Dialect → Text → Option SyntaxNode := fun _ _ => none

namespace Forest

/-- Listed sources with their trees, the same under all grammars. -/
def ofList (listed : List (Text × SyntaxNode)) : Forest where
  tree? _ source := listed.lookup source

instance : Coe (List (Text × SyntaxNode)) Forest := ⟨ofList⟩

@[simp] theorem tree?_ofList (listed : List (Text × SyntaxNode)) (dialect : Dialect) (source : Text) :
    (ofList listed).tree? dialect source = listed.lookup source := rfl

/-- The tree of a source under a grammar. A source without one is a single node. -/
def tree (f : Forest) (dialect : Dialect) (source : Text) (bytes : Bytes) : SyntaxNode :=
  (f.tree? dialect source).getD { kind := "program", start := 0, stop := bytes.length }

end Forest

/-- The surroundings of a review, and a record of what was asked of them. -/
structure Session where
  /-- The replies that are left; the first that fits is given and used up. -/
  prepared : List Prepared := []
  /-- The reply to a command for which none is left. -/
  otherwise : Reply := .unavailable
  /-- The files of the working directory. -/
  files : FileTree := .empty
  /-- The path of the working directory. -/
  directory : Text := "/"
  /-- What sources are parsed to. -/
  trees : Forest := {}
  /-- The commands that were run. -/
  commands : List Command := []
  /-- The lines that were logged as errors. -/
  log : List Text := []
  /-- The grammars that sources were parsed by. -/
  dialects : List Dialect := []
  /-- The answers that a service has left. -/
  answers : List Bytes := []
  /-- The complaint when a service does not answer. -/
  silence : Text := "no answer"
  /-- The messages that were sent to a service. -/
  sent : List Letter := []
  /-- What was printed on the way. -/
  printed : Text := []

/-- An action on a session that may fail. -/
abbrev Action := ExceptT Failure (StateM Session)

namespace Prepared

/-- Whether a reply is kept for a command. -/
def fits (p : Prepared) (c : Command) : Bool :=
  match p.line with
  | none => true
  | some line => line == Text.join " " c

/-- The first reply that fits, and the replies left without it. -/
def take? (c : Command) : List Prepared → Option (Reply × List Prepared)
  | [] => none
  | p :: rest =>
    if p.fits c then some (p.reply, rest) else (take? c rest).map fun (r, left) => (r, p :: left)

end Prepared

namespace Session

/-- The reply to a command, and the session after it. -/
def ask (s : Session) (c : Command) : Reply × Session :=
  let s := { s with commands := s.commands ++ [c] }
  match Prepared.take? c s.prepared with
  | some (reply, left) => (reply, { s with prepared := left })
  | none => (s.otherwise, s)

/-- The path of a file of the working directory. -/
def absolute (s : Session) (path : List Text) : Text :=
  if path.isEmpty then s.directory else Path.join s.directory (Text.join "/" path)

/-- The parts of a path from the working directory on, unless the path leads outside. -/
def inside? (s : Session) (path : Text) : Option (List Text) :=
  let root := Path.parts s.directory
  let parts := Path.parts path
  if root.isPrefixOf parts then some (parts.drop root.length)
  else if Path.isAbsolute path then none
  else some parts

/-- Where a path leads. -/
def find (s : Session) (path : Text) : FileTree.Landing :=
  match s.inside? path with
  | some parts => s.files.find parts
  | none => .absent [] .missing

/-- Where a path leads, its last part taken as it is. -/
def findPlain (s : Session) (path : Text) : FileTree.Landing :=
  match s.inside? path with
  | some parts => s.files.findPlain parts
  | none => .absent [] .missing

end Session

/-- A result without effects is an action. -/
instance : MonadLift (Except Failure) Action where
  monadLift
    | .ok a => pure a
    | .error f => throw f

namespace Action

/-- The result of an action, and the session after it. -/
def on {α : Type} (act : Action α) (s : Session) : Except Failure α × Session := act s

/-- What a command leaves. A program that cannot be started fails the action. -/
def run (c : Command) : Action Outcome := do
  match ← modifyGet (·.ask c) with
  | .finished outcome => return outcome
  | .unavailable => throw (.file .missing (c.headD []))

/-- What a command leaves, if its program can be started. -/
def run? (c : Command) : Action (Option Outcome) := do
  match ← modifyGet (·.ask c) with
  | .finished outcome => return some outcome
  | .unavailable => return none

/-- Logs a failure on one line and fails with it. -/
def failLogged {α : Type} (f : Failure) : Action α := do
  modify fun s => { s with log := s.log ++ [f.message.terminalSafe] }
  throw f

/-- Prints a line. -/
def print (t : Text) : Action Unit := modify fun s => { s with printed := s.printed ++ t ++ "\n" }

/-- Sends a message to a service and gives its answer. -/
def send (letter : Letter) : Action Bytes := do
  let s ← get
  let s := { s with sent := s.sent ++ [letter] }
  match s.answers with
  | [] =>
    set s
    throw (.noAnswer s.silence)
  | answer :: rest =>
    set { s with answers := rest }
    return answer

/-- The tree of a source under a grammar, and the bytes it spans. -/
def parse (dialect : Dialect) (source : Text) : Action (SyntaxNode × Bytes) := do
  let bytes ← source.encode
  let s ← get
  set { s with dialects := s.dialects ++ [dialect] }
  return (s.trees.tree dialect source bytes, bytes)

end Action

namespace Outcome

/-- Bytes as text: what is not UTF-8 is carried, and every line ends in the same way. -/
def textOf (bytes : Bytes) : Text := Text.unifyBreaks (Bytes.decodeCarrying bytes)

/-- The output as text. -/
def outputText (o : Outcome) : Text := textOf o.output

/-- The complaints as text. -/
def errorText (o : Outcome) : Text := textOf o.errors

end Outcome

end ChangeReview
