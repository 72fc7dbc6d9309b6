import ChangeReview.Closeout.Settings
import ChangeReview.Closeout.Watch
import ChangeReview.Json.Writer
import ChangeReview.Review.Printed

/-!
# Bounded reviews

Runs a review of the working tree within limits. Its two streams are kept as artifacts that only their owner
can read.
-/

namespace ChangeReview.Closeout

/-- The ending of the artifact of a stream. -/
def Stream.ending : Stream → Text
  | .output => ".json"
  | .errors => ".stderr"

/-- Which calls fail while the artifacts are made. -/
structure Obstacles where
  creation : Option Nat := none
  protection : Option Nat := none
  removal : Option Nat := none
  /-- The wording of a fault. -/
  fault : Text := []

/-- How far the making of one artifact came. -/
inductive Making where
  | absent
  | unprotected
  | made

namespace Obstacles

/-- The making of the artifact with a number. -/
def making (o : Obstacles) (number : Nat) : Making :=
  if o.creation == some number then .absent
  else if o.protection == some number then .unprotected
  else .made

/-- The artifacts left behind of those that are removed, in the order of their removal. -/
def leftovers (o : Obstacles) (removed : List Stream) : List Stream :=
  (removed.zipIdx 1).filterMap fun (stream, number) => if o.removal == some number then some stream else none

/-- Makes both artifacts, or neither. Where that fails, the artifacts that could not be removed. -/
def makeBoth (o : Obstacles) : Except (List Stream) Unit :=
  match o.making 1 with
  | .absent => .error []
  | .unprotected => .error (o.leftovers [.output])
  | .made =>
    match o.making 2 with
    | .absent => .error (o.leftovers [.output])
    | .unprotected => .error (o.leftovers [.errors, .output])
    | .made => .ok ()

end Obstacles

/-- What a bounded review meets: its process, unless it cannot be started, and what happens around it. -/
structure Encounter where
  child : Option Child := some {}
  weather : Weather := {}
  obstacles : Obstacles := {}
  /-- The file names of the artifacts, without their endings. -/
  stem : Text

/-- A finished bounded review. -/
structure Conclusion where
  printed : Printed
  /-- The signals that its processes were sent. -/
  signals : List Signal := []

/-- The command of a review of the working tree of a repository. -/
def command (repository base : Text) : Command :=
  ["uv", "run", "--project", repository, "--locked", "diffguard", "review", "--against", base,
    "--worktree", "--format", "json", "--repo", repository]

/-- A message of the runner. -/
def remark (message : Text) : Text := Printed.line ("DiffGuard closeout runner: " ++ message)

/-- The path of a repository, its links followed. -/
def resolve (s : Session) (path : Text) : Text :=
  let path := Path.join s.directory path
  match s.inside? path with
  | none => Path.key path
  | some parts =>
    match s.files.canonical FileTree.linkLimit [] parts with
    | .ok parts => s.absolute parts
    | .error there => s.absolute there

/-- The session with an artifact of a stream. -/
def store (e : Encounter) (directory : List Text) (stream : Stream) (data : Bytes) (s : Session) : Session :=
  { s with files := s.files.put (directory ++ [e.stem ++ stream.ending]) (.file data false) }

/-- What the review of a repository leaves, within the limits: its streams, why it failed, and the status. -/
def Encounter.review (e : Encounter) (settings : Settings) : Capture × Nat × Option Stop :=
  match e.child with
  | some child =>
    let capture := child.watch e.weather settings.timeLimit settings.outputLimit
    (capture, capture.conclude child.status)
  | none =>
    let why := Stop.notStarted (Failure.file .missing "uv").message
    ({ limit := settings.outputLimit, errors := why.message.surrogateFree.flatMap CodePoint.utf8 }, 2, some why)

/-- The line that tells where an artifact is. -/
def artifactLine (label path : Text) : Text :=
  Printed.line ("DiffGuard " ++ label ++ " artifact: " ++ Json.quote path)

/-- Runs a bounded review. -/
def Settings.run (settings : Settings) (e : Encounter) : StateM Session Conclusion := do
  let s ← get
  let path := Path.tidy settings.artifacts
  match s.find path with
  | .found directory (.directory _) =>
    match e.obstacles.makeBoth with
    | .error left =>
      set (left.foldl (fun s stream => store e directory stream [] s) s)
      return { printed :=
        { status := 2, errors := remark ("unable to create private artifacts: " ++ e.obstacles.fault) } }
    | .ok () =>
      let argv := command (resolve s settings.repository) settings.base
      let (capture, status, failure) := e.review settings
      let s := { s with commands := s.commands ++ [argv] }
      set (store e directory .errors capture.errors (store e directory .output capture.output s))
      let place := Path.key (s.directory ++ "/" ++ path) ++ "/" ++ e.stem
      return {
        printed := {
          status
          output := artifactLine "review" (place ++ Stream.output.ending)
            ++ artifactLine "stderr" (place ++ Stream.errors.ending)
          errors := (failure.map fun why => remark why.message).getD [] }
        signals := capture.group.sent }
  | _ =>
    let shown := "PosixPath(" ++ path.quoted ++ ")"
    return { printed :=
      { status := 2
        errors := remark ("artifact directory is not an existing directory: " ++ shown) } }

end ChangeReview.Closeout
