import ChangeReview.Closeout.Capture

/-!
# Watching a review

A review process is watched in turns: the clock is read, then each stream that has something to say. The
streams close once the process ends; one that hangs ends when it is first signalled.
-/

namespace ChangeReview.Closeout

/-- A review process, as it will run. -/
structure Child where
  output : Bytes := []
  errors : Bytes := []
  status : Int := 0
  /-- Its streams stay open until it is signalled. -/
  hangs : Bool := false
  /-- It outlives its streams beyond the time limit. -/
  lingers : Bool := false
  /-- Which of the signals to it finds nobody left. -/
  goneAt : Option Nat := none

/-- What happens around a review while it is watched. -/
structure Weather where
  /-- How far the clock moves from one reading to the next. -/
  tick : Binary64 := Binary64.zero
  /-- A signal that arrives in the first turn. -/
  interruption : Option Signal := none
  /-- Which read of a stream fails, and the wording of the fault. -/
  failingRead : Option Nat := none
  fault : Text := []

/-- A watched review: what is captured, what its streams still hold, and how often they were read. A stream
that is closed holds nothing. -/
structure Watch where
  capture : Capture
  output : Option (List Bytes)
  errors : Option (List Bytes)
  reads : Nat := 0

/-- How many bytes are read at once. -/
def readSize : Nat := 65536

/-- Bytes in chunks of the size that is read at once; the last may be shorter. -/
def chunks (bytes : Bytes) : List Bytes :=
  if bytes.isEmpty then [] else bytes.take readSize :: chunks (bytes.drop readSize)
termination_by bytes.length
decreasing_by
  simp only [List.length_drop, readSize]
  have : bytes ≠ [] := by simp_all
  have := List.length_pos_iff.2 this
  omega

namespace Watch

/-- What a stream still holds. -/
def pending (w : Watch) : Stream → Option (List Bytes)
  | .output => w.output
  | .errors => w.errors

/-- A watch with what a stream still holds. -/
def setPending (w : Watch) (stream : Stream) (rest : Option (List Bytes)) : Watch :=
  match stream with
  | .output => { w with output := rest }
  | .errors => { w with errors := rest }

/-- Whether both streams are closed. -/
def isOver (w : Watch) : Bool := w.output.isNone && w.errors.isNone

/-- Whether a stream has a chunk or its end to be read. -/
def isReady (w : Watch) (child : Child) (stream : Stream) : Bool :=
  match w.pending stream with
  | none => false
  | some [] => !child.hangs || !w.capture.group.sent.isEmpty
  | some _ => true

/-- Reads a stream once. Fails, with the review stopped, if the read does. -/
def read (w : Watch) (weather : Weather) (stream : Stream) : Except Watch Watch :=
  let w := { w with reads := w.reads + 1 }
  if weather.failingRead == some w.reads then
    .error { w with capture := w.capture.stop (.unreadable weather.fault) }
  else match w.pending stream with
    | some (chunk :: rest) =>
      .ok ({ w with capture := w.capture.receive stream chunk }.setPending stream (some rest))
    | _ => .ok (w.setPending stream none)

/-- The watch once the clock was read for the turn: a signal may arrive, and the time may be over. -/
def readClock (w : Watch) (weather : Weather) (limit : Binary64) (turn : Nat) : Watch :=
  let capture := match turn, weather.interruption with
    | 1, some signal => w.capture.stop (.interrupted signal)
    | _, _ => w.capture
  let deadline := weather.tick.plus limit
  let isLate := (weather.tick.times (turn + 1)).reaches deadline
  { w with capture := if isLate then capture.stopOnce (.timeLimit limit) else capture }

/-- One turn. Where nothing is ready, the review waits for the time limit. -/
def turn (w : Watch) (child : Child) (weather : Weather) (limit : Binary64) (number : Nat) :
    Except Watch Watch := do
  let w := w.readClock weather limit number
  let ready := [Stream.output, .errors].filter (w.isReady child)
  if ready.isEmpty then return { w with capture := w.capture.stopOnce (.timeLimit limit) }
  ready.foldlM (fun w stream => w.read weather stream) w

/-- The watch after at most `turns` turns, the next being numbered `number`. -/
def turns (child : Child) (weather : Weather) (limit : Binary64) : (turns number : Nat) → Watch → Watch
  | 0, _, w => w
  | rest + 1, number, w =>
    if w.isOver then w
    else match w.turn child weather limit number with
      | .ok w => turns child weather limit rest (number + 1) w
      | .error w => w

end Watch

namespace Child

/-- What is captured of a review within a time and an output limit. Every turn reads a chunk or the end of a
stream, but for one in which a review that hangs is stopped. -/
def watch (child : Child) (weather : Weather) (timeLimit : Binary64) (outputLimit : Nat) : Capture :=
  let output := chunks child.output
  let errors := chunks child.errors
  let start : Watch :=
    { capture := { limit := outputLimit, group := { goneAt := child.goneAt } }
      output := some output, errors := some errors }
  let last := Watch.turns child weather timeLimit (output.length + errors.length + 3) 1 start
  if child.lingers then last.capture.stopOnce (.timeLimit timeLimit) else last.capture

end Child

end ChangeReview.Closeout
