import ChangeReview.Failure
import ChangeReview.Number.Binary64
import ChangeReview.Text.Encoding

/-!
# Captured output

The two streams of a running review, kept up to a limit that they share. A chunk that goes past the limit is
cut there, and the review is stopped.
-/

namespace ChangeReview.Closeout

/-- A stream of a running review. -/
inductive Stream where
  | output
  | errors
deriving DecidableEq

/-- A signal. -/
inductive Signal where
  | hangup
  | interrupt
  | terminate
  | kill
deriving DecidableEq

/-- The name of a signal. -/
def Signal.name : Signal → Text
  | .hangup => "SIGHUP"
  | .interrupt => "SIGINT"
  | .terminate => "SIGTERM"
  | .kill => "SIGKILL"

/-- Why a bounded review fails. -/
inductive Stop where
  | notStarted (why : Text)
  | interrupted (signal : Signal)
  | timeLimit (seconds : Binary64)
  | outputLimit (bytes : Nat)
  | unreadable (why : Text)
  | unexpectedStatus (status : Int)
deriving DecidableEq

/-- The wording of a failed review. -/
def Stop.message : Stop → Text
  | .notStarted why => "unable to start review: " ++ why
  | .interrupted signal => "interrupted by " ++ signal.name
  | .timeLimit seconds => "wall-time limit exceeded (" ++ seconds.brief ++ "s)"
  | .outputLimit bytes => "combined output limit exceeded (" ++ Text.ofNat bytes ++ " bytes)"
  | .unreadable why => "unable to capture review output: " ++ why
  | .unexpectedStatus status => "unexpected review exit status " ++ Text.ofInt status

/-- The group of processes of a review, and the signals it was sent. -/
structure Group where
  /-- Which of the signals finds nobody left. -/
  goneAt : Option Nat := none
  sent : List Signal := []
deriving DecidableEq

namespace Group

/-- The group after a signal. -/
def signal (g : Group) (s : Signal) : Group := { g with sent := g.sent ++ [s] }

/-- The group after it is stopped: it is asked to end, then made to, unless nobody is left. -/
def stop (g : Group) : Group :=
  let asked := g.signal .terminate
  if g.goneAt == some asked.sent.length then asked else asked.signal .kill

end Group

/-- What is captured of a running review. -/
structure Capture where
  /-- How many bytes are kept of both streams together. -/
  limit : Nat
  output : Bytes := []
  errors : Bytes := []
  /-- Why the review was stopped. -/
  failure : Option Stop := none
  group : Group := {}
deriving DecidableEq

namespace Capture

/-- How many bytes are kept. -/
def size (c : Capture) : Nat := c.output.length + c.errors.length

/-- How many more bytes may be kept. -/
def room (c : Capture) : Nat := c.limit - c.size

/-- What is kept of a stream. -/
def kept (c : Capture) : Stream → Bytes
  | .output => c.output
  | .errors => c.errors

/-- The capture with more kept of a stream. -/
def keep (c : Capture) (stream : Stream) (bytes : Bytes) : Capture :=
  match stream with
  | .output => { c with output := c.output ++ bytes }
  | .errors => { c with errors := c.errors ++ bytes }

/-- The capture after the review is stopped; the first reason stays. -/
def stop (c : Capture) (why : Stop) : Capture :=
  { c with failure := some (c.failure.getD why), group := c.group.stop }

/-- The capture after the review is stopped for a reason, unless it was stopped before. -/
def stopOnce (c : Capture) (why : Stop) : Capture := if c.failure.isNone then c.stop why else c

/-- The capture after a chunk of a stream. -/
def receive (c : Capture) (stream : Stream) (chunk : Bytes) : Capture :=
  let next := c.keep stream (chunk.take c.room)
  if c.room < chunk.length then next.stopOnce (.outputLimit c.limit) else next

/-- The capture after chunks in the order of their arrival. -/
def receiveAll (c : Capture) (chunks : List (Stream × Bytes)) : Capture :=
  chunks.foldl (fun c (stream, chunk) => c.receive stream chunk) c

/-- The status that a bounded review exits with once its process has ended, and why it failed. -/
def conclude (c : Capture) (status : Int) : Nat × Option Stop :=
  match c.failure with
  | some why => (2, some why)
  | none =>
    if status == 0 || status == 1 || status == 2 then (status.toNat, none)
    else (2, some (.unexpectedStatus status))

end Capture

end ChangeReview.Closeout
