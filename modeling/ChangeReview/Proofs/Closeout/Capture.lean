import Mathlib.Data.List.Basic
import ChangeReview.Closeout.Watch

/-!
# The shared limit of two streams

Two streams of a review share one limit, and their chunks come in any order. `Capture.Holds` compares a capture
with the chunks that have arrived. One chunk keeps it, so every order of reading does, and the turns in which a
review is watched are one such order.
-/

namespace ChangeReview.Closeout

/-- Chunks with the streams they came from, in the order of their arrival. -/
abbrev Arrivals := List (Stream × Bytes)

/-- What a stream has sent of the chunks that arrived. -/
def Stream.sent (stream : Stream) (arrivals : Arrivals) : Bytes :=
  arrivals.flatMap fun arrival => if arrival.1 = stream then arrival.2 else []

theorem Stream.sent_append (stream : Stream) (a b : Arrivals) :
    stream.sent (a ++ b) = stream.sent a ++ stream.sent b := List.flatMap_append

theorem Stream.sent_singleton (stream other : Stream) (chunk : Bytes) :
    stream.sent [(other, chunk)] = if other = stream then chunk else [] := List.append_nil _

/-- How many bytes arrived. -/
def Arrivals.volume (arrivals : Arrivals) : Nat :=
  (Stream.output.sent arrivals).length + (Stream.errors.sent arrivals).length

theorem Arrivals.volume_concat (arrivals : Arrivals) (stream : Stream) (chunk : Bytes) :
    volume (arrivals ++ [(stream, chunk)]) = volume arrivals + chunk.length := by
  unfold volume
  rw [Stream.sent_append, Stream.sent_append, Stream.sent_singleton, Stream.sent_singleton, List.length_append,
    List.length_append]
  cases stream <;> simp <;> omega

namespace Capture

variable {c : Capture} {arrivals : Arrivals}

theorem kept_receive (c : Capture) (stream other : Stream) (chunk : Bytes) :
    (c.receive stream chunk).kept other = c.kept other ++ if stream = other then chunk.take c.room else [] := by
  have hkeep : (c.keep stream (chunk.take c.room)).kept other
      = c.kept other ++ if stream = other then chunk.take c.room else [] := by
    cases stream <;> cases other <;> simp [keep, kept]
  unfold receive stopOnce
  dsimp only
  split
  · split <;> exact hkeep
  · exact hkeep

theorem size_receive (c : Capture) (stream : Stream) (chunk : Bytes) :
    (c.receive stream chunk).size = c.size + min c.room chunk.length := by
  show ((c.receive stream chunk).kept .output).length + ((c.receive stream chunk).kept .errors).length = _
  rw [kept_receive, kept_receive, List.length_append, List.length_append]
  show c.output.length + _ + (c.errors.length + _) = c.output.length + c.errors.length + _
  cases stream <;> simp <;> omega

theorem limit_receive (c : Capture) (stream : Stream) (chunk : Bytes) :
    (c.receive stream chunk).limit = c.limit := by
  unfold receive stopOnce
  cases stream <;> dsimp only <;> split <;> try split
  all_goals rfl

theorem failure_receive (c : Capture) (stream : Stream) (chunk : Bytes) :
    (c.receive stream chunk).failure =
      if c.room < chunk.length then c.failure.or (some (.outputLimit c.limit)) else c.failure := by
  have hkeep : (c.keep stream (chunk.take c.room)).failure = c.failure := by cases stream <;> rfl
  unfold receive stopOnce stop
  dsimp only
  rw [hkeep]
  split
  · cases hfailure : c.failure with
    | none => rfl
    | some why => exact hkeep.trans hfailure
  · exact hkeep

theorem conclude_of_failure {why : Stop} (h : c.failure = some why) (status : Int) :
    c.conclude status = (2, some why) := by
  rw [conclude, h]

theorem conclude_of_failure_eq_none (h : c.failure = none) (status : Int) :
    c.conclude status = if status = 0 ∨ status = 1 ∨ status = 2 then (status.toNat, none)
      else (2, some (.unexpectedStatus status)) := by
  rw [conclude, h]
  simp only [Bool.or_eq_true, beq_iff_eq, or_assoc]

/-- What a capture keeps of the chunks that have arrived: all while they fit, then as much as the limit allows. -/
structure Holds (c : Capture) (limit : Nat) (arrivals : Arrivals) : Prop where
  limit_eq : c.limit = limit
  size : c.size = min arrivals.volume limit
  whole : arrivals.volume ≤ limit → ∀ stream, c.kept stream = stream.sent arrivals
  lead : ∀ stream, c.kept stream <+: stream.sent arrivals
  failure : c.failure = if limit < arrivals.volume then some (.outputLimit limit) else none

theorem holds_nil (limit : Nat) (group : Group) : Holds { limit, group } limit [] where
  limit_eq := rfl
  size := (Nat.zero_min limit).symm
  whole _ stream := by cases stream <;> rfl
  lead stream := by cases stream <;> exact List.prefix_rfl
  failure := rfl

/-- One chunk of either stream: it is kept up to the limit, and the first that goes past it stops the review. -/
theorem Holds.receive {limit : Nat} (h : c.Holds limit arrivals) (stream : Stream) (chunk : Bytes) :
    (c.receive stream chunk).Holds limit (arrivals ++ [(stream, chunk)]) := by
  have hroom : c.room = limit - min arrivals.volume limit := by rw [room, h.size, h.limit_eq]
  constructor
  · rw [limit_receive, h.limit_eq]
  · rw [size_receive, Arrivals.volume_concat, h.size, hroom]
    omega
  · rw [Arrivals.volume_concat]
    intro hfits other
    rw [kept_receive, h.whole (by omega), Stream.sent_append, Stream.sent_singleton,
      List.take_of_length_le (by omega)]
  · intro other
    rw [kept_receive, Stream.sent_append, Stream.sent_singleton]
    by_cases hfull : c.room = 0
    -- Nothing more is kept of either stream, whichever of them has filled the room.
    · rw [hfull, List.take_zero, ite_self, List.append_nil]
      exact (h.lead other).trans (List.prefix_append _ _)
    · rw [h.whole (by omega)]
      refine (List.prefix_append_right_inj _).2 ?_
      split
      · exact List.take_prefix _ _
      · exact List.prefix_rfl
  · rw [failure_receive, Arrivals.volume_concat, h.failure, h.limit_eq]
    by_cases hover : limit < arrivals.volume
    · rw [if_pos hover, if_pos (by omega : limit < arrivals.volume + chunk.length)]
      split <;> rfl
    · rw [if_neg hover]
      by_cases hpast : limit < arrivals.volume + chunk.length
      · rw [if_pos hpast, if_pos (by omega)]
        rfl
      · rw [if_neg hpast, if_neg (by omega)]

theorem Holds.receiveAll {limit : Nat} (h : c.Holds limit arrivals) (chunks : Arrivals) :
    (c.receiveAll chunks).Holds limit (arrivals ++ chunks) := by
  unfold Capture.receiveAll
  induction chunks generalizing c arrivals with
  | nil => rwa [List.append_nil]
  | cons arrival chunks ih =>
    rw [List.foldl_cons, List.append_cons]
    exact ih (h.receive arrival.1 arrival.2)

/-- What is captured of two streams within a limit. The artifacts together hold as many bytes as the limit allows,
each begins its own stream, and the review fails for its output exactly if the streams are longer than the limit. If
they are not, it exits as its process did, or fails for a status that no review has. -/
structure Bounded (c : Capture) (limit : Nat) (output errors : Bytes) : Prop where
  size : c.output.length + c.errors.length = min (output.length + errors.length) limit
  outputLead : c.output <+: output
  errorsLead : c.errors <+: errors
  past : ∀ status, c.conclude status = (2, some (.outputLimit limit)) ↔ limit < output.length + errors.length
  inside : output.length + errors.length ≤ limit → ∀ status, c.conclude status =
    if status = 0 ∨ status = 1 ∨ status = 2 then (status.toNat, none) else (2, some (.unexpectedStatus status))

theorem Holds.bounded {limit : Nat} (h : c.Holds limit arrivals) :
    c.Bounded limit (Stream.output.sent arrivals) (Stream.errors.sent arrivals) := by
  have hfailure := h.failure
  refine ⟨h.size, h.lead .output, h.lead .errors, fun status => ?_, fun hfits status => ?_⟩
  · by_cases hpast : limit < arrivals.volume
    · rw [if_pos hpast] at hfailure
      exact iff_of_true (conclude_of_failure hfailure status) hpast
    · rw [if_neg hpast] at hfailure
      rw [conclude_of_failure_eq_none hfailure]
      refine iff_of_false ?_ hpast
      split <;> simp
  · have hwithin : ¬limit < arrivals.volume := Nat.not_lt.2 hfits
    rw [if_neg hwithin] at hfailure
    exact conclude_of_failure_eq_none hfailure status

end Capture

namespace Watch

variable {weather : Weather} {w w' w'' : Watch} {arrivals : Arrivals}

/-- A review about to be watched, with the chunks that its streams will give. -/
def start (limit : Nat) (goneAt : Option Nat) (output errors : List Bytes) : Watch :=
  { capture := { limit, group := { goneAt } }, output := some output, errors := some errors }

/-- The streams of a watch are read in any order, each chunk arriving as it is read. -/
inductive Reads (weather : Weather) : Watch → Arrivals → Watch → Prop
  | done (w : Watch) : Reads weather w [] w
  | chunk {w w' w'' : Watch} {stream : Stream} {chunk : Bytes} {rest : List Bytes} {arrivals : Arrivals}
      (hpending : w.pending stream = some (chunk :: rest)) (hread : w.read weather stream = .ok w')
      (hreads : Reads weather w' arrivals w'') : Reads weather w ((stream, chunk) :: arrivals) w''
  | close {w w' w'' : Watch} {stream : Stream} {arrivals : Arrivals}
      (hpending : w.pending stream = some []) (hread : w.read weather stream = .ok w')
      (hreads : Reads weather w' arrivals w'') : Reads weather w arrivals w''

/-- The bytes that a stream still holds. -/
def ahead (w : Watch) (stream : Stream) : Bytes := ((w.pending stream).getD []).flatten

theorem pending_setPending (w : Watch) (stream other : Stream) (rest : Option (List Bytes)) :
    (w.setPending stream rest).pending other = if stream = other then rest else w.pending other := by
  cases stream <;> cases other <;> rfl

theorem ahead_setPending (w : Watch) (stream other : Stream) (rest : Option (List Bytes)) :
    (w.setPending stream rest).ahead other = if stream = other then (rest.getD []).flatten else w.ahead other := by
  rw [ahead, pending_setPending]
  split <;> rfl

theorem capture_setPending (w : Watch) (stream : Stream) (rest : Option (List Bytes)) :
    (w.setPending stream rest).capture = w.capture := by
  cases stream <;> rfl

theorem read_chunk {stream : Stream} {chunk : Bytes} {rest : List Bytes} (hcalm : weather.failingRead = none)
    (hpending : w.pending stream = some (chunk :: rest)) : w.read weather stream = .ok
      ({ w with reads := w.reads + 1, capture := w.capture.receive stream chunk }.setPending stream (some rest)) := by
  cases stream <;> simp only [pending] at hpending <;> simp [read, hcalm, pending, hpending]

theorem read_close {stream : Stream} (hcalm : weather.failingRead = none) (hpending : w.pending stream = some []) :
    w.read weather stream = .ok ({ w with reads := w.reads + 1 }.setPending stream none) := by
  cases stream <;> simp only [pending] at hpending <;> simp [read, hcalm, pending, hpending]

theorem Reads.capture_eq (hcalm : weather.failingRead = none) (h : Reads weather w arrivals w') :
    w'.capture = w.capture.receiveAll arrivals := by
  induction h with
  | done w => rfl
  | chunk hpending hread hreads ih =>
    cases (read_chunk hcalm hpending).symm.trans hread
    rw [ih, capture_setPending]
    rfl
  | close hpending hread hreads ih =>
    cases (read_close hcalm hpending).symm.trans hread
    rw [ih, capture_setPending]

/-- What has arrived of a stream and what it still holds are what it held. -/
theorem Reads.sent_append_ahead (hcalm : weather.failingRead = none) (h : Reads weather w arrivals w')
    (stream : Stream) : stream.sent arrivals ++ w'.ahead stream = w.ahead stream := by
  induction h with
  | done w => rfl
  | @chunk w _ _ other chunk rest arrivals hpending hread hreads ih =>
    cases (read_chunk hcalm hpending).symm.trans hread
    rw [← List.singleton_append, Stream.sent_append, Stream.sent_singleton, List.append_assoc, ih, ahead_setPending]
    split
    case isTrue hsame => rw [← hsame, ahead, hpending]; rfl
    case isFalse => cases stream <;> rfl
  | @close w _ _ other arrivals hpending hread hreads ih =>
    cases (read_close hcalm hpending).symm.trans hread
    rw [ih, ahead_setPending]
    split
    case isTrue hsame => rw [← hsame, ahead, hpending]; rfl
    case isFalse => cases stream <;> rfl

theorem ahead_of_isOver (h : w.isOver = true) (stream : Stream) : w.ahead stream = [] := by
  obtain ⟨houtput, herrors⟩ := Bool.and_eq_true_iff.1 h
  rw [Option.isNone_iff_eq_none] at houtput herrors
  cases stream
  · exact congrArg (fun rest : Option (List Bytes) => (rest.getD []).flatten) houtput
  · exact congrArg (fun rest : Option (List Bytes) => (rest.getD []).flatten) herrors

/-- Whatever the order in which the chunks of the two streams arrive until both are closed, the capture is
bounded. -/
theorem Reads.bounded {limit : Nat} {goneAt : Option Nat} {output errors : List Bytes} {last : Watch}
    (hcalm : weather.failingRead = none) (h : Reads weather (start limit goneAt output errors) arrivals last)
    (hover : last.isOver = true) : last.capture.Bounded limit output.flatten errors.flatten := by
  have hsent : ∀ stream : Stream, stream.sent arrivals = (start limit goneAt output errors).ahead stream := by
    intro stream
    rw [← h.sent_append_ahead hcalm stream, ahead_of_isOver hover, List.append_nil]
  have hholds : last.capture.Holds limit arrivals := by
    rw [h.capture_eq hcalm]
    exact (Capture.holds_nil limit { goneAt }).receiveAll arrivals
  have hbounded := hholds.bounded
  rw [hsent, hsent] at hbounded
  exact hbounded

end Watch

/-! ## Turns in calm weather -/

/-- Nothing interrupts a review, no read fails, and the time limit is never reached. -/
structure Weather.Calm (weather : Weather) (timeLimit : Binary64) : Prop where
  interruption : weather.interruption = none
  failingRead : weather.failingRead = none
  inTime : ∀ turn, (weather.tick.times (turn + 1)).reaches (weather.tick.plus timeLimit) = false

namespace Watch

variable {weather : Weather} {timeLimit : Binary64} {child : Child} {w w' w'' : Watch} {arrivals : Arrivals}

theorem readClock_of_calm (hcalm : weather.Calm timeLimit) (w : Watch) (turn : Nat) :
    w.readClock weather timeLimit turn = w := by
  unfold readClock
  dsimp only
  rw [hcalm.inTime, hcalm.interruption, if_neg Bool.false_ne_true]
  split
  case h_1 heq => cases heq
  case h_2 => rfl

/-- How many reads a watch has left: one for each chunk and for the end of each stream. -/
def left (w : Watch) : Nat := w.output.elim 0 (·.length + 1) + w.errors.elim 0 (·.length + 1)

theorem Reads.trans {more : Arrivals} (h : Reads weather w arrivals w') (hmore : Reads weather w' more w'') :
    Reads weather w (arrivals ++ more) w'' := by
  induction h with
  | done w => exact hmore
  | chunk hpending hread hreads ih => exact .chunk hpending hread (ih hmore)
  | close hpending hread hreads ih => exact .close hpending hread (ih hmore)

/-- A stream that is open can be read, and the other one is left alone. -/
theorem exists_read (hcalm : weather.failingRead = none) {stream : Stream} (hopen : (w.pending stream).isSome = true) :
    ∃ w' arrivals, w.read weather stream = .ok w' ∧ Reads weather w arrivals w' ∧ w'.left + 1 = w.left ∧
      ∀ other, stream ≠ other → w'.pending other = w.pending other := by
  have hothers : ∀ capture rest other, stream ≠ other →
      ({ w with reads := w.reads + 1, capture }.setPending stream rest).pending other = w.pending other := by
    intro capture rest other hne
    rw [pending_setPending, if_neg hne]
    cases other <;> rfl
  rcases hpending : w.pending stream with _ | _ | ⟨chunk, rest⟩
  · rw [hpending] at hopen
    cases hopen
  · have hread := read_close hcalm hpending
    refine ⟨_, _, hread, .close hpending hread (.done _), ?_, hothers _ _⟩
    cases stream with
    | output =>
      have hempty : w.output = some [] := hpending
      simp only [left, setPending, hempty, Option.elim, List.length_nil]
      omega
    | errors =>
      have hempty : w.errors = some [] := hpending
      simp only [left, setPending, hempty, Option.elim, List.length_nil]
  · have hread := read_chunk hcalm hpending
    refine ⟨_, _, hread, .chunk hpending hread (.done _), ?_, hothers _ _⟩
    cases stream
    all_goals
      simp only [pending] at hpending
      simp only [left, setPending, hpending, Option.elim, List.length_cons]
      omega

theorem exists_readEach (hcalm : weather.failingRead = none) {ready : List Stream} (hnodup : ready.Nodup)
    (hopen : ∀ stream ∈ ready, (w.pending stream).isSome = true) :
    ∃ w' arrivals, ready.foldlM (fun w stream => w.read weather stream) w = .ok w' ∧
      Reads weather w arrivals w' ∧ w'.left + ready.length ≤ w.left := by
  induction ready generalizing w with
  | nil => exact ⟨w, [], rfl, .done w, Nat.le_refl _⟩
  | cons stream ready ih =>
    obtain ⟨hfirst, hrest⟩ := List.forall_mem_cons.1 hopen
    obtain ⟨hnotMem, hnodup⟩ := List.nodup_cons.1 hnodup
    obtain ⟨w', arrivals, hread, hreads, hleft, hothers⟩ := exists_read hcalm hfirst
    have hstill : ∀ other ∈ ready, (w'.pending other).isSome = true := by
      intro other hother
      rw [hothers other (fun h => hnotMem (h ▸ hother))]
      exact hrest other hother
    obtain ⟨w'', more, hfold, hmore, hleft'⟩ := ih hnodup hstill
    refine ⟨w'', arrivals ++ more, ?_, hreads.trans hmore, ?_⟩
    · rw [List.foldlM_cons, hread]
      exact hfold
    · rw [List.length_cons]
      omega

/-- A turn reads every stream that is still open. -/
theorem exists_turn (hcalm : weather.Calm timeLimit) (hhangs : child.hangs = false) (hopen : w.isOver = false)
    (number : Nat) : ∃ w' arrivals, w.turn child weather timeLimit number = .ok w' ∧
      Reads weather w arrivals w' ∧ w'.left + 1 ≤ w.left := by
  have hready : ∀ stream, w.isReady child stream = (w.pending stream).isSome := by
    intro stream
    unfold isReady
    rcases w.pending stream with _ | _ | ⟨chunk, rest⟩
    · rfl
    · rw [hhangs]
      rfl
    · rfl
  have hsome : ([Stream.output, .errors].filter (w.isReady child)) ≠ [] := by
    intro hnil
    rw [List.filter_eq_nil_iff] at hnil
    simp only [hready, List.mem_cons, List.not_mem_nil, or_false, forall_eq_or_imp, forall_eq, pending] at hnil
    unfold isOver at hopen
    revert hopen hnil
    cases w.output <;> cases w.errors <;> simp
  unfold turn
  rw [readClock_of_calm hcalm]
  obtain ⟨w', arrivals, hfold, hreads, hleft⟩ := exists_readEach hcalm.failingRead (w := w)
    ((by decide : [Stream.output, .errors].Nodup).filter (w.isReady child))
    fun stream hstream => (hready stream).symm.trans (List.mem_filter.1 hstream).2
  refine ⟨w', arrivals, ?_, hreads, ?_⟩
  · dsimp only
    rw [if_neg (by simpa using hsome)]
    exact hfold
  · have := List.length_pos_iff.2 hsome
    omega

theorem exists_turns (hcalm : weather.Calm timeLimit) (hhangs : child.hangs = false) {fuel : Nat}
    (hfuel : w.left ≤ fuel) (number : Nat) :
    ∃ arrivals, Reads weather w arrivals (turns child weather timeLimit fuel number w) ∧
      (turns child weather timeLimit fuel number w).isOver = true := by
  induction fuel generalizing w number with
  | zero =>
    refine ⟨[], .done w, ?_⟩
    unfold left at hfuel
    unfold isOver turns
    revert hfuel
    cases w.output <;> cases w.errors <;> simp
  | succ fuel ih =>
    unfold turns
    by_cases hover : w.isOver = true
    · rw [if_pos hover]
      exact ⟨[], .done w, hover⟩
    · rw [if_neg hover]
      obtain ⟨w', arrivals, hturn, hreads, hleft⟩ := exists_turn hcalm hhangs (Bool.not_eq_true _ ▸ hover) number
      obtain ⟨more, hmore, hend⟩ := ih (w := w') (by omega) (number + 1)
      rw [hturn]
      exact ⟨arrivals ++ more, hreads.trans hmore, hend⟩

end Watch

theorem flatten_chunks (bytes : Bytes) : (chunks bytes).flatten = bytes := by
  fun_induction chunks bytes with
  | case1 bytes hempty => exact (List.isEmpty_iff.1 hempty).symm
  | case2 bytes hne ih => rw [List.flatten_cons, ih, List.take_append_drop]

/-- The turns in which a review is watched in calm weather read both its streams to their ends. -/
theorem Child.exists_reads_watch {weather : Weather} {timeLimit : Binary64} (hcalm : weather.Calm timeLimit)
    {child : Child} (hhangs : child.hangs = false) (hlingers : child.lingers = false) (limit : Nat) :
    ∃ output errors arrivals last, output.flatten = child.output ∧ errors.flatten = child.errors ∧
      Watch.Reads weather (Watch.start limit child.goneAt output errors) arrivals last ∧ last.isOver = true ∧
      child.watch weather timeLimit limit = last.capture := by
  have hfuel : (Watch.start limit child.goneAt (chunks child.output) (chunks child.errors)).left
      ≤ (chunks child.output).length + (chunks child.errors).length + 3 := by
    show (chunks child.output).length + 1 + ((chunks child.errors).length + 1) ≤ _
    omega
  obtain ⟨arrivals, hreads, hover⟩ := Watch.exists_turns hcalm hhangs hfuel 1
  refine ⟨_, _, arrivals, _, flatten_chunks _, flatten_chunks _, hreads, hover, ?_⟩
  unfold watch
  dsimp only
  rw [hlingers, if_neg Bool.false_ne_true]
  rfl

/-- The limit holds for every order in which chunks are read until both streams are closed, and so for a review that
is watched in turns. -/
theorem bounded_in_any_order {weather : Weather} (hcalm : weather.failingRead = none) (limit : Nat) :
    (∀ goneAt output errors arrivals last,
      Watch.Reads weather (Watch.start limit goneAt output errors) arrivals last → last.isOver = true →
        last.capture.Bounded limit output.flatten errors.flatten) ∧
    ∀ timeLimit (child : Child), weather.Calm timeLimit → child.hangs = false → child.lingers = false →
      (child.watch weather timeLimit limit).Bounded limit child.output child.errors := by
  refine ⟨fun _ _ _ _ _ hreads hover => hreads.bounded hcalm hover, fun _ child hturns hhangs hlingers => ?_⟩
  obtain ⟨output, errors, arrivals, last, houtput, herrors, hreads, hover, hwatch⟩ :=
    child.exists_reads_watch hturns hhangs hlingers limit
  rw [hwatch, ← houtput, ← herrors]
  exact hreads.bounded hcalm hover

theorem calm_of_still : Weather.Calm {} (.finite false 1 0) where
  interruption := rfl
  failingRead := rfl
  inTime turn := by
    have htimes : Binary64.zero.times (turn + 1) = Binary64.zero := by
      have hfraction : Binary64.zero.fraction? = some (0, Binary64.twoTo 1074) := by decide +kernel
      rw [Binary64.times, hfraction]
      dsimp only
      rw [Int.zero_mul]
      decide +kernel
    show (Binary64.zero.times (turn + 1)).reaches _ = false
    rw [htimes]
    decide +kernel

/-- One stream fills the limit, the other is cut there, and what comes after is not kept. A review whose streams
just fill the limit exits as its process did. -/
theorem bounded_in_any_order_cut :
    let last : Watch :=
      { capture :=
          { limit := 3, output := [1, 2], errors := [4], failure := some (.outputLimit 3)
            group := { sent := [.terminate, .kill] } }
        output := none, errors := none, reads := 5 }
    let child : Child := { output := [1, 2], errors := [3], status := 1 }
    Watch.Reads {} (Watch.start 3 none [[1, 2], [3]] [[4, 5]])
        [(.output, [1, 2]), (.errors, [4, 5]), (.output, [3])] last ∧
      last.capture.conclude 0 = (2, some (.outputLimit 3)) ∧
      (child.watch {} (.finite false 1 0) 3).conclude child.status = (1, none) := by
  intro last child
  have h : Watch.Reads {} (Watch.start 3 none [[1, 2], [3]] [[4, 5]])
      [(.output, [1, 2]), (.errors, [4, 5]), (.output, [3])] last :=
    .chunk rfl rfl <| .chunk rfl rfl <| .chunk rfl rfl <| @Watch.Reads.close _ _ _ _ .output _ rfl rfl <|
      @Watch.Reads.close _ _ _ _ .errors _ rfl rfl <| .done _
  obtain ⟨hread, hwatched⟩ := @bounded_in_any_order {} rfl 3
  refine ⟨h, ((hread _ _ _ _ _ h rfl).past 0).2 (by decide), ?_⟩
  exact (hwatched _ child calm_of_still rfl rfl).inside (by decide) 1

end ChangeReview.Closeout
