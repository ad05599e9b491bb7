import NativeIpc.Lib.Loop
import NativeIpc.Supervisor.Report

/-!
# Receiving a trace report

The service polls the channel for the one report of a broker. A receiver keeps what it has
read across polls, and looks for the end of the stream once the report is complete. What a poll
that failed leaves behind decides what later polls can return: a byte after the report is taken
from the channel before the error is returned, and nothing records it.
Lines are those of `supervisor_broker_report.rs`.
-/

namespace NativeIpc.Supervisor

open NativeIpc.Lib Bytes Run List Op.Under
open Op (Under)

/-- Lines 85-92: `stream` tells whether the
    channel is still held, and `bytes` are those that were filled. -/
structure BrokerTraceReportReceiver where
  stream : Bool
  expected : BrokerTraceReportBinding
  deadline : Nat
  bytes : Bytes
  finished : Bool

/-- What `UnixStream::read` into `space` bytes returns. -/
inductive ReadReply (space : Nat) where
  | ok (chunk : Bytes) (fits : chunk.length ≤ space)
  | interrupted
  | wouldBlock
  | failed (errno : Int)

/-- The calls of a poll; `stuck` is the call of a loop that has used up its turns. -/
inductive ReceiverCall where
  | now
  | read (space : Nat)
  | stuck

abbrev ReceiverCall.Reply : ReceiverCall → Type
  | .now => Nat
  | .read space => ReadReply space
  | .stuck => Empty

namespace BrokerTraceReportReceiver

abbrev Receive : Type → Type :=
  Op ReceiverCall ReceiverCall.Reply BrokerTraceReportReceiver BrokerTraceReportError

/-- `Instant::now()`. -/
def now : Receive Nat := Op.perform ReceiverCall.now

/-- `stream.read(..)` into `space` bytes. -/
def read (space : Nat) : Receive (ReadReply space) := Op.perform (ReceiverCall.read space)

/-- Lines 95-115, with the readings of
    the clock and of `set_nonblocking`. -/
def new (expected : BrokerTraceReportBinding) (deadline now : Nat) (nonblocking : Option Int) :
    Run BrokerTraceReportError BrokerTraceReportReceiver := do
  expected.validate
  rejectIf (now ≥ deadline) .deadlineExpired
  match nonblocking with
  | some errno => fail (.io errno)
  | none => pure ⟨true, expected, deadline, [], false⟩

/-- A turn of the loop that fills the report, lines 131-146: the loop ends
    with whether the report is complete. -/
def fillTurn (_ : Unit) : Receive (Unit ⊕ Bool) := do
  let receiver ← Op.get
  if receiver.bytes.length < brokerTraceReportBytes then
    match ← read (brokerTraceReportBytes - receiver.bytes.length) with
    | .ok chunk _ =>
      if chunk = [] then Op.fail .malformed
      else do
        Op.modify fun receiver => { receiver with bytes := receiver.bytes ++ chunk }
        pure (.inl ())
    | .interrupted => pure (.inl ())
    | .wouldBlock => pure (.inr false)
    | .failed errno => Op.fail (.io errno)
  else pure (.inr true)

/-- A turn of the loop that looks for the end, lines 148-162: the loop ends
    with whether the end was found. -/
def probeTurn (_ : Unit) : Receive (Unit ⊕ Bool) := do
  match ← read 1 with
  | .ok extra _ => if extra = [] then pure (.inr true) else Op.fail .malformed
  | .interrupted => pure (.inl ())
  | .wouldBlock => pure (.inr false)
  | .failed errno => Op.fail (.io errno)

/-- What a poll does at the end of the stream, lines 163-177. -/
def accept : Receive (Option BrokerTraceReportBinding) := do
  let now ← now
  let receiver ← Op.get
  Op.ofRun (rejectIf (now ≥ receiver.deadline) .deadlineExpired)
  let report ← Op.ofRun (toFixed brokerTraceReportBytes receiver.bytes)
  let binding ← Op.ofRun (decodeBrokerTraceReport report)
  Op.ofRun (rejectIf (binding ≠ receiver.expected) .binding)
  Op.ofRun (rejectIf (receiver.stream = false) .invalidTransition)
  Op.modify fun receiver => { receiver with stream := false, finished := true }
  pure (some binding)

/-- What a poll does once the report is complete, lines 147-177. -/
def finish (turns : Nat) : Receive (Option BrokerTraceReportBinding) := do
  if ← Op.loop .stuck Empty.elim probeTurn turns () then accept else pure none

/-- Lines 117-177, with the number of
    turns that its loops take at most. -/
def poll (turns : Nat) : Receive (Option BrokerTraceReportBinding) := do
  let receiver ← Op.get
  Op.ofRun (rejectIf (receiver.finished = true) .invalidTransition)
  Op.ofRun (rejectIf (receiver.stream = false) .invalidTransition)
  let now ← now
  Op.ofRun (rejectIf (now ≥ receiver.deadline) .deadlineExpired)
  if ← Op.loop .stuck Empty.elim fillTurn turns () then finish turns else pure none

end BrokerTraceReportReceiver

open BrokerTraceReportReceiver

/-! ### The channel and the clock -/

/-- What the broker has sent and the service has not read, up to the end of the stream, and the
    last reading of the clock. -/
structure ReportSource where
  left : Bytes
  clock : Nat

/-- The clock does not go back. A read returns at least one byte while there are any, and none
    at the end of the stream, and may be put off at any time. -/
inductive ReportSource.Serves :
    ReportSource → Answer ReceiverCall ReceiverCall.Reply → ReportSource → Prop
  | now {left : Bytes} {clock reading : Nat} (later : clock ≤ reading) :
      Serves ⟨left, clock⟩ ⟨.now, reading⟩ ⟨left, reading⟩
  | chunk {clock space : Nat} {chunk left : Bytes} (some : chunk ≠ [])
      (fits : chunk.length ≤ space) :
      Serves ⟨chunk ++ left, clock⟩ ⟨.read space, .ok chunk fits⟩ ⟨left, clock⟩
  | ended {clock space : Nat} :
      Serves ⟨[], clock⟩ ⟨.read space, .ok [] (Nat.zero_le _)⟩ ⟨[], clock⟩
  | interrupted {source : ReportSource} {space : Nat} :
      Serves source ⟨.read space, .interrupted⟩ source
  | wouldBlock {source : ReportSource} {space : Nat} :
      Serves source ⟨.read space, .wouldBlock⟩ source

/-- The result of a poll. -/
abbrev Polled : Type := Run BrokerTraceReportError (Option BrokerTraceReportBinding)

/-- One poll of a receiver on a channel. -/
def PollStep (before : BrokerTraceReportReceiver × ReportSource) (result : Polled)
    (after : BrokerTraceReportReceiver × ReportSource) : Prop :=
  ∃ turns log, (poll turns).Returns before.1 log result after.1 ∧
    Trace ReportSource.Serves before.2 log after.2

/-- A report is returned only if the stream is the report of the expected binding, and never after
    an error. -/
def ExactReport (expected : BrokerTraceReportBinding) (stream : Bytes) (events : List Polled) :
    Prop :=
  (∀ binding, .ok (some binding) ∈ events →
    ∃ report, encodeBrokerTraceReport expected = .ok report ∧ stream = report.list) ∧
  events.Pairwise fun earlier later =>
    ∀ stop binding, earlier = .error stop → later ≠ .ok (some binding)

/-! ### What a poll does -/

/-- From `r` on `w` to `r'` on `w'`, bytes were read into the report and then `lost`. -/
structure Reads (lost : Bytes) (r : BrokerTraceReportReceiver) (w : ReportSource)
    (r' : BrokerTraceReportReceiver) (w' : ReportSource) : Prop where
  expected : r'.expected = r.expected
  deadline : r'.deadline = r.deadline
  clock : w.clock ≤ w'.clock
  bytes : ∃ chunk, r'.bytes = r.bytes ++ chunk ∧ w.left = chunk ++ (lost ++ w'.left)
  room : r.bytes.length ≤ brokerTraceReportBytes → r'.bytes.length ≤ brokerTraceReportBytes
  finished : r'.finished = r.finished
  stream : r'.stream = r.stream

namespace Reads

variable {r r' : BrokerTraceReportReceiver} {w w' : ReportSource}

theorem refl (r : BrokerTraceReportReceiver) (w : ReportSource) : Reads [] r w r w :=
  ⟨rfl, rfl, le_rfl, ⟨[], by simp⟩, id, rfl, rfl⟩

variable {clock : Nat}

theorem tick {left : Bytes} {reading : Nat} (reads : Reads [] r w r' ⟨left, clock⟩)
    (later : clock ≤ reading) : Reads [] r w r' ⟨left, reading⟩ :=
  { reads with clock := reads.clock.trans later }

theorem push {chunk left : Bytes} (reads : Reads [] r w r' ⟨chunk ++ left, clock⟩)
    (fits : chunk.length ≤ brokerTraceReportBytes - r'.bytes.length)
    (short : r'.bytes.length < brokerTraceReportBytes) :
    Reads [] r w { r' with bytes := r'.bytes ++ chunk } ⟨left, clock⟩ := by
  obtain ⟨before, filled, taken⟩ := reads.bytes
  refine ⟨reads.expected, reads.deadline, reads.clock, ⟨before ++ chunk, ?_, ?_⟩, ?_,
    reads.finished, reads.stream⟩
  · simp [filled]
  · simpa using taken
  · intro _
    rw [length_append]
    omega

theorem probe {extra left : Bytes}
    (reads : Reads [] r w r' ⟨extra ++ left, clock⟩) : Reads extra r w r' ⟨left, clock⟩ :=
  { reads with bytes := reads.bytes }

end Reads

/-- How a poll ends. -/
inductive PollEnds (r : BrokerTraceReportReceiver) (w : ReportSource) :
    Polled → BrokerTraceReportReceiver → ReportSource → Prop
  | closed (taken : r.finished = true ∨ r.stream = false) :
      PollEnds r w (fail .invalidTransition) r w
  | pending {r' w'} (reads : Reads [] r w r' w') : PollEnds r w (.ok none) r' w'
  | expired {r' w'} (reads : Reads [] r w r' w') (late : r.deadline ≤ w'.clock) :
      PollEnds r w (fail .deadlineExpired) r' w'
  | cut {r' w'} (reads : Reads [] r w r' w') (ended : w'.left = [])
      (short : r'.bytes.length < brokerTraceReportBytes) : PollEnds r w (fail .malformed) r' w'
  | extra {r' w' lost} (some : lost ≠ []) (reads : Reads lost r w r' w')
      (full : ¬ r'.bytes.length < brokerTraceReportBytes) : PollEnds r w (fail .malformed) r' w'
  | refused {r' w' stop} (reads : Reads [] r w r' w')
      (full : ¬ r'.bytes.length < brokerTraceReportBytes)
      (other : r'.bytes ≠ r.expected.image) : PollEnds r w (.error stop) r' w'
  | accepted {r' w'} (reads : Reads [] r w r' w')
      (opened : ¬ (r.finished = true ∨ r.stream = false)) (timely : w'.clock < r.deadline)
      (ended : w'.left = []) (exact : r'.bytes = r.expected.image) :
      PollEnds r w (.ok (some r.expected)) { r' with stream := false, finished := true } w'

variable {result : Polled} {report : FixedBytes brokerTraceReportBytes}

open ReportSource

section Poll

variable {r r' : BrokerTraceReportReceiver} {w w' : ReportSource} {turns : Nat}

theorem read_bind {α : Type} {space : Nat} {f : ReadReply space → Receive α}
    {post : Run BrokerTraceReportError α → BrokerTraceReportReceiver → ReportSource → Prop}
    (holds : ∀ reply w', Serves w ⟨.read space, reply⟩ w' → Under Serves post w' r (f reply)) :
    Under Serves post w r (read space >>= f) :=
  holds

theorem fill_ends (reads : Reads [] r w r' w') :
    Under Serves (fun result s v => match result with
      | .ok true => Reads [] r w s v ∧ ¬ s.bytes.length < brokerTraceReportBytes
      | .ok false => Reads [] r w s v
      | .error stop => PollEnds r w (.error stop) s v) w' r'
      (Op.loop .stuck Empty.elim fillTurn turns ()) := by
  refine of_loop (fun _ s v => Reads [] r w s v) reads ?_
  intro _ s v reads
  change Under _ _ v s (ite _ _ _)
  split
  · rename_i short
    refine read_bind ?_
    intro reply v' served
    cases served with
    | chunk some fits =>
      change Under _ _ _ _ (ite _ _ _)
      rw [if_neg some]
      exact reads.push fits short
    | ended => exact .cut reads rfl short
    | interrupted => exact reads
    | wouldBlock => exact reads
  · rename_i full
    exact ⟨reads, full⟩

theorem probe_ends (reads : Reads [] r w r' w')
    (full : ¬ r'.bytes.length < brokerTraceReportBytes) :
    Under Serves (fun result s v => match result with
      | .ok true => s = r' ∧ Reads [] r w s v ∧ v.left = []
      | .ok false => Reads [] r w s v
      | .error stop => PollEnds r w (.error stop) s v) w' r'
      (Op.loop .stuck Empty.elim probeTurn turns ()) := by
  refine of_loop (fun _ s v => s = r' ∧ Reads [] r w s v) ⟨rfl, reads⟩ ?_
  rintro _ s v ⟨rfl, held⟩
  refine read_bind ?_
  intro reply v' served
  cases served with
  | chunk some fits =>
    change Under _ _ _ _ (ite _ _ _)
    rw [if_neg some]
    exact .extra some held.probe full
  | ended => exact ⟨rfl, held, rfl⟩
  | interrupted => exact ⟨rfl, held⟩
  | wouldBlock => exact held

theorem now_bind {α : Type} {f : Nat → Receive α}
    {post : Run BrokerTraceReportError α → BrokerTraceReportReceiver → ReportSource → Prop}
    (holds : ∀ reading, w.clock ≤ reading → Under Serves post ⟨w.left, reading⟩ r (f reading)) :
    Under Serves post w r (now >>= f) := by
  intro reading w' served
  cases served with
  | now later => exact holds reading later

theorem accept_ends (valid : r.expected.validate = .ok ())
    (opened : ¬ (r.finished = true ∨ r.stream = false)) (reads : Reads [] r w r' w')
    (ended : w'.left = []) (full : ¬ r'.bytes.length < brokerTraceReportBytes) :
    Under Serves (PollEnds r w) w' r' accept := by
  refine now_bind fun reading later => ?_
  have reads : Reads [] r w r' ⟨w'.left, reading⟩ := reads.tick later
  have other (stop : Stop BrokerTraceReportError) (differs : r'.bytes ≠ r.expected.image) :
      PollEnds r w (.error stop) r' ⟨w'.left, reading⟩ := .refused reads full differs
  refine reject_bind (fun late => ?_) fun timely => ?_
  · exact .expired reads (reads.deadline ▸ late)
  -- the report decodes to the expected binding exactly when its bytes are that binding's image
  have decodes (report : FixedBytes brokerTraceReportBytes) (fixed : r'.bytes = report.list) :
      decodeBrokerTraceReport report = .ok r.expected ↔ r'.bytes = r.expected.image := by
    rw [decodeBrokerTraceReport_eq_ok, fixed, and_iff_right valid]
  refine ofRun_bind (fun stop failed => other stop fun same => ?_) fun report fixed => ?_
  · have length : r'.bytes.length = brokerTraceReportBytes := same ▸ r.expected.length_image
    rw [toFixed, dif_pos length] at failed
    cases failed
  have fixed := toFixed_eq_ok.mp fixed
  refine ofRun_bind (fun stop failed => other stop fun same => ?_) fun binding decoded => ?_
  · rw [(decodes report fixed).mpr same] at failed
    cases failed
  refine reject_bind (fun differs => other _ fun same => differs ?_) fun same => ?_
  · rw [(decodes report fixed).mpr same] at decoded
    exact (Except.ok.inj decoded).symm.trans reads.expected.symm
  refine reject_bind (fun closed => ?_) fun _ => ?_
  · exact absurd (.inr (reads.stream ▸ closed)) opened
  obtain rfl : binding = r.expected := (not_not.mp same).trans reads.expected
  exact .accepted reads opened (reads.deadline ▸ not_le.mp timely) ended
    ((decodes report fixed).mp decoded)

theorem poll_ends (valid : r.expected.validate = .ok ()) :
    Under Serves (PollEnds r w) w r (poll turns) := by
  refine reject_bind (fun finished => .closed (.inl finished)) fun unfinished => ?_
  refine reject_bind (fun closed => .closed (.inr closed)) fun opened => ?_
  refine now_bind fun reading later => ?_
  have reads : Reads [] r w r ⟨w.left, reading⟩ := (Reads.refl r w).tick later
  refine reject_bind (fun late => .expired reads late) fun _ => ?_
  refine (fill_ends reads).bind (fun stop s v ends => ends) ?_
  rintro (_ | _) s v filled
  · exact .pending filled
  obtain ⟨filled, full⟩ := filled
  refine (probe_ends filled full).bind (fun stop s v ends => ends) ?_
  rintro (_ | _) s v probed
  · exact .pending probed
  obtain ⟨rfl, probed, ended⟩ := probed
  exact accept_ends valid (not_or.mpr ⟨unfinished, opened⟩) probed ended full

theorem PollStep.ends {before after : BrokerTraceReportReceiver × ReportSource}
    (valid : before.1.expected.validate = .ok ()) (step : PollStep before result after) :
    PollEnds before.1 before.2 result after.1 after.2 := by
  obtain ⟨turns, log, returns, served⟩ := step
  exact (poll_ends valid).of_returns returns served

theorem PollEnds.expected (ends : PollEnds r w result r' w') : r'.expected = r.expected := by
  cases ends with
  | closed taken => rfl
  | pending reads | expired reads late | cut reads ended short | extra some reads full
  | refused reads full other | accepted reads opened timely ended exact => exact reads.expected

theorem PollEnds.room (ends : PollEnds r w result r' w')
    (room : r.bytes.length ≤ brokerTraceReportBytes) :
    r'.bytes.length ≤ brokerTraceReportBytes := by
  cases ends with
  | closed taken => exact room
  | pending reads | expired reads late | cut reads ended short | extra some reads full
  | refused reads full other | accepted reads opened timely ended exact => exact reads.room room

end Poll

/-! ### Runs of polls -/

/-- No later poll returns a report. -/
def Hopeless (r : BrokerTraceReportReceiver) (w : ReportSource) : Prop :=
  (r.finished = true ∨ r.stream = false) ∨ r.deadline ≤ w.clock ∨
    (w.left = [] ∧ r.bytes.length < brokerTraceReportBytes) ∨
    (¬ r.bytes.length < brokerTraceReportBytes ∧ r.bytes ≠ r.expected.image)

/-- While every poll was put off, what was read and what is left make up the stream; after that,
    no poll returns a report. -/
inductive Receiving (expected : BrokerTraceReportBinding) (stream : Bytes) (events : List Polled)
    (r : BrokerTraceReportReceiver) (w : ReportSource) : Prop
  | reading (quiet : ∀ event ∈ events, event = .ok none) (whole : r.bytes ++ w.left = stream)
  | settled (exact : ExactReport expected stream events) (hopeless : Hopeless r w)

section Runs

variable {expected : BrokerTraceReportBinding} {stream : Bytes} {events : List Polled}
  {r r' : BrokerTraceReportReceiver} {w w' : ReportSource} {result : Polled}

/-- An event that is not a report keeps what is known of the earlier ones. -/
theorem ExactReport.snoc {event : Polled} (exact : ExactReport expected stream events)
    (none : ∀ binding, event ≠ .ok (some binding)) :
    ExactReport expected stream (events ++ [event]) := by
  refine ⟨?_, pairwise_append.mpr ⟨exact.2, pairwise_singleton _ _, ?_⟩⟩
  · intro binding member
    rcases mem_append.mp member with member | member
    · exact exact.1 binding member
    · exact absurd (mem_singleton.mp member).symm (none binding)
  · intro earlier _ later member stop binding _
    rw [mem_singleton.mp member]
    exact none binding

theorem exactReport_of_quiet (quiet : ∀ event ∈ events, event = .ok none) :
    ExactReport expected stream events := by
  refine ⟨fun binding member => ?_, pairwise_of_forall_mem_list ?_⟩
  · cases quiet _ member
  · rintro earlier member later - stop binding rfl
    cases quiet _ member

/-- The first report after polls that were put off. -/
theorem exactReport_accept {binding : BrokerTraceReportBinding}
    (quiet : ∀ event ∈ events, event = .ok none)
    (encoded : encodeBrokerTraceReport expected = .ok report) :
    ExactReport expected report.list (events ++ [.ok (some binding)]) := by
  refine ⟨fun _ _ => ⟨report, encoded, rfl⟩, pairwise_append.mpr
    ⟨(exactReport_of_quiet quiet : ExactReport expected [] events).2,
      pairwise_singleton _ _, ?_⟩⟩
  rintro earlier member later - stop binding rfl
  cases quiet _ member

/-- From a hopeless state, a poll returns no report and leaves a hopeless state. -/
theorem Hopeless.poll (hopeless : Hopeless r w) (room : r.bytes.length ≤ brokerTraceReportBytes)
    (ends : PollEnds r w result r' w') :
    (∀ binding, result ≠ .ok (some binding)) ∧ Hopeless r' w' := by
  have kept {lost r' w'} (reads : Reads lost r w r' w') : Hopeless r' w' := by
    obtain ⟨chunk, filled, taken⟩ := reads.bytes
    rcases hopeless with closed | late | ⟨ended, short⟩ | ⟨full, differs⟩
    · rw [← reads.finished, ← reads.stream] at closed
      exact .inl closed
    · exact .inr (.inl (reads.deadline ▸ late.trans reads.clock))
    · rw [ended, eq_comm, append_eq_nil_iff, append_eq_nil_iff] at taken
      obtain ⟨rfl, -, ended'⟩ := taken
      rw [append_nil] at filled
      exact .inr (.inr (.inl ⟨ended', filled ▸ short⟩))
    · have still := reads.room room
      rw [filled, length_append] at still
      obtain rfl : chunk = [] := length_eq_zero_iff.mp (by omega)
      rw [append_nil] at filled
      exact .inr (.inr (.inr ⟨filled ▸ full, by rwa [filled, reads.expected]⟩))
  cases ends with
  | closed taken => exact ⟨fun _ => nofun, hopeless⟩
  | pending reads => exact ⟨fun _ => nofun, kept reads⟩
  | expired reads late => exact ⟨fun _ => nofun, kept reads⟩
  | cut reads ended short => exact ⟨fun _ => nofun, kept reads⟩
  | extra some reads full => exact ⟨fun _ => nofun, kept reads⟩
  | refused reads full other => exact ⟨fun _ => nofun, kept reads⟩
  | accepted reads opened timely ended exact =>
    rcases kept reads with closed | late | ⟨-, short⟩ | ⟨-, differs⟩
    · rw [reads.finished, reads.stream] at closed
      exact absurd closed opened
    · exact absurd (reads.deadline ▸ late) (not_le.mpr timely)
    · rw [exact, r.expected.length_image] at short
      exact absurd short (lt_irrefl _)
    · rw [reads.expected] at differs
      exact absurd exact differs

/-- What a run of polls keeps while no byte follows a report. -/
theorem Receiving.poll (valid : r.expected.validate = .ok ())
    (alone : ∀ extra, stream = r.expected.image ++ extra → extra = [])
    (room : r.bytes.length ≤ brokerTraceReportBytes)
    (receiving : Receiving r.expected stream events r w) (ends : PollEnds r w result r' w') :
    Receiving r.expected stream (events ++ [result]) r' w' := by
  cases receiving with
  | settled exact hopeless =>
    obtain ⟨none, hopeless'⟩ := hopeless.poll room ends
    exact .settled (exact.snoc none) hopeless'
  | reading quiet whole =>
    have exact : ExactReport r.expected stream events := exactReport_of_quiet quiet
    have parts {lost r' w'} (reads : Reads lost r w r' w') :
        r'.bytes ++ (lost ++ w'.left) = stream := by
      obtain ⟨chunk, filled, taken⟩ := reads.bytes
      rw [filled, ← whole, taken, append_assoc]
    cases ends with
    | closed taken => exact .settled (exact.snoc fun _ => nofun) (.inl taken)
    | pending reads =>
      refine .reading ?_ (parts reads)
      intro event member
      rcases mem_append.mp member with member | member
      · exact quiet event member
      · exact mem_singleton.mp member
    | expired reads late =>
      exact .settled (exact.snoc fun _ => nofun) (.inr (.inl (reads.deadline ▸ late)))
    | cut reads ended short =>
      exact .settled (exact.snoc fun _ => nofun) (.inr (.inr (.inl ⟨ended, short⟩)))
    | extra some reads full =>
      refine .settled (exact.snoc fun _ => nofun) (.inr (.inr (.inr ⟨full, fun same => some ?_⟩)))
      rw [reads.expected] at same
      exact (append_eq_nil_iff.mp (alone _ (same ▸ (parts reads).symm))).1
    | refused reads full other =>
      exact .settled (exact.snoc fun _ => nofun)
        (.inr (.inr (.inr ⟨full, by rwa [reads.expected]⟩)))
    | accepted reads opened timely ended same =>
      refine .settled ?_ (.inl (.inl rfl))
      have encoded : encodeBrokerTraceReport r.expected = .ok ⟨_, r.expected.length_image⟩ :=
        encodeBrokerTraceReport_eq_ok.mpr ⟨valid, rfl⟩
      have stands := parts reads
      rw [ended, same, append_nil, append_nil] at stands
      exact stands ▸ exactReport_accept quiet encoded

end Runs

/-! ### A byte after the report -/

open Op.Returns BrokerTraceReportError

section Extra

variable {r : BrokerTraceReportReceiver} {expected : BrokerTraceReportBinding} {deadline clock : Nat}

theorem read_returns {space : Nat} (reply : ReadReply space) :
    (read space).Returns r [⟨.read space, reply⟩] (.ok reply) r :=
  .step (.refl _)

theorem now_returns : now.Returns r [⟨.now, clock⟩] (.ok clock) r :=
  .step (.refl _)

/-- The loop over a report that is complete ends without a read. -/
theorem fill_full {turns : Nat} (full : r.bytes.length = brokerTraceReportBytes) :
    (Op.loop .stuck Empty.elim fillTurn (turns + 1) ()).Returns r [] (.ok true) r := by
  have turn : fillTurn () r = .ret (.ok (.inr true), r) := by
    change (ite _ _ _ : Receive _) r = _
    rw [if_neg (full ▸ lt_irrefl _)]
    rfl
  exact (bind_of_apply turn).mpr (pure true r)

/-- A whole report in one read. -/
theorem fill_whole {report : Bytes} (length : report.length = brokerTraceReportBytes) :
    (Op.loop .stuck Empty.elim fillTurn 2 ()).Returns ⟨true, expected, deadline, [], false⟩
      [⟨.read brokerTraceReportBytes, .ok report length.le⟩] (.ok true)
      ⟨true, expected, deadline, report, false⟩ := by
  have some : report ≠ [] := by
    rintro rfl
    cases length
  have turn : (fillTurn ()).Returns ⟨true, expected, deadline, [], false⟩
      [⟨.read brokerTraceReportBytes, .ok report length.le⟩] (.ok (.inl ()))
      ⟨true, expected, deadline, report, false⟩ := by
    refine (read_returns (ReadReply.ok report length.le)).bind ?_
    change (ite _ _ _ : Receive _).Returns _ [] _ _
    rw [if_neg some]
    exact .refl _
  exact turn.bind (fill_full length)

/-- A poll in time, by its two loops. -/
theorem poll_of_fill {log rest : Log ReceiverCall ReceiverCall.Reply} {report bytes : Bytes}
    {r' : BrokerTraceReportReceiver} (timely : clock < deadline)
    (fill : (Op.loop .stuck Empty.elim fillTurn 2 ()).Returns
      ⟨true, expected, deadline, bytes, false⟩ log (.ok true)
      ⟨true, expected, deadline, report, false⟩)
    (finish : (finish 2).Returns ⟨true, expected, deadline, report, false⟩ rest result r') :
    (poll 2).Returns ⟨true, expected, deadline, bytes, false⟩
      (⟨.now, clock⟩ :: (log ++ rest)) result r' := by
  have passed : rejectIf (clock ≥ deadline) deadlineExpired = .ok () :=
    rejectIf_eq_ok.mpr (not_le.mpr timely)
  exact now_returns.bind ((ofRun_bind passed).mpr (fill.bind finish))

/-- A byte after the report is taken from the channel and refused. -/
theorem finish_extra (byte : UInt8) :
    (finish 2).Returns r [⟨.read 1, .ok [byte] le_rfl⟩] (fail .malformed) r :=
  .step (.refl _)

/-- At the end of the stream the complete report is accepted. -/
theorem finish_ended
    (timely : clock < deadline) (encoded : encodeBrokerTraceReport expected = .ok report) :
    (finish 2).Returns ⟨true, expected, deadline, report.list, false⟩
      [⟨.read 1, .ok [] (Nat.zero_le _)⟩, ⟨.now, clock⟩] (.ok (some expected))
      ⟨false, expected, deadline, report.list, true⟩ := by
  have passed : rejectIf (clock ≥ deadline) deadlineExpired = .ok () :=
    rejectIf_eq_ok.mpr (not_le.mpr timely)
  have same : rejectIf (expected ≠ expected) binding = .ok () :=
    rejectIf_eq_ok.mpr (not_not.mpr rfl)
  have accepted : accept.Returns ⟨true, expected, deadline, report.list, false⟩ [⟨.now, clock⟩]
      (.ok (some expected)) ⟨false, expected, deadline, report.list, true⟩ := by
    refine now_returns.bind ((ofRun_bind passed).mpr ?_)
    refine (ofRun_bind (toFixed_eq_ok.mpr rfl)).mpr ?_
    refine (ofRun_bind (decode_iff_encodeBrokerTraceReport.mpr encoded)).mpr ?_
    refine (ofRun_bind same).mpr ?_
    exact .refl _
  exact .step accepted

/-- A poll that finds a byte after the report, which it had read or reads at once. -/
theorem poll_extra {report bytes : Bytes} {log : Log ReceiverCall ReceiverCall.Reply} {left : Bytes}
    {byte : UInt8} {rest : Bytes} (timely : clock < deadline)
    (fill : (Op.loop .stuck Empty.elim fillTurn 2 ()).Returns
      ⟨true, expected, deadline, bytes, false⟩ log (.ok true)
      ⟨true, expected, deadline, report, false⟩)
    (served : Trace Serves ⟨left, clock⟩ (⟨.now, clock⟩ :: log) ⟨byte :: rest, clock⟩) :
    PollStep (⟨true, expected, deadline, bytes, false⟩, ⟨left, clock⟩) (fail .malformed)
      (⟨true, expected, deadline, report, false⟩, ⟨rest, clock⟩) :=
  ⟨2, _, poll_of_fill timely fill (finish_extra byte),
    served.snoc (.chunk (cons_ne_nil byte []) (le_refl [byte].length))⟩

theorem poll_whole_extra {report : Bytes} (length : report.length = brokerTraceReportBytes)
    (timely : clock < deadline) (byte : UInt8) (rest : Bytes) :
    PollStep (⟨true, expected, deadline, [], false⟩, ⟨report ++ byte :: rest, clock⟩)
      (fail .malformed) (⟨true, expected, deadline, report, false⟩, ⟨rest, clock⟩) := by
  have some : report ≠ [] := by
    rintro rfl
    cases length
  exact poll_extra timely (fill_whole length)
    ((Trace.nil.snoc (.now le_rfl)).snoc (.chunk some length.le))

theorem poll_ended (timely : clock < deadline)
    (encoded : encodeBrokerTraceReport expected = .ok report) :
    PollStep (⟨true, expected, deadline, report.list, false⟩, ⟨[], clock⟩) (.ok (some expected))
      (⟨false, expected, deadline, report.list, true⟩, ⟨[], clock⟩) := by
  have served : Trace Serves ⟨[], clock⟩
      [⟨.now, clock⟩, ⟨.read 1, .ok [] (Nat.zero_le _)⟩, ⟨.now, clock⟩] ⟨[], clock⟩ :=
    ((Trace.nil.snoc (.now le_rfl)).snoc .ended).snoc (.now le_rfl)
  exact ⟨2, _, poll_of_fill timely (fill_full report.length_eq) (finish_ended timely encoded),
    served⟩

/-- The polls that take one byte each, and the one that then accepts the report. -/
theorem accepted_after_extra (timely : clock < deadline)
    (encoded : encodeBrokerTraceReport expected = .ok report) (extra : Bytes) :
    ∃ events state, Trace PollStep
      (⟨true, expected, deadline, report.list, false⟩, ⟨extra, clock⟩) events state ∧
      .ok (some expected) ∈ events := by
  induction extra with
  | nil => exact ⟨_, _, Trace.nil.snoc (poll_ended timely encoded), mem_singleton_self _⟩
  | cons byte rest ih =>
    obtain ⟨events, state, run, accepted⟩ := ih
    have step : PollStep (⟨true, expected, deadline, report.list, false⟩, ⟨byte :: rest, clock⟩) _ _ :=
      poll_extra timely (fill_full report.length_eq) (Trace.nil.snoc (.now le_rfl))
    exact ⟨_, state, (Trace.nil.snoc step).append run, mem_append_right _ accepted⟩

end Extra

theorem new_eq_ok {expected : BrokerTraceReportBinding} {deadline now : Nat}
    {receiver : BrokerTraceReportReceiver} :
    new expected deadline now none = .ok receiver ↔ expected.validate = .ok () ∧ now < deadline ∧
      (⟨true, expected, deadline, [], false⟩ : BrokerTraceReportReceiver) = receiver := by
  simp only [new, bind_eq_ok, rejectIf_eq_ok, pure_eq_ok, Unique.exists_iff, ge_iff_le, not_le]

/-- Every run of polls returns a report only for the exact stream, and none after an error,
    exactly when no byte follows the expected report in the stream. -/
theorem report_exact_iff {expected : BrokerTraceReportBinding} {deadline now : Nat}
    {receiver : BrokerTraceReportReceiver} (made : new expected deadline now none = .ok receiver)
    (stream : Bytes) :
    (∀ events state, Trace PollStep (receiver, ⟨stream, now⟩) events state →
      ExactReport expected stream events) ↔
    ∀ report extra, encodeBrokerTraceReport expected = .ok report →
      stream = report.list ++ extra → extra = [] := by
  obtain ⟨valid, timely, rfl⟩ := new_eq_ok.mp made
  constructor
  · rintro exact report (_ | ⟨byte, rest⟩) encoded rfl
    · rfl
    obtain ⟨events, state, run, accepted⟩ := accepted_after_extra timely encoded rest
    have step : PollStep (⟨true, expected, deadline, [], false⟩, _) _ _ :=
      poll_whole_extra report.length_eq timely byte rest
    obtain ⟨other, encoded', whole⟩ :=
      (exact _ _ ((Trace.nil.snoc step).append run)).1 expected (List.mem_append_right _ accepted)
    rw [encoded] at encoded'
    cases encoded'
    simp at whole
  · intro alone events state run
    have alone' (extra : Bytes) (follows : stream = expected.image ++ extra) : extra = [] :=
      alone ⟨_, expected.length_image⟩ extra
        (encodeBrokerTraceReport_eq_ok.mpr ⟨valid, rfl⟩) follows
    have kept : state.1.expected = expected ∧ state.1.bytes.length ≤ brokerTraceReportBytes ∧
        Receiving expected stream events state.1 state.2 := by
      refine run.invariant (I := fun events state => state.1.expected = expected ∧
        state.1.bytes.length ≤ brokerTraceReportBytes ∧
        Receiving expected stream events state.1 state.2) ?_ ?_
      · exact ⟨rfl, Nat.zero_le _, .reading (by simp) rfl⟩
      · rintro events state event next - ⟨rfl, room, receiving⟩ step
        have ends := step.ends valid
        exact ⟨ends.expected, ends.room room, receiving.poll valid alone' room ends⟩
    obtain ⟨-, -, receiving⟩ := kept
    cases receiving with
    | reading quiet whole => exact exactReport_of_quiet quiet
    | settled exact hopeless => exact exact

namespace Extra

def binding : BrokerTraceReportBinding where
  deadline := ⟨1⟩
  connectionGeneration := 11
  sequence := 1
  effectiveUid := 501
  effectiveGid := 20
  session := .filled 32 1
  clientNonce := .filled 32 2
  serviceNonce := .filled 32 3
  targetIdentity := .filled 32 4
  planDigest := .filled 32 5

def receiver : BrokerTraceReportReceiver := ⟨true, binding, 1, [], false⟩

end Extra

/-- The report and one byte: the first poll refuses the stream and the second accepts it. -/
theorem report_accepted_after_error :
    new Extra.binding 1 0 none = .ok Extra.receiver ∧
    ∃ state, Trace PollStep (Extra.receiver, ⟨Extra.binding.image ++ [0], 0⟩)
      [fail .malformed, .ok (some Extra.binding)] state := by
  have valid : Extra.binding.validate = .ok () := by decide
  have encoded : encodeBrokerTraceReport Extra.binding =
      .ok ⟨Extra.binding.image, Extra.binding.length_image⟩ :=
    encodeBrokerTraceReport_eq_ok.mpr ⟨valid, rfl⟩
  refine ⟨new_eq_ok.mpr ⟨valid, Nat.zero_lt_one, rfl⟩, _, (Trace.nil.snoc ?_).snoc
    (poll_ended Nat.zero_lt_one encoded)⟩
  exact poll_whole_extra Extra.binding.length_image Nat.zero_lt_one 0 []

/-- The report alone. -/
theorem report_exact_alone :
    new Extra.binding 1 0 none = .ok Extra.receiver ∧ ∀ events state,
      Trace PollStep (Extra.receiver, ⟨Extra.binding.image, 0⟩) events state →
        ExactReport Extra.binding Extra.binding.image events := by
  have made : new Extra.binding 1 0 none = .ok Extra.receiver :=
    new_eq_ok.mpr ⟨by decide, Nat.zero_lt_one, rfl⟩
  refine ⟨made, (report_exact_iff made _).mpr ?_⟩
  intro report extra encoded whole
  rw [(encodeBrokerTraceReport_eq_ok.mp encoded).2] at whole
  exact List.append_right_eq_self.mp whole.symm

end NativeIpc.Supervisor
