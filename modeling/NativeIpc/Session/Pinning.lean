import NativeIpc.Session.BatchAgreement

/-!
# The capability phase after the preflight

Which manifests a receiver imports after it has agreed to one in the capacity
preflight. The Linux guard keeps the offered frame and compares; the guards of
macOS and Windows compare with the expectation only.
-/

namespace NativeIpc.Session

open NativeIpc.Lib Bytes Run Op.Returns List
open Op (CallsOnly Reaches Returns)
open Dispatcher
open Borrowed (nonCanonical replayOrReorder transport memory)
open CapabilityFrame (fromManifest)

variable {t : Target} {backend : Backend} {deadline : Deadline} {log : Log Call Reply}

/-! ### Calls of the memory modules -/

/-- The call is an operation on native memory. -/
def Call.Native : Call → Prop
  | .native _ => True
  | _ => False

instance : DecidablePred Call.Native
  | .native _ => .isTrue trivial
  | .expired _ | .tryReserve _ | .sendRecord _ _ | .receiveRecord _ _ | .sendCapabilities _ _
  | .receiveCapabilities _ _ | .pollPeer | .waitPeerExit _ | .reapChild _ _
  | .childExitCode _ _ => .isFalse not_false

/-- No native object is touched. -/
def Untouched (log : Log Call Reply) : Prop := ∀ answer ∈ log, ¬ answer.1.Native

instance (log : Log Call Reply) : Decidable (Untouched log) :=
  inferInstanceAs (Decidable (∀ answer ∈ log, _))

/-- The bytes of the first record that arrives. -/
def offeredBytes (log : Log Call Reply) : Option Bytes :=
  (receivedIn log).head?.map Message.bytes

theorem offeredBytes_append {before : Log Call Reply} {bytes : Bytes}
    (offered : offeredBytes before = some bytes) (after : Log Call Reply) :
    offeredBytes (before ++ after) = some bytes := by
  obtain ⟨message, first, rfl⟩ := Option.map_eq_some_iff.mp offered
  rw [offeredBytes, receivedIn_append, head?_append, first]
  rfl

variable {α : Type} {expected : ExpectedMixedDirectionBatch}
    {x : Transporting α} {result : Run CapabilityBatchError Unit}
    {frame : CapabilityFrame} {status : CoordinatorCapacityStatus} {rights : List Nat}
    {manifest : TransferManifest}

theorem untouched_settle (reply : Except IoFailure α) :
    CallsOnly (fun c => ¬ c.Native) (settle backend reply) := by
  cases reply with
  | ok value => exact .pure value
  | error failure => exact (CallsOnly.when (.modify _)).bind fun _ => .fail _

theorem untouched_ensureLive : CallsOnly (fun c => ¬ c.Native) ensureLive := by
  apply CallsOnly.get.bind
  intro d
  split
  · exact .fail _
  · split
    · exact .fail _
    · exact .pure ()

theorem untouched_receiveCandidate (count : Nat) :
    CallsOnly (fun c => ¬ c.Native) (receiveCandidate backend count deadline) := by
  apply untouched_ensureLive.bind
  intro _
  apply (CallsOnly.ofRun _).bind
  intro _
  refine CallsOnly.bind (CallsOnly.perform not_false) ?_
  intro reply
  apply (untouched_settle reply).bind
  intro message
  split
  · exact .pure message
  · exact untouched_settle _

theorem untouched_receiveRecord (maximum : Nat) :
    CallsOnly (fun c => ¬ c.Native) (receiveRecord backend maximum deadline) := by
  apply untouched_ensureLive.bind
  intro _
  split
  · exact (CallsOnly.when (.modify _)).bind fun _ => .fail _
  · refine CallsOnly.bind (CallsOnly.perform not_false) ?_
    intro reply
    exact untouched_settle reply

/-! ### Transport operations do not fault -/

/-- The operation returns or fails. -/
def Faultless {σ ε α : Type} (x : Effect σ ε α) : Prop :=
  ∀ s log s', ¬ Op.Returns x s log (.error .fault) s'

namespace Faultless

variable {σ ε α β : Type}

theorem pure (a : α) : Faultless (Pure.pure a : Effect σ ε α) := by
  intro s log s' returned
  obtain ⟨-, faulted, -⟩ := of_pure returned
  cases faulted

theorem fail (error : ε) : Faultless (Op.fail error : Effect σ ε α) := by
  intro s log s' returned
  obtain ⟨-, faulted, -⟩ := of_ofRun returned
  cases faulted

theorem bind {x : Effect σ ε α} {f : α → Effect σ ε β} (first : Faultless x)
    (second : ∀ a, Faultless (f a)) : Faultless (x >>= f) := by
  intro s log s' returned
  rcases of_bind returned with ⟨a, s₁, _, _, -, -, rest⟩ | ⟨stop, same, failed⟩
  · exact second a _ _ _ rest
  · cases same
    exact first _ _ _ failed

theorem perform (c : Call) : Faultless (Op.perform c : Effect σ ε (Reply c)) := by
  intro s log s' returned
  obtain ⟨_, -, faulted, -⟩ := of_perform returned
  cases faulted

theorem modify (f : σ → σ) : Faultless (Op.modify f : Effect σ ε Unit) := by
  intro s log s' returned
  obtain ⟨-, same⟩ := Proc.Runs.of_ret returned
  cases same

theorem when {c : Prop} [Decidable c] {x : Effect σ ε Unit} (faultless : Faultless x) :
    Faultless (Op.when c x) := by
  unfold Op.when
  split
  · exact faultless
  · exact pure ()

theorem rejectIf {c : Prop} [Decidable c] (error : ε) :
    Faultless (Op.ofRun (Run.rejectIf c error) : Effect σ ε Unit) := by
  intro s log s' returned
  obtain ⟨-, faulted, -⟩ := of_ofRun returned
  unfold Run.rejectIf at faulted
  split at faulted
  · cases faulted
  · cases faulted

end Faultless

theorem faultless_settle (reply : Except IoFailure α) : Faultless (settle backend reply) := by
  cases reply with
  | ok value => exact .pure value
  | error failure => exact (Faultless.when (.modify _)).bind fun _ => .fail _

theorem faultless_ensureLive : Faultless ensureLive := by
  intro d log d' returned
  have checked := of_get_bind returned
  split at checked
  · exact Faultless.fail _ _ _ _ checked
  · split at checked
    · exact Faultless.fail _ _ _ _ checked
    · exact Faultless.pure () _ _ _ checked

theorem faultless_receiveCandidate (count : Nat) :
    Faultless (receiveCandidate backend count deadline) := by
  apply faultless_ensureLive.bind
  intro _
  apply (Faultless.rejectIf _).bind
  intro _
  apply (Faultless.perform _).bind
  intro reply
  apply (faultless_settle reply).bind
  intro message
  split
  · exact .pure message
  · exact faultless_settle _

theorem faultless_receiveRecord (maximum : Nat) :
    Faultless (receiveRecord backend maximum deadline) := by
  apply faultless_ensureLive.bind
  intro _
  split
  · exact (Faultless.when (.modify _)).bind fun _ => .fail _
  · exact (Faultless.perform _).bind fun reply => faultless_settle reply

/-! ### Refusals of the receiver -/

open Borrowed

namespace Borrowed

variable {ε ε' α : Type} {b b' : Borrowed}

theorem poison_poisoned (fresh : b.alreadyPoisoned = false) :
    b.poison.dispatcher.state.poisoned = true := by
  rw [poison, fresh]
  rfl

theorem poisonFail_poisons {error : ε} {result : Run ε α} (fresh : b.alreadyPoisoned = false)
    (returned : Returns (poisonFail error) b log result b') :
    log = [] ∧ result = fail error ∧ b'.dispatcher.state.poisoned = true := by
  obtain ⟨rfl, same⟩ := Proc.Runs.of_ret returned
  cases same
  exact ⟨rfl, rfl, poison_poisoned fresh⟩

/-- An operation of the transport that fails leaves the session poisoned. -/
theorem orPoison_error {convert : ε → ε'} {x : Effect Dispatcher ε α} {stop : Stop ε'}
    (fresh : b.alreadyPoisoned = false) (faultless : Faultless x)
    (returned : Returns (orPoison convert x) b log (.error stop) b') :
    b'.dispatcher.state.poisoned = true ∧
      ∃ d' error, Returns x b.dispatcher log (fail error) d' := by
  rcases of_bind returned with ⟨result, b₁, before, after, rfl, attempted, rest⟩ |
    ⟨_, -, attempted⟩
  · obtain ⟨original, same, lifted⟩ := of_attempt attempted
    cases same
    obtain ⟨d₁, runs, rfl⟩ := of_zoom lifted
    rcases result with (error | _) | value
    · obtain ⟨rfl, -, poisoned⟩ := poisonFail_poisons (by exact fresh) rest
      rw [append_nil]
      exact ⟨poisoned, d₁, error, runs⟩
    · exact absurd runs (faultless _ _ _)
    · obtain ⟨-, same, -⟩ := of_pure rest
      cases same
  · obtain ⟨_, same, -⟩ := of_attempt attempted
    cases same

end Borrowed

open CapabilityFrame

namespace ReceiverTransaction

variable {tx tx' : ReceiverTransaction}

/-- The session is poisoned and no native object was touched. -/
structure Refused (log : Log Call Reply) (tx : ReceiverTransaction) : Prop where
  poisoned : tx.borrowed.dispatcher.state.poisoned = true
  untouched : Untouched log

/-- A guard on which nothing has been called. -/
structure Fresh (tx : ReceiverTransaction) (expected : ExpectedMixedDirectionBatch) : Prop where
  attempted : tx.attempted = false
  alreadyPoisoned : tx.borrowed.alreadyPoisoned = false
  expected : tx.expected = some expected

/-- The frame is that of a manifest of this transaction which matches the expectation. -/
def Matching (backend : Backend) (tx : ReceiverTransaction)
    (expected : ExpectedMixedDirectionBatch) (bytes : Bytes) : Prop :=
  ∃ frame manifest, CapabilityFrame.decode bytes = some (frame, manifest) ∧
    receivedMixedManifestMatches backend tx.borrowed.dispatcher.parameters tx.transactionId
      expected manifest = true

/-- The guard has not kept another frame. -/
def Agreed (tx : ReceiverTransaction) (bytes : Bytes) : Prop :=
  ∀ preflight, tx.preflightFrame = some preflight → preflight.bytes = bytes

/-- The frame that arrived is one the guard imports. -/
def Admitted (backend : Backend) (tx : ReceiverTransaction)
    (expected : ExpectedMixedDirectionBatch) (log : Log Call Reply) : Prop :=
  ∃ bytes, offeredBytes log = some bytes ∧ tx.Agreed bytes ∧ tx.Matching backend expected bytes

theorem Admitted.append
    {before after : Log Call Reply} (admitted : Admitted backend tx expected before) :
    Admitted backend tx expected (before ++ after) := by
  obtain ⟨bytes, offered, rest⟩ := admitted
  exact ⟨bytes, offeredBytes_append offered after, rest⟩

/-- The guard once `prepare` was called. -/
def called (tx : ReceiverTransaction) : ReceiverTransaction := { tx with attempted := true }

theorem attempt_apply (fresh : tx.attempted = false) : attempt tx = .ret (.ok (), tx.called) := by
  change (if tx.attempted then inner replayOrReorder
    else Op.modify fun tx => { tx with attempted := true } : Effect _ _ _) tx = _
  rw [if_neg (by rw [fresh]; exact Bool.false_ne_true)]
  rfl

theorem expectation_apply
    (kept : tx.expected = some expected) : expectation tx = .ret (.ok expected, tx) := by
  rw [expectation, Op.get_bind_apply, kept]
  rfl

/-- The offer is taken as it is, or the session is poisoned. -/
theorem matchOffer_cases {bytes : Bytes}
    {result : Run CapabilityBatchError (CapabilityFrame × TransferManifest)}
    (fresh : tx.borrowed.alreadyPoisoned = false)
    (returned : Returns (matchOffer backend expected bytes) tx log result tx') :
    log = [] ∧
      ((tx.Agreed bytes ∧ tx.Matching backend expected bytes ∧ tx' = tx ∧
          ∃ manifest, result = .ok (fromManifest manifest, manifest) ∧
            (fromManifest manifest).bytes = bytes) ∨
        (tx'.borrowed.dispatcher.state.poisoned = true ∧ ∃ stop, result = .error stop)) := by
  have refused {result : Run CapabilityBatchError (CapabilityFrame × TransferManifest)}
      (returned : Returns (inner nonCanonical) tx log result tx') : log = [] ∧
        (tx'.borrowed.dispatcher.state.poisoned = true ∧ ∃ stop, result = .error stop) := by
    obtain ⟨b', runs, rfl⟩ := of_zoom returned
    obtain ⟨rfl, rfl, poisoned⟩ := poisonFail_poisons fresh runs
    exact ⟨rfl, poisoned, _, rfl⟩
  have checked := of_get_bind returned
  split at checked
  · obtain ⟨rfl, rest⟩ := refused checked
    exact ⟨rfl, .inr rest⟩
  · rename_i frame manifest decoded
    obtain ⟨rfl, rfl⟩ := decode_eq_some_iff.mp decoded
    split at checked
    · obtain ⟨rfl, rest⟩ := refused checked
      exact ⟨rfl, .inr rest⟩
    · rename_i unkept
      split at checked
      · rename_i matching
        obtain ⟨rfl, rfl, rfl⟩ := of_pure checked
        have same : (fromManifest manifest).bytes = manifest.encode capabilityMagic := rfl
        refine ⟨rfl, .inl ⟨?_, ⟨_, _, decoded, matching⟩, rfl, manifest, rfl, same⟩⟩
        intro preflight kept
        simpa [kept, same] using unkept
      · obtain ⟨rfl, rest⟩ := refused checked
        exact ⟨rfl, .inr rest⟩

/-- A record is received and nothing else changes, or the session is poisoned. -/
theorem transport_cases
    {result : Run CapabilityBatchError α} (fresh : tx.borrowed.alreadyPoisoned = false)
    (faultless : Faultless x) (quiet : CallsOnly (fun c => ¬ c.Native) x)
    (unchanged : ∀ {d d' log a}, Returns x d log (.ok a) d' → d' = d)
    (returned : Returns (inner (transport x)) tx log result tx') :
    Untouched log ∧
      ((∃ a, result = .ok a ∧ tx' = tx ∧
          Returns x tx.borrowed.dispatcher log (.ok a) tx.borrowed.dispatcher) ∨
        (tx'.borrowed.dispatcher.state.poisoned = true ∧ ∃ stop, result = .error stop)) := by
  obtain ⟨b', runs, rfl⟩ := of_zoom returned
  cases result with
  | ok a =>
    obtain ⟨d', received, rfl⟩ := Borrowed.orPoison_ok runs
    obtain rfl := unchanged received
    exact ⟨quiet.of_returns received, .inl ⟨a, rfl, rfl, received⟩⟩
  | error stop =>
    obtain ⟨poisoned, d', error, received⟩ := orPoison_error fresh faultless runs
    exact ⟨quiet.of_returns received, .inr ⟨poisoned, stop, rfl⟩⟩

/-- A record is received and the offer in it is taken, or the session is poisoned. -/
theorem offered_cases {β : Type} (tx : ReceiverTransaction) (offer : α → Bytes)
    {result : Run CapabilityBatchError β} {next : α → Effect ReceiverTransaction _ β}
    {rest : α → CapabilityFrame × TransferManifest → Effect ReceiverTransaction _ β}
    (fresh : tx.borrowed.alreadyPoisoned = false)
    (faultless : Faultless x) (quiet : CallsOnly (fun c => ¬ c.Native) x)
    (received : ∀ {d d' log a}, Returns x d log (.ok a) d' →
      d' = d ∧ offeredBytes log = some (offer a))
    (matches_ : ∀ a log, Returns (next a) tx log result tx' →
      Returns (matchOffer backend expected (offer a) >>= rest a) tx log result tx')
    (returned : Returns (inner (transport x) >>= next) tx log result tx') :
    Admitted backend tx expected log ∨ (Refused log tx' ∧ ∃ stop, result = .error stop) := by
  rcases of_bind returned with ⟨a, tx₁, before, after, rfl, receives, more⟩ | ⟨stop, rfl, receives⟩
  · obtain ⟨untouched, ⟨_, same, rfl, runs⟩ | ⟨-, _, failed⟩⟩ := transport_cases fresh
      faultless quiet (fun returned => (received returned).1) receives
    · cases same
      have offered := (received runs).2
      rcases of_bind (matches_ a after more) with ⟨_, tx₂, between, later, rfl, matched, -⟩ |
        ⟨stop, rfl, matched⟩
      · obtain ⟨-, ⟨agreed, matching, -⟩ | ⟨-, _, failed⟩⟩ := matchOffer_cases fresh matched
        · exact .inl (Admitted.append ⟨offer a, offered, agreed, matching⟩)
        · cases failed
      · obtain ⟨rfl, ⟨-, -, -, _, failed, -⟩ | ⟨poisoned, -⟩⟩ := matchOffer_cases fresh matched
        · cases failed
        · rw [append_nil]
          exact .inr ⟨⟨poisoned, untouched⟩, stop, rfl⟩
    · cases failed
  · obtain ⟨untouched, ⟨_, failed, -⟩ | ⟨poisoned, -⟩⟩ := transport_cases fresh
      faultless quiet (fun returned => (received returned).1) receives
    · cases failed
    · exact .inr ⟨⟨poisoned, untouched⟩, stop, rfl⟩

theorem receiveImport_cases
    {importBatch : ExpectedMixedDirectionBatch → TransferManifest → List Nat →
      MemoryEffect Unit ImportedMixedDirectionBatch} {result : Run CapabilityBatchError
      (ExpectedMixedDirectionBatch × CapabilityFrame × ImportedMixedDirectionBatch)}
    (fresh : tx.Fresh expected)
    (returned : Returns (receiveImport backend importBatch) tx log result tx') :
    Admitted backend tx expected log ∨ (Refused log tx' ∧ ∃ stop, result = .error stop) := by
  have kept : tx.called.expected = some expected := fresh.expected
  have expecting := (bind_of_apply (attempt_apply fresh.attempted)).mp returned
  have getting := (bind_of_apply (expectation_apply kept)).mp expecting
  refine offered_cases tx.called Message.bytes fresh.alreadyPoisoned
    (faultless_receiveCandidate _) (untouched_receiveCandidate _) ?_ (fun _ _ more => more)
    (of_get_bind getting)
  intro d d' log message received
  obtain ⟨rfl, same, -⟩ := receiveCandidate_ok received
  exact ⟨same, rfl⟩

theorem windowsPrepare_cases (fresh : tx.Fresh expected)
    (returned : Returns (windowsPrepare t) tx log result tx') :
    Admitted .windows tx expected log ∨ Refused log tx' := by
  have kept : tx.called.expected = some expected := fresh.expected
  have getting := (bind_of_apply (attempt_apply fresh.attempted)).mp returned
  refine (offered_cases tx.called id fresh.alreadyPoisoned
    (faultless_receiveRecord _) (untouched_receiveRecord _) ?_
    (fun _ _ more => (bind_of_apply (expectation_apply kept)).mp more)
    (of_get_bind getting)).imp id And.left
  intro d d' log bytes received
  obtain ⟨_, rfl, same, -⟩ := receiveRecord_ok received
  exact ⟨same, rfl⟩

/-- A native object is touched only for an admitted frame; otherwise the session is poisoned. -/
theorem prepare_cases (fresh : tx.Fresh expected)
    (returned : Returns (prepare t backend) tx log result tx') :
    Admitted backend tx expected log ∨ Refused log tx' := by
  have first {importBatch : ExpectedMixedDirectionBatch → TransferManifest → List Nat →
        MemoryEffect Unit ImportedMixedDirectionBatch}
      {rest : ExpectedMixedDirectionBatch × CapabilityFrame × ImportedMixedDirectionBatch →
        BatchEffect ReceiverTransaction Unit}
      (returned : Returns (receiveImport backend importBatch >>= rest) tx log result tx') :
      Admitted backend tx expected log ∨ Refused log tx' := by
    rcases of_bind returned with ⟨_, tx₁, before, after, rfl, received, -⟩ |
      ⟨stop, rfl, received⟩
    · rcases receiveImport_cases fresh received with admitted | ⟨-, _, failed⟩
      · exact .inl admitted.append
      · cases failed
    · rcases receiveImport_cases fresh received with admitted | ⟨refused, -⟩
      · exact .inl admitted
      · exact .inr refused
  cases backend with
  | linux => exact first returned
  | macos => exact first returned
  | windows => exact windowsPrepare_cases fresh returned

end ReceiverTransaction

/-! ### The preflight -/

theorem internal_expectBatch {σ : Type} (expected : ExpectedBatch) (limits : SessionLimits) :
    CallsOnly Call.Internal (backend.expectBatch t expected limits deadline :
      MemoryEffect σ ExpectedMixedDirectionBatch) := by
  have limited : CallsOnly Call.Internal
      (MacExpectedMixedDirectionBatch.checkLimits t expected limits deadline :
        MemoryEffect σ Unit) :=
    (internal_checkDeadline deadline).bind fun _ => (CallsOnly.ofRun _).bind fun _ => .ofRun _
  cases backend with
  | linux => exact LinuxExpectedMixedDirectionBatch.internal_prepare t expected limits deadline
  | macos =>
    apply limited.bind
    intro _
    apply (internal_nativePageSize _).bind
    intro page
    refine CallsOnly.bind (CallsOnly.foldlM ?_ _) fun _ => .ofRun _
    exact fun sofar region => (CallsOnly.ofRun _).bind fun _ =>
      (CallsOnly.ofRun _).bind fun _ => .ofRun _
  | windows =>
    apply limited.bind
    intro _
    refine CallsOnly.bind (CallsOnly.foldlM ?_ _) fun _ => .ofRun _
    exact fun sofar region => (CallsOnly.ofRun _).bind fun _ =>
      (CallsOnly.ofRun _).bind fun _ => (internal_native _).bind fun _ =>
        (CallsOnly.ofRun _).bind fun _ => (CallsOnly.ofRun _).bind fun _ => .ofRun _

theorem internal_enterNativeTransaction :
    CallsOnly Call.Internal (enterNativeTransaction deadline) := by
  have entry : CallsOnly Call.Internal (checkEntry deadline) := by
    apply CallsOnly.get.bind
    intro d
    split
    · exact .fail _
    · apply (internal_isExpired deadline).bind
      intro expired
      split
      · exact .fail _
      · split
        · exact (CallsOnly.modify _).bind fun _ => .fail _
        · exact .pure ()
  apply entry.bind
  intro _
  refine CallsOnly.bind (CallsOnly.attempt (.update _)) ?_
  intro result
  split
  · exact .update _
  · exact .ofRun _
  · exact (CallsOnly.modify _).bind fun _ => .fail _

section Preflight

variable {d d' : Dispatcher}

theorem receiveOffer_ok {transactionId : UInt64}
    (returned : Returns (receiveOffer backend expected transactionId deadline) d log
      (.ok (frame, status)) d') :
    ∃ manifest, receivedIn log = [⟨manifest.encode status.magic, []⟩] ∧
      frame = fromManifest manifest := by
  obtain ⟨offer, d₁, before, after, rfl, received, checking⟩ := bind_ok returned
  obtain ⟨bound, rfl, rfl, -⟩ := receiveRecord_ok (orPoison_ok received)
  have checked := of_get_bind checking
  have refused {error : BatchBeginError} {d : Dispatcher}
      (returned : Returns (poisonFail error) d after (.ok (frame, status)) d') : False := by
    obtain ⟨_, _, _, _, -, -, failed⟩ := bind_ok returned
    obtain ⟨-, failed, -⟩ := of_ofRun failed
    cases failed
  split at checked
  · exact (refused checked).elim
  · rename_i decoded
    split at checked
    · obtain ⟨rfl, same, -⟩ := of_pure checked
      cases same
      obtain ⟨rfl, rfl⟩ := decodeCoordinatorCapacity_eq_some.mp decoded
      exact ⟨_, rfl, rfl⟩
    · exact (refused checked).elim

theorem reserveIfReady_quiet {lengths : List UInt64} :
    CallsOnly Call.Internal (reserveIfReady status lengths) := by
  unfold reserveIfReady
  split
  · refine CallsOnly.bind (CallsOnly.attempt (.update _)) ?_
    intro result
    split
    · exact .pure _
    · exact .pure _
    · exact .ofRun _
  · exact .pure _

theorem ensureLive_live (returned : Returns ensureLive d log (.ok ()) d') :
    d'.transport.reaped = false ∧ d'.transport.poisoned = false := by
  obtain ⟨-, rfl, unpoisoned⟩ := ensureLive_ok returned
  have checked := of_get_bind returned
  split at checked
  · obtain ⟨-, failed, -⟩ := of_ofRun checked
    cases failed
  · rename_i running
    exact ⟨by simpa using running, unpoisoned⟩

/-- A receiver that has agreed has sent its answer and its transport is alive. -/
theorem answerOffer_ok
    {reservations : Option (List LeaseReservation)} {leases : List LeaseReservation}
    (returned : Returns (answerOffer backend frame status reservations deadline) d log
      (.ok leases) d') :
    receivedIn log = [] ∧ d'.transport.reaped = false ∧ d'.transport.poisoned = false := by
  cases reservations with
  | none =>
    obtain ⟨_, _, _, _, -, -, ending⟩ := bind_ok returned
    obtain ⟨_, _, _, _, -, -, failing⟩ := bind_ok ending
    obtain ⟨-, failed, -⟩ := of_ofRun failing
    cases failed
  | some held =>
    obtain ⟨_, d₁, _, _, rfl, answered, ended⟩ := bind_ok returned
    obtain ⟨rfl, -, rfl⟩ := of_pure ended
    have sends := orPoison_ok (orDrop_ok answered)
    obtain ⟨rfl, rfl, -⟩ := sendRecord_ok sends
    obtain ⟨_, _, _, _, -, live, -⟩ := bind_ok sends
    obtain ⟨-, rfl, -⟩ := ensureLive_ok live
    exact ⟨rfl, ensureLive_live live⟩

/-- What an accepted preflight leaves: the one record that arrived is the offer of a manifest, and
    the guard keeps its frame on Linux only. -/
theorem beginPublicExpected_ok {expected : ExpectedBatch} {tx : ReceiverTransaction}
    (returned : Returns (beginPublicExpectedMixedDirectionBatch t backend expected deadline) d
      log (.ok tx) d') :
    ∃ prepared leases transactionId manifest, ∃ status : CoordinatorCapacityStatus,
      receivedIn log = [⟨manifest.encode status.magic, []⟩] ∧
      tx = .start d' prepared (if backend = .linux then some (fromManifest manifest) else none)
        leases deadline transactionId ∧
      d'.transport.reaped = false ∧ d'.transport.poisoned = false := by
  obtain ⟨_, d₁, log₁, _, rfl, profiled, getting⟩ := bind_ok returned
  obtain ⟨prepared, d₂, log₂, _, rfl, expecting, entering⟩ :=
    bind_ok (of_get_bind getting)
  obtain ⟨transactionId, d₃, log₃, _, rfl, entered, offering⟩ := bind_ok entering
  obtain ⟨⟨frame, status⟩, d₄, log₄, _, rfl, offered, reserving⟩ := bind_ok offering
  obtain ⟨reservations, d₅, log₅, _, rfl, reserved, answering⟩ := bind_ok reserving
  obtain ⟨leases, d₆, log₆, _, rfl, answered, starting⟩ := bind_ok answering
  have started := of_get_bind starting
  obtain ⟨rfl, same, rfl⟩ := of_pure started
  cases same
  have profiles : CallsOnly Call.Internal (checkProfile backend) :=
    CallsOnly.get.bind fun _ => .ofRun _
  have quiet₁ := receivedIn_of_internal (profiles.of_returns (mapError_ok profiled))
  have quiet₂ := receivedIn_of_internal
    ((internal_expectBatch _ _).of_returns (detached_ok (mapError_ok expecting)).1)
  have quiet₃ := receivedIn_of_internal
    (internal_enterNativeTransaction.of_returns (mapError_ok entered))
  have quiet₅ := receivedIn_of_internal (reserveIfReady_quiet.of_returns reserved)
  obtain ⟨manifest, arrived, rfl⟩ := receiveOffer_ok offered
  obtain ⟨quiet₆, live⟩ := answerOffer_ok answered
  refine ⟨prepared, leases, transactionId, manifest, status, ?_, rfl, live⟩
  simp [quiet₁, quiet₂, quiet₃, quiet₅, quiet₆, arrived]

end Preflight

/-! ### Imports that nothing prevents -/

open ExpectedMixedDirectionBatch (importItems length_of_matches)

section Reaching

variable {σ ε ε' α : Type} {d : Dispatcher} {b : Borrowed} {c : Call}

theorem ensureLive_apply (running : d.transport.reaped = false)
    (unpoisoned : d.transport.poisoned = false) : ensureLive d = .ret (.ok (), d) := by
  change (if d.transport.reaped then Op.fail SessionTransportError.peerExited
    else if d.transport.poisoned then Op.fail (SessionTransportError.native none)
    else pure () : Transporting Unit) d = _
  rw [if_neg (by rw [running]; exact Bool.false_ne_true),
    if_neg (by rw [unpoisoned]; exact Bool.false_ne_true)]
  rfl

/-- On a live transport the next message with the right number of objects is received. -/
theorem receiveCandidate_returns (backend : Backend) (deadline : Deadline) (bytes : Bytes)
    {count : Nat} (counted : rights.length = count)
    (running : d.transport.reaped = false) (unpoisoned : d.transport.poisoned = false)
    (positive : count ≠ 0) (few : count ≤ maxCapabilityCount) :
    Returns (receiveCandidate backend count deadline) d
      [⟨.receiveCapabilities count deadline, .ok ⟨bytes, rights⟩⟩] (.ok ⟨bytes, rights⟩) d := by
  have bounded : rejectIf (count = 0 ∨ maxCapabilityCount < count)
      SessionTransportError.malformedRecord = .ok () := by
    rw [rejectIf_eq_ok]
    rintro (none | many)
    · exact positive none
    · exact absurd few (Nat.not_le.mpr many)
  have compared : Returns (if rights.length = count then pure ⟨bytes, rights⟩
      else settle backend (.error ⟨.malformedRecord, false⟩)) d [] (.ok (⟨bytes, rights⟩ : Message))
      d := by
    rw [if_pos counted]
    exact Returns.pure _ d
  refine (bind_of_apply (ensureLive_apply running unpoisoned)).mpr ?_
  refine (ofRun_bind bounded).mpr ?_
  exact Returns.bind (Returns.perform _ _ d) compared

/-- On a live transport the next record is received. -/
theorem receiveRecord_returns {maximum : Nat} (bytes : Bytes) (deadline : Deadline)
    (other : backend ≠ .linux) (running : d.transport.reaped = false)
    (unpoisoned : d.transport.poisoned = false) (positive : maximum ≠ 0) :
    Returns (receiveRecord backend maximum deadline) d
      [⟨.receiveRecord (min maximum maxRecordBytes) deadline, .ok bytes⟩] (.ok bytes) d := by
  have bounded : recordBound backend maximum = some (min maximum maxRecordBytes) := by
    rw [recordBound, if_neg positive, if_neg other]
  have settled : Returns (settle backend (Except.ok bytes)) d [] (.ok bytes) d :=
    Returns.pure bytes d
  refine (bind_of_apply (ensureLive_apply running unpoisoned)).mpr ?_
  rw [bounded]
  exact Returns.bind (Returns.perform (Call.receiveRecord _ deadline) _ d) settled

theorem checkDeadline_returns (s : σ) :
    Returns (checkDeadline deadline) s [⟨.expired deadline, false⟩] (.ok ()) s :=
  .step (.refl _)

theorem native_reaches (step : NativeStep) (s : σ) :
    Reaches (native step : MemoryEffect σ Nat) s [] (.native step) :=
  (Reaches.perform _ s).bind

namespace Borrowed

theorem orPoison_returns {convert : ε → ε'} {x : Effect Dispatcher ε α} {a : α}
    (returned : Returns x b.dispatcher log (.ok a) b.dispatcher) :
    Returns (orPoison convert x) b log (.ok a) b := by
  have lifted : Returns (lift x) b log (.ok a) b := Returns.zoom returned
  rw [← append_nil log]
  exact Returns.bind lifted.attempt (Returns.pure a b)

theorem memory_reaches {x : MemoryEffect Unit α} (reaches : Reaches x () log c) :
    Reaches (memory x) b log c :=
  (Reaches.zoom (Reaches.zoom reaches)).attempt.bind

end Borrowed

/-- An import that matches passes its checks. -/
theorem checkImport_reaches {f : Unit → MemoryEffect σ α} {s : σ}
    (count : rights.length = expected.entries.length) (reaches : Reaches (f ()) s log c) :
    Reaches (expected.checkImport true rights >>= f) s
      (⟨.expired expected.deadline, false⟩ :: log) c := by
  have passed : rejectIf (rights.length ≠ expected.entries.length ∨ true = false)
      MemoryError.wrongProvenance = .ok () := by
    rw [rejectIf_eq_ok]
    rintro (other | never)
    · exact other count
    · cases never
  have checked : Returns (expected.checkImport true rights) s
      [⟨.expired expected.deadline, false⟩] (.ok ()) s :=
    Returns.bind (checkDeadline_returns s) (passed ▸ Returns.ofRun _ s)
  exact Reaches.after checked reaches

/-- A loop over some items gets as far as its first turn does. -/
theorem foldlM_reaches {β : Type} {body : α → β → Effect σ ε α} {items : List β} {a : α} {s : σ}
    (some : items ≠ []) (reaches : ∀ item ∈ items, ∃ log, receivedIn log = [] ∧
      ∃ step, Reaches (body a item) s log (.native step)) :
    ∃ log, receivedIn log = [] ∧ ∃ step, Reaches (items.foldlM body a) s log (.native step) := by
  cases items with
  | nil => exact absurd rfl some
  | cons item rest =>
    obtain ⟨log, quiet, step, reached⟩ := reaches item mem_cons_self
    exact ⟨log, quiet, step, reached.bind⟩

section

variable (count : rights.length = expected.entries.length)
include count

/-- The import of a manifest that matches gets as far as a native call, on macOS and Windows. -/
theorem import_reaches (nonzero : 0 ∉ rights) (refuseNull : Bool)
    (lengths : manifest.entries.length = expected.entries.length) {matching : Bool}
    (holds : matching = true) :
    ∃ log, receivedIn log = [] ∧ ∃ step, Reaches
      (importSections t refuseNull matching expected manifest rights) () log (.native step) := by
  subst holds
  have items : expected.importItems manifest rights ≠ [] := by
    have some := length_pos_of_ne_nil manifest.entries_ne_nil
    apply ne_nil_of_length_pos
    rw [importItems, length_zip, length_zip]
    omega
  have first (item : (ExpectedEntry × ManifestEntry) × Nat)
      (member : item ∈ expected.importItems manifest rights) :
      ∃ log, receivedIn log = [] ∧ ∃ step,
        Reaches (importSection refuseNull expected.deadline [] item) () log (.native step) := by
    have some : item.2 ≠ 0 := fun zero => nonzero (zero ▸ (of_mem_zip member).2)
    have passed : rejectIf ((refuseNull = true ∧ item.2 = 0) ∨
        (([] : List ImportedEntry).any fun retained => retained.object = item.2) = true)
          MemoryError.wrongObject = .ok () := by
      rw [rejectIf_eq_ok]
      rintro (⟨-, zero⟩ | never)
      · exact some zero
      · cases never
    exact ⟨_, rfl, _, Reaches.after (checkDeadline_returns ())
      ((Reaches.ofRun_bind passed).mpr (native_reaches _ ()).bind)⟩
  obtain ⟨log, quiet, step, reached⟩ := foldlM_reaches items first
  exact ⟨⟨.expired expected.deadline, false⟩ :: log, quiet, step,
    checkImport_reaches count reached.bind⟩

end

end Reaching

namespace ReceiverTransaction

variable {tx : ReceiverTransaction} {expected : ExpectedMixedDirectionBatch} {bytes : Bytes}

theorem matchOffer_apply
    (agreed : tx.Agreed bytes) (decoded : decode bytes = some (frame, manifest))
    (matching : receivedMixedManifestMatches backend tx.borrowed.dispatcher.parameters
      tx.transactionId expected manifest = true) :
    matchOffer backend expected bytes tx = .ret (.ok (frame, manifest), tx) := by
  have same : frame.bytes = bytes := by
    obtain ⟨rfl, rfl⟩ := decode_eq_some_iff.mp decoded
    rfl
  have unkept : ¬ (tx.preflightFrame.any fun preflight => preflight.bytes ≠ frame.bytes) = true := by
    rw [same]
    cases kept : tx.preflightFrame with
    | none => simp
    | some preflight => simp [agreed preflight kept]
  rw [matchOffer, Op.get_bind_apply]
  simp only [decoded]
  rw [if_neg unkept, if_pos matching]
  rfl

/-- The objects a peer may send along: one for each entry, distinct and nonzero. -/
def someRights (count : Nat) : List Nat := List.range' 1 count

theorem importWith_reaches {x : MemoryEffect Unit ImportedMixedDirectionBatch} {c : Call}
    (reaches : Reaches x () log c) : Reaches (importWith x) tx log c := by
  have entered : Reaches (inner (memory x)) { tx with expected := none } log c :=
    Reaches.zoom (memory_reaches reaches)
  exact (Reaches.bind_of_apply rfl).mpr entered

theorem length_someRights (count : Nat) : (someRights count).length = count :=
  length_range'

theorem zero_notMem_someRights (count : Nat) : 0 ∉ someRights count := by
  simp [someRights]

theorem inner_transport_returns (tx : ReceiverTransaction) {a : α}
    (returned : Returns x tx.borrowed.dispatcher log (.ok a) tx.borrowed.dispatcher) :
    Returns (inner (transport x)) tx log (.ok a) tx :=
  Returns.zoom (orPoison_returns returned)

/-- The Windows transport hands on the objects of a record that names the frame. -/
theorem windowsReceiveCapabilityRecord_returns {d : Dispatcher} (deadline : Deadline)
    (running : d.transport.reaped = false) (unpoisoned : d.transport.poisoned = false)
    (positive : frame.capabilityCount ≠ 0) (few : frame.capabilityCount ≤ maxCapabilityCount) :
    Returns (windowsReceiveCapabilityRecord frame deadline) d
      [⟨.receiveCapabilities frame.capabilityCount deadline,
        .ok ⟨frame.bytes, someRights frame.capabilityCount⟩⟩]
      (.ok (someRights frame.capabilityCount)) d := by
  have received := receiveCandidate_returns .windows deadline frame.bytes
    (length_someRights frame.capabilityCount) running unpoisoned positive few
  refine Returns.bind received (f := fun message => if message.bytes = frame.bytes ∧
    0 ∉ message.rights ∧ message.rights.Nodup then pure message.rights
    else settle .windows (.error ⟨.malformedRecord, true⟩)) ?_
  rw [if_pos ⟨rfl, zero_notMem_someRights _, nodup_range'⟩]
  exact Returns.pure _ d

/-- Nothing on macOS or Windows keeps a guard without a frame from importing any manifest that
    matches. -/
theorem prepare_reaches (other : backend ≠ .linux) (fresh : tx.Fresh expected)
    (running : tx.borrowed.dispatcher.transport.reaped = false)
    (unpoisoned : tx.borrowed.dispatcher.transport.poisoned = false) (agreed : tx.Agreed bytes)
    (matching : tx.Matching backend expected bytes) :
    ∃ log, offeredBytes log = some bytes ∧ ∃ step,
      Reaches (prepare t backend) tx log (.native step) := by
  obtain ⟨frame, manifest, decoded, matched⟩ := matching
  have native : backend.matchesManifest expected manifest = true :=
    (Bool.and_eq_true_iff.mp matched).2
  have kept : tx.called.expected = some expected := fresh.expected
  have lengths : manifest.entries.length = expected.entries.length := by
    apply length_of_matches
    cases backend with
    | linux => exact native
    | macos => exact (Bool.and_eq_true_iff.mp native).2
    | windows => exact (Bool.and_eq_true_iff.mp native).2
  have positive : expected.entries.length ≠ 0 := by
    have some := length_pos_of_ne_nil manifest.entries_ne_nil
    omega
  have few : expected.entries.length ≤ maxCapabilityCount := by
    have bound := manifest.length_le
    unfold maxTransferEntries at bound
    unfold maxCapabilityCount
    omega
  have taken : matchOffer backend expected bytes tx.called = .ret (.ok (frame, manifest), tx.called) :=
    matchOffer_apply agreed decoded matched
  cases backend with
  | linux => exact absurd rfl other
  | macos =>
    obtain ⟨importing, -, step, reached⟩ := import_reaches (t := t)
      (length_someRights expected.entries.length) (zero_notMem_someRights _) true lengths
      native
    have received := inner_transport_returns tx.called
      (receiveCandidate_returns .macos tx.deadline bytes
        (length_someRights expected.entries.length) running unpoisoned positive few)
    refine ⟨⟨.receiveCapabilities expected.entries.length tx.deadline,
      .ok ⟨bytes, someRights expected.entries.length⟩⟩ :: importing, rfl, step, Reaches.bind ?_⟩
    refine (Reaches.bind_of_apply (attempt_apply fresh.attempted)).mpr ?_
    refine (Reaches.bind_of_apply (expectation_apply kept)).mpr ?_
    refine Reaches.get_bind (Reaches.after received ?_)
    exact (Reaches.bind_of_apply taken).mpr (importWith_reaches reached).bind
  | windows =>
    have count : frame.capabilityCount = expected.entries.length := by
      obtain ⟨-, rfl⟩ := decode_eq_some_iff.mp decoded
      exact lengths
    have offered := inner_transport_returns tx.called
      (receiveRecord_returns bytes tx.deadline other running unpoisoned
        (show controlFrameLen ≠ 0 by decide))
    have handed := inner_transport_returns tx.called
      (windowsReceiveCapabilityRecord_returns tx.deadline running unpoisoned
        (by rw [count]; exact positive) (by rw [count]; exact few))
    obtain ⟨importing, -, step, reached⟩ := import_reaches (t := t)
      (by rw [length_someRights, count]) (zero_notMem_someRights frame.capabilityCount) false
      lengths native
    refine ⟨⟨.receiveRecord (min controlFrameLen maxRecordBytes) tx.deadline, .ok bytes⟩ ::
      ⟨.receiveCapabilities frame.capabilityCount tx.deadline,
        .ok ⟨frame.bytes, someRights frame.capabilityCount⟩⟩ :: importing, rfl, step, ?_⟩
    refine (Reaches.bind_of_apply (attempt_apply fresh.attempted)).mpr ?_
    refine Reaches.get_bind (Reaches.after offered ?_)
    refine (Reaches.bind_of_apply (expectation_apply kept)).mpr ?_
    refine (Reaches.bind_of_apply taken).mpr (Reaches.after handed ?_)
    exact (importWith_reaches reached).bind

/-! ### The capability phase and the preflight -/

/-- A run of `prepare` touches a native object only if the frame it is offered is the agreed one,
    and any other frame poisons the session. -/
structure Pinned (preflight : Bytes) (log : Log Call Reply) (tx : ReceiverTransaction) : Prop where
  agreed : ¬ Untouched log → offeredBytes log = some preflight
  refused : offeredBytes log ≠ some preflight → Refused log tx

/-- Every run of `prepare` to which this frame is offered is pinned. -/
def PinnedFor (t : Target) (backend : Backend) (tx : ReceiverTransaction) (preflight bytes : Bytes) :
    Prop :=
  ∀ log result tx', Op.Returns (prepare t backend) tx log result tx' →
    offeredBytes log = some bytes → Pinned preflight log tx'

theorem fresh_start (d : Dispatcher) (expected : ExpectedMixedDirectionBatch)
    (preflightFrame : Option CapabilityFrame) (leases : List LeaseReservation)
    (deadline : Deadline) (transactionId : UInt64) :
    (start d expected preflightFrame leases deadline transactionId).Fresh expected :=
  ⟨rfl, rfl, rfl⟩

theorem Pinned.of_refused {preflight : Bytes} (refused : Refused log tx) : Pinned preflight log tx :=
  ⟨fun touched => absurd refused.untouched touched, fun _ => refused⟩

theorem Pinned.of_agreed (offered : offeredBytes log = some bytes) : Pinned bytes log tx :=
  ⟨fun _ => offered, fun other => absurd offered other⟩

end ReceiverTransaction

open ReceiverTransaction

namespace Sample

/-- The region of the sample batch, minted anew. -/
def otherRegion : PreparedRegion :=
  { region with
    incarnation := Pair.second.incarnation
    incarnation_ne_zero := Pair.second.incarnation_ne_zero }

def expectation : ExpectedBatch where
  regions := [region.named]
  totalLogical := 1
  regions_ne_nil := by decide
  length_le := by decide
  increasing := by decide
  nonzero := by decide
  totalLogical_eq := by decide

def manifestOf (region : PreparedRegion) : Option TransferManifest :=
  TransferManifest.newWithAuthority nonce 1 2 1 .macMachV1 [region.entry]

theorem manifestOf_region : (manifestOf region).isSome := by decide +kernel

theorem manifestOf_otherRegion : (manifestOf otherRegion).isSome := by decide +kernel

/-- The manifest of the preflight. -/
def agreed : TransferManifest := (manifestOf region).get manifestOf_region

/-- The manifest of the capability record. -/
def second : TransferManifest := (manifestOf otherRegion).get manifestOf_otherRegion

/-- A coordinator that offers the first manifest. -/
def offering : (c : Call) → Reply c
  | .receiveRecord _ _ => .ok (agreed.encode CoordinatorCapacityStatus.ready.magic)
  | .native .pageSize => .ok 4096
  | c => calm c

/-- A coordinator that goes on with the second manifest. -/
def switching : (c : Call) → Reply c
  | .receiveCapabilities _ _ => .ok ⟨(fromManifest second).bytes, [1]⟩
  | .receiveRecord _ _ => .ok ((fromManifest second).preparationFrame .sealed)
  | c => calm c

/-- The preflight of a macOS receiver. -/
def preflight : Proc Call Reply (Run BatchBeginError ReceiverTransaction × Dispatcher) :=
  beginPublicExpectedMixedDirectionBatch .w64 .macos expectation Sample.deadline
    (dispatcher .macos)

theorem preflight_isSome : (preflight.answeredBy offering).1.toOption.isSome := by decide +kernel

def begun : ReceiverTransaction := (preflight.answeredBy offering).1.toOption.get preflight_isSome

theorem preflight_returns :
    preflight.Runs (preflight.logBy offering)
      (.ret (.ok begun, (preflight.answeredBy offering).2)) :=
  Proc.runs_logBy_of_fst offering (eq_ok_get preflight_isSome)

/-- The capability phase of that receiver. -/
def capabilityPhase : Proc Call Reply (Run CapabilityBatchError Unit × ReceiverTransaction) :=
  ReceiverTransaction.prepare .w64 .macos begun

end Sample

/-- After a successful begin with the manifest that the coordinator offered, a frame of the
    capability phase is pinned to that manifest on Linux. On the other backends it is exactly if the
    frame is the manifest's own or does not match the expected batch. -/
theorem capability_phase_pinned_iff {d d' : Dispatcher} {expected : ExpectedBatch}
    {tx : ReceiverTransaction}
    (begun : Op.Returns (beginPublicExpectedMixedDirectionBatch t backend expected deadline) d log
      (.ok tx) d') :
    ∃ manifest, ∃ status : CoordinatorCapacityStatus, ∃ prepared,
      receivedIn log = [⟨manifest.encode status.magic, []⟩] ∧ tx.expected = some prepared ∧
      ∀ bytes, PinnedFor t backend tx (fromManifest manifest).bytes bytes ↔
        backend = .linux ∨ bytes = (fromManifest manifest).bytes ∨
          ¬ tx.Matching backend prepared bytes := by
  obtain ⟨prepared, leases, transactionId, manifest, status, received, rfl, running, unpoisoned⟩ :=
    beginPublicExpected_ok begun
  have fresh := fresh_start d' prepared
    (if backend = .linux then some (fromManifest manifest) else none) leases deadline transactionId
  refine ⟨manifest, status, prepared, received, rfl, fun bytes => ⟨fun pinned => ?_, ?_⟩⟩
  · -- on the other backends a matching frame that is not the agreed one is imported
    by_contra fails
    simp only [not_or, not_not] at fails
    obtain ⟨other, different, matching⟩ := fails
    obtain ⟨before, offered, step, reached⟩ := prepare_reaches (t := t) other fresh running
      unpoisoned (by rw [start, if_neg other]; exact nofun) matching
    obtain ⟨rest, result, tx', returned⟩ := reached.returns Sample.calm
    have touched : ¬ Untouched (before ++ ⟨.native step, Sample.calm (.native step)⟩ :: rest) :=
      fun untouched => untouched _ (List.mem_append_right _ List.mem_cons_self) trivial
    have all := offeredBytes_append offered (⟨.native step, Sample.calm (.native step)⟩ :: rest)
    have same := (pinned _ result tx' returned all).agreed touched
    rw [all] at same
    exact different (Option.some.inj same)
  · intro condition log result tx' returned offered
    rcases prepare_cases fresh returned with ⟨taken, admitted, agreed, matching⟩ | refused
    · rw [offered] at admitted
      cases admitted
      rcases condition with rfl | rfl | unmatched
      · have same : (fromManifest manifest).bytes = bytes := agreed _ rfl
        exact same ▸ Pinned.of_agreed offered
      · exact Pinned.of_agreed offered
      · exact absurd matching unmatched
    · exact Pinned.of_refused refused

theorem capability_phase_pinned_macos :
    ∃ manifest, ReceiverTransaction.PinnedFor .w64 .macos Sample.begun
      (fromManifest manifest).bytes (fromManifest manifest).bytes := by
  have begun : Returns (beginPublicExpectedMixedDirectionBatch .w64 .macos Sample.expectation
      Sample.deadline) (Sample.dispatcher .macos) _ (.ok Sample.begun) _ := Sample.preflight_returns
  obtain ⟨manifest, _, _, -, -, condition⟩ := capability_phase_pinned_iff begun
  exact ⟨manifest, (condition _).mpr (.inr (.inl rfl))⟩

theorem second_manifest_imported :
    ∃ log tx d' log' tx',
      Op.Returns (beginPublicExpectedMixedDirectionBatch .w64 .macos Sample.expectation
        Sample.deadline) (Sample.dispatcher .macos) log (.ok tx) d' ∧
      receivedIn log = [⟨Sample.agreed.encode CoordinatorCapacityStatus.ready.magic, []⟩] ∧
      Op.Returns (ReceiverTransaction.prepare .w64 .macos) tx log' (.ok ()) tx' ∧
      offeredBytes log' = some (fromManifest Sample.second).bytes ∧
      (fromManifest Sample.second).bytes ≠ (fromManifest Sample.agreed).bytes ∧
      ¬ Untouched log' ∧ tx'.borrowed.dispatcher.state.poisoned = false := by
  have ran : (Sample.capabilityPhase.answeredBy Sample.switching).1 = .ok () ∧
      offeredBytes (Sample.capabilityPhase.logBy Sample.switching) =
        some (fromManifest Sample.second).bytes ∧
      ¬ Untouched (Sample.capabilityPhase.logBy Sample.switching) ∧
      (Sample.capabilityPhase.answeredBy Sample.switching).2.borrowed.dispatcher.state.poisoned =
        false := by decide +kernel
  obtain ⟨ok, offered, touched, unpoisoned⟩ := ran
  have runs := Proc.runs_logBy_of_fst Sample.switching ok
  exact ⟨_, _, _, _, _, Sample.preflight_returns, by decide +kernel, runs, offered,
    by decide +kernel, touched, unpoisoned⟩

end NativeIpc.Session
