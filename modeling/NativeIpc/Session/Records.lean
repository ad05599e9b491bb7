import NativeIpc.Session.PublicBatch
import NativeIpc.Session.ManifestCodec

/-!
# The records of a run

What a session program sends and receives, read off the answers to its calls.
The memory modules talk to nobody, and an operation of the transport that
succeeds has made exactly one call.
-/

namespace NativeIpc.Session

open NativeIpc.Lib Bytes Run Op.Returns
open Op (CallsOnly Returns)
open Dispatcher

variable {σ ε ε' α β : Type}

/-! ### Records in a log -/

/-- The record that an answer delivers. -/
def received : Answer Call Reply → Option Message
  | ⟨.receiveRecord _ _, .ok bytes⟩ => some ⟨bytes, []⟩
  | ⟨.receiveCapabilities _ _, .ok message⟩ => some message
  | _ => none

/-- The records delivered in a log, oldest first. -/
def receivedIn (log : Log Call Reply) : List Message := log.filterMap received

@[simp] theorem receivedIn_append (before after : Log Call Reply) :
    receivedIn (before ++ after) = receivedIn before ++ receivedIn after :=
  List.filterMap_append

/-! ### Calls that concern nobody else -/

/-- The call is answered by the own machine. -/
def Call.Internal : Call → Prop
  | .sendRecord _ _ | .receiveRecord _ _ | .sendCapabilities _ _ | .receiveCapabilities _ _ => False
  | _ => True

theorem received_of_internal {answer : Answer Call Reply} (own : answer.1.Internal) :
    received answer = none := by
  obtain ⟨call, reply⟩ := answer
  cases call <;> first | exact own.elim | rfl

theorem receivedIn_of_internal {log : Log Call Reply}
    (own : ∀ answer ∈ log, answer.1.Internal) : receivedIn log = [] :=
  List.filterMap_eq_nil_iff.mpr fun answer member => received_of_internal (own answer member)

theorem internal_isExpired (deadline : Deadline) :
    CallsOnly Call.Internal (isExpired deadline : Effect σ ε Bool) :=
  .perform trivial

theorem internal_checkDeadline (deadline : Deadline) :
    CallsOnly Call.Internal (checkDeadline deadline : MemoryEffect σ Unit) := by
  apply (internal_isExpired deadline).bind
  intro expired
  split
  · exact .fail _
  · exact .pure ()

theorem internal_native (step : NativeStep) :
    CallsOnly Call.Internal (native step : MemoryEffect σ Nat) := by
  apply (CallsOnly.perform trivial).bind
  intro reply
  split
  · exact .pure _
  · exact .fail _

theorem internal_nativePageSize (backend : Backend) :
    CallsOnly Call.Internal (nativePageSize backend : MemoryEffect σ Nat) := by
  apply (internal_native _).bind
  intro page
  split
  · exact .pure page
  · exact .fail _

namespace LinuxExpectedMixedDirectionBatch

theorem internal_prepare (t : Target) (expected : ExpectedBatch) (limits : SessionLimits)
    (deadline : Deadline) :
    CallsOnly Call.Internal
      (prepare t expected limits deadline : MemoryEffect σ ExpectedMixedDirectionBatch) := by
  have turn (sofar : List ExpectedEntry × UInt64) (region : ExpectedRegion) :
      CallsOnly Call.Internal (prepareEntry t limits deadline sofar region :
        MemoryEffect σ (List ExpectedEntry × UInt64)) :=
    (internal_checkDeadline deadline).bind fun _ => (CallsOnly.ofRun _).bind fun _ =>
      (CallsOnly.ofRun _).bind fun _ => (internal_nativePageSize _).bind fun _ =>
        (CallsOnly.ofRun _).bind fun _ => (CallsOnly.ofRun _).bind fun _ =>
          (CallsOnly.ofRun _).bind fun _ => .pure _
  apply (internal_checkDeadline deadline).bind
  intro _
  apply (CallsOnly.ofRun _).bind
  intro _
  exact (CallsOnly.foldlM turn _).bind fun _ => .pure _

end LinuxExpectedMixedDirectionBatch

/-! ### Operations that succeed -/

variable {a : α} {convert : ε → ε'} {x : Effect Dispatcher ε α}

section Succeeding

variable {d d' : Dispatcher} {b b' : Borrowed} {log : Log Call Reply}
  {backend : Backend} {deadline : Deadline}

theorem ensureLive_ok (returned : Returns ensureLive d log (.ok ()) d') :
    log = [] ∧ d' = d ∧ d.transport.poisoned = false := by
  have checked := of_get_bind returned
  split at checked
  · obtain ⟨-, failed, -⟩ := of_ofRun checked
    cases failed
  · split at checked
    · obtain ⟨-, failed, -⟩ := of_ofRun checked
      cases failed
    · rename_i live
      obtain ⟨rfl, -, rfl⟩ := of_pure checked
      exact ⟨rfl, rfl, by simpa using live⟩

theorem settle_ok {reply : Except IoFailure α}
    (returned : Returns (settle backend reply) d log (.ok a) d') :
    log = [] ∧ d' = d ∧ reply = .ok a := by
  cases reply with
  | ok value =>
    obtain ⟨rfl, same, rfl⟩ := of_pure returned
    cases same
    exact ⟨rfl, rfl, rfl⟩
  | error failure =>
    obtain ⟨_, _, _, _, -, -, failed⟩ := bind_ok returned
    obtain ⟨-, failed, -⟩ := of_ofRun failed
    cases failed

theorem refuseEarly_ne_ok {error : SessionTransportError}
    (returned : Returns (refuseEarly backend error) d log (.ok a) d') : False := by
  obtain ⟨_, _, _, _, -, -, failed⟩ := bind_ok returned
  obtain ⟨-, failed, -⟩ := of_ofRun failed
  cases failed

variable {bytes : Bytes}

theorem sendRecord_ok (returned : Returns (sendRecord backend bytes deadline) d log (.ok ()) d') :
    log = [⟨.sendRecord bytes deadline, .ok ()⟩] ∧ d' = d ∧ d.transport.poisoned = false := by
  obtain ⟨_, d₁, _, after, rfl, live, rest⟩ := bind_ok returned
  obtain ⟨rfl, rfl, unpoisoned⟩ := ensureLive_ok live
  split at rest
  · exact (refuseEarly_ne_ok rest).elim
  · obtain ⟨reply, rest', rfl, settled⟩ := of_perform_bind rest
    obtain ⟨rfl, rfl, rfl⟩ := settle_ok settled
    exact ⟨rfl, rfl, unpoisoned⟩

theorem receiveRecord_ok {maximum : Nat}
    (returned : Returns (receiveRecord backend maximum deadline) d log (.ok bytes) d') :
    ∃ bound, log = [⟨.receiveRecord bound deadline, .ok bytes⟩] ∧ d' = d ∧
      d.transport.poisoned = false := by
  obtain ⟨_, d₁, _, after, rfl, live, rest⟩ := bind_ok returned
  obtain ⟨rfl, rfl, unpoisoned⟩ := ensureLive_ok live
  split at rest
  · exact (refuseEarly_ne_ok rest).elim
  · rename_i bound _
    obtain ⟨reply, rest', rfl, settled⟩ := of_perform_bind rest
    obtain ⟨rfl, rfl, rfl⟩ := settle_ok settled
    exact ⟨bound, rfl, rfl, unpoisoned⟩

theorem receiveCandidate_ok {count : Nat} {message : Message}
    (returned : Returns (receiveCandidate backend count deadline) d log (.ok message) d') :
    log = [⟨.receiveCapabilities count deadline, .ok message⟩] ∧ d' = d ∧
      message.rights.length = count := by
  obtain ⟨_, d₁, _, _, rfl, live, checking⟩ := bind_ok returned
  obtain ⟨rfl, rfl, -⟩ := ensureLive_ok live
  obtain ⟨_, -, performing⟩ := ofRun_bind_ok checking
  obtain ⟨reply, _, rfl, settling⟩ := of_perform_bind performing
  obtain ⟨received, d₃, _, _, rfl, settled, compared⟩ := bind_ok settling
  obtain ⟨rfl, rfl, rfl⟩ := settle_ok settled
  split at compared
  · rename_i same
    obtain ⟨rfl, equal, rfl⟩ := of_pure compared
    cases equal
    exact ⟨rfl, rfl, same⟩
  · obtain ⟨-, -, refused⟩ := settle_ok compared
    cases refused

theorem orPoison_ok
    (returned : Returns (orPoison convert x) d log (.ok a) d') : Returns x d log (.ok a) d' := by
  obtain ⟨result, d₁, before, after, rfl, attempted, rest⟩ := bind_ok returned
  obtain ⟨original, same, runs⟩ := of_attempt attempted
  cases same
  rcases result with (error | _) | value
  · obtain ⟨_, _, _, _, -, -, failed⟩ := bind_ok rest
    obtain ⟨-, failed, -⟩ := of_ofRun failed
    cases failed
  · obtain ⟨-, failed, -⟩ := of_ofRun rest
    cases failed
  · obtain ⟨rfl, same, rfl⟩ := of_pure rest
    cases same
    rwa [List.append_nil]

theorem orDrop_ok {leases : List LeaseReservation}
    (returned : Returns (orDrop leases x) d log (.ok a) d') : Returns x d log (.ok a) d' := by
  obtain ⟨result, d₁, before, after, rfl, attempted, rest⟩ := bind_ok returned
  obtain ⟨original, same, runs⟩ := of_attempt attempted
  cases same
  cases result with
  | error stop =>
    obtain ⟨_, _, _, _, -, -, failed⟩ := bind_ok rest
    obtain ⟨-, failed, -⟩ := of_ofRun failed
    cases failed
  | ok value =>
    obtain ⟨rfl, same, rfl⟩ := of_pure rest
    cases same
    rwa [List.append_nil]

theorem mapError_ok {σ : Type} {s s' : σ} {x : Effect σ ε α}
    (returned : Returns (Op.mapError convert x) s log (.ok a) s') : Returns x s log (.ok a) s' := by
  obtain ⟨original, runs, same⟩ := of_mapError returned
  rw [mapError_eq_ok.mp same.symm] at runs
  exact runs

theorem detached_ok {x : Effect Unit ε α} {result : Run ε α}
    (returned : Returns (Op.detached x : Effect Dispatcher ε α) d log result d') :
    Returns x () log result () ∧ d' = d := by
  obtain ⟨inner, runs, rfl⟩ := of_zoom returned
  exact ⟨runs, rfl⟩

namespace Borrowed

theorem poisonFail_ne_ok {error : ε}
    (returned : Returns (Borrowed.poisonFail error) b log (.ok a) b') : False := by
  obtain ⟨_, _, _, _, -, -, failed⟩ := bind_ok returned
  obtain ⟨-, failed, -⟩ := of_ofRun failed
  cases failed

theorem orPoison_ok (returned : Returns (Borrowed.orPoison convert x) b log (.ok a) b') :
    ∃ d', Returns x b.dispatcher log (.ok a) d' ∧ b' = { b with dispatcher := d' } := by
  obtain ⟨result, b₁, before, after, rfl, attempted, rest⟩ := bind_ok returned
  obtain ⟨original, same, lifted⟩ := of_attempt attempted
  cases same
  obtain ⟨d₁, runs, rfl⟩ := of_zoom lifted
  rcases result with (error | _) | value
  · exact (poisonFail_ne_ok rest).elim
  · obtain ⟨-, failed, -⟩ := of_ofRun rest
    cases failed
  · obtain ⟨rfl, same, rfl⟩ := of_pure rest
    cases same
    rw [List.append_nil]
    exact ⟨d₁, runs, rfl⟩

end Borrowed

end Succeeding

end NativeIpc.Session
