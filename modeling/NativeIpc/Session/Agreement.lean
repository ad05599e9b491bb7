import NativeIpc.Lib.Duplex
import NativeIpc.Session.Bootstrap

/-!
# Agreement of the two endpoints

The coordinator and the receiver of a spawned Linux session, from the local
offers to the accepted facts (`crates/native-ipc/src/backend/linux_vnext/spawn.rs`).
Each endpoint is a party that sends and receives packets; the two run over a
reliable channel, and either may fail or stop at any point.
-/

namespace NativeIpc.Session

open NativeIpc.Lib Bytes Run List
open Duplex (lefts rights)

/-! ### Decisions -/

/-- spawn.rs:381-384. -/
inductive ApplicationDecision where
  | accept
  | reject (reason : NonZeroU32)
  deriving DecidableEq

/-- What the peer has decided. -/
inductive PeerDecision where
  | accepted (transcript : NegotiatedTranscript)
  | rejected (reason : NonZeroU32)
  deriving DecidableEq

/-- `generate_decision_challenge` on the bytes drawn, spawn.rs:2782-2788. -/
def generateDecisionChallenge (entropy : FixedBytes 16) : Run LinuxSpawnError DecisionChallenge :=
  (DecisionChallenge.decode entropy).mapError .negotiation

/-- A method of the transcript whose error ends the endpoint. -/
def orEnd {α : Type} (call : Run NegotiationWireError α × NegotiatedTranscript) :
    Run LinuxSpawnError (α × NegotiatedTranscript) := do
  let value ← call.1.mapError .negotiation
  pure (value, call.2)

/-- The coordinator's decision and its packet, spawn.rs:468-492. -/
def coordinatorDecide (t : Target) (transcript : NegotiatedTranscript) (entropy : FixedBytes 16)
    (decision : ApplicationDecision) : Run LinuxSpawnError (Bytes × NegotiatedTranscript) := do
  let challenge ← generateDecisionChallenge entropy
  match decision with
  | .reject reason =>
    let (reject, transcript) ← orEnd (transcript.coordinatorReject challenge reason)
    let encoded ← encodeNegotiationFrame t (.reject reject)
    pure (encoded, transcript)
  | .accept =>
    let accept ← (transcript.coordinatorAccept challenge).mapError .negotiation
    let (_, transcript) ← orEnd (transcript.validateAccept accept .coordinator)
    let encoded ← encodeNegotiationFrame t (.accept accept)
    pure (encoded, transcript)

/-- A decision of the peer, spawn.rs:505-532 and 577-604. -/
def receiveDecision (t : Target) (sender : SenderRole) (transcript : NegotiatedTranscript)
    (nonce : FixedBytes 32) (packet : Bytes) : Run LinuxSpawnError PeerDecision := do
  match ← decodePacket t packet sender nonce with
  | .accept accept =>
    let (_, transcript) ← orEnd (transcript.validateAccept accept sender)
    pure (.accepted transcript)
  | .reject reject =>
    let (reason, _) ← orEnd (transcript.validateReject reject sender)
    pure (.rejected reason)
  | .hello _ => fail (.negotiation .badKind)

/-- The receiver's decision and its packet, `ReceiverDecisionPending::decide`, spawn.rs:621-665. -/
def receiverDecide (t : Target) (transcript : NegotiatedTranscript)
    (decision : ApplicationDecision) : Run LinuxSpawnError (Bytes × NegotiatedTranscript) := do
  match decision with
  | .reject reason =>
    let (reject, transcript) ← orEnd (transcript.receiverReject reason)
    let encoded ← encodeNegotiationFrame t (.reject reject)
    pure (encoded, transcript)
  | .accept =>
    let accept ← transcript.receiverAccept.mapError .negotiation
    let (_, transcript) ← orEnd (transcript.validateAccept accept .receiver)
    let encoded ← encodeNegotiationFrame t (.accept accept)
    pure (encoded, transcript)

/-! ### The coordinator -/

/-- The coordinator's HELLO, spawn.rs:2096-2100 and 2232-2233. -/
def coordinatorGreeting (host : Host) (offer : LinuxHelloOffer) (atomics : AtomicCapabilities)
    (nonce : FixedBytes 32) : Run LinuxSpawnError (HelloFrame × Bytes) := do
  let offer ← validateLinuxOffer host.usize offer
  prepareHello host .coordinator nonce offer atomics

/-- Where the coordinator stands. -/
inductive Coordinator where
  | start (offer : LinuxHelloOffer) (atomics : AtomicCapabilities) (nonce : FixedBytes 32)
  /-- The HELLO is sent. -/
  | greeted (hello : HelloFrame) (atomics : AtomicCapabilities) (nonce : FixedBytes 32)
  /-- `NegotiatingLinuxSpawn`. -/
  | negotiating (transcript : NegotiatedTranscript) (nonce : FixedBytes 32)
  /-- The ACCEPT is sent. -/
  | awaiting (transcript : NegotiatedTranscript) (nonce : FixedBytes 32)
  /-- `AcceptedLinuxSpawn`. -/
  | accepted (transcript : NegotiatedTranscript)
  /-- `CoordinatorAcceptedEvidenceOwner`. -/
  | session (facts : AcceptedTranscriptFacts)
  /-- `DecisionOutcome::Rejected`. -/
  | rejected (role : SenderRole) (reason : NonZeroU32)
  | failed

namespace Coordinator

/-- What the coordinator does when nothing fails: `exchange_coordinator_hello`,
    `decide_with_entropy_fault` and `into_evidence`. -/
inductive Moves (host : Host) (sha256 : Bytes → FixedBytes 32) :
    Coordinator → Comm Bytes → Coordinator → Prop
  | greet {offer atomics nonce hello encoded}
      (made : coordinatorGreeting host offer atomics nonce = .ok (hello, encoded)) :
      Moves host sha256 (start offer atomics nonce) (.sends encoded) (greeted hello atomics nonce)
  | negotiate {hello atomics nonce packet transcript payload}
      (made : coordinatorTranscript host sha256 hello atomics nonce packet =
        .ok (transcript, payload)) :
      Moves host sha256 (greeted hello atomics nonce) (.receives packet)
        (negotiating transcript nonce)
  | accept {transcript nonce entropy encoded next}
      (decided : coordinatorDecide host.usize transcript entropy .accept = .ok (encoded, next)) :
      Moves host sha256 (negotiating transcript nonce) (.sends encoded) (awaiting next nonce)
  | reject {transcript nonce entropy reason encoded next}
      (decided : coordinatorDecide host.usize transcript entropy (.reject reason) =
        .ok (encoded, next)) :
      Moves host sha256 (negotiating transcript nonce) (.sends encoded)
        (rejected .coordinator reason)
  | peerAccepted {transcript nonce packet next}
      (received : receiveDecision host.usize .receiver transcript nonce packet =
        .ok (.accepted next)) :
      Moves host sha256 (awaiting transcript nonce) (.receives packet) (accepted next)
  | peerRejected {transcript nonce packet reason}
      (received : receiveDecision host.usize .receiver transcript nonce packet =
        .ok (.rejected reason)) :
      Moves host sha256 (awaiting transcript nonce) (.receives packet) (rejected .receiver reason)
  | take {transcript facts next} (taken : transcript.takeAcceptedFacts = (.ok facts, next)) :
      Moves host sha256 (accepted transcript) .silent (session facts)

/-- No outcome has been reported yet. -/
def Running : Coordinator → Prop
  | session _ | rejected _ _ | failed => False
  | _ => True

/-- The steps of the coordinator, failures included. -/
def Step (host : Host) (sha256 : Bytes → FixedBytes 32) :
    Coordinator → Comm Bytes → Coordinator → Prop :=
  Fallible (Moves host sha256) Running failed

/-- The coordinator has produced an accepted session. -/
def HoldsSession : Coordinator → Prop
  | accepted _ | session _ => True
  | _ => False

/-- The facts of an accepted session. -/
def acceptedFacts : Coordinator → Option AcceptedTranscriptFacts
  | accepted transcript => transcript.takeAcceptedFacts.1.toOption
  | session facts => some facts
  | _ => none

/-- A clean rejection, by either endpoint, has been reported. -/
def Rejected : Coordinator → Prop
  | rejected _ _ => True
  | _ => False

end Coordinator

/-! ### The receiver -/

/-- The receiver's answer to a packet, spawn.rs:2302-2341. -/
def receiverAnswer (host : Host) (offer : LinuxHelloOffer) (atomics : AtomicCapabilities)
    (packet : Bytes) : Run LinuxSpawnError (HelloPair × Bytes) := do
  let offer ← validateLinuxOffer host.usize offer
  answerHello host offer atomics packet

/-- Where the receiver stands. -/
inductive Receiver where
  | start (offer : LinuxHelloOffer) (atomics : AtomicCapabilities)
  /-- The answer to the coordinator's HELLO is ready. -/
  | answering (hellos : HelloPair) (encoded : Bytes) (atomics : AtomicCapabilities)
  /-- The HELLO is sent. -/
  | answered (hellos : HelloPair) (atomics : AtomicCapabilities)
  /-- `ReceiverNegotiatingState`. -/
  | negotiating (transcript : NegotiatedTranscript) (nonce : FixedBytes 32)
  /-- `ReceiverDecisionPending`. -/
  | pending (transcript : NegotiatedTranscript)
  /-- `AcceptedLinuxReceiver`. -/
  | accepted (transcript : NegotiatedTranscript)
  /-- `ReceiverAcceptedEvidenceOwner`. -/
  | session (facts : AcceptedTranscriptFacts)
  /-- `CoordinatorDecisionOutcome::Rejected` and `DecisionOutcome::Rejected`. -/
  | rejected (role : SenderRole) (reason : NonZeroU32)
  | failed

namespace Receiver

/-- What the receiver does when nothing fails: `receive_inherited_hello_owned`,
    `await_coordinator_decision`, `decide` and `into_evidence`. -/
inductive Moves (host : Host) (sha256 : Bytes → FixedBytes 32) :
    Receiver → Comm Bytes → Receiver → Prop
  | answer {offer atomics packet hellos encoded}
      (made : receiverAnswer host offer atomics packet = .ok (hellos, encoded)) :
      Moves host sha256 (start offer atomics) (.receives packet) (answering hellos encoded atomics)
  | reply {hellos encoded atomics} :
      Moves host sha256 (answering hellos encoded atomics) (.sends encoded)
        (answered hellos atomics)
  | negotiate {hellos atomics transcript payload}
      (made : receiverTranscript host sha256 hellos atomics = .ok (transcript, payload)) :
      Moves host sha256 (answered hellos atomics) .silent
        (negotiating transcript hellos.receiver.nonce)
  | peerAccepted {transcript nonce packet next}
      (received : receiveDecision host.usize .coordinator transcript nonce packet =
        .ok (.accepted next)) :
      Moves host sha256 (negotiating transcript nonce) (.receives packet) (pending next)
  | peerRejected {transcript nonce packet reason}
      (received : receiveDecision host.usize .coordinator transcript nonce packet =
        .ok (.rejected reason)) :
      Moves host sha256 (negotiating transcript nonce) (.receives packet)
        (rejected .coordinator reason)
  | accept {transcript encoded next}
      (decided : receiverDecide host.usize transcript .accept = .ok (encoded, next)) :
      Moves host sha256 (pending transcript) (.sends encoded) (accepted next)
  | reject {transcript reason encoded next}
      (decided : receiverDecide host.usize transcript (.reject reason) = .ok (encoded, next)) :
      Moves host sha256 (pending transcript) (.sends encoded) (rejected .receiver reason)
  | take {transcript facts next} (taken : transcript.takeAcceptedFacts = (.ok facts, next)) :
      Moves host sha256 (accepted transcript) .silent (session facts)

/-- No outcome has been reported yet. -/
def Running : Receiver → Prop
  | session _ | rejected _ _ | failed => False
  | _ => True

/-- The steps of the receiver, failures included. -/
def Step (host : Host) (sha256 : Bytes → FixedBytes 32) : Receiver → Comm Bytes → Receiver → Prop :=
  Fallible (Moves host sha256) Running failed

/-- The receiver has produced an accepted session. -/
def HoldsSession : Receiver → Prop
  | accepted _ | session _ => True
  | _ => False

/-- The facts of an accepted session. -/
def acceptedFacts : Receiver → Option AcceptedTranscriptFacts
  | accepted transcript => transcript.takeAcceptedFacts.1.toOption
  | session facts => some facts
  | _ => none

/-- A clean rejection, by either endpoint, has been reported. -/
def Rejected : Receiver → Prop
  | rejected _ _ => True
  | _ => False

end Receiver

/-! ### What the decisions accept -/

theorem orEnd_eq_ok {α : Type} {call : Run NegotiationWireError α × NegotiatedTranscript}
    {value : α} {next : NegotiatedTranscript} :
    orEnd call = .ok (value, next) ↔ call = (.ok value, next) := by
  obtain ⟨result, state⟩ := call
  simp only [orEnd, bind_eq_ok, mapError_eq_ok, pure_eq_ok, Prod.mk.injEq]
  constructor
  · rintro ⟨_, rfl, rfl, rfl⟩
    exact ⟨rfl, rfl⟩
  · rintro ⟨rfl, rfl⟩
    exact ⟨_, rfl, rfl, rfl⟩

/-- The second packet of an endpoint: after its HELLO, its decision. -/
def Announces (t : Target) (packets : List Bytes) (frame : NegotiationFrame) : Prop :=
  frame.validate t = .ok () ∧ packets[1]? = some frame.image

variable {reason : NonZeroU32} {challenge : DecisionChallenge} {t : Target} {state : Coordinator}

section Decisions

open NegotiatedTranscript

variable {t : Target} {start self next : NegotiatedTranscript} {decision : Decision}
  {entropy : FixedBytes 16} {encoded : Bytes}

/-- A call that succeeds makes a move of the decision machine. -/
theorem move_of_call (fresh : start.Fresh) (at_decision : At start self decision)
    (call : DecisionCall) {answer : DecisionAnswer}
    (performed : self.perform call = (.ok answer, next)) :
    ∃ next', Decision.Move start decision ⟨call, .ok answer⟩ next' ∧ At start next next' := by
  obtain ⟨next', move, at_next⟩ := moves fresh at_decision call
  rw [performed] at move at_next
  exact ⟨next', move, at_next⟩

theorem perform_validateAccept {accept : AcceptFrame} {role : SenderRole}
    (checked : self.validateAccept accept role = (.ok (), next)) :
    self.perform (.validateAccept accept role) = (.ok .accepted, next) := by
  rw [perform, checked]
  rfl

theorem coordinatorDecide_accept (fresh : start.Fresh)
    (decided : coordinatorDecide t start entropy .accept = .ok (encoded, next)) :
    ∃ challenge, At start next (.coordinatorAccepted challenge) ∧
      (NegotiationFrame.accept (start.acceptFrame .coordinator challenge)).validate t = .ok () ∧
      encoded = (NegotiationFrame.accept (start.acceptFrame .coordinator challenge)).image := by
  simp only [coordinatorDecide, bind_eq_ok, mapError_eq_ok, Prod.exists, orEnd_eq_ok,
    encodeNegotiationFrame_eq_ok, pure_eq_ok, Prod.mk.injEq] at decided
  obtain ⟨challenge, -, accept, offered, _, _, checked, _, ⟨valid, -, rfl⟩, rfl, rfl⟩ := decided
  obtain ⟨_, move, at_next⟩ :=
    move_of_call fresh (at_start fresh) _ (perform_validateAccept checked)
  cases move with
  | acceptCoordinator challenge => exact ⟨challenge, at_next, valid, rfl⟩

theorem coordinatorDecide_reject
    (decided : coordinatorDecide t self entropy (.reject reason) = .ok (encoded, next)) :
    ∃ reject, (NegotiationFrame.reject reject).validate t = .ok () ∧
      encoded = (NegotiationFrame.reject reject).image := by
  simp only [coordinatorDecide, bind_eq_ok, Prod.exists, orEnd_eq_ok,
    encodeNegotiationFrame_eq_ok, pure_eq_ok, Prod.mk.injEq] at decided
  obtain ⟨_, -, reject, _, -, _, ⟨valid, -, rfl⟩, rfl, -⟩ := decided
  exact ⟨reject, valid, rfl⟩

theorem receiverDecide_accept (fresh : start.Fresh)
    (at_decision : At start self (.coordinatorAccepted challenge))
    (decided : receiverDecide t self .accept = .ok (encoded, next)) :
    At start next (.bothAccepted challenge) ∧
      (NegotiationFrame.accept (start.acceptFrame .receiver challenge)).validate t = .ok () ∧
      encoded = (NegotiationFrame.accept (start.acceptFrame .receiver challenge)).image := by
  simp only [receiverDecide, bind_eq_ok, mapError_eq_ok, Prod.exists, orEnd_eq_ok,
    encodeNegotiationFrame_eq_ok, pure_eq_ok, Prod.mk.injEq] at decided
  obtain ⟨accept, -, _, _, checked, _, ⟨valid, -, rfl⟩, rfl, rfl⟩ := decided
  obtain ⟨_, move, at_next⟩ := move_of_call fresh at_decision _ (perform_validateAccept checked)
  cases move with
  | acceptReceiver => exact ⟨at_next, valid, rfl⟩

theorem receiverDecide_reject
    (decided : receiverDecide t self (.reject reason) = .ok (encoded, next)) :
    ∃ reject, (NegotiationFrame.reject reject).validate t = .ok () ∧
      encoded = (NegotiationFrame.reject reject).image := by
  simp only [receiverDecide, bind_eq_ok, Prod.exists, orEnd_eq_ok,
    encodeNegotiationFrame_eq_ok, pure_eq_ok, Prod.mk.injEq] at decided
  obtain ⟨reject, _, -, _, ⟨valid, -, rfl⟩, rfl, -⟩ := decided
  exact ⟨reject, valid, rfl⟩

variable {sender : SenderRole} {nonce : FixedBytes 32} {packet : Bytes}

/-- The packet of a peer that accepts is an ACCEPT that `validate_accept` has passed. -/
theorem receiveDecision_accepted
    (received : receiveDecision t sender self nonce packet = .ok (.accepted next)) :
    ∃ accept, self.validateAccept accept sender = (.ok (), next) ∧
      (NegotiationFrame.accept accept).validate t = .ok () ∧
      packet = (NegotiationFrame.accept accept).image := by
  simp only [receiveDecision, bind_eq_ok, decodePacket_eq_ok] at received
  obtain ⟨frame, ⟨acceptable, rfl⟩, rest⟩ := received
  cases frame with
  | hello _ => cases rest
  | accept accept =>
    simp only [bind_eq_ok, Prod.exists, orEnd_eq_ok, pure_eq_ok,
      PeerDecision.accepted.injEq] at rest
    obtain ⟨_, _, checked, rfl⟩ := rest
    exact ⟨accept, checked, acceptable.valid, rfl⟩
  | reject _ =>
    simp only [bind_eq_ok, pure_eq_ok, reduceCtorEq, and_false, exists_false] at rest

theorem receiveDecision_rejected
    (received : receiveDecision t sender self nonce packet = .ok (.rejected reason)) :
    ∃ reject, (NegotiationFrame.reject reject).validate t = .ok () ∧
      packet = (NegotiationFrame.reject reject).image := by
  simp only [receiveDecision, bind_eq_ok, decodePacket_eq_ok] at received
  obtain ⟨frame, ⟨acceptable, rfl⟩, rest⟩ := received
  cases frame with
  | hello _ => cases rest
  | accept _ =>
    simp only [bind_eq_ok, pure_eq_ok, reduceCtorEq, and_false, exists_false] at rest
  | reject reject => exact ⟨reject, acceptable.valid, rfl⟩

theorem takeAcceptedFacts_of_bothAccepted (at_decision : At start self (.bothAccepted challenge)) :
    self.takeAcceptedFacts = (.ok (start.facts challenge), self.close) := by
  cases at_decision
  rfl

end Decisions

/-! ### What each endpoint's packets say -/

theorem Announces.concat {packets : List Bytes} {frame : NegotiationFrame}
    (one : packets.length = 1) (valid : frame.validate t = .ok ()) :
    Announces t (packets ++ [frame.image]) frame := by
  refine ⟨valid, ?_⟩
  rw [← one, getElem?_concat_length]

/-- The ACCEPT of an endpoint for accepted facts. -/
def AcceptedTranscriptFacts.acceptFrame (facts : AcceptedTranscriptFacts) (role : SenderRole) :
    AcceptFrame where
  role
  nonce := facts.nonce
  selectedFeatures := facts.selectedFeatures
  effectiveLimits := facts.effectiveLimits
  atomics := facts.effectiveAtomics
  target := facts.target
  helloDigest := facts.helloDigest
  decisionChallenge := facts.decisionChallenge

/-- Both endpoints have announced that they accept the facts. -/
structure Agreed (t : Target) (fromCoordinator fromReceiver : List Bytes)
    (facts : AcceptedTranscriptFacts) : Prop where
  version : facts.wireMajor = wireMajor ∧ facts.wireMinor = wireMinor
  coordinator : Announces t fromCoordinator (.accept (facts.acceptFrame .coordinator))
  receiver : Announces t fromReceiver (.accept (facts.acceptFrame .receiver))

/-- One endpoint has announced that it rejects. -/
def Refused (t : Target) (fromCoordinator fromReceiver : List Bytes) : Prop :=
  ∃ reject, Announces t fromCoordinator (.reject reject) ∨
    Announces t fromReceiver (.reject reject)

/-- What an endpoint with this outcome knows from the packets of both. -/
structure Informed (t : Target) (fromCoordinator fromReceiver : List Bytes)
    (holds rejected : Prop) (accepted : Option AcceptedTranscriptFacts) : Prop where
  agreed : holds → ∃ facts, accepted = some facts ∧ Agreed t fromCoordinator fromReceiver facts
  refused : rejected → Refused t fromCoordinator fromReceiver

/-- It knows the same from lists of packets that have these decisions too. -/
theorem Informed.mono {coordinator coordinator' receiver receiver' : List Bytes}
    {holds rejected : Prop} {accepted : Option AcceptedTranscriptFacts}
    (informed : Informed t coordinator receiver holds rejected accepted)
    (coordinators : ∀ {packet}, coordinator[1]? = some packet → coordinator'[1]? = some packet)
    (receivers : ∀ {packet}, receiver[1]? = some packet → receiver'[1]? = some packet) :
    Informed t coordinator' receiver' holds rejected accepted := by
  constructor
  · intro held
    obtain ⟨facts, found, agreed⟩ := informed.agreed held
    exact ⟨facts, found, agreed.version, agreed.coordinator.imp_right coordinators,
      agreed.receiver.imp_right receivers⟩
  · intro reported
    obtain ⟨reject, refused⟩ := informed.refused reported
    exact ⟨reject, refused.imp (.imp_right coordinators) (.imp_right receivers)⟩

/-- The transcript of an endpoint that waits for the receiver's decision. -/
def CoordinatorAnnounced (t : Target) (fromCoordinator : List Bytes)
    (transcript : NegotiatedTranscript) : Prop :=
  ∃ start challenge, start.Fresh ∧
    NegotiatedTranscript.At start transcript (.coordinatorAccepted challenge) ∧
    Announces t fromCoordinator (.accept (start.acceptFrame .coordinator challenge))

open NegotiatedTranscript

theorem agreed_of_bothAccepted {fromCoordinator fromReceiver : List Bytes}
    {start transcript : NegotiatedTranscript} (fresh : start.Fresh)
    (at_decision : At start transcript (.bothAccepted challenge))
    (coordinator : Announces t fromCoordinator (.accept (start.acceptFrame .coordinator challenge)))
    (receiver : Announces t fromReceiver (.accept (start.acceptFrame .receiver challenge))) :
    ∃ facts, transcript.takeAcceptedFacts = (.ok facts, transcript.close) ∧
      Agreed t fromCoordinator fromReceiver facts :=
  ⟨start.facts challenge, takeAcceptedFacts_of_bothAccepted at_decision,
    ⟨fresh.wireMajor_eq, fresh.wireMinor_eq⟩, coordinator, receiver⟩

namespace Coordinator

/-- What the packets that the coordinator has sent and received say about where it stands. -/
def Inv (t : Target) (sent received : List Bytes) : Coordinator → Prop
  | start _ _ _ => sent = [] ∧ received = []
  | greeted _ _ _ => sent.length = 1 ∧ received = []
  | negotiating transcript _ => sent.length = 1 ∧ received.length = 1 ∧ transcript.Fresh
  | awaiting transcript _ => received.length = 1 ∧ CoordinatorAnnounced t sent transcript
  | accepted transcript => ∃ facts, transcript.takeAcceptedFacts = (.ok facts, transcript.close) ∧
      Agreed t sent received facts
  | session facts => Agreed t sent received facts
  | rejected _ _ => Refused t sent received
  | failed => True

variable {host : Host} {sha256 : Bytes → FixedBytes 32}

theorem Inv.moves {sent received : List Bytes} {next : Coordinator} {event : Comm Bytes}
    (inv : state.Inv host.usize sent received) (moved : Moves host sha256 state event next) :
    next.Inv host.usize (sent ++ event.sent.toList) (received ++ event.received.toList) := by
  cases moved with
  | greet made =>
    obtain ⟨rfl, rfl⟩ := inv
    exact ⟨rfl, rfl⟩
  | negotiate made =>
    obtain ⟨one, rfl⟩ := inv
    simp only [coordinatorTranscript, bind_eq_ok, mapError_eq_ok,
      fromHellosWithPeerPayload_eq_ok] at made
    obtain ⟨_, -, made, -⟩ := made
    refine ⟨?_, rfl, fresh_of_fromHelloPair made⟩
    rw [← one]
    exact congrArg length (append_nil sent)
  | accept decided =>
    obtain ⟨sentOne, receivedOne, fresh⟩ := inv
    obtain ⟨challenge, at_next, valid, rfl⟩ := coordinatorDecide_accept fresh decided
    refine ⟨?_, _, challenge, fresh, at_next, .concat sentOne valid⟩
    rw [← receivedOne]
    exact congrArg length (append_nil received)
  | reject decided =>
    obtain ⟨sentOne, -, -⟩ := inv
    obtain ⟨reject, valid, rfl⟩ := coordinatorDecide_reject decided
    exact ⟨reject, .inl (.concat sentOne valid)⟩
  | peerAccepted read =>
    obtain ⟨one, start, challenge, fresh, at_decision, announced⟩ := inv
    obtain ⟨accept, checked, valid, rfl⟩ := receiveDecision_accepted read
    obtain ⟨_, move, at_next⟩ := move_of_call fresh at_decision _ (perform_validateAccept checked)
    cases move with
    | acceptReceiver =>
      refine agreed_of_bothAccepted fresh at_next ?_ (.concat one valid)
      rw [show sent ++ (Comm.receives _).sent.toList = sent from append_nil sent]
      exact announced
  | peerRejected read =>
    obtain ⟨one, -⟩ := inv
    obtain ⟨reject, valid, rfl⟩ := receiveDecision_rejected read
    exact ⟨reject, .inr (.concat one valid)⟩
  | take taken =>
    obtain ⟨facts, taken', agreed⟩ := inv
    cases taken.symm.trans taken'
    simpa [Inv, Comm.sent, Comm.received] using agreed

/-- The invariant holds on every trace of the coordinator. -/
theorem inv_of_run {offer : LinuxHelloOffer} {atomics : AtomicCapabilities} {nonce : FixedBytes 32}
    {events : List (Comm Bytes)}
    (run : Trace (Step host sha256) (start offer atomics nonce) events state) :
    state.Inv host.usize (Comm.sentIn events) (Comm.receivedIn events) := by
  apply Fallible.invariant (I := fun sent received state => state.Inv host.usize sent received)
    ⟨rfl, rfl⟩ (fun _ _ _ _ _ inv moved => inv.moves moved) (fun _ _ => trivial) run

theorem Inv.informed {sent received : List Bytes} (inv : state.Inv t sent received) :
    Informed t sent received state.HoldsSession state.Rejected state.acceptedFacts := by
  cases state with
  | accepted transcript =>
    obtain ⟨facts, taken, agreed⟩ := inv
    exact ⟨fun _ => ⟨facts, by rw [acceptedFacts, taken]; rfl, agreed⟩, False.elim⟩
  | session facts => exact ⟨fun _ => ⟨facts, rfl, inv⟩, False.elim⟩
  | rejected role reason => exact ⟨False.elim, fun _ => inv⟩
  | _ => exact ⟨False.elim, False.elim⟩

end Coordinator

namespace Receiver

/-- What the packets that the receiver has received and sent say about where it stands. -/
def Inv (t : Target) (received sent : List Bytes) : Receiver → Prop
  | start _ _ => received = [] ∧ sent = []
  | answering _ _ _ => received.length = 1 ∧ sent = []
  | answered _ _ => received.length = 1 ∧ sent.length = 1
  | negotiating transcript _ => received.length = 1 ∧ sent.length = 1 ∧ transcript.Fresh
  | pending transcript => sent.length = 1 ∧ CoordinatorAnnounced t received transcript
  | accepted transcript => ∃ facts, transcript.takeAcceptedFacts = (.ok facts, transcript.close) ∧
      Agreed t received sent facts
  | session facts => Agreed t received sent facts
  | rejected _ _ => Refused t received sent
  | failed => True

variable {host : Host} {sha256 : Bytes → FixedBytes 32}
  {state : Receiver}

theorem Inv.moves {received sent : List Bytes} {next : Receiver} {event : Comm Bytes}
    (inv : state.Inv host.usize received sent) (moved : Moves host sha256 state event next) :
    next.Inv host.usize (received ++ event.received.toList) (sent ++ event.sent.toList) := by
  cases moved with
  | answer made =>
    obtain ⟨rfl, rfl⟩ := inv
    exact ⟨rfl, rfl⟩
  | reply =>
    obtain ⟨one, rfl⟩ := inv
    refine ⟨?_, rfl⟩
    rw [← one]
    exact congrArg length (append_nil received)
  | negotiate made =>
    simp only [receiverTranscript, mapError_eq_ok, fromHellosWithPeerPayload_eq_ok] at made
    have fresh := fresh_of_fromHelloPair made.1
    simpa [Inv, Comm.sent, Comm.received, fresh] using inv
  | peerAccepted read =>
    obtain ⟨receivedOne, sentOne, fresh⟩ := inv
    obtain ⟨accept, checked, valid, rfl⟩ := receiveDecision_accepted read
    obtain ⟨_, move, at_next⟩ := move_of_call fresh (at_start fresh) _
      (perform_validateAccept checked)
    cases move with
    | acceptCoordinator challenge =>
      refine ⟨?_, _, challenge, fresh, at_next, .concat receivedOne valid⟩
      rw [← sentOne]
      exact congrArg length (append_nil sent)
  | peerRejected read =>
    obtain ⟨one, -⟩ := inv
    obtain ⟨reject, valid, rfl⟩ := receiveDecision_rejected read
    exact ⟨reject, .inl (.concat one valid)⟩
  | accept decided =>
    obtain ⟨one, start, challenge, fresh, at_decision, announced⟩ := inv
    obtain ⟨at_next, valid, rfl⟩ := receiverDecide_accept fresh at_decision decided
    refine agreed_of_bothAccepted fresh at_next ?_ (.concat one valid)
    rw [show received ++ (Comm.sends _).received.toList = received from append_nil received]
    exact announced
  | reject decided =>
    obtain ⟨one, -⟩ := inv
    obtain ⟨reject, valid, rfl⟩ := receiverDecide_reject decided
    exact ⟨reject, .inr (.concat one valid)⟩
  | take taken =>
    obtain ⟨facts, taken', agreed⟩ := inv
    cases taken.symm.trans taken'
    simpa [Inv, Comm.sent, Comm.received] using agreed

/-- The invariant holds on every trace of the receiver. -/
theorem inv_of_run {offer : LinuxHelloOffer} {atomics : AtomicCapabilities}
    {events : List (Comm Bytes)}
    (run : Trace (Step host sha256) (start offer atomics) events state) :
    state.Inv host.usize (Comm.receivedIn events) (Comm.sentIn events) := by
  apply Fallible.invariant (I := fun sent received state => state.Inv host.usize received sent)
    ⟨rfl, rfl⟩ (fun _ _ _ _ _ inv moved => inv.moves moved) (fun _ _ => trivial) run

theorem Inv.informed {received sent : List Bytes} (inv : state.Inv t received sent) :
    Informed t received sent state.HoldsSession state.Rejected state.acceptedFacts := by
  cases state with
  | accepted transcript =>
    obtain ⟨facts, taken, agreed⟩ := inv
    exact ⟨fun _ => ⟨facts, by rw [acceptedFacts, taken]; rfl, agreed⟩, False.elim⟩
  | session facts => exact ⟨fun _ => ⟨facts, rfl, inv⟩, False.elim⟩
  | rejected role reason => exact ⟨False.elim, fun _ => inv⟩
  | _ => exact ⟨False.elim, False.elim⟩

end Receiver

/-! ### Packets that both endpoints have seen -/

section Packets

variable {t t' : Target} {fromCoordinator fromReceiver : List Bytes}

theorem Announces.unique {packets : List Bytes} {frame frame' : NegotiationFrame}
    (h : Announces t packets frame) (h' : Announces t' packets frame') : frame = frame' :=
  NegotiationFrame.image_inj h.1 h'.1 (Option.some.inj (h.2.symm.trans h'.2))

/-- The ACCEPTs determine the facts. -/
theorem Agreed.unique {facts facts' : AcceptedTranscriptFacts}
    (h : Agreed t fromCoordinator fromReceiver facts)
    (h' : Agreed t' fromCoordinator fromReceiver facts') : facts = facts' := by
  have same := NegotiationFrame.accept.inj (h.receiver.unique h'.receiver)
  have major := h.version.1.trans h'.version.1.symm
  have minor := h.version.2.trans h'.version.2.symm
  obtain ⟨_, _, _, _, _, _, _, _, _⟩ := facts
  cases facts'
  cases same
  cases major
  cases minor
  rfl

theorem Agreed.not_refused {facts : AcceptedTranscriptFacts}
    (h : Agreed t fromCoordinator fromReceiver facts) :
    ¬ Refused t' fromCoordinator fromReceiver := by
  rintro ⟨reject, refused | refused⟩
  · cases h.coordinator.unique refused
  · cases h.receiver.unique refused

end Packets

section Runs

variable {coordinatorHost receiverHost : Host} {sha256 : Bytes → FixedBytes 32}

/-- The two endpoints over a reliable channel. -/
def Negotiates (coordinatorHost receiverHost : Host) (sha256 : Bytes → FixedBytes 32) :
    Duplex Coordinator Receiver Bytes → Comm Bytes ⊕ Comm Bytes →
      Duplex Coordinator Receiver Bytes → Prop :=
  Duplex.Step (Coordinator.Step coordinatorHost sha256) (Receiver.Step receiverHost sha256)

variable {offer offer' : LinuxHelloOffer} {atomics atomics' : AtomicCapabilities}
  {nonce : FixedBytes 32} {events : List (Comm Bytes ⊕ Comm Bytes)}
  {state : Duplex Coordinator Receiver Bytes}

/-- What the coordinator knows, in terms of the packets that the two endpoints have sent. -/
theorem coordinator_knows (run : Trace (Negotiates coordinatorHost receiverHost sha256)
      (Duplex.start (.start offer atomics nonce) (.start offer' atomics')) events state) :
    Informed coordinatorHost.usize (Comm.sentIn (lefts events)) (Comm.sentIn (rights events))
      state.left.HoldsSession state.left.Rejected state.left.acceptedFacts :=
  (Coordinator.inv_of_run (Duplex.left_run run)).informed.mono id (Duplex.left_received run)

/-- What the receiver knows, in terms of the packets that the two endpoints have sent. -/
theorem receiver_knows (run : Trace (Negotiates coordinatorHost receiverHost sha256)
      (Duplex.start (.start offer atomics nonce) (.start offer' atomics')) events state) :
    Informed receiverHost.usize (Comm.sentIn (lefts events)) (Comm.sentIn (rights events))
      state.right.HoldsSession state.right.Rejected state.right.acceptedFacts :=
  (Receiver.inv_of_run (Duplex.right_run run)).informed.mono (Duplex.right_received run) id

end Runs

/-! ### Reaching a session -/

section Reaching

open NegotiatedTranscript

variable {t : Target} {host : Host} {sha256 : Bytes → FixedBytes 32}
  {start self next : NegotiatedTranscript}

/-- The ACCEPT of a transcript can be sent, unless the digest is zero. -/
theorem acceptFrame_valid {hellos : HelloPair} {capabilities : AtomicCapabilities}
    (made : fromHelloPair host sha256 hellos capabilities = .ok start)
    (digest_ne_zero : start.helloDigest ≠ FixedBytes.zero 32) (role : SenderRole)
    (challenge : DecisionChallenge) :
    (NegotiationFrame.accept (start.acceptFrame role challenge)).validate host.usize = .ok () := by
  obtain ⟨ours, stream, discovered, agreeable, -, rfl⟩ := fromHelloPair_eq_ok.mp made
  have sound : ¬ ours.Malformed := AtomicOffer.not_malformed_of_fromLocal discovered
  exact AcceptFrame.validate_eq_ok.mpr {
    nonce_ne_zero := agreeable.coordinator_valid.nonce_ne_zero
    digest_ne_zero
    limits := agreeable.coordinator_valid.limits.pointwiseMin agreeable.receiver_valid.limits
    atomics := sound
    target := TargetFacts.not_malformed_current host }

theorem coordinatorDecide_of_fresh (fresh : start.Fresh) (challenge : DecisionChallenge)
    (valid : (NegotiationFrame.accept (start.acceptFrame .coordinator challenge)).validate t =
      .ok ()) :
    coordinatorDecide t start challenge.bytes .accept =
      .ok ((NegotiationFrame.accept (start.acceptFrame .coordinator challenge)).image,
        start.withDecision (some challenge) 1) := by
  have drawn : generateDecisionChallenge challenge.bytes = .ok challenge :=
    mapError_eq_ok.mpr (DecisionChallenge.decode_eq_ok.mpr rfl)
  have offered : start.coordinatorAccept challenge =
      .ok (start.acceptFrame .coordinator challenge) := if_neg (not_not.mpr fresh.roles_eq)
  simp only [coordinatorDecide, bind_eq_ok, mapError_eq_ok, Prod.exists, orEnd_eq_ok,
    encodeNegotiationFrame_eq_ok, pure_eq_ok]
  exact ⟨challenge, drawn, _, offered, _, _, fresh.validateAccept challenge, _,
    ⟨valid, Nat.zero_le _, rfl⟩, rfl⟩

theorem receiverDecide_of_fresh (fresh : start.Fresh) (challenge : DecisionChallenge)
    (valid : (NegotiationFrame.accept (start.acceptFrame .receiver challenge)).validate t =
      .ok ()) :
    receiverDecide t (start.withDecision (some challenge) 1) .accept =
      .ok ((NegotiationFrame.accept (start.acceptFrame .receiver challenge)).image,
        start.withDecision (some challenge) 3) := by
  simp only [receiverDecide, bind_eq_ok, mapError_eq_ok, Prod.exists, orEnd_eq_ok,
    encodeNegotiationFrame_eq_ok, pure_eq_ok]
  exact ⟨_, rfl, _, _, fresh.validateAccept_receiver challenge, _, ⟨valid, Nat.zero_le _, rfl⟩, rfl⟩

theorem receiveDecision_of_accept {accept : AcceptFrame}
    (valid : (NegotiationFrame.accept accept).validate t = .ok ())
    (checked : self.validateAccept accept accept.role = (.ok (), next)) :
    receiveDecision t accept.role self accept.nonce (NegotiationFrame.accept accept).image =
      .ok (.accepted next) := by
  simp only [receiveDecision, bind_eq_ok, decodePacket_eq_ok]
  refine ⟨.accept accept, ⟨⟨valid, rfl, rfl, Nat.zero_le _⟩, rfl⟩, ?_⟩
  simp only [bind_eq_ok, Prod.exists, orEnd_eq_ok, pure_eq_ok]
  exact ⟨_, _, checked, rfl⟩

variable {offer offer' : LinuxHelloOffer} {atomics atomics' : AtomicCapabilities}
  {ours ours' : AtomicOffer} {nonce : FixedBytes 32}

/-- The steps of a HELLO exchange that both endpoints finish. -/
theorem negotiating_of_exchange {hello hello' : HelloFrame}
    {packet packet' payload payload' : Bytes}
    (greeting : coordinatorGreeting host offer atomics nonce = .ok (hello, packet))
    (answer : receiverAnswer host offer' atomics' packet = .ok (⟨hello, hello'⟩, packet'))
    (atReceiver : receiverTranscript host sha256 ⟨hello, hello'⟩ atomics' = .ok (start, payload'))
    (atCoordinator : coordinatorTranscript host sha256 hello atomics nonce packet' =
      .ok (start, payload)) :
    ∃ events, Trace (Negotiates host host sha256)
      (Duplex.start (.start offer atomics nonce) (.start offer' atomics')) events
      ⟨.negotiating start nonce, .negotiating start hello'.nonce, [], []⟩ := by
  have first : Negotiates host host sha256
      (Duplex.start (.start offer atomics nonce) (.start offer' atomics')) (.inl (.sends packet))
      ⟨.greeted hello atomics nonce, .start offer' atomics', [packet], []⟩ :=
    .left (.moves (.greet greeting)) rfl
  have second : Negotiates host host sha256
      ⟨.greeted hello atomics nonce, .start offer' atomics', [packet], []⟩ (.inr (.receives packet))
      ⟨.greeted hello atomics nonce, .answering ⟨hello, hello'⟩ packet' atomics', [], []⟩ :=
    .right (.moves (.answer answer)) rfl
  have third : Negotiates host host sha256
      ⟨.greeted hello atomics nonce, .answering ⟨hello, hello'⟩ packet' atomics', [], []⟩
      (.inr (.sends packet'))
      ⟨.greeted hello atomics nonce, .answered ⟨hello, hello'⟩ atomics', [], [packet']⟩ :=
    .right (.moves .reply) rfl
  have fourth : Negotiates host host sha256
      ⟨.greeted hello atomics nonce, .answered ⟨hello, hello'⟩ atomics', [], [packet']⟩
      (.inr .silent)
      ⟨.greeted hello atomics nonce, .negotiating start hello'.nonce, [], [packet']⟩ :=
    .right (.moves (.negotiate atReceiver)) rfl
  have fifth : Negotiates host host sha256
      ⟨.greeted hello atomics nonce, .negotiating start hello'.nonce, [], [packet']⟩
      (.inl (.receives packet'))
      ⟨.negotiating start nonce, .negotiating start hello'.nonce, [], []⟩ :=
    .left (.moves (.negotiate atCoordinator)) rfl
  exact ⟨_, ((((Trace.nil.snoc first).snoc second).snoc third).snoc fourth).snoc fifth⟩

/-- From a common transcript, two endpoints that both accept reach a session with its facts. -/
theorem sessions_reachable (fresh : start.Fresh) (challenge : DecisionChallenge)
    (encodes : ∀ role, (NegotiationFrame.accept (start.acceptFrame role challenge)).validate
      host.usize = .ok ()) :
    ∃ events, Trace (Negotiates host host sha256)
      ⟨.negotiating start start.nonce, .negotiating start start.nonce, [], []⟩ events
      ⟨.session (start.facts challenge), .session (start.facts challenge), [], []⟩ := by
  have offered := coordinatorDecide_of_fresh fresh challenge (encodes .coordinator)
  have answered := receiverDecide_of_fresh fresh challenge (encodes .receiver)
  have heard := receiveDecision_of_accept (encodes .coordinator) (fresh.validateAccept challenge)
  have heard' := receiveDecision_of_accept (encodes .receiver)
    (fresh.validateAccept_receiver challenge)
  have taken : (start.withDecision (some challenge) 3).takeAcceptedFacts =
    (.ok (start.facts challenge), _) := rfl
  generalize (NegotiationFrame.accept (start.acceptFrame .coordinator challenge)).image = packet
    at offered heard
  generalize (NegotiationFrame.accept (start.acceptFrame .receiver challenge)).image = packet'
    at answered heard'
  generalize start.withDecision (some challenge) 1 = once at offered answered heard heard'
  generalize start.withDecision (some challenge) 3 = both at answered heard' taken
  have first : Negotiates host host sha256
      ⟨.negotiating start start.nonce, .negotiating start start.nonce, [], []⟩
      (.inl (.sends packet))
      ⟨.awaiting once start.nonce, .negotiating start start.nonce, [packet], []⟩ :=
    .left (.moves (.accept offered)) rfl
  have second : Negotiates host host sha256
      ⟨.awaiting once start.nonce, .negotiating start start.nonce, [packet], []⟩
      (.inr (.receives packet)) ⟨.awaiting once start.nonce, .pending once, [], []⟩ :=
    .right (.moves (.peerAccepted heard)) rfl
  have third : Negotiates host host sha256
      ⟨.awaiting once start.nonce, .pending once, [], []⟩ (.inr (.sends packet'))
      ⟨.awaiting once start.nonce, .accepted both, [], [packet']⟩ :=
    .right (.moves (.accept answered)) rfl
  have fourth : Negotiates host host sha256
      ⟨.awaiting once start.nonce, .accepted both, [], [packet']⟩ (.inl (.receives packet'))
      ⟨.accepted both, .accepted both, [], []⟩ := .left (.moves (.peerAccepted heard')) rfl
  have fifth : Negotiates host host sha256 ⟨.accepted both, .accepted both, [], []⟩ (.inl .silent)
      ⟨.session (start.facts challenge), .accepted both, [], []⟩ := .left (.moves (.take taken)) rfl
  have sixth : Negotiates host host sha256
      ⟨.session (start.facts challenge), .accepted both, [], []⟩ (.inr .silent)
      ⟨.session (start.facts challenge), .session (start.facts challenge), [], []⟩ :=
    .right (.moves (.take taken)) rfl
  exact ⟨_, (((((Trace.nil.snoc first).snoc second).snoc third).snoc fourth).snoc fifth).snoc sixth⟩

section

variable (nonce_ne_zero : nonce ≠ FixedBytes.zero 32)
  (valid : offer.Valid host.usize) (valid' : offer'.Valid host.usize)
  (discovered : AtomicOffer.fromLocal atomics = .ok ours)
  (discovered' : AtomicOffer.fromLocal atomics' = .ok ours')
  (made : fromHelloPair host sha256 ⟨localHello host .coordinator nonce offer ours,
    localHello host .receiver nonce offer' ours'⟩ atomics = .ok start)
include nonce_ne_zero valid valid' discovered discovered' made

/-- Two endpoints on one target whose HELLOs agree exchange them. -/
theorem negotiating_reachable :
    ∃ events, Trace (Negotiates host host sha256)
      (Duplex.start (.start offer atomics nonce) (.start offer' atomics')) events
      ⟨.negotiating start nonce, .negotiating start nonce, [], []⟩ := by
  have made' := made
  rw [fromHelloPair_local_irrelevant discovered discovered'] at made'
  have small := valid.payload_le.trans (Nat.min_le_right _ _)
  have small' := valid'.payload_le.trans (Nat.min_le_right _ _)
  have mine : (localHello host .coordinator nonce offer ours).Valid host.usize :=
    localHello_valid nonce_ne_zero valid discovered
  have theirs : (localHello host .receiver nonce offer' ours').Valid host.usize :=
    localHello_valid nonce_ne_zero valid' discovered'
  refine negotiating_of_exchange
    (bind_eq_ok.mpr ⟨_, validateLinuxOffer_eq_ok.mpr ⟨valid, rfl⟩, prepareHello_eq_ok.mpr
      ⟨ours, discovered, rfl, mine, small, rfl⟩⟩)
    (bind_eq_ok.mpr ⟨_, validateLinuxOffer_eq_ok.mpr ⟨valid', rfl⟩, answerHello_eq_ok.mpr
      ⟨ours', discovered', mine, rfl, small, rfl, rfl, theirs, small', rfl⟩⟩)
    (mapError_eq_ok.mpr (fromHellosWithPeerPayload_eq_ok.mpr ⟨made', rfl⟩))
    (bind_eq_ok.mpr ⟨_, decodePeerHello_eq_ok.mpr ⟨theirs, rfl, rfl, small', rfl⟩,
      mapError_eq_ok.mpr (fromHellosWithPeerPayload_eq_ok.mpr ⟨made, rfl⟩)⟩)

/-- Two endpoints on one target whose HELLOs agree, and which both accept, reach a session. -/
theorem accepted_reachable
    (digest_ne_zero : start.helloDigest ≠ FixedBytes.zero 32) (challenge : DecisionChallenge) :
    ∃ events, Trace (Negotiates host host sha256)
      (Duplex.start (.start offer atomics nonce) (.start offer' atomics')) events
      ⟨.session (start.facts challenge), .session (start.facts challenge), [], []⟩ := by
  have nonce_eq : start.nonce = nonce := by
    obtain ⟨_, _, -, -, -, rfl⟩ := fromHelloPair_eq_ok.mp made
    rfl
  obtain ⟨hellos, exchange⟩ :=
    negotiating_reachable nonce_ne_zero valid valid' discovered discovered' made
  rw [← nonce_eq] at exchange
  obtain ⟨decisions, decide⟩ := sessions_reachable (fresh_of_fromHelloPair made) challenge
    (fun role => acceptFrame_valid made digest_ne_zero role challenge)
  rw [← nonce_eq]
  exact ⟨_, exchange.append decide⟩

end

end Reaching

/-- A nonce, and a digest that is not zero. -/
def ones : FixedBytes 32 := .filled 32 1

/-! ### Agreement over every run -/

section Agreement

variable {coordinatorHost receiverHost : Host} {sha256 : Bytes → FixedBytes 32}
  {offer offer' : LinuxHelloOffer} {atomics atomics' : AtomicCapabilities}
  {nonce : FixedBytes 32} {events : List (Comm Bytes ⊕ Comm Bytes)}
  {state : Duplex Coordinator Receiver Bytes}

/-- In every reachable state: an accepted session on either side rests on the ACCEPT that the other
    side has sent for the same facts, two accepted sessions have the same facts, and an accepted
    session on one side excludes a clean rejection on the other. -/
theorem negotiation_agreement (run : Trace (Negotiates coordinatorHost receiverHost sha256)
      (Duplex.start (.start offer atomics nonce) (.start offer' atomics')) events state) :
    (state.left.HoldsSession → ∃ facts, state.left.acceptedFacts = some facts ∧
      Announces coordinatorHost.usize (Comm.sentIn (Duplex.rights events))
        (.accept (facts.acceptFrame .receiver)) ∧
      ∀ facts', state.right.acceptedFacts = some facts' → facts' = facts) ∧
    (state.right.HoldsSession → ∃ facts, state.right.acceptedFacts = some facts ∧
      Announces receiverHost.usize (Comm.sentIn (Duplex.lefts events))
        (.accept (facts.acceptFrame .coordinator))) ∧
    ¬ (state.left.HoldsSession ∧ state.right.Rejected) ∧
    ¬ (state.right.HoldsSession ∧ state.left.Rejected) := by
  obtain ⟨coordinatorHolds, coordinatorRejected⟩ := coordinator_knows run
  obtain ⟨receiverHolds, receiverRejected⟩ := receiver_knows run
  refine ⟨?_, ?_, ?_, ?_⟩
  · intro holds
    obtain ⟨facts, hfacts, agreed⟩ := coordinatorHolds holds
    refine ⟨facts, hfacts, agreed.receiver, ?_⟩
    intro facts' hfacts'
    have holds' : state.right.HoldsSession := by
      revert hfacts'
      cases state.right <;> simp [Receiver.acceptedFacts, Receiver.HoldsSession]
    obtain ⟨facts'', hfacts'', agreed'⟩ := receiverHolds holds'
    cases hfacts'.symm.trans hfacts''
    exact agreed'.unique agreed
  · intro holds
    obtain ⟨facts, hfacts, agreed⟩ := receiverHolds holds
    exact ⟨facts, hfacts, agreed.coordinator⟩
  · rintro ⟨holds, rejected⟩
    obtain ⟨_, -, agreed⟩ := coordinatorHolds holds
    exact agreed.not_refused (receiverRejected rejected)
  · rintro ⟨holds, rejected⟩
    obtain ⟨_, -, agreed⟩ := receiverHolds holds
    exact agreed.not_refused (coordinatorRejected rejected)

/-- Two endpoints with different limits and atomics accept each other. -/
theorem negotiation_agreement_sample :
    ∃ events facts, Trace
        (Negotiates sampleHost sampleHost (fun _ => ones))
        (Duplex.start (.start (sampleOffer 16) (sampleAtomics true) ones)
          (.start (sampleOffer 64) (sampleAtomics false))) events
        ⟨.session facts, .session facts, [], []⟩ ∧
      Announces sampleHost.usize (Comm.sentIn (Duplex.rights events))
        (.accept (facts.acceptFrame .receiver)) := by
  obtain ⟨start, made⟩ : ∃ start, NegotiatedTranscript.fromHelloPair sampleHost (fun _ => ones)
      ⟨localHello sampleHost .coordinator ones (sampleOffer 16)
          ⟨true, true, 4, 8, 4096, 64⟩,
        localHello sampleHost .receiver ones (sampleOffer 64)
          ⟨true, false, 4, 8, 4096, 64⟩⟩ (sampleAtomics true) = .ok start :=
    ⟨_, eq_ok_get (by decide +kernel)⟩
  have digest_ne_zero : start.helloDigest ≠ FixedBytes.zero 32 := by
    obtain ⟨_, _, -, -, -, rfl⟩ := NegotiatedTranscript.fromHelloPair_eq_ok.mp made
    show ones ≠ FixedBytes.zero 32
    decide
  have challenge : DecisionChallenge := ⟨⟨List.replicate 16 1, rfl⟩, by decide⟩
  have valid (limit : UInt32) (h : limit = 16 ∨ limit = 64) :
      (sampleOffer limit).Valid sampleHost.usize := by
    rcases h with rfl | rfl <;> exact ⟨by decide, by decide, by decide⟩
  have discovered : AtomicOffer.fromLocal (sampleAtomics false) =
    .ok ⟨true, false, 4, 8, 4096, 64⟩ := by decide
  obtain ⟨events, run⟩ := accepted_reachable (by decide) (valid 16 (.inl rfl))
    (valid 64 (.inr rfl)) (by decide) discovered made digest_ne_zero challenge
  obtain ⟨facts, same, announced, -⟩ := (negotiation_agreement run).1 trivial
  cases same
  exact ⟨events, _, run, announced⟩

end Agreement

end NativeIpc.Session
