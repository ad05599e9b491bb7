import NativeIpc.Lib.Trace
import NativeIpc.Session.Transcript

/-!
# The decision machine of a transcript

ACCEPT and REJECT on a negotiated transcript
(`crates/native-ipc/src/negotiation.rs`). The methods keep their state in
`decision_challenge` and `accepted_roles`; `Decision` is the state they stand
for, `Decision.Move` what the methods can do to it, and every run of the
methods follows moves.
Lines are those of `negotiation.rs`.
-/

namespace NativeIpc.Session

open NativeIpc.Lib Bytes Run

/-- Lines 203-213. -/
structure AcceptedTranscriptFacts where
  nonce : FixedBytes 32
  selectedFeatures : FeatureBits
  effectiveLimits : SessionLimits
  effectiveAtomics : AtomicOffer
  target : TargetFacts
  wireMajor : UInt16
  wireMinor : UInt16
  helloDigest : FixedBytes 32
  decisionChallenge : DecisionChallenge
  deriving DecidableEq

namespace NegotiatedTranscript

/-! ### The methods -/

variable (self : NegotiatedTranscript)

/-- `self.accepted_roles = u8::MAX`. -/
def close : NegotiatedTranscript := { self with acceptedRoles := 255 }

/-- Lines 513-528. -/
def acceptFrame (role : SenderRole) (decisionChallenge : DecisionChallenge) : AcceptFrame where
  role
  nonce := self.nonce
  selectedFeatures := self.selectedFeatures
  effectiveLimits := self.effectiveLimits
  atomics := self.effectiveAtomics
  target := self.target
  helloDigest := self.helloDigest
  decisionChallenge

/-- The facts that `take_accepted_facts` returns, lines 412-422. -/
def facts (decisionChallenge : DecisionChallenge) : AcceptedTranscriptFacts where
  nonce := self.nonce
  selectedFeatures := self.selectedFeatures
  effectiveLimits := self.effectiveLimits
  effectiveAtomics := self.effectiveAtomics
  target := self.target
  wireMajor := self.wireMajor
  wireMinor := self.wireMinor
  helloDigest := self.helloDigest
  decisionChallenge

/-- Lines 401-423. -/
def takeAcceptedFacts : Run NegotiationWireError AcceptedTranscriptFacts × NegotiatedTranscript :=
  if self.acceptedRoles ≠ 3 then (fail .decisionReplayOrOrder, self.close)
  else match self.decisionChallenge with
    | none => (fail .decisionReplayOrOrder, self)
    | some decisionChallenge => (.ok (self.facts decisionChallenge), self.close)

/-- Lines 530-538. -/
def coordinatorAccept (decisionChallenge : DecisionChallenge) :
    Run NegotiationWireError AcceptFrame :=
  if self.acceptedRoles ≠ 0 then fail .decisionReplayOrOrder
  else .ok (self.acceptFrame .coordinator decisionChallenge)

/-- Lines 540-548. -/
def receiverAccept : Run NegotiationWireError AcceptFrame :=
  if self.acceptedRoles ≠ 1 then fail .decisionReplayOrOrder
  else match self.decisionChallenge with
    | none => fail .decisionReplayOrOrder
    | some challenge => .ok (self.acceptFrame .receiver challenge)

/-- Lines 550-568. -/
def coordinatorReject (decisionChallenge : DecisionChallenge)
    (reason : NonZeroU32) : Run NegotiationWireError RejectFrame × NegotiatedTranscript :=
  if self.acceptedRoles ≠ 0 then (fail .decisionReplayOrOrder, self.close)
  else
    let reject : RejectFrame := ⟨.coordinator, self.nonce, reason, decisionChallenge⟩
    match reject.validate with
    | .error stop => (.error stop, self)
    | .ok () => (.ok reject, self.close)

/-- Lines 570-590. -/
def receiverReject (reason : NonZeroU32) :
    Run NegotiationWireError RejectFrame × NegotiatedTranscript :=
  if self.acceptedRoles ≠ 1 then (fail .decisionReplayOrOrder, self.close)
  else match self.decisionChallenge with
    | none => (fail .decisionReplayOrOrder, self)
    | some decisionChallenge =>
      let reject : RejectFrame := ⟨.receiver, self.nonce, reason, decisionChallenge⟩
      match reject.validate with
      | .error stop => (.error stop, self)
      | .ok () => (.ok reject, self.close)

/-- `order_is_valid` of `validate_reject`, lines 597-600. -/
def orderIsValid : SenderRole → Bool
  | .coordinator => self.acceptedRoles == 0
  | .receiver => self.acceptedRoles == 1

/-- Lines 592-625. Every return sets `accepted_roles` first. -/
def validateReject (reject : RejectFrame)
    (expectedRole : SenderRole) : Run NegotiationWireError NonZeroU32 × NegotiatedTranscript :=
  let result := do
    rejectIf (¬ self.orderIsValid expectedRole) .decisionReplayOrOrder
    reject.validate
    rejectIf (reject.role ≠ expectedRole ∨ reject.nonce ≠ self.nonce) .effectiveMismatch
    match expectedRole with
    | .coordinator => pure reject.reason
    | .receiver =>
      let challenge ← okOr self.decisionChallenge .decisionReplayOrOrder
      rejectIf (reject.decisionChallenge ≠ challenge) .decisionChallengeMismatch
      pure reject.reason
  (result, self.close)

/-- The bit of a role in `accepted_roles`, lines 640-643. -/
def expectedBit : SenderRole → UInt8
  | .coordinator => 1
  | .receiver => 2

/-- The challenge that an ACCEPT is compared with, lines 651-656. -/
def expectedChallenge (accept : AcceptFrame) :
    SenderRole → Option DecisionChallenge
  | .coordinator => some accept.decisionChallenge
  | .receiver => self.decisionChallenge

/-- What `validate_accept` refuses before it looks at the frame, lines 644-647. -/
def OutOfOrder (role : SenderRole) : Prop :=
  self.acceptedRoles = 255 ∨ (expectedBit role = 2 ∧ self.acceptedRoles ≠ 1) ∨
    self.acceptedRoles &&& expectedBit role ≠ 0

instance (self : NegotiatedTranscript) (role : SenderRole) : Decidable (self.OutOfOrder role) :=
  inferInstanceAs (Decidable (_ ∨ _))

/-- The fields after an ACCEPT, lines 664-667. -/
def recordAccept (role : SenderRole) (challenge : DecisionChallenge) : NegotiatedTranscript :=
  { self with
    decisionChallenge := if role = .coordinator then some challenge else self.decisionChallenge
    acceptedRoles := self.acceptedRoles ||| expectedBit role }

/-- Lines 631-669. -/
def validateAccept (accept : AcceptFrame)
    (expectedRole : SenderRole) : Run NegotiationWireError Unit × NegotiatedTranscript :=
  if self.wireMajor ≠ Session.wireMajor ∨ self.wireMinor ≠ Session.wireMinor then
    (fail .badVersion, self)
  else if self.OutOfOrder expectedRole then (fail .decisionReplayOrOrder, self.close)
  else match self.expectedChallenge accept expectedRole with
    | none => (fail .decisionReplayOrOrder, self)
    | some challenge =>
      if expectedRole = .receiver ∧ accept.decisionChallenge ≠ challenge then
        (fail .decisionChallengeMismatch, self.close)
      else if accept ≠ self.acceptFrame expectedRole challenge then
        (fail .effectiveMismatch, self.close)
      else (.ok (), self.recordAccept expectedRole challenge)

/-! ### Calls -/

/-- A call on a transcript. -/
inductive DecisionCall where
  | coordinatorAccept (decisionChallenge : DecisionChallenge)
  | receiverAccept
  | coordinatorReject (decisionChallenge : DecisionChallenge) (reason : NonZeroU32)
  | receiverReject (reason : NonZeroU32)
  | validateAccept (accept : AcceptFrame) (expectedRole : SenderRole)
  | validateReject (reject : RejectFrame) (expectedRole : SenderRole)
  | takeAcceptedFacts

/-- What a call returns. -/
inductive DecisionAnswer where
  | accept (frame : AcceptFrame)
  | reject (frame : RejectFrame)
  | accepted
  | rejected (reason : NonZeroU32)
  | facts (facts : AcceptedTranscriptFacts)

/-- A call with its result. -/
structure DecisionEvent where
  call : DecisionCall
  result : Run NegotiationWireError DecisionAnswer

/-- The calls on `&mut self`. -/
def DecisionCall.Decides : DecisionCall → Prop
  | .coordinatorAccept _ | .receiverAccept => False
  | _ => True

/-- The calls that make or check an ACCEPT. -/
def DecisionCall.Accepts : DecisionCall → Prop
  | .coordinatorAccept _ | .receiverAccept | .validateAccept _ _ => True
  | _ => False

/-- The calls that make or check a REJECT. -/
def DecisionCall.Rejects : DecisionCall → Prop
  | .coordinatorReject _ _ | .receiverReject _ | .validateReject _ _ => True
  | _ => False

def perform :
    DecisionCall → Run NegotiationWireError DecisionAnswer × NegotiatedTranscript
  | .coordinatorAccept challenge => ((self.coordinatorAccept challenge).map .accept, self)
  | .receiverAccept => (self.receiverAccept.map .accept, self)
  | .coordinatorReject challenge reason =>
    ((self.coordinatorReject challenge reason).1.map .reject,
      (self.coordinatorReject challenge reason).2)
  | .receiverReject reason =>
    ((self.receiverReject reason).1.map .reject, (self.receiverReject reason).2)
  | .validateAccept accept role =>
    ((self.validateAccept accept role).1.map fun _ => .accepted,
      (self.validateAccept accept role).2)
  | .validateReject reject role =>
    ((self.validateReject reject role).1.map .rejected, (self.validateReject reject role).2)
  | .takeAcceptedFacts => (self.takeAcceptedFacts.1.map .facts, self.takeAcceptedFacts.2)

/-- A call and its result take one transcript to the next. -/
def Step (event : DecisionEvent) (next : NegotiatedTranscript) : Prop :=
  self.perform event.call = (event.result, next)

end NegotiatedTranscript

/-! ### The machine behind the two fields -/

/-- How far the two endpoints have decided. -/
inductive Decision where
  | undecided
  | coordinatorAccepted (challenge : DecisionChallenge)
  | bothAccepted (challenge : DecisionChallenge)
  | terminal

open NegotiatedTranscript in
/-- What the calls on a transcript that began as `start` can do. -/
inductive Decision.Move (start : NegotiatedTranscript) : Decision → DecisionEvent → Decision → Prop
  | offer (challenge) : Move start .undecided
      ⟨.coordinatorAccept challenge, .ok (.accept (start.acceptFrame .coordinator challenge))⟩
      .undecided
  | answer (challenge) : Move start (.coordinatorAccepted challenge)
      ⟨.receiverAccept, .ok (.accept (start.acceptFrame .receiver challenge))⟩
      (.coordinatorAccepted challenge)
  | refuse (decision) (call : DecisionCall) (e) (reads : ¬ call.Decides) :
      Move start decision ⟨call, .error (.error e)⟩ decision
  | acceptCoordinator (challenge) : Move start .undecided
      ⟨.validateAccept (start.acceptFrame .coordinator challenge) .coordinator, .ok .accepted⟩
      (.coordinatorAccepted challenge)
  | acceptReceiver (challenge) : Move start (.coordinatorAccepted challenge)
      ⟨.validateAccept (start.acceptFrame .receiver challenge) .receiver, .ok .accepted⟩
      (.bothAccepted challenge)
  | rejectCoordinator (challenge) (reason) : Move start .undecided
      ⟨.coordinatorReject challenge reason,
        .ok (.reject ⟨.coordinator, start.nonce, reason, challenge⟩)⟩ .terminal
  | rejectReceiver (challenge) (reason) : Move start (.coordinatorAccepted challenge)
      ⟨.receiverReject reason, .ok (.reject ⟨.receiver, start.nonce, reason, challenge⟩)⟩ .terminal
  | rejectedByCoordinator (challenge) (reason) : Move start .undecided
      ⟨.validateReject ⟨.coordinator, start.nonce, reason, challenge⟩ .coordinator,
        .ok (.rejected reason)⟩ .terminal
  | rejectedByReceiver (challenge) (reason) : Move start (.coordinatorAccepted challenge)
      ⟨.validateReject ⟨.receiver, start.nonce, reason, challenge⟩ .receiver,
        .ok (.rejected reason)⟩ .terminal
  | take (challenge) : Move start (.bothAccepted challenge)
      ⟨.takeAcceptedFacts, .ok (.facts (start.facts challenge))⟩ .terminal
  | fail (decision) (call : DecisionCall) (e) (decides : call.Decides) :
      Move start decision ⟨call, .error (.error e)⟩ .terminal

variable {call : DecisionCall} {role : SenderRole} {accept : AcceptFrame}
    {events : List DecisionEvent} {decision : Decision}

namespace NegotiatedTranscript

/-- A transcript as `from_hello_pair` returns it. -/
structure Fresh (start : NegotiatedTranscript) : Prop where
  nonce_ne_zero : start.nonce ≠ FixedBytes.zero 32
  wireMajor_eq : start.wireMajor = Session.wireMajor
  wireMinor_eq : start.wireMinor = Session.wireMinor
  challenge_eq : start.decisionChallenge = none
  roles_eq : start.acceptedRoles = 0

theorem fresh_of_fromHelloPair {host : Host} {sha256 : Bytes → FixedBytes 32} {hellos : HelloPair}
    {capabilities : AtomicCapabilities} {start : NegotiatedTranscript}
    (made : fromHelloPair host sha256 hellos capabilities = .ok start) : start.Fresh := by
  obtain ⟨ours, stream, -, agreeable, -, rfl⟩ := fromHelloPair_eq_ok.mp made
  exact ⟨agreeable.coordinator_valid.nonce_ne_zero, rfl, rfl, rfl, rfl⟩

/-- The transcript that began as `start`, with its decision fields set. -/
def withDecision (start : NegotiatedTranscript) (challenge : Option DecisionChallenge)
    (roles : UInt8) : NegotiatedTranscript :=
  { start with decisionChallenge := challenge, acceptedRoles := roles }

/-- The fields of a transcript that began as `start`, at a decision. -/
def At (start : NegotiatedTranscript) (self : NegotiatedTranscript) : Decision → Prop
  | .undecided => self = start.withDecision none 0
  | .coordinatorAccepted challenge => self = start.withDecision (some challenge) 1
  | .bothAccepted challenge => self = start.withDecision (some challenge) 3
  | .terminal => ∃ challenge, self = start.withDecision challenge 255

variable {start self : NegotiatedTranscript} {decision : Decision}

section

variable (at_decision : At start self decision)
include at_decision

/-- Setting `accepted_roles` to `u8::MAX` ends the machine. -/
theorem At.close : At start self.close .terminal := by
  cases decision with
  | undecided => cases at_decision; exact ⟨_, rfl⟩
  | coordinatorAccepted challenge => cases at_decision; exact ⟨_, rfl⟩
  | bothAccepted challenge => cases at_decision; exact ⟨_, rfl⟩
  | terminal => obtain ⟨challenge, rfl⟩ := at_decision; exact ⟨_, rfl⟩

theorem At.of_roles_zero (h : self.acceptedRoles = 0) :
    decision = .undecided ∧ self = start.withDecision none 0 := by
  cases decision with
  | undecided => exact ⟨rfl, at_decision⟩
  | coordinatorAccepted _ => cases at_decision; simp [withDecision] at h
  | bothAccepted _ => cases at_decision; simp [withDecision] at h
  | terminal => obtain ⟨_, rfl⟩ := at_decision; simp [withDecision] at h

theorem At.of_roles_one (h : self.acceptedRoles = 1) :
    ∃ challenge, decision = .coordinatorAccepted challenge ∧
      self = start.withDecision (some challenge) 1 := by
  cases decision with
  | undecided => cases at_decision; simp [withDecision] at h
  | coordinatorAccepted challenge => exact ⟨challenge, rfl, at_decision⟩
  | bothAccepted _ => cases at_decision; simp [withDecision] at h
  | terminal => obtain ⟨_, rfl⟩ := at_decision; simp [withDecision] at h

theorem At.of_roles_three (h : self.acceptedRoles = 3) :
    ∃ challenge, decision = .bothAccepted challenge ∧
      self = start.withDecision (some challenge) 3 := by
  cases decision with
  | undecided => cases at_decision; simp [withDecision] at h
  | coordinatorAccepted _ => cases at_decision; simp [withDecision] at h
  | bothAccepted challenge => exact ⟨challenge, rfl, at_decision⟩
  | terminal => obtain ⟨_, rfl⟩ := at_decision; simp [withDecision] at h

theorem At.fields :
    (self.acceptedRoles = 0 ∧ self.decisionChallenge = none) ∨
      (self.acceptedRoles = 1 ∧ self.decisionChallenge.isSome) ∨
      (self.acceptedRoles = 3 ∧ self.decisionChallenge.isSome) ∨ self.acceptedRoles = 255 := by
  cases decision with
  | undecided => cases at_decision; exact .inl ⟨rfl, rfl⟩
  | coordinatorAccepted _ => cases at_decision; exact .inr (.inl ⟨rfl, rfl⟩)
  | bothAccepted _ => cases at_decision; exact .inr (.inr (.inl ⟨rfl, rfl⟩))
  | terminal => obtain ⟨_, rfl⟩ := at_decision; exact .inr (.inr (.inr rfl))

end

/-- A call at a decision makes a move, and the fields follow it. -/
def Moves (start self : NegotiatedTranscript) (decision : Decision) (call : DecisionCall) : Prop :=
  ∃ next, Decision.Move start decision ⟨call, (self.perform call).1⟩ next ∧
    At start (self.perform call).2 next

theorem moves_of_eq {result : Run NegotiationWireError DecisionAnswer}
    {after : NegotiatedTranscript} {next : Decision} (run : self.perform call = (result, after))
    (move : Decision.Move start decision ⟨call, result⟩ next) (at_next : At start after next) :
    Moves start self decision call := by
  unfold Moves
  rw [run]
  exact ⟨next, move, at_next⟩

theorem moves_of_closed (e : NegotiationWireError) (decides : call.Decides)
    (at_decision : At start self decision)
    (run : self.perform call = (.error (.error e), self.close)) : Moves start self decision call :=
  moves_of_eq run (.fail decision call e decides) at_decision.close

theorem moves_coordinatorAccept (at_decision : At start self decision)
    (challenge : DecisionChallenge) : Moves start self decision (.coordinatorAccept challenge) := by
  by_cases h : self.acceptedRoles = 0
  · obtain ⟨rfl, rfl⟩ := at_decision.of_roles_zero h
    exact moves_of_eq rfl (.offer challenge) rfl
  · refine moves_of_eq ?_ (.refuse decision _ .decisionReplayOrOrder id) at_decision
    simp [perform, coordinatorAccept, h, Run.fail, Except.map]

theorem moves_receiverAccept (at_decision : At start self decision) :
    Moves start self decision .receiverAccept := by
  by_cases h : self.acceptedRoles = 1
  · obtain ⟨challenge, rfl, rfl⟩ := at_decision.of_roles_one h
    exact moves_of_eq rfl (.answer challenge) rfl
  · refine moves_of_eq ?_ (.refuse decision _ .decisionReplayOrOrder id) at_decision
    simp [perform, receiverAccept, h, Run.fail, Except.map]

theorem moves_takeAcceptedFacts (at_decision : At start self decision) :
    Moves start self decision .takeAcceptedFacts := by
  by_cases h : self.acceptedRoles = 3
  · obtain ⟨challenge, rfl, rfl⟩ := at_decision.of_roles_three h
    exact moves_of_eq rfl (.take challenge) at_decision.close
  · refine moves_of_closed .decisionReplayOrOrder trivial at_decision ?_
    simp [perform, takeAcceptedFacts, h, Run.fail, Except.map]

/-- A REJECT with the session's nonce passes its own check. -/
theorem Fresh.reject_validate (fresh : start.Fresh) (role : SenderRole) (reason : NonZeroU32)
    (challenge : DecisionChallenge) :
    RejectFrame.validate ⟨role, start.nonce, reason, challenge⟩ = .ok () :=
  RejectFrame.validate_eq_ok.mpr fresh.nonce_ne_zero

theorem moves_coordinatorReject (fresh : start.Fresh) (at_decision : At start self decision)
    (challenge : DecisionChallenge) (reason : NonZeroU32) :
    Moves start self decision (.coordinatorReject challenge reason) := by
  by_cases h : self.acceptedRoles = 0
  · obtain ⟨rfl, rfl⟩ := at_decision.of_roles_zero h
    refine moves_of_eq ?_ (.rejectCoordinator challenge reason) at_decision.close
    have hvalid := fresh.reject_validate .coordinator reason challenge
    simp [perform, coordinatorReject, withDecision, hvalid, Except.map]
  · refine moves_of_closed .decisionReplayOrOrder trivial at_decision ?_
    simp [perform, coordinatorReject, h, Run.fail, Except.map]

theorem moves_receiverReject (fresh : start.Fresh) (at_decision : At start self decision)
    (reason : NonZeroU32) : Moves start self decision (.receiverReject reason) := by
  by_cases h : self.acceptedRoles = 1
  · obtain ⟨challenge, rfl, rfl⟩ := at_decision.of_roles_one h
    refine moves_of_eq ?_ (.rejectReceiver challenge reason) at_decision.close
    have hvalid := fresh.reject_validate .receiver reason challenge
    simp [perform, receiverReject, withDecision, hvalid, Except.map]
  · refine moves_of_closed .decisionReplayOrOrder trivial at_decision ?_
    simp [perform, receiverReject, h, Run.fail, Except.map]

/-- What `validate_reject` has checked when it returns a reason. -/
theorem of_validateReject {reject : RejectFrame} {reason : NonZeroU32}
    (run : (self.validateReject reject role).1 = .ok reason) :
    (role = .coordinator ∧ self.acceptedRoles = 0 ∨
      role = .receiver ∧ self.acceptedRoles = 1 ∧
        self.decisionChallenge = some reject.decisionChallenge) ∧
      reject = ⟨role, self.nonce, reason, reject.decisionChallenge⟩ := by
  obtain ⟨rejectRole, nonce, rejectReason, challenge⟩ := reject
  cases role with
  | coordinator =>
    simp only [validateReject, bind_eq_ok, rejectIf_eq_ok, pure_eq_ok, not_or, not_not,
      orderIsValid, beq_iff_eq] at run
    obtain ⟨_, order, _, -, _, ⟨rfl, rfl⟩, rfl⟩ := run
    exact ⟨.inl ⟨rfl, order⟩, rfl⟩
  | receiver =>
    simp only [validateReject, bind_eq_ok, rejectIf_eq_ok, okOr_eq_ok, pure_eq_ok, not_or, not_not,
      orderIsValid, beq_iff_eq] at run
    obtain ⟨_, order, _, -, _, ⟨rfl, rfl⟩, _, challenged, _, rfl, rfl⟩ := run
    exact ⟨.inr ⟨rfl, order, challenged⟩, rfl⟩

theorem noFault_validateReject (self : NegotiatedTranscript) (reject : RejectFrame)
    (role : SenderRole) : NoFault (self.validateReject reject role).1 := by
  refine noFault_rejectIf_bind fun _ => ?_
  refine noFault_rejectIf_bind fun _ => ?_
  refine noFault_rejectIf_bind fun _ => ?_
  cases role with
  | coordinator => exact noFault_pure _
  | receiver =>
    refine noFault_bind (noFault_okOr _ _) fun _ _ => ?_
    exact noFault_rejectIf_bind fun _ => noFault_pure _

theorem moves_validateReject (at_decision : At start self decision) (reject : RejectFrame)
    (role : SenderRole) : Moves start self decision (.validateReject reject role) := by
  have perform_eq (result) (h : (self.validateReject reject role).1 = result) :
      self.perform (.validateReject reject role) = (result.map .rejected, self.close) := by
    rw [← h]
    rfl
  have hnoFault := noFault_validateReject self reject role
  cases result : (self.validateReject reject role).1 with
  | error stop =>
    cases stop with
    | error e => exact moves_of_closed e trivial at_decision (perform_eq _ result)
    | fault => exact absurd result hnoFault
  | ok reason =>
    obtain ⟨⟨rfl, order⟩ | ⟨rfl, order, challenged⟩, hreject⟩ := of_validateReject result
    · obtain ⟨rfl, rfl⟩ := at_decision.of_roles_zero order
      rw [hreject] at result perform_eq ⊢
      exact moves_of_eq (perform_eq _ result) (.rejectedByCoordinator _ reason) at_decision.close
    · obtain ⟨challenge, rfl, rfl⟩ := at_decision.of_roles_one order
      cases challenged
      rw [hreject] at result perform_eq ⊢
      exact moves_of_eq (perform_eq _ result) (.rejectedByReceiver _ reason) at_decision.close

theorem At.version (fresh : start.Fresh) (at_decision : At start self decision) :
    self.wireMajor = Session.wireMajor ∧ self.wireMinor = Session.wireMinor := by
  refine ⟨Eq.trans ?_ fresh.wireMajor_eq, Eq.trans ?_ fresh.wireMinor_eq⟩
  all_goals
    cases decision with
    | terminal => obtain ⟨_, rfl⟩ := at_decision; rfl
    | _ => cases at_decision; rfl

theorem validateAccept_of_outOfOrder
    (version : self.wireMajor = Session.wireMajor ∧ self.wireMinor = Session.wireMinor)
    (order : self.OutOfOrder role) :
    self.validateAccept accept role = (fail .decisionReplayOrOrder, self.close) := by
  unfold validateAccept
  rw [if_neg (by simp [version]), if_pos order]

/-- In order, `validate_accept` compares the whole frame. -/
theorem validateAccept_of_inOrder {challenge : DecisionChallenge}
    (version : self.wireMajor = Session.wireMajor ∧ self.wireMinor = Session.wireMinor)
    (order : ¬ self.OutOfOrder role)
    (expected : self.expectedChallenge accept role = some challenge) :
    (accept = self.acceptFrame role challenge ∧
        self.validateAccept accept role = (.ok (), self.recordAccept role challenge)) ∨
      ∃ e, self.validateAccept accept role = (fail e, self.close) := by
  unfold validateAccept
  rw [if_neg (by simp [version]), if_neg order, expected]
  by_cases mismatch : role = .receiver ∧ accept.decisionChallenge ≠ challenge
  · exact .inr ⟨_, if_pos mismatch⟩
  by_cases same : accept = self.acceptFrame role challenge
  · exact .inl ⟨same, (if_neg mismatch).trans (if_neg (not_not.mpr same))⟩
  · exact .inr ⟨_, (if_neg mismatch).trans (if_pos same)⟩

theorem recordAccept_coordinator (start : NegotiatedTranscript) (challenge : DecisionChallenge) :
    (start.withDecision none 0).recordAccept .coordinator challenge =
      start.withDecision (some challenge) 1 := by
  simp [recordAccept, withDecision, expectedBit]

theorem recordAccept_receiver (start : NegotiatedTranscript)
    (challenge challenge' : DecisionChallenge) :
    (start.withDecision (some challenge) 1).recordAccept .receiver challenge' =
      start.withDecision (some challenge) 3 := by
  have hroles : (1 : UInt8) ||| 2 = 3 := by decide
  simp [recordAccept, withDecision, expectedBit, hroles]

theorem not_outOfOrder_coordinator (start : NegotiatedTranscript) :
    ¬ (start.withDecision none 0).OutOfOrder .coordinator := by
  change ¬ ((0 : UInt8) = 255 ∨ ((1 : UInt8) = 2 ∧ (0 : UInt8) ≠ 1) ∨ (0 : UInt8) &&& 1 ≠ 0)
  decide

theorem not_outOfOrder_receiver (start : NegotiatedTranscript) (challenge : DecisionChallenge) :
    ¬ (start.withDecision (some challenge) 1).OutOfOrder .receiver := by
  change ¬ ((1 : UInt8) = 255 ∨ ((2 : UInt8) = 2 ∧ (1 : UInt8) ≠ 1) ∨ (1 : UInt8) &&& 2 ≠ 0)
  decide

theorem At.outOfOrder_coordinator (at_decision : At start self decision)
    (h : self.acceptedRoles ≠ 0) : self.OutOfOrder .coordinator := by
  unfold OutOfOrder
  rcases at_decision.fields with ⟨h', -⟩ | ⟨h', -⟩ | ⟨h', -⟩ | h'
  · exact absurd h' h
  · rw [h']; decide
  · rw [h']; decide
  · exact .inl h'

theorem moves_validateAccept (fresh : start.Fresh) (at_decision : At start self decision)
    (accept : AcceptFrame) (role : SenderRole) :
    Moves start self decision (.validateAccept accept role) := by
  have version := at_decision.version fresh
  -- Every refusal closes the machine; only the frame of the transcript itself is accepted.
  have closed (e) (h : self.validateAccept accept role = (fail e, self.close)) :
      Moves start self decision (.validateAccept accept role) := by
    refine moves_of_closed e trivial at_decision ?_
    rw [perform, h]
    rfl
  have recorded (next) (challenge)
      (h : self.validateAccept accept role = (.ok (), self.recordAccept role challenge))
      (move : Decision.Move start decision ⟨.validateAccept accept role, .ok .accepted⟩ next)
      (at_next : At start (self.recordAccept role challenge) next) :
      Moves start self decision (.validateAccept accept role) := by
    refine moves_of_eq ?_ move at_next
    rw [perform, h]
    rfl
  cases role with
  | coordinator =>
    by_cases h : self.acceptedRoles = 0
    · obtain ⟨rfl, rfl⟩ := at_decision.of_roles_zero h
      have order := start.not_outOfOrder_coordinator
      obtain ⟨same, run⟩ | ⟨e, run⟩ := validateAccept_of_inOrder version order rfl
      · refine recorded (.coordinatorAccepted _) _ run ?_ (recordAccept_coordinator _ _)
        rw [same]
        exact .acceptCoordinator _
      · exact closed e run
    · exact closed _ (validateAccept_of_outOfOrder version (at_decision.outOfOrder_coordinator h))
  | receiver =>
    by_cases h : self.acceptedRoles = 1
    · obtain ⟨challenge, rfl, rfl⟩ := at_decision.of_roles_one h
      have order := start.not_outOfOrder_receiver challenge
      obtain ⟨same, run⟩ | ⟨e, run⟩ := validateAccept_of_inOrder version order rfl
      · refine recorded (.bothAccepted challenge) _ run ?_ (recordAccept_receiver _ _ _)
        rw [same]
        exact .acceptReceiver challenge
      · exact closed e run
    · exact closed _ (validateAccept_of_outOfOrder version (.inr (.inl ⟨rfl, h⟩)))

/-- Every call on the fields is a move of the machine. -/
theorem moves (fresh : start.Fresh) (at_decision : At start self decision) (call : DecisionCall) :
    Moves start self decision call := by
  cases call with
  | coordinatorAccept challenge => exact moves_coordinatorAccept at_decision challenge
  | receiverAccept => exact moves_receiverAccept at_decision
  | coordinatorReject challenge reason =>
    exact moves_coordinatorReject fresh at_decision challenge reason
  | receiverReject reason => exact moves_receiverReject fresh at_decision reason
  | validateAccept accept role => exact moves_validateAccept fresh at_decision accept role
  | validateReject reject role => exact moves_validateReject at_decision reject role
  | takeAcceptedFacts => exact moves_takeAcceptedFacts at_decision

theorem at_start (fresh : start.Fresh) : At start start .undecided := by
  obtain ⟨_, _, _, _, _, _, _, _, challenge, roles⟩ := start
  cases fresh.challenge_eq
  cases fresh.roles_eq
  rfl

/-- The fields of a run from a fresh transcript follow the machine. -/
theorem run_follows (fresh : start.Fresh) (run : Trace Step start events self) :
    ∃ decision, Trace (Decision.Move start) .undecided events decision ∧
      At start self decision := by
  refine Trace.simulate (R := At start) (at_start fresh) ?_ run
  intro state event next decision at_decision step
  obtain ⟨next', move, at_next⟩ := moves fresh at_decision event.call
  rw [step] at move at_next
  exact ⟨next', move, at_next⟩

end NegotiatedTranscript

/-! ### Runs of the machine -/

namespace Decision

open NegotiatedTranscript

variable {start : NegotiatedTranscript}
  {event : DecisionEvent} {next : Decision} {answer : DecisionAnswer}

theorem Move.of_terminal (move : Move start .terminal event next) :
    next = .terminal ∧ ∃ stop, event.result = .error stop := by
  cases move with
  | refuse _ _ e _ => exact ⟨rfl, _, rfl⟩
  | fail _ _ e _ => exact ⟨rfl, _, rfl⟩

/-- The machine stays terminal, and every later call fails. -/
theorem run_of_terminal (run : Trace (Move start) .terminal events decision) :
    decision = .terminal ∧ ∀ event ∈ events, ∃ stop, event.result = .error stop := by
  induction run with
  | nil => simp
  | snoc before last ih =>
    obtain ⟨rfl, failed⟩ := ih
    obtain ⟨rfl, failed'⟩ := last.of_terminal
    refine ⟨rfl, ?_⟩
    simp only [List.mem_append, List.mem_singleton]
    rintro event (h | rfl)
    · exact failed event h
    · exact failed'

/-- The ACCEPT of a successful `validate_accept`, with the role it was checked for. -/
def acceptedFrame : DecisionEvent → Option (AcceptFrame × SenderRole)
  | ⟨.validateAccept frame role, .ok _⟩ => some (frame, role)
  | _ => none

/-- The frames that were accepted before a decision. -/
def acceptedFrames (start : NegotiatedTranscript) : Decision → List (AcceptFrame × SenderRole)
  | .undecided | .terminal => []
  | .coordinatorAccepted challenge => [(start.acceptFrame .coordinator challenge, .coordinator)]
  | .bothAccepted challenge => [(start.acceptFrame .coordinator challenge, .coordinator),
      (start.acceptFrame .receiver challenge, .receiver)]

/-- Up to its end, the machine has accepted exactly the frames of its decision. -/
theorem acceptedFrames_of_run
    (run : Trace (Move start) .undecided events decision) (live : decision ≠ .terminal) :
    events.filterMap acceptedFrame = acceptedFrames start decision := by
  induction run with
  | nil => rfl
  | snoc before last ih =>
    rw [List.filterMap_append]
    cases last with
    | offer | answer | acceptCoordinator | acceptReceiver => rw [ih nofun]; rfl
    | refuse _ call e reads =>
      rw [ih live]
      cases call <;> simp_all [acceptedFrame, DecisionCall.Decides]
    | _ => exact absurd rfl live

/-- A call that changes the machine and fails ends it. -/
theorem Move.terminal_of_error (move : Move start decision event next)
    (decides : event.call.Decides) {stop : Stop NegotiationWireError}
    (failed : event.result = .error stop) : next = .terminal := by
  cases move with
  | refuse _ _ _ reads => exact absurd decides reads
  | fail => rfl
  | _ => cases failed

theorem Move.of_take (move : Move start decision ⟨.takeAcceptedFacts, .ok answer⟩ next) :
    ∃ challenge, decision = .bothAccepted challenge ∧ answer = .facts (start.facts challenge) ∧
      next = .terminal := by
  cases move with
  | take challenge => exact ⟨challenge, rfl, rfl, rfl⟩

theorem Move.terminal_of_reject (move : Move start decision ⟨call, .ok answer⟩ next)
    (rejects : call.Rejects) : next = .terminal := by
  cases move with
  | offer | answer | acceptCoordinator | acceptReceiver => cases rejects
  | _ => rfl

end Decision

namespace NegotiatedTranscript

variable {start self : NegotiatedTranscript} {decision : Decision}

theorem At.terminal_of_roles (at_decision : At start self decision)
    (h : self.acceptedRoles = 255) : decision = .terminal := by
  cases decision with
  | terminal => rfl
  | _ => cases at_decision; simp [withDecision] at h

/-- The transcript's own ACCEPT is accepted in order. -/
theorem validateAccept_own (role : SenderRole) (challenge : DecisionChallenge)
    (version : self.wireMajor = Session.wireMajor ∧ self.wireMinor = Session.wireMinor)
    (order : ¬ self.OutOfOrder role)
    (expected : self.expectedChallenge (self.acceptFrame role challenge) role = some challenge) :
    self.validateAccept (self.acceptFrame role challenge) role =
      (.ok (), self.recordAccept role challenge) := by
  unfold validateAccept
  rw [if_neg (by simp [version]), if_neg order, expected]
  simp [acceptFrame]

/-- A fresh transcript accepts the coordinator's ACCEPT, whatever its challenge. -/
theorem Fresh.validateAccept (fresh : start.Fresh) (challenge : DecisionChallenge) :
    start.validateAccept (start.acceptFrame .coordinator challenge) .coordinator =
      (.ok (), start.withDecision (some challenge) 1) := by
  have at_undecided : At start (start.withDecision none 0) .undecided := rfl
  have checked := validateAccept_own .coordinator challenge (at_undecided.version fresh)
    start.not_outOfOrder_coordinator rfl
  rw [recordAccept_coordinator, ← at_start fresh] at checked
  exact checked

/-- After the coordinator's ACCEPT the receiver's with the same challenge is accepted. -/
theorem Fresh.validateAccept_receiver (fresh : start.Fresh) (challenge : DecisionChallenge) :
    (start.withDecision (some challenge) 1).validateAccept
        (start.acceptFrame .receiver challenge) .receiver =
      (.ok (), start.withDecision (some challenge) 3) := by
  have at_coordinator : At start (start.withDecision (some challenge) 1)
    (.coordinatorAccepted challenge) := rfl
  have checked := validateAccept_own .receiver challenge (at_coordinator.version fresh)
    (start.not_outOfOrder_receiver challenge) rfl
  rw [recordAccept_receiver] at checked
  exact checked

theorem step_validateAccept {next : NegotiatedTranscript}
    (checked : self.validateAccept accept role = (.ok (), next)) :
    Step self ⟨.validateAccept accept role, .ok .accepted⟩ next := by
  rw [Step, perform, checked]
  rfl

/-- The calls of a session that both endpoints accept. -/
def acceptingEvents (start : NegotiatedTranscript) (challenge : DecisionChallenge) :
    List DecisionEvent :=
  [⟨.validateAccept (start.acceptFrame .coordinator challenge) .coordinator, .ok .accepted⟩,
    ⟨.validateAccept (start.acceptFrame .receiver challenge) .receiver, .ok .accepted⟩,
    ⟨.takeAcceptedFacts, .ok (.facts (start.facts challenge))⟩]

theorem run_accepting (fresh : start.Fresh) (challenge : DecisionChallenge) :
    Trace Step start (acceptingEvents start challenge)
      (start.withDecision (some challenge) 255) := by
  have first := step_validateAccept (fresh.validateAccept challenge)
  have second := step_validateAccept (fresh.validateAccept_receiver challenge)
  have third : Step (start.withDecision (some challenge) 3)
      ⟨.takeAcceptedFacts, .ok (.facts (start.facts challenge))⟩
      (start.withDecision (some challenge) 255) := rfl
  exact ((Trace.nil.snoc first).snoc second).snoc third

/-- The decision machine over every sequence of calls on a transcript of `from_hello_pair`. -/
theorem decision_machine {host : Host} {sha256 : Bytes → FixedBytes 32} {hellos : HelloPair}
    {capabilities : AtomicCapabilities}
    (made : fromHelloPair host sha256 hellos capabilities = .ok start)
    {events : List DecisionEvent} (run : Trace Step start events self) :
    ((self.acceptedRoles = 0 ∧ self.decisionChallenge = none) ∨
      (self.acceptedRoles = 1 ∧ self.decisionChallenge.isSome) ∨
      (self.acceptedRoles = 3 ∧ self.decisionChallenge.isSome) ∨ self.acceptedRoles = 255) ∧
    (∀ event next, Step self event next →
      (self.acceptedRoles = 255 → next.acceptedRoles = 255) ∧
      (event.call.Decides → (∃ stop, event.result = .error stop) → next.acceptedRoles = 255)) ∧
    (∀ earlier later answer, events = earlier ++ ⟨.takeAcceptedFacts, .ok answer⟩ :: later →
      (∀ answer', ⟨.takeAcceptedFacts, .ok answer'⟩ ∉ earlier ++ later) ∧
      ∃ challenge, answer = .facts (start.facts challenge) ∧
        earlier.filterMap Decision.acceptedFrame =
          [(start.acceptFrame .coordinator challenge, .coordinator),
            (start.acceptFrame .receiver challenge, .receiver)]) ∧
    ∀ earlier later call answer, events = earlier ++ ⟨call, .ok answer⟩ :: later → call.Rejects →
      ∀ call' answer', call'.Accepts → ⟨call', .ok answer'⟩ ∉ later := by
  have fresh := fresh_of_fromHelloPair made
  obtain ⟨decision, moves, at_decision⟩ := run_follows fresh run
  refine ⟨at_decision.fields, ?_, ?_, ?_⟩
  · intro event next step
    obtain ⟨next', move, at_next⟩ := NegotiatedTranscript.moves fresh at_decision event.call
    rw [step] at move at_next
    have roles (h : next' = .terminal) : next.acceptedRoles = 255 := by
      subst h
      obtain ⟨_, rfl⟩ := at_next
      rfl
    constructor
    · intro h
      cases at_decision.terminal_of_roles h
      exact roles move.of_terminal.1
    · rintro decides ⟨stop, failed⟩
      exact roles (move.terminal_of_error decides failed)
  · rintro earlier later answer rfl
    obtain ⟨mid, next, before, move, after⟩ := moves.at_event
    obtain ⟨challenge, rfl, rfl, rfl⟩ := move.of_take
    have accepted := Decision.acceptedFrames_of_run before nofun
    refine ⟨?_, challenge, rfl, accepted⟩
    intro answer' again
    obtain again | again := List.mem_append.mp again
    · -- An earlier take would have ended the machine before this one.
      obtain ⟨first, second, rfl⟩ := List.append_of_mem again
      obtain ⟨_, next', -, move', after'⟩ := before.at_event
      obtain ⟨_, -, -, rfl⟩ := move'.of_take
      cases (Decision.run_of_terminal after').1
    · obtain ⟨_, failed⟩ := (Decision.run_of_terminal after).2 _ again
      cases failed
  · rintro earlier later call answer rfl rejects call' answer' - again
    obtain ⟨mid, next, before, move, after⟩ := moves.at_event
    cases move.terminal_of_reject rejects
    obtain ⟨_, failed⟩ := (Decision.run_of_terminal after).2 _ again
    cases failed

/-- Both endpoints of the sample pair accept, and the facts are taken once. -/
theorem decision_machine_sample :
    ∃ start challenge self, fromHelloPair sampleHost (fun _ => FixedBytes.zero 32)
        ⟨sampleHello .coordinator true 4 [1], sampleHello .receiver false 8 [2, 3]⟩
        (sampleAtomics true) = .ok start ∧
      Trace Step start (acceptingEvents start challenge) self ∧
      ((acceptingEvents start challenge).take 2).filterMap Decision.acceptedFrame =
        [(start.acceptFrame .coordinator challenge, .coordinator),
          (start.acceptFrame .receiver challenge, .receiver)] := by
  obtain ⟨start, made⟩ : ∃ start, fromHelloPair sampleHost (fun _ => FixedBytes.zero 32)
      ⟨sampleHello .coordinator true 4 [1], sampleHello .receiver false 8 [2, 3]⟩
      (sampleAtomics true) = .ok start := ⟨_, eq_ok_get (by decide +kernel)⟩
  have challenge : DecisionChallenge := ⟨⟨List.replicate 16 1, rfl⟩, by decide⟩
  have run := run_accepting (fresh_of_fromHelloPair made) challenge
  obtain ⟨-, challenge', same, accepted⟩ :=
    (decision_machine made run).2.2.1 ((acceptingEvents start challenge).take 2) [] _ rfl
  cases congrArg AcceptedTranscriptFacts.decisionChallenge (DecisionAnswer.facts.inj same)
  exact ⟨start, challenge, _, made, run, accepted⟩

end NegotiatedTranscript

end NativeIpc.Session
