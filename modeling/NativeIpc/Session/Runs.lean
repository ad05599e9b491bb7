import NativeIpc.Lib.Trace
import NativeIpc.Session.Opening

/-!
# Runs of an accepted session

Every way in which the owner of an accepted session can go on: the operations of
the dispatcher, the begins that hand it to a guard, the operations of a guard,
its `commit`, and dropping it at any point. The environment answers as it likes.
A run is a trace of such steps.
-/

namespace NativeIpc.Session

open NativeIpc.Lib Bytes Run CoordinatorTransaction

/-! ### Steps -/

/-- Who has the dispatcher: the owner of the session, or a guard that has borrowed it. -/
inductive Holder where
  | owner (d : Dispatcher)
  | coordinator (tx : CoordinatorTransaction)
  | receiver (tx : ReceiverTransaction)

/-- The dispatcher, whoever has it. -/
def Holder.dispatcher : Holder → Dispatcher
  | .owner d => d
  | .coordinator tx => tx.borrowed.dispatcher
  | .receiver tx => tx.borrowed.dispatcher

/-- The operations of a dispatcher that do not hand it to a guard, with those of the public
    session that put them together. -/
inductive Operation where
  | sendParts (kind : UInt32) (payload : Bytes) (deadline : Deadline)
  | receive (deadline : Deadline)
  | tryPollPeer
  | tryCloseResources
  | poisonSession
  | waitForChild (deadline : Deadline)
  | abortChild (deadline : Deadline)
  | waitForWindowsChild (deadline : Deadline)
  | terminateWindowsChild (deadline : Deadline)
  | terminateAndReap (deadline : Deadline)
  | waitForLinuxPeerExit (deadline : Deadline)
  | beginPublicTransferCapacity (batch : TransferBatch) (deadline : Deadline)
  | reserveTransferBatch (batch : TransferBatch)
  | exchangePublicTransferCapacity (frame : CapabilityFrame) (status : CoordinatorCapacityStatus)
      (deadline : Deadline)
  | activateCoordinatorBatch (committed : CoordinatorCommitted)
  | activateReceiverBatch (committed : ReceiverCommitted)
  | dropLeases (leases : List LeaseReservation)
  | transferBatch (batch : TransferBatch) (deadline : Deadline)
  | receiveBatch (expected : ExpectedBatch) (deadline : Deadline)

/-- What each operation runs. -/
def Operation.run (t : Target) (backend : Backend) : Operation → Effect Dispatcher Unit Unit
  | .sendParts kind payload deadline =>
    Op.outcome (Dispatcher.sendParts t backend kind payload deadline)
  | .receive deadline => Op.outcome (Dispatcher.receive t backend deadline)
  | .tryPollPeer => Op.outcome (Dispatcher.tryPollPeer backend)
  | .tryCloseResources => Op.outcome Dispatcher.tryCloseResources
  | .poisonSession => Op.outcome Dispatcher.poisonSession
  | .waitForChild deadline => Op.outcome (Dispatcher.waitForChild deadline)
  | .abortChild deadline => Op.outcome (Dispatcher.abortChild backend deadline)
  | .waitForWindowsChild deadline => Op.outcome (Dispatcher.waitForWindowsChild deadline)
  | .terminateWindowsChild deadline => Op.outcome (Dispatcher.terminateWindowsChild deadline)
  | .terminateAndReap deadline => Op.outcome (Dispatcher.terminateAndReap backend deadline)
  | .waitForLinuxPeerExit deadline => Op.outcome (Dispatcher.waitForLinuxPeerExit deadline)
  | .beginPublicTransferCapacity batch deadline =>
    Op.outcome (Dispatcher.beginPublicTransferCapacity batch deadline)
  | .reserveTransferBatch batch => Op.outcome (Dispatcher.reserveTransferBatch batch)
  | .exchangePublicTransferCapacity frame status deadline =>
    Op.outcome (Dispatcher.exchangePublicTransferCapacity backend frame status deadline)
  | .activateCoordinatorBatch committed =>
    Op.outcome (Dispatcher.activateCoordinatorBatch t backend committed)
  | .activateReceiverBatch committed =>
    Op.outcome (Dispatcher.activateReceiverBatch t backend committed)
  | .dropLeases leases => Op.outcome (Dispatcher.dropLeases leases : Effect Dispatcher Empty Unit)
  | .transferBatch batch deadline =>
    Op.outcome (Dispatcher.transferBatch t backend batch deadline)
  | .receiveBatch expected deadline =>
    Op.outcome (Dispatcher.receiveBatch t backend expected deadline)

/-- The begins of a coordinator's guard. -/
inductive CoordinatorBegin where
  | preflighted (batch : MixedDirectionBatch) (reservations : List LeaseReservation)
      (frame : CapabilityFrame) (deadline : Deadline)
  | sections (batch : MixedDirectionBatch) (deadline : Deadline)
  | linuxReserved (batch : MixedDirectionBatch) (reservations : List LeaseReservation)
      (deadline : Deadline)
  | linuxMixed (batch : MixedDirectionBatch) (deadline : Deadline)
  | linuxWriter (batch : MixedDirectionBatch) (deadline : Deadline)

/-- What each begin runs. -/
def CoordinatorBegin.run (backend : Backend) :
    CoordinatorBegin → BatchEffect Dispatcher CoordinatorTransaction
  | .preflighted batch reservations frame deadline =>
    Dispatcher.beginPublicMixedDirectionBatchPreflighted backend batch reservations frame deadline
  | .sections batch deadline => Dispatcher.sectionBeginMixedDirectionBatch backend batch deadline
  | .linuxReserved batch reservations deadline =>
    Dispatcher.linuxBeginMixedDirectionBatchReserved batch reservations deadline
  | .linuxMixed batch deadline => Dispatcher.linuxBeginMixedDirectionBatch batch deadline
  | .linuxWriter batch deadline => Dispatcher.linuxBeginWriterBatch batch deadline

/-- The begins of a receiver's guard. -/
inductive ReceiverBegin where
  | publicMixed (expected : ExpectedBatch) (deadline : Deadline)
  | mixed (expected : ExpectedBatch) (deadline : Deadline)
  | linuxWriter (writer : WriterEndpoint) (expected : ExpectedBatch) (deadline : Deadline)

/-- What each begin runs. -/
def ReceiverBegin.run (t : Target) (backend : Backend) :
    ReceiverBegin → Effect Dispatcher Dispatcher.BatchBeginError ReceiverTransaction
  | .publicMixed expected deadline =>
    Dispatcher.beginPublicExpectedMixedDirectionBatch t backend expected deadline
  | .mixed expected deadline =>
    Op.mapError Dispatcher.BatchBeginError.beforeTransaction
      (Dispatcher.beginExpectedMixedDirectionBatch t backend expected deadline)
  | .linuxWriter writer expected deadline =>
    Op.mapError Dispatcher.BatchBeginError.beforeTransaction
      (Dispatcher.linuxBeginExpectedBatch t writer expected deadline)

/-- The operations of a coordinator's guard before its `commit`. -/
inductive CoordinatorCall where
  | prepare
  | linuxWriterSend
  | linuxReceiverWriterPrepare

/-- What each operation runs. -/
def CoordinatorCall.run (backend : Backend) :
    CoordinatorCall → BatchEffect CoordinatorTransaction Unit
  | .prepare => CoordinatorTransaction.prepare backend
  | .linuxWriterSend => CoordinatorTransaction.linuxWriterSend
  | .linuxReceiverWriterPrepare => CoordinatorTransaction.linuxReceiverWriterPrepare

/-- The operations of a receiver's guard before its `commit`. -/
inductive ReceiverCall where
  | prepare
  | linuxCoordinatorWriterReceive
  | linuxReceiverWriterPrepare

/-- What each operation runs. -/
def ReceiverCall.run (t : Target) (backend : Backend) :
    ReceiverCall → BatchEffect ReceiverTransaction Unit
  | .prepare => ReceiverTransaction.prepare t backend
  | .linuxCoordinatorWriterReceive => ReceiverTransaction.linuxCoordinatorWriterReceive t
  | .linuxReceiverWriterPrepare => ReceiverTransaction.linuxReceiverWriterPrepare t

/-- What is done in a step. -/
inductive Action where
  | call (operation : Operation)
  | beginCoordinator (begins : CoordinatorBegin)
  | beginReceiver (begins : ReceiverBegin)
  | coordinatorCall (call : CoordinatorCall)
  | receiverCall (call : ReceiverCall)
  | commit
  | drop

/-- A step as it is seen from outside: what was done, the answers of the environment, and whether
    it returned, failed or faulted. -/
structure Event where
  action : Action
  log : Log Call Reply
  outcome : Run Unit Unit

/-- The steps of a session. `commit` consumes its guard, which is dropped however it ends. -/
inductive Step (t : Target) (backend : Backend) : Holder → Event → Holder → Prop
  | call {operation : Operation} {d d' : Dispatcher} {log : Log Call Reply}
      {outcome : Run Unit Unit}
      (runs : Op.Returns (operation.run t backend) d log outcome d') :
      Step t backend (.owner d) ⟨.call operation, log, outcome⟩ (.owner d')
  | coordinatorBegun {begins : CoordinatorBegin} {d d' : Dispatcher}
      {log : Log Call Reply} {tx : CoordinatorTransaction}
      (runs : Op.Returns (begins.run backend) d log (.ok tx) d') :
      Step t backend (.owner d) ⟨.beginCoordinator begins, log, .ok ()⟩ (.coordinator tx)
  | coordinatorRefused {begins : CoordinatorBegin} {d d' : Dispatcher}
      {log : Log Call Reply} {stop : Stop CapabilityBatchError}
      (runs : Op.Returns (begins.run backend) d log (.error stop) d') :
      Step t backend (.owner d)
        ⟨.beginCoordinator begins, log, outcome (.error stop : Run _ Unit)⟩ (.owner d')
  | receiverBegun {begins : ReceiverBegin} {d d' : Dispatcher}
      {log : Log Call Reply} {tx : ReceiverTransaction}
      (runs : Op.Returns (begins.run t backend) d log (.ok tx) d') :
      Step t backend (.owner d) ⟨.beginReceiver begins, log, .ok ()⟩ (.receiver tx)
  | receiverRefused {begins : ReceiverBegin} {d d' : Dispatcher}
      {log : Log Call Reply} {stop : Stop Dispatcher.BatchBeginError}
      (runs : Op.Returns (begins.run t backend) d log (.error stop) d') :
      Step t backend (.owner d)
        ⟨.beginReceiver begins, log, outcome (.error stop : Run _ Unit)⟩ (.owner d')
  | coordinatorCall {call : CoordinatorCall} {tx tx' : CoordinatorTransaction}
      {log : Log Call Reply} {result : Run CapabilityBatchError Unit}
      (runs : Op.Returns (call.run backend) tx log result tx') :
      Step t backend (.coordinator tx) ⟨.coordinatorCall call, log, result.outcome⟩
        (.coordinator tx')
  | receiverCall {call : ReceiverCall} {tx tx' : ReceiverTransaction}
      {log : Log Call Reply} {result : Run CapabilityBatchError Unit}
      (runs : Op.Returns (call.run t backend) tx log result tx') :
      Step t backend (.receiver tx) ⟨.receiverCall call, log, result.outcome⟩ (.receiver tx')
  | coordinatorCommit {tx tx' : CoordinatorTransaction} {log : Log Call Reply}
      {result : Run CapabilityBatchError CoordinatorCommitted}
      (runs : Op.Returns (CoordinatorTransaction.commit backend) tx log result tx') :
      Step t backend (.coordinator tx) ⟨.commit, log, result.outcome⟩ (.owner tx'.drop)
  | receiverCommit {tx tx' : ReceiverTransaction} {log : Log Call Reply}
      {result : Run CapabilityBatchError ReceiverCommitted}
      (runs : Op.Returns (ReceiverTransaction.commit backend) tx log result tx') :
      Step t backend (.receiver tx) ⟨.commit, log, result.outcome⟩ (.owner tx'.drop)
  | coordinatorDrop {tx : CoordinatorTransaction} :
      Step t backend (.coordinator tx) ⟨.drop, [], .ok ()⟩ (.owner tx.drop)
  | receiverDrop {tx : ReceiverTransaction} :
      Step t backend (.receiver tx) ⟨.drop, [], .ok ()⟩ (.owner tx.drop)

/-! ### What a step keeps -/

open Dispatcher

/-- A guard that will not poison any more has done so. -/
def Holder.Honest : Holder → Prop
  | .owner _ => True
  | .coordinator tx => tx.borrowed.Honest
  | .receiver tx => tx.borrowed.Honest

/-- The operations that a poisoned session refuses. -/
def Operation.needsLive : Operation → Bool
  | .sendParts _ _ _ | .receive _ | .tryPollPeer | .beginPublicTransferCapacity _ _
  | .transferBatch _ _ | .receiveBatch _ _ => true
  | _ => false

/-- The one operation that opens a transaction and returns without a guard for it. -/
def Operation.leavesOpen : Operation → Bool
  | .beginPublicTransferCapacity _ _ => true
  | _ => false

/-- A begin is not made over an open transaction while the ledger is live. -/
def Dispatcher.CanBegin (d : Dispatcher) : Prop :=
  d.state.transactionOpen = true → d.resources.state ≠ .active

/-- The use of an operation that leaves the three marks of poison together. It looks at the state
    alone, so it leaves out some uses that do: a `transfer_batch` over an open transaction whose
    deadline has expired, and an exchange without one whose send fails. -/
def Operation.Regular (d : Dispatcher) : Operation → Prop
  | .terminateWindowsChild _ | .terminateAndReap _ => d.resources.state ≠ .active
  | .exchangePublicTransferCapacity _ _ _ =>
    d.state.transactionOpen = true ∨ d.state.poisoned = true
  | .beginPublicTransferCapacity _ _ | .transferBatch _ _ | .receiveBatch _ _ => d.CanBegin
  | _ => True

/-- What an operation came to. -/
structure Operation.Done (operation : Operation) (d : Dispatcher) (outcome : Run Unit Unit)
    (d' : Dispatcher) : Prop where
  evolves : d.Evolves d'
  settled : operation.Regular d → d.Settled → d'.Settled
  live : operation.needsLive = true → outcome = .ok () → d.state.poisoned = false
  closed : operation.leavesOpen = false → outcome ≠ .error .fault → d.Closed → d'.Closed

namespace Operation.Done

variable {ε α : Type} {operation : Operation} {d d' : Dispatcher} {outcome : Run Unit Unit}
  {log : Log Call Reply} {x : Effect Dispatcher ε α}

/-- An operation that opens and ends no transaction. -/
theorem of_steady (steady : Op.Keeps Steady x)
    (live : operation.needsLive = true → d.state.poisoned = true →
      ∃ error d', x d = .ret (fail error, d'))
    (runs : Op.Returns (Op.outcome x) d log outcome d') : operation.Done d outcome d' := by
  obtain ⟨result, hx, rfl⟩ := runs.of_outcome
  have related := steady.of_returns hx
  refine ⟨related.toEvolves, fun _ => related.settled, ?_, fun _ _ => related.closed⟩
  intro needs returned
  by_contra poisoned
  obtain ⟨error, _, refused⟩ := live needs (by simpa using poisoned)
  obtain ⟨a, rfl⟩ := outcome_eq_ok.mp returned
  unfold Op.Returns at hx
  rw [refused] at hx
  cases hx.of_ret.2

/-- An operation that begins a transaction. -/
theorem of_begins {after : α → Dispatcher → Prop} (begins : Begins after x)
    (regular : operation.Regular d → d.CanBegin)
    (ends : operation.leavesOpen = false → ∀ a d', after a d' → d'.Closed)
    (runs : Op.Returns (Op.outcome x) d log outcome d') : operation.Done d outcome d' := by
  obtain ⟨result, hx, rfl⟩ := runs.of_outcome
  have begun := (begins d).of_returns hx
  refine ⟨begun.evolves, fun fits settled => begun.settled ⟨settled, regular fits⟩, ?_, ?_⟩
  · intro _ returned
    obtain ⟨a, ok⟩ := outcome_eq_ok.mp returned
    exact (begun.returned a ok).1
  · intro guarded noFault closed
    rcases result with (error | _) | a
    · exact begun.closed error rfl closed
    · exact absurd rfl noFault
    · exact ends guarded a d' (begun.returned a rfl).2

end Operation.Done

variable {t : Target} {backend : Backend}
  {d : Dispatcher} {log : Log Call Reply} {begin : CoordinatorBegin}

theorem Operation.done {operation : Operation} {d' : Dispatcher} {outcome : Run Unit Unit}
    (runs : Op.Returns (operation.run t backend) d log outcome d') :
    operation.Done d outcome d' := by
  cases operation with
  | sendParts kind payload deadline =>
    refine .of_steady keeps_sendParts ?_ runs
    exact fun _ poisoned => ⟨_, _, sendParts_of_poisoned poisoned⟩
  | receive deadline =>
    refine .of_steady keeps_receive ?_ runs
    exact fun _ poisoned => ⟨_, _, receive_of_poisoned poisoned⟩
  | tryPollPeer =>
    refine .of_steady keeps_tryPollPeer ?_ runs
    exact fun _ poisoned => ⟨_, _, tryPollPeer_of_poisoned poisoned⟩
  | tryCloseResources => exact .of_steady keeps_tryCloseResources nofun runs
  | poisonSession => exact .of_steady keeps_poisonSession nofun runs
  | waitForChild deadline => exact .of_steady keeps_waitForChild nofun runs
  | abortChild deadline => exact .of_steady keeps_abortChild nofun runs
  | waitForWindowsChild deadline => exact .of_steady keeps_waitForWindowsChild nofun runs
  | terminateWindowsChild deadline =>
    obtain ⟨result, hx, -⟩ := runs.of_outcome
    have related := keeps_terminateWindowsChild.of_returns hx
    exact ⟨related.evolves, related.settled, nofun, fun _ _ _ => .inr related.poisoned⟩
  | terminateAndReap deadline =>
    obtain ⟨result, hx, -⟩ := runs.of_outcome
    have related := keeps_terminateAndReap.of_returns hx
    exact ⟨related.evolves, related.settled, nofun, fun _ _ _ => .inr related.poisoned⟩
  | waitForLinuxPeerExit deadline => exact .of_steady keeps_waitForLinuxPeerExit nofun runs
  | beginPublicTransferCapacity batch deadline =>
    exact .of_begins begins_beginPublicTransferCapacity id nofun runs
  | reserveTransferBatch batch => exact .of_steady keeps_reserveMappedLengths nofun runs
  | exchangePublicTransferCapacity frame status deadline =>
    obtain ⟨result, hx, -⟩ := runs.of_outcome
    have related := keeps_exchangePublicTransferCapacity.of_returns hx
    exact ⟨related.evolves, related.settled, nofun, fun _ _ => related.closed⟩
  | activateCoordinatorBatch committed => exact .of_steady keeps_activateCoordinatorBatch nofun runs
  | activateReceiverBatch committed => exact .of_steady keeps_activateReceiverBatch nofun runs
  | dropLeases leases => exact .of_steady keeps_dropLeases nofun runs
  | transferBatch batch deadline =>
    exact .of_begins begins_transferBatch id (fun _ _ _ closed => closed) runs
  | receiveBatch expected deadline =>
    exact .of_begins begins_receiveBatch id (fun _ _ _ closed => closed) runs

/-- The begin that takes an open transaction over. -/
def CoordinatorBegin.isPreflighted : CoordinatorBegin → Bool
  | .preflighted _ _ _ _ => true
  | _ => false

theorem CoordinatorBegin.begins (enters : begin.isPreflighted = false) :
    Begins (HandedTo CoordinatorTransaction.borrowed) (begin.run backend) := by
  cases begin with
  | preflighted batch reservations frame deadline => cases enters
  | sections batch deadline => exact begins_sectionBeginMixedDirectionBatch
  | linuxReserved batch reservations deadline => exact begins_linuxBeginMixedDirectionBatchReserved
  | linuxMixed batch deadline => exact begins_linuxBeginMixedDirectionBatch
  | linuxWriter batch deadline => exact begins_linuxBeginWriterBatch

theorem ReceiverBegin.begins (t : Target) (backend : Backend) (begin : ReceiverBegin) :
    Begins (HandedTo ReceiverTransaction.borrowed) (begin.run t backend) := by
  cases begin with
  | publicMixed expected deadline => exact begins_beginPublicExpectedMixedDirectionBatch
  | mixed expected deadline => exact begins_beginExpectedMixedDirectionBatch.mapError
  | linuxWriter writer expected deadline => exact begins_linuxBeginExpectedBatch.mapError

open Borrowed

theorem CoordinatorCall.keeps (backend : Backend) (call : CoordinatorCall) :
    Op.Keeps (InvImage (Lifted Steady) CoordinatorTransaction.borrowed)
      (call.run backend) := by
  cases call with
  | prepare => exact keeps_prepare
  | linuxWriterSend => exact keeps_linuxWriterSend
  | linuxReceiverWriterPrepare => exact keeps_linuxReceiverWriterPrepare

open ReceiverTransaction

theorem ReceiverCall.keeps (t : Target) (backend : Backend) (call : ReceiverCall) :
    Op.Keeps (InvImage (Lifted Steady) ReceiverTransaction.borrowed)
      (call.run t backend) := by
  cases call with
  | prepare => exact keeps_prepare
  | linuxCoordinatorWriterReceive => exact keeps_linuxCoordinatorWriterReceive
  | linuxReceiverWriterPrepare => exact keeps_linuxReceiverWriterPrepare

namespace Action

/-- The actions that a poisoned session refuses: every operation that does, every begin that
    enters a transaction, and `commit`. -/
def needsLive : Action → Bool
  | .call operation => operation.needsLive
  | .beginCoordinator begins => !begins.isPreflighted
  | .beginReceiver _ => true
  | .commit => true
  | _ => false

/-- The actions that leave the three marks of poison together. -/
def Regular (d : Dispatcher) : Action → Prop
  | .call operation => operation.Regular d
  | .beginCoordinator begins => begins.isPreflighted = false → d.CanBegin
  | .beginReceiver _ => d.CanBegin
  | _ => True

/-- The actions that consume a guard. -/
def endsGuard : Action → Bool
  | .commit | .drop => true
  | _ => false

/-- The action that opens a transaction and returns without a guard for it. -/
def leavesOpen : Action → Bool
  | .call operation => operation.leavesOpen
  | _ => false

end Action

/-- Where no guard is left, no transaction is open or the session is poisoned. -/
def Holder.AtRest : Holder → Prop
  | .owner d => d.Closed
  | .coordinator _ | .receiver _ => True

/-- What a step came to. -/
structure Stepped (h : Holder) (e : Event) (h' : Holder) : Prop where
  evolves : h.dispatcher.Evolves h'.dispatcher
  honest : h'.Honest
  settled : e.action.Regular h.dispatcher → h.dispatcher.Settled → h'.dispatcher.Settled
  live : e.action.needsLive = true → e.outcome = .ok () → h.dispatcher.state.poisoned = false
  ended : e.action.endsGuard = true → h'.dispatcher.Closed
  atRest : e.action.leavesOpen = false → e.outcome ≠ .error .fault → h.AtRest → h'.AtRest

/-- What a begin came to, whether it enters a transaction or takes one over. -/
structure Action.Begun {ε τ : Type} (action : Action) (part : τ → Borrowed) (d : Dispatcher)
    (result : Run ε τ) (d' : Dispatcher) : Prop where
  evolves : d.Evolves d'
  settled : action.Regular d → d.Settled → d'.Settled
  handed : ∀ tx, result = .ok tx → HandedTo part tx d'
  live : action.needsLive = true → ∀ tx, result = .ok tx → d.state.poisoned = false
  closed : ∀ error, result = fail error → d.Closed → d'.Closed

section Begun

variable {ε τ : Type} {part : τ → Borrowed} {d' : Dispatcher}

theorem Action.Begun.of_begins {x : Effect Dispatcher ε τ} {result : Run ε τ} {action : Action}
    (begins : Begins (HandedTo part) x) (regular : action.Regular d → d.CanBegin)
    (runs : Op.Returns x d log result d') : action.Begun part d result d' := by
  have begun := (begins d).of_returns runs
  exact
    { evolves := begun.evolves
      settled := fun fits settled => begun.settled ⟨settled, regular fits⟩
      handed := fun tx ok => (begun.returned tx ok).2
      live := fun _ tx ok => (begun.returned tx ok).1
      closed := begun.closed }

/-- A begin that hands out its guard, which has nothing to hide. -/
theorem Stepped.of_handed {e : Event} {tx : τ} {h : Holder}
    (begun : e.action.Begun part d (.ok tx : Run ε τ) d')
    (held : h.dispatcher = (part tx).dispatcher) (honest : (part tx).Honest → h.Honest)
    (kept : e.action.endsGuard = false) (atRest : h.AtRest) : Stepped (.owner d) e h := by
  obtain ⟨borrowed, -⟩ := begun.handed tx rfl
  have same : h.dispatcher = d' := held.trans (congrArg dispatcher borrowed)
  refine ⟨?_, honest ?_, ?_, fun needs _ => begun.live needs tx rfl, ?_, fun _ _ _ => atRest⟩
  · rw [same]
    exact begun.evolves
  · rw [borrowed]
    exact nofun
  · rw [same]
    exact begun.settled
  · intro ends
    rw [kept] at ends
    cases ends

theorem Stepped.of_refused {action : Action} {stop : Stop ε}
    (begun : action.Begun part d (.error stop) d') (kept : action.endsGuard = false) :
    Stepped (.owner d) ⟨action, log, outcome (.error stop : Run ε Unit)⟩ (.owner d') := by
  refine ⟨begun.evolves, trivial, begun.settled, ?_, ?_, ?_⟩
  · intro _ returned
    obtain ⟨a, failed⟩ := outcome_eq_ok.mp returned
    cases failed
  · intro ends
    rw [kept] at ends
    cases ends
  · intro _ noFault closed
    cases stop with
    | error error => exact begun.closed error rfl closed
    | fault => exact absurd rfl noFault

end Begun

theorem CoordinatorBegin.begun {d' : Dispatcher}
    {result : Run CapabilityBatchError CoordinatorTransaction}
    (runs : Op.Returns (begin.run backend) d log result d') :
    (Action.beginCoordinator begin).Begun CoordinatorTransaction.borrowed d result d' := by
  cases enters : begin.isPreflighted with
  | false => exact .of_begins (begins enters) (fun regular => regular enters) runs
  | true =>
    cases begin with
    | preflighted batch reservations frame deadline =>
      obtain ⟨steady, handed, closed⟩ :=
        (ensures_beginPublicMixedDirectionBatchPreflighted d).of_returns runs
      exact ⟨steady.toEvolves, fun _ => steady.settled, handed, nofun,
        fun error failed _ => closed error failed⟩
    | sections batch deadline => cases enters
    | linuxReserved batch reservations deadline => cases enters
    | linuxMixed batch deadline => cases enters
    | linuxWriter batch deadline => cases enters

theorem ReceiverBegin.begun {begin : ReceiverBegin} {d' : Dispatcher}
    {result : Run BatchBeginError ReceiverTransaction}
    (runs : Op.Returns (begin.run t backend) d log result d') :
    (Action.beginReceiver begin).Begun ReceiverTransaction.borrowed d result d' :=
  .of_begins (begins t backend begin) id runs

/-- The end of a guard: whatever came before, dropping it closes its transaction. -/
theorem Stepped.of_ended {ε α : Type} {h : Holder} {e : Event} {b b' : Borrowed} {result : Run ε α}
    (held : h.dispatcher = b.dispatcher) (honest : b.Honest) (finished : Finished b result b')
    (dropped : b'.dispatcher.Steady d) (closed : b'.Spent → d.Closed)
    (live : e.action.needsLive = true → e.outcome = .ok () → ∃ a, result = .ok a) :
    Stepped h e (.owner d) := by
  have closes := closed (finished.spent honest)
  refine ⟨?_, trivial, ?_, ?_, fun _ => closes, fun _ _ _ => closes⟩
  · rw [held]
    exact trans_of Evolves finished.evolves dropped.toEvolves
  · rw [held]
    exact fun _ settled => dropped.settled (finished.settled honest settled)
  · intro needs returned
    obtain ⟨a, ok⟩ := live needs returned
    rw [held]
    exact finished.live a ok

/-- Every step of a session, once and for all. -/
theorem Step.stepped {h h' : Holder} {e : Event}
    (honest : h.Honest) (step : Step t backend h e h') : Stepped h e h' := by
  cases step with
  | call runs =>
    have done := Operation.done runs
    exact ⟨done.evolves, trivial, done.settled, done.live, nofun, done.closed⟩
  | coordinatorBegun runs => exact .of_handed (CoordinatorBegin.begun runs) rfl id rfl trivial
  | coordinatorRefused runs => exact .of_refused (CoordinatorBegin.begun runs) rfl
  | receiverBegun runs => exact .of_handed (ReceiverBegin.begun runs) rfl id rfl trivial
  | receiverRefused runs => exact .of_refused (ReceiverBegin.begun runs) rfl
  | coordinatorCall runs =>
    have related := (CoordinatorCall.keeps backend _).of_returns runs
    exact ⟨related.1.toEvolves, related.2 honest, fun _ => related.1.settled, nofun, nofun,
      fun _ _ _ => trivial⟩
  | receiverCall runs =>
    have related := (ReceiverCall.keeps t backend _).of_returns runs
    exact ⟨related.1.toEvolves, related.2 honest, fun _ => related.1.settled, nofun, nofun,
      fun _ _ _ => trivial⟩
  | @coordinatorCommit tx tx' log result runs =>
    have finished := (finishes_commit tx).of_returns runs
    exact .of_ended rfl honest finished tx'.rel_drop closed_drop fun _ => outcome_eq_ok.mp
  | @receiverCommit tx tx' log result runs =>
    have finished := (finishes_commit tx).of_returns runs
    exact .of_ended rfl honest finished tx'.rel_drop closed_drop fun _ => outcome_eq_ok.mp
  | @coordinatorDrop tx =>
    exact .of_ended rfl honest .untouched tx.rel_drop closed_drop nofun
  | @receiverDrop tx =>
    exact .of_ended rfl honest .untouched tx.rel_drop closed_drop nofun

/-! ### What a run keeps -/

section Run

variable {t : Target} {backend : Backend} {start h : Holder} {events : List Event}

theorem run_evolves (honest : start.Honest) (run : Trace (Step t backend) start events h) :
    h.Honest ∧ start.dispatcher.Evolves h.dispatcher := by
  refine run.invariant (I := fun _ h => h.Honest ∧ start.dispatcher.Evolves h.dispatcher)
    ⟨honest, refl_of Evolves _⟩ ?_
  intro _ state e next _ ih step
  have stepped := step.stepped ih.1
  exact ⟨stepped.honest, trans_of Evolves ih.2 stepped.evolves⟩

/-- A poisoned session refuses what needs a live one from then on. -/
theorem run_refused (honest : start.Honest) (poisoned : start.dispatcher.state.poisoned = true)
    (run : Trace (Step t backend) start events h) {e : Event} (member : e ∈ events)
    (needs : e.action.needsLive = true) : e.outcome ≠ .ok () := by
  intro returned
  obtain ⟨earlier, later, rfl⟩ := List.append_of_mem member
  obtain ⟨mid, next, before, step, -⟩ := run.at_event
  obtain ⟨honest', evolves⟩ := run_evolves honest before
  have live := (step.stepped honest').live needs returned
  rw [evolves.control.poisoned poisoned] at live
  cases live

/-- As long as no step leaves a transaction open without a guard, none is open without one. -/
theorem run_atRest (honest : start.Honest) (atRest : start.AtRest)
    (run : Trace (Step t backend) start events h)
    (guarded : ∀ e ∈ events, e.action.leavesOpen = false ∧ e.outcome ≠ .error .fault) :
    h.AtRest := by
  refine run.invariant (I := fun events h =>
    (∀ e ∈ events, e.action.leavesOpen = false ∧ e.outcome ≠ .error .fault) → h.AtRest)
    (fun _ => atRest) ?_ guarded
  intro events state e next before ih step guarded
  have stepped := step.stepped (run_evolves honest before).1
  obtain ⟨noBegin, noFault⟩ := guarded e (by simp)
  exact stepped.atRest noBegin noFault (ih fun e' member => guarded e' (by simp [member]))

end Run

/-- A dispatcher as it is made for an accepted session. -/
theorem Dispatcher.new_facts {transport : Transport} {parameters : AcceptedSessionParameters}
    (accepted : Dispatcher.new t transport parameters = some d) :
    d.parameters = parameters ∧ d.Ordered ∧ d.Settled ∧ d.Closed := by
  unfold Dispatcher.new at accepted
  dsimp only at accepted
  split at accepted
  · cases accepted
  · rename_i valid
    simp only [Option.bind_eq_bind, Option.bind_eq_some_iff, Option.some.injEq] at accepted
    obtain ⟨_, -, state, hstate, _, -, rfl⟩ := accepted
    unfold ControlState.new at hstate
    split at hstate
    · cases hstate
    · cases hstate
      refine ⟨rfl, ⟨?_, Nat.one_pos, by simp, rfl⟩,
        ⟨rfl, fun poisoned => by cases poisoned⟩, .inl rfl⟩
      have hvalid : parameters.limits.Valid t := by
        cases hlimits : parameters.limits.validate t with
        | error stop => exact absurd (.inl (by rw [hlimits]; rfl)) valid
        | ok limits => exact (SessionLimits.validate_eq_ok.mp hlimits).1
      have bound := hvalid.maxTransactions_le
      intro last
      rw [last] at bound
      exact absurd bound (by decide)

/-! ### Application records -/

/-- The actions that send or accept an application record. -/
def Action.isRecord : Action → Bool
  | .call (.sendParts _ _ _) | .call (.receive _) => true
  | _ => false

/-- While a transaction is open no record is sent or accepted, and nothing is called at all. -/
theorem Step.record_of_open {h h' : Holder} {e : Event}
    (step : Step t backend h e h') (isOpen : h.dispatcher.state.transactionOpen = true)
    (record : e.action.isRecord = true) : e.log = [] ∧ e.outcome ≠ .ok () := by
  have refused {ε α : Type} {x : Effect Dispatcher ε α} {d d' : Dispatcher}
      {log : Log Call Reply} {outcome : Run Unit Unit}
      (runs : Op.Returns (Op.outcome x) d log outcome d')
      (ends : ∃ error d', x d = .ret (fail error, d')) : log = [] ∧ outcome ≠ .ok () := by
    obtain ⟨result, hx, rfl⟩ := runs.of_outcome
    obtain ⟨error, last, same⟩ := ends
    unfold Op.Returns at hx
    rw [same] at hx
    obtain ⟨rfl, hresult⟩ := hx.of_ret
    cases hresult
    exact ⟨rfl, nofun⟩
  cases step with
  | @call operation d d' log outcome runs =>
    cases operation with
    | sendParts kind payload deadline => exact refused runs (sendParts_of_open isOpen)
    | receive deadline => exact refused runs (receive_of_open isOpen)
    | _ => cases record
  | _ => cases record

/-! ### A session to try -/

namespace Sample

/-- An environment in which nothing goes wrong. -/
def calm : (c : Call) → Reply c
  | .expired _ => false
  | .tryReserve _ => true
  | .sendRecord _ _ => .ok ()
  | .receiveRecord _ _ => .ok []
  | .sendCapabilities _ _ => .ok ()
  | .receiveCapabilities _ _ => .ok ⟨[], []⟩
  | .pollPeer => .ok .running
  | .waitPeerExit _ => .ok .exitedUnknown
  | .reapChild _ _ => ⟨true, none⟩
  | .childExitCode _ _ => .ok 0
  | .native _ => .ok 0

/-- An environment in which every deadline has passed. -/
def late : (c : Call) → Reply c
  | .expired _ => true
  | c => calm c

def nonce : FixedBytes 32 := .filled 32 1

variable (backend : Backend)

theorem one_ne_zero : (1 : UInt32) ≠ 0 := by decide

theorem two_ne_zero : (2 : UInt32) ≠ 0 := by decide

def parameters : AcceptedSessionParameters where
  facts := ⟨1, 2, nonce, one_ne_zero, two_ne_zero, by decide, by decide⟩
  limits := .default
  authorityProfile := backend.profile

def transport : Transport := ⟨false, false, []⟩

theorem new_isSome : (Dispatcher.new .w64 transport (parameters backend)).isSome := by
  cases backend <;> decide +kernel

def dispatcher : Dispatcher :=
  (Dispatcher.new .w64 transport (parameters backend)).get (new_isSome backend)

theorem new_eq : Dispatcher.new .w64 transport (parameters backend) = some (dispatcher backend) :=
  (Option.some_get _).symm

def region : PreparedRegion where
  id := ⟨1, by decide⟩
  writer := .coordinator
  logicalLen := 1
  mappedLen := 4096
  incarnation := .filled 16 1
  guardRequested := .bestEffort
  logicalLen_ne_zero := by decide
  logicalLen_le := by decide
  incarnation_ne_zero := by decide

def batch : TransferBatch where
  regions := [region]
  maxRegions := 1
  maxRegionBytes := 4096
  maxBatchBytes := 4096
  totalLogical := 1
  totalMapped := 4096
  length_le := by decide
  maxRegions_le := by decide
  ids_nodup := by decide
  region_le := by decide
  totalLogical_eq := by decide
  totalMapped_eq := by decide
  totalLogical_le := by decide
  totalMapped_le := by decide

def deadline : Deadline := ⟨0⟩

def prepared : MixedDirectionBatch where
  entries := [⟨region, 0, .mapped⟩]
  deadline := deadline

/-- The dispatcher after an operation that the environment answers by `oracle`. -/
def next (oracle : (c : Call) → Reply c) (backend : Backend) (operation : Operation)
    (d : Dispatcher) : Dispatcher :=
  ((operation.run .w64 backend d).answeredBy oracle).2

theorem step_next (oracle : (c : Call) → Reply c) (backend : Backend) (operation : Operation)
    (d : Dispatcher) :
    ∃ log, Step .w64 backend (.owner d)
      ⟨.call operation, log, ((operation.run .w64 backend d).answeredBy oracle).1⟩
      (.owner (next oracle backend operation d)) := by
  obtain ⟨log, runs⟩ := Op.Returns.answeredBy oracle (operation.run .w64 backend) d
  exact ⟨log, .call runs⟩

/-- The frame that a capacity begin of the session offers. -/
def offer : CapabilityFrame :=
  ((beginPublicTransferCapacity batch deadline (dispatcher .linux)).answeredBy
    calm).1.toOption.get (by decide +kernel)

/-- A receiver that has no room for what it is offered. -/
def declining : (c : Call) → Reply c
  | .receiveRecord _ _ => .ok (offer.receiverCapacityFrame false)
  | c => calm c

/-- The session with a transaction that was opened without a guard. -/
def opened : Dispatcher :=
  next calm .linux (.beginPublicTransferCapacity batch deadline) (dispatcher .linux)

/-- A preflighted begin after the session was poisoned on top. -/
def takeOver : CoordinatorBegin := .preflighted prepared [⟨4096⟩] offer deadline

theorem takeOver_returns :
    ((takeOver.run .linux (next calm .linux .poisonSession opened)).answeredBy
      calm).1.toOption.isSome := by
  decide +kernel

end Sample

/-! ### Poison is final and no transaction dangles -/

/-- From any point of any run: poison is final, and no live operation succeeds after it; the end of
    a guard leaves no transaction open; at rest, nothing but a bare capacity begin or a panic opens
    one; the ids issued are 1, 2, 3 and so on up to the limit; and an open transaction shuts out
    records without a call. -/
theorem poison_final {t : Target} {backend : Backend} {transport : Transport}
    {parameters : AcceptedSessionParameters} {d₀ : Dispatcher} {events : List Event} {h : Holder}
    (accepted : Dispatcher.new t transport parameters = some d₀)
    (run : Trace (Step t backend) (.owner d₀) events h) :
    (h.dispatcher.state.poisoned = true → ∀ later h', Trace (Step t backend) h later h' →
      (∀ e ∈ later, e.action.needsLive = true → e.outcome ≠ .ok ()) ∧
      h'.dispatcher.state.nextSend = h.dispatcher.state.nextSend ∧
      h'.dispatcher.state.nextReceive = h.dispatcher.state.nextReceive ∧
      h'.dispatcher.nextTransaction = h.dispatcher.nextTransaction) ∧
    (∀ e h', Step t backend h e h' → e.action.endsGuard = true → h'.dispatcher.Closed) ∧
    (h.AtRest → ∀ later h', Trace (Step t backend) h later h' →
      (∀ e ∈ later, e.action.leavesOpen = false ∧ e.outcome ≠ .error .fault) → h'.AtRest) ∧
    (h.dispatcher.issued.map UInt64.toNat = List.range' 1 h.dispatcher.issued.length ∧
      ∀ id ∈ h.dispatcher.issued, id ≤ parameters.limits.maxTransactions) ∧
    (∀ deadline, Op.Ensures (fun result _ => NoFault result) h.dispatcher
      (enterNativeTransaction deadline)) ∧
    (h.dispatcher.state.transactionOpen = true → ∀ e h', Step t backend h e h' →
      e.action.isRecord = true → e.log = [] ∧ e.outcome ≠ .ok ()) := by
  obtain ⟨sameParameters, ordered, -, -⟩ := Dispatcher.new_facts accepted
  have fresh : Holder.Honest (.owner d₀) := trivial
  obtain ⟨honest, evolves⟩ := run_evolves fresh run
  have parameters_eq : h.dispatcher.parameters = parameters :=
    evolves.parameters.trans sameParameters
  have numbered := evolves.ordered ordered
  refine ⟨?_, ?_, ?_, ⟨numbered.issued_eq, ?_⟩, ?_, ?_⟩
  · intro poisoned later h' rest
    obtain ⟨-, after⟩ := run_evolves honest rest
    obtain ⟨sends, receives⟩ := after.control.frozen poisoned
    exact ⟨fun e member needs => run_refused honest poisoned rest member needs, sends, receives,
      after.nextTransaction poisoned⟩
  · exact fun e h' step ends => (step.stepped honest).ended ends
  · exact fun atRest later h' rest guarded => run_atRest honest atRest rest guarded
  · rw [← parameters_eq]
    exact fun id => numbered.le_maxTransactions
  · intro deadline
    exact (ensures_enterNativeTransaction _).mono fun _ _ entered => entered.noFault numbered
  · exact fun isOpen e h' step record => step.record_of_open isOpen record

theorem poison_final_linux :
    ∃ events h, Trace (Step .w64 .linux) (.owner (Sample.dispatcher .linux)) events h ∧
      h.dispatcher.state.poisoned = true ∧ h.dispatcher.issued = [1, 2] ∧
      h.dispatcher.issued.map UInt64.toNat = List.range' 1 h.dispatcher.issued.length ∧
      ∀ later h', Trace (Step .w64 .linux) h later h' →
        h'.dispatcher.nextTransaction = h.dispatcher.nextTransaction := by
  -- The receiver declines the first transaction; the second is open when the poison comes.
  obtain ⟨_, begins⟩ := Sample.step_next Sample.calm .linux
    (.beginPublicTransferCapacity Sample.batch Sample.deadline) (Sample.dispatcher .linux)
  obtain ⟨_, declines⟩ := Sample.step_next Sample.declining .linux
    (.exchangePublicTransferCapacity Sample.offer .ready Sample.deadline) Sample.opened
  obtain ⟨_, again⟩ := Sample.step_next Sample.calm .linux
    (.beginPublicTransferCapacity Sample.batch Sample.deadline) _
  obtain ⟨_, poisons⟩ := Sample.step_next Sample.calm .linux .poisonSession _
  have run := (((Trace.nil.snoc begins).snoc declines).snoc again).snoc poisons
  obtain ⟨final, -, -, ⟨numbered, -⟩, -⟩ := poison_final (Sample.new_eq .linux) run
  exact ⟨_, _, run, rfl, by decide +kernel, numbered,
    fun later h' rest => (final rfl later h' rest).2.2.2⟩

theorem preflighted_begin_over_poison :
    (∃ events d log begins tx,
      Trace (Step .w64 .linux) (.owner (Sample.dispatcher .linux)) events (.owner d) ∧
      d.state.poisoned = true ∧
      Step .w64 .linux (.owner d) ⟨.beginCoordinator begins, log, .ok ()⟩ (.coordinator tx)) ∧
    ∃ events d log outcome d',
      Trace (Step .w64 .linux) (.owner (Sample.dispatcher .linux)) events (.owner d) ∧
      Step .w64 .linux (.owner d)
        ⟨.call (.transferBatch Sample.batch Sample.deadline), log, outcome⟩ (.owner d') ∧
      outcome = fail () ∧ ¬ d'.Closed := by
  obtain ⟨_, opens⟩ := Sample.step_next Sample.calm .linux
    (.beginPublicTransferCapacity Sample.batch Sample.deadline) (Sample.dispatcher .linux)
  have run := Trace.nil.snoc opens
  constructor
  · obtain ⟨_, poisons⟩ := Sample.step_next Sample.calm .linux .poisonSession Sample.opened
    exact ⟨_, _, _, _, _, run.snoc poisons, rfl,
      .coordinatorBegun (Proc.runs_logBy_of_fst Sample.calm (eq_ok_get Sample.takeOver_returns))⟩
  · obtain ⟨log, fails⟩ := Sample.step_next Sample.late .linux
      (.transferBatch Sample.batch Sample.deadline) Sample.opened
    exact ⟨_, _, _, _, _, run, fails, rfl, by decide +kernel⟩

/-! ### Joint poisoning -/

/-- A step that leaves the three marks of poison together. -/
def RegularStep (t : Target) (backend : Backend) (h : Holder) (e : Event) (h' : Holder) : Prop :=
  Step t backend h e h' ∧ e.action.Regular h.dispatcher

theorem run_settled {start h : Holder} {events : List Event}
    (honest : start.Honest) (settled : start.dispatcher.Settled)
    (run : Trace (RegularStep t backend) start events h) : h.dispatcher.Settled := by
  suffices both : h.Honest ∧ h.dispatcher.Settled from both.2
  refine run.invariant (I := fun _ h => h.Honest ∧ h.dispatcher.Settled) ⟨honest, settled⟩ ?_
  intro _ state e next _ ih step
  have stepped := step.1.stepped ih.1
  exact ⟨stepped.honest, stepped.settled step.2 ih.2⟩

/-- A settled session that reports `Poisoned` has a ledger that is over. -/
theorem Dispatcher.Settled.inactive (settled : d.Settled)
    (reported : d.sessionState = .poisoned) : d.resources.state ≠ .active := by
  unfold sessionState at reported
  split at reported
  · rename_i ended
    rcases ended with poisoned | inactive
    · exact (settled.joint poisoned).2
    · exact inactive
  · cases reported

/-- In every run of regular steps control poison comes with transport poison and an inactive ledger,
    and once the session reports poison no mapping can be accessed. -/
theorem poison_joint {t : Target} {backend : Backend} {transport : Transport}
    {parameters : AcceptedSessionParameters} {d₀ : Dispatcher} {events : List Event} {h : Holder}
    (accepted : Dispatcher.new t transport parameters = some d₀)
    (run : Trace (RegularStep t backend) (.owner d₀) events h) :
    (h.dispatcher.state.poisoned = true →
      h.dispatcher.transport.poisoned = true ∧ h.dispatcher.resources.state ≠ .active) ∧
    (h.dispatcher.sessionState = .poisoned →
      ∀ mapping : ActiveMapping, mapping.Refused t h.dispatcher.resources.state) := by
  obtain ⟨-, -, settled, -⟩ := Dispatcher.new_facts accepted
  have fresh : Holder.Honest (.owner d₀) := trivial
  have settled' := run_settled fresh settled run
  refine ⟨settled'.joint, fun reported mapping => ?_⟩
  exact ActiveMapping.refused_of_not_active t (settled'.inactive reported) mapping

theorem poison_joint_linux :
    ∃ event h, Trace (RegularStep .w64 .linux) (.owner (Sample.dispatcher .linux)) [event] h ∧
      h.dispatcher.state.poisoned = true ∧ h.dispatcher.transport.poisoned = true ∧
      h.dispatcher.resources.state ≠ .active := by
  obtain ⟨log, step⟩ := Sample.step_next Sample.calm .linux .poisonSession (Sample.dispatcher .linux)
  have run := Trace.nil.snoc (show RegularStep .w64 .linux _ _ _ from ⟨step, trivial⟩)
  have joint := (poison_joint (Sample.new_eq .linux) run).1 rfl
  exact ⟨_, _, run, rfl, joint⟩

/-- One byte behind a lease of the sample session. -/
def Sample.mapping : ActiveMapping where
  bytes := [7]
  logicalLen := 1
  pageSize := 4096
  lease := ⟨4096⟩
  logicalLen_pos := by decide
  logicalLen_le := by decide
  pageSize_pos := by decide

theorem terminated_child_leaves_ledger :
    ∃ events h, Trace (Step .w64 .windows) (.owner (Sample.dispatcher .windows)) events h ∧
      h.dispatcher.state.poisoned = true ∧ h.dispatcher.resources.state = .active ∧
      h.dispatcher.sessionState = .poisoned ∧
      Sample.mapping.readInto .w64 h.dispatcher.resources.state 0 1 = .ok [7] := by
  obtain ⟨_, reserves⟩ := Sample.step_next Sample.calm .windows (.reserveTransferBatch Sample.batch)
    (Sample.dispatcher .windows)
  obtain ⟨_, terminates⟩ := Sample.step_next Sample.calm .windows
    (.terminateWindowsChild Sample.deadline) _
  exact ⟨_, _, (Trace.nil.snoc reserves).snoc terminates, by decide +kernel, by decide +kernel,
    by decide +kernel, by decide +kernel⟩

end NativeIpc.Session
