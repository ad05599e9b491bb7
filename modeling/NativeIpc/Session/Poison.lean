import NativeIpc.Session.Evolution

/-!
# Poison

Three places record that a session is over: the control state, the transport and
the ledger. This module says what each operation does to the three and to the
counters, and which operations leave them at odds.
-/

namespace NativeIpc.Session

open NativeIpc.Lib Bytes Run
open Op (Ensures Keeps)

variable {ε ε' α β : Type}
  {d : Dispatcher} {state : ControlState}

namespace Dispatcher

/-! ### Relations between a dispatcher and what it becomes -/

/-- The ids handed out so far are 1, 2, 3, … below the next one, which is at most one above the
    limit. -/
structure Ordered (d : Dispatcher) : Prop where
  bounded : d.parameters.limits.maxTransactions ≠ u64Max
  next_pos : 0 < d.nextTransaction.toNat
  next_le : d.nextTransaction.toNat ≤ d.parameters.limits.maxTransactions.toNat + 1
  issued : d.issued.map UInt64.toNat = List.range' 1 (d.nextTransaction.toNat - 1)

theorem Ordered.issued_eq (h : d.Ordered) :
    d.issued.map UInt64.toNat = List.range' 1 d.issued.length := by
  have length := congrArg List.length h.issued
  rw [List.length_map, List.length_range'] at length
  rw [length]
  exact h.issued

theorem Ordered.le_maxTransactions (h : d.Ordered) {id : UInt64}
    (issued : id ∈ d.issued) : id ≤ d.parameters.limits.maxTransactions := by
  have member : id.toNat ∈ List.range' 1 (d.nextTransaction.toNat - 1) := by
    rw [← h.issued]
    exact List.mem_map_of_mem issued
  rw [List.mem_range'_1] at member
  rw [UInt64.le_iff_toNat_le]
  have := h.next_le
  omega

/-- What every operation leaves as it is, and what it leaves once the session is poisoned. -/
structure Evolves (d d' : Dispatcher) : Prop where
  parameters : d'.parameters = d.parameters
  control : d.state.Evolves d'.state
  nextTransaction : d.state.poisoned = true → d'.nextTransaction = d.nextTransaction
  ordered : d.Ordered → d'.Ordered
  inactive : d.resources.state ≠ .active → d'.resources.state ≠ .active

/-- The control state is poisoned only together with the transport and the ledger, and no record is
    half received. -/
structure Settled (d : Dispatcher) : Prop where
  idle : d.state.pendingReceive = false
  joint : d.state.poisoned = true → d.transport.poisoned = true ∧ d.resources.state ≠ .active

/-- An evolution that keeps the dispatcher settled and does not open or end a transaction. -/
structure Steady (d d' : Dispatcher) : Prop extends Evolves d d' where
  settled : d.Settled → d'.Settled
  transactionOpen : d'.state.transactionOpen = d.state.transactionOpen

/-- Nothing but the transport changes. -/
def OnlyTransport (d d' : Dispatcher) : Prop :=
  ∃ transport : Transport, (d.transport.poisoned = true → transport.poisoned = true) ∧
    d' = { d with transport }

instance : IsPreorder Dispatcher Evolves where
  refl d := ⟨rfl, refl_of ControlState.Evolves d.state, fun _ => rfl, id, id⟩
  trans _ _ _ first second :=
    { parameters := second.parameters.trans first.parameters
      control := trans_of ControlState.Evolves first.control second.control
      nextTransaction := fun poisoned =>
        (second.nextTransaction (first.control.poisoned poisoned)).trans
          (first.nextTransaction poisoned)
      ordered := second.ordered ∘ first.ordered
      inactive := second.inactive ∘ first.inactive }

instance : IsPreorder Dispatcher Steady where
  refl d := ⟨refl_of Evolves d, id, rfl⟩
  trans _ _ _ first second :=
    ⟨trans_of Evolves first.toEvolves second.toEvolves, second.settled ∘ first.settled,
      second.transactionOpen.trans first.transactionOpen⟩

instance : IsPreorder Dispatcher OnlyTransport where
  refl d := ⟨d.transport, id, rfl⟩
  trans _ _ _ first second := by
    obtain ⟨_, mono, rfl⟩ := first
    obtain ⟨transport, mono', rfl⟩ := second
    exact ⟨transport, mono' ∘ mono, rfl⟩

instance : AdmitsTransport OnlyTransport where
  transport _ transport mono := ⟨transport, mono, rfl⟩

variable {d' : Dispatcher}

/-- A change that leaves the control state and the counters. -/
theorem Evolves.of_same (parameters : d'.parameters = d.parameters) (state : d'.state = d.state)
    (next : d'.nextTransaction = d.nextTransaction) (issued : d'.issued = d.issued)
    (inactive : d.resources.state ≠ .active → d'.resources.state ≠ .active) : d.Evolves d' where
  parameters := parameters
  control := state ▸ refl_of ControlState.Evolves d.state
  nextTransaction _ := next
  ordered h := by
    constructor
    · rw [parameters]
      exact h.bounded
    · rw [next]
      exact h.next_pos
    · rw [parameters, next]
      exact h.next_le
    · rw [issued, next]
      exact h.issued
  inactive := inactive

/-- A step of the control state alone. -/
theorem Evolves.of_state (evolves : d.state.Evolves state) : d.Evolves { d with state } where
  parameters := rfl
  control := evolves
  nextTransaction _ := rfl
  ordered h := ⟨h.bounded, h.next_pos, h.next_le, h.issued⟩
  inactive := id

theorem evolves_poisonBoth (d : Dispatcher) : d.Evolves d.poisonBoth where
  parameters := rfl
  control := d.state.evolves_poison
  nextTransaction _ := rfl
  ordered h := ⟨h.bounded, h.next_pos, h.next_le, h.issued⟩
  inactive _ := d.resources.poison_state_ne_active

theorem settled_poisonBoth (idle : d.state.pendingReceive = false) : d.poisonBoth.Settled :=
  ⟨idle, fun _ => ⟨rfl, d.resources.poison_state_ne_active⟩⟩

instance : AdmitsTransport Evolves where
  transport _ _ _ := .of_same rfl rfl rfl rfl id

instance : Admits Evolves where
  poisonBoth := evolves_poisonBoth
  resources _ _ mono := .of_same rfl rfl rfl rfl mono
  poisoned _ _ related := related.control.poisoned

instance : AdmitsTransport Steady where
  transport _ _ mono :=
    { toEvolves := .of_same rfl rfl rfl rfl id
      settled := fun h => ⟨h.idle, fun poisoned => ⟨mono (h.joint poisoned).1, (h.joint poisoned).2⟩⟩
      transactionOpen := rfl }

instance : Admits Steady where
  poisonBoth d :=
    { d.evolves_poisonBoth with
      settled := fun h => settled_poisonBoth h.idle
      transactionOpen := rfl }
  resources _ _ mono :=
    { toEvolves := .of_same rfl rfl rfl rfl mono
      settled := fun h => ⟨h.idle, fun poisoned => ⟨(h.joint poisoned).1, mono (h.joint poisoned).2⟩⟩
      transactionOpen := rfl }
  poisoned _ _ related := related.control.poisoned

theorem OnlyTransport.steady (h : d.OnlyTransport d') : d.Steady d' := by
  obtain ⟨transport, mono, rfl⟩ := h
  exact AdmitsTransport.transport d transport mono

end Dispatcher

open Dispatcher

/-! ### Poisoning over an error -/

theorem ensures_poisonFail {post : Run ε α → Dispatcher → Prop} {error : ε}
    (holds : post (.error (.error error)) d.poisonBoth) : Ensures post d (poisonFail error) :=
  fun _ => holds

variable {x : Effect Dispatcher ε α}

/-- An error leaves the session poisoned. -/
theorem ensures_orPoison (convert : ε → ε') (steady : Keeps Steady x) (d : Dispatcher) :
    Ensures (fun result d' => d.Steady d' ∧
      ∀ error, result = fail error → d'.state.poisoned = true) d (orPoison convert x) := by
  refine Ensures.and (keeps_orPoison steady d) ?_
  refine Ensures.attempt_bind ((steady d).mono ?_)
  intro result d' _
  rcases result with (error | _) | a
  · exact ensures_poisonFail fun _ _ => rfl
  · exact .of_ofRun nofun
  · exact .of_pure nofun

/-- A step of the control state that does not open or end a transaction, or poison by itself. -/
theorem Dispatcher.Steady.of_state (evolves : d.state.Evolves state)
    (live : d.state.pendingReceive = false → state.poisoned = false)
    (open_eq : state.transactionOpen = d.state.transactionOpen) : d.Steady { d with state } where
  toEvolves := .of_state evolves
  settled h := by
    refine ⟨evolves.idle h.idle, fun poisoned => ?_⟩
    rw [live h.idle] at poisoned
    cases poisoned
  transactionOpen := open_eq

/-- A step of the control state after which everything is poisoned. -/
theorem Dispatcher.Steady.of_poisonBoth (evolves : d.state.Evolves state)
    (open_eq : state.transactionOpen = d.state.transactionOpen) :
    d.Steady (Dispatcher.poisonBoth { d with state }) where
  toEvolves := trans_of Evolves (.of_state evolves) (evolves_poisonBoth _)
  settled h := settled_poisonBoth (evolves.idle h.idle)
  transactionOpen := open_eq

/-! ### Terminating the child -/

/-- What terminating the child leaves: the control state and the transport are poisoned, and the
    ledger is as it was. -/
structure Dispatcher.Terminated (d d' : Dispatcher) : Prop where
  evolves : d.Evolves d'
  settled : d.resources.state ≠ .active → d.Settled → d'.Settled
  poisoned : d'.state.poisoned = true

theorem keeps_terminated (steady : Keeps Steady x) :
    Keeps Terminated (do
      Op.modify poisonTransport
      Op.modify fun d => { d with state := d.state.poison }
      x) := by
  intro d
  apply Ensures.modify_bind
  apply Ensures.modify_bind
  refine (steady _).mono ?_
  intro _ d' later
  constructor
  · have transport : d.Evolves d.poisonTransport := AdmitsTransport.transport d _ fun _ => rfl
    exact trans_of Evolves transport
      (trans_of Evolves (.of_state d.poisonTransport.state.evolves_poison) later.toEvolves)
  · intro inactive settled
    exact later.settled ⟨settled.idle, fun _ => ⟨rfl, inactive⟩⟩
  · exact later.control.poisoned rfl

theorem keeps_terminateWindowsChild {deadline : Deadline} :
    Keeps Terminated (terminateWindowsChild deadline) := by
  apply keeps_terminated
  apply keeps_terminateChildCode.bind
  intro code
  exact keeps_clearLedger.bind fun _ => .pure code

theorem keeps_terminateAndReap {backend : Backend} {deadline : Deadline} :
    Keeps Terminated (terminateAndReap backend deadline) := by
  have reap (backend : Backend) : Keeps Steady (do
      let d ← (Op.get : Transporting Dispatcher)
      Op.ofRun (rejectIf (d.transport.reaped = true) .peerExited)
      Op.when (backend = .linux) takeLifecycle
      let cleanup : ChildCleanupFacts ← Op.perform (Call.reapChild true deadline)
      if cleanup.directChildComplete then pure ()
      else Op.fail (if cleanup.nativeError.isSome then .native cleanup.nativeError
        else .deadlineExpired)) := by
    apply Keeps.get.bind
    intro d
    apply (Keeps.ofRun _).bind
    intro _
    apply (Keeps.when keeps_takeLifecycle).bind
    intro _
    apply (Keeps.perform _).bind
    intro cleanup
    split
    · exact .pure ()
    · exact .fail _
  apply keeps_terminated
  cases backend with
  | linux => exact reap .linux
  | macos => exact reap .macos
  | windows => exact keeps_terminateChildCode.bind fun _ => keeps_clearLedger

/-! ### Application records -/

theorem steady_encoded {t : Target} {kind : UInt32} {payload wire : Bytes}
    {length : Nat} (accepted : d.state.encodedLenParts t kind payload.length = .ok length) :
    d.Steady { d with state := (d.state.encodePartsInto t kind payload wire).2 } := by
  refine .of_state (d.state.evolves_encodePartsInto t kind payload wire)
    (ControlState.encodePartsInto_of_encodedLenParts accepted) ?_
  rcases d.state.encodePartsInto_cases t kind payload wire with h | h | ⟨_, -, h⟩
  · rw [h]
    rfl
  · rw [h]
  · rw [h]

variable {t : Target}

theorem keeps_sendParts {backend : Backend} {kind : UInt32} {payload : Bytes}
    {deadline : Deadline} : Keeps Steady (sendParts t backend kind payload deadline) := by
  intro d
  apply Ensures.get_bind
  split
  · exact .of_fail (refl_of Steady d)
  · split
    · exact .of_ofRun (refl_of Steady d)
    · split
      · exact keeps_poisonFail d
      · exact .of_fail (refl_of Steady d)
    · rename_i length accepted
      apply Ensures.perform_bind
      intro reserved
      split
      · apply Ensures.attempt_bind
        apply Ensures.of_update
        have encoded : d.Steady { d with
            state := (d.state.encodePartsInto t kind payload (List.replicate length 0)).2 } :=
          steady_encoded accepted
        split
        · exact .of_ofRun encoded
        · rename_i error _
          apply Ensures.modify_bind
          apply Ensures.of_fail
          split
          · exact trans_of Steady encoded (AdmitsTransport.transport _ _ fun _ => rfl)
          · exact encoded
        · exact (keeps_orPoison keeps_sendRecord _).mono
            fun _ _ later => trans_of Steady encoded later
      · exact .of_fail (refl_of Steady d)

theorem steady_decoded {t : Target} {wire : Bytes} {frame : ControlFrame}
    (accepted : (d.state.decodeOwned t wire).1 = .ok frame) :
    d.Steady { d with state := (d.state.decodeOwned t wire).2 } := by
  rcases d.state.decodeOwned_cases t wire with ⟨_, failed, -⟩ | ⟨_, _, live, _, taken⟩
  · rw [failed] at accepted
    cases accepted
  · refine .of_state (d.state.evolves_decodeOwned t wire) (fun _ => ?_) ?_
    · rw [taken]
      exact live
    · rw [taken]

/-- Decoding poisons the whole session when it fails. -/
theorem keeps_decode {wire : Bytes} :
    Keeps Steady (orPoison AcceptedControlError.control
      (onState fun s => s.decodeOwned t wire)) := by
  intro d
  apply Ensures.attempt_bind
  apply Ensures.of_update
  rcases result : (d.state.decodeOwned t wire).1 with (error | _) | frame
  · apply ensures_poisonFail
    refine .of_poisonBoth (d.state.evolves_decodeOwned t wire) ?_
    show (d.state.decodeOwned t wire).2.transactionOpen = d.state.transactionOpen
    rcases d.state.decodeOwned_cases t wire with ⟨_, -, h | h⟩ | ⟨_, _, -, -, h⟩
    · rw [h]
      rfl
    · rw [h]
    · rw [h]
  · rcases d.state.decodeOwned_cases t wire with ⟨_, failed, -⟩ | ⟨_, _, -, -, taken⟩
    · rw [failed] at result
      cases result
    · rw [taken] at result
      cases result
  · exact .of_pure (steady_decoded result)

section

variable {backend : Backend} {deadline : Deadline} {kind : UInt32} {payload : Bytes}

theorem keeps_receive : Keeps Steady (receive t backend deadline) := by
  apply Keeps.get.bind
  intro d
  split
  · exact .fail _
  · split
    · exact keeps_poisonFail
    · apply (keeps_orPoison keeps_receiveRecord).bind
      intro wire
      split
      · exact keeps_decode
      · exact keeps_poisonFail

theorem sendParts_of_poisoned (poisoned : d.state.poisoned = true) :
    sendParts t backend kind payload deadline d = .ret (fail (.control .poisoned), d) := by
  simp [sendParts, Bind.bind, Op.bind, Op.get, Proc.bind, poisoned, Op.fail, Op.ofRun, fail]

theorem receive_of_poisoned (poisoned : d.state.poisoned = true) :
    receive t backend deadline d = .ret (fail (.control .poisoned), d) := by
  simp [receive, Bind.bind, Op.bind, Op.get, Proc.bind, poisoned, Op.fail, Op.ofRun, fail]

theorem tryPollPeer_of_poisoned (poisoned : d.state.poisoned = true) :
    tryPollPeer backend d = .ret (fail (.control .poisoned), d) := by
  simp [tryPollPeer, Bind.bind, Op.bind, Op.get, Proc.bind, poisoned, Op.fail, Op.ofRun, fail]

/-- No application record is sent while a transaction is open: nothing is called at all. -/
theorem sendParts_of_open (isOpen : d.state.transactionOpen = true) :
    ∃ error d', sendParts t backend kind payload deadline d = .ret (fail error, d') := by
  by_cases poisoned : d.state.poisoned = true
  · exact ⟨_, _, sendParts_of_poisoned poisoned⟩
  · have refused : d.state.encodedLenParts t kind payload.length = fail .transactionConflict := by
      simp [ControlState.encodedLenParts, ControlState.checkLocalParts, rejectIf, poisoned, isOpen,
        fail, bind, Except.bind]
    refine ⟨.control .transactionConflict, d.poisonBoth, ?_⟩
    simp [sendParts, Bind.bind, Op.bind, Op.get, Proc.bind, poisoned, refused, fail, poisonFail,
      Op.modify, Op.fail, Op.ofRun]

/-- No application record is accepted while a transaction is open: nothing is called at all. -/
theorem receive_of_open (isOpen : d.state.transactionOpen = true) :
    ∃ error d', receive t backend deadline d = .ret (fail error, d') := by
  by_cases poisoned : d.state.poisoned = true
  · exact ⟨_, _, receive_of_poisoned poisoned⟩
  · refine ⟨.control .transactionConflict, d.poisonBoth, ?_⟩
    simp [receive, Bind.bind, Op.bind, Op.get, Proc.bind, poisoned, isOpen, fail, poisonFail,
      Op.modify, Op.fail, Op.ofRun]

end

end NativeIpc.Session
