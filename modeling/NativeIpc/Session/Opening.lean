import NativeIpc.Session.Poison

/-!
# Opening and ending a transaction

What the operations that open or end a batch transaction leave behind: a begin
that succeeds leaves the transaction open, one that fails leaves none open or a
poisoned session, and a guard closes what it was given in any case.
-/

namespace NativeIpc.Session

open NativeIpc.Lib Bytes Run Op.Ensures
open Op (Ensures)
open Dispatcher
open ControlState (checkedSucc_eq_some toNat_succ)

variable {ε ε' α β : Type} {d : Dispatcher} {result : Run ε β} {x : Effect Dispatcher ε α}
  {t : Target} {backend : Backend} {deadline : Deadline}

open CoordinatorTransaction
open Op.Keeps (detached ofRun perform when)

namespace Dispatcher

/-- No transaction is open, or the session is poisoned. -/
def Closed (d : Dispatcher) : Prop :=
  d.state.transactionOpen = false ∨ d.state.poisoned = true

instance (d : Dispatcher) : Decidable d.Closed :=
  inferInstanceAs (Decidable (_ ∨ _))

/-- A settled dispatcher that no begin leaves at odds: no transaction is open, or the ledger is
    over already. -/
structure Quiet (d : Dispatcher) : Prop extends Settled d where
  free : d.state.transactionOpen = true → d.resources.state ≠ .active

variable {d' : Dispatcher}

theorem Evolves.live (h : d.Evolves d') (live : d'.state.poisoned = false) :
    d.state.poisoned = false := by
  by_contra poisoned
  rw [h.control.poisoned (by simpa using poisoned)] at live
  cases live

theorem Steady.closed (h : d.Steady d') (closed : d.Closed) : d'.Closed := by
  rcases closed with closed | poisoned
  · exact .inl (h.transactionOpen.trans closed)
  · exact .inr (h.control.poisoned poisoned)

theorem Steady.quiet (h : d.Steady d') (quiet : d.Quiet) : d'.Quiet where
  toSettled := h.settled quiet.toSettled
  free isOpen := h.inactive (quiet.free (h.transactionOpen.symm.trans isOpen))

/-! ### Entering -/

/-- What entering a transaction can come to. -/
inductive Entered (d : Dispatcher) : Run AcceptedControlError UInt64 → Dispatcher → Prop
  | refused (error : AcceptedControlError) : Entered d (fail error) d
  | poisoned (error : AcceptedControlError) : Entered d (fail error) d.poisonBoth
  | conflict (live : d.state.poisoned = false)
      (busy : d.state.transactionOpen = true ∨ d.state.pendingReceive = true) :
      Entered d (fail (.control .transactionConflict))
        (poisonTransport { d with state := d.state.poison })
  | overflow (live : d.state.poisoned = false)
      (within : ¬ d.parameters.limits.maxTransactions < d.nextTransaction)
      (last : checkedSucc d.nextTransaction = none) :
      Entered d Run.fault { d with state := { d.state with transactionOpen := true } }
  | entered {next : UInt64} (live : d.state.poisoned = false)
      (within : ¬ d.parameters.limits.maxTransactions < d.nextTransaction)
      (succ : checkedSucc d.nextTransaction = some next) :
      Entered d (.ok d.nextTransaction)
        { d with
          state := { d.state with transactionOpen := true }
          nextTransaction := next
          issued := d.issued ++ [d.nextTransaction] }

theorem ensures_checkEntry (d : Dispatcher) :
    Ensures (fun result d' =>
      (result = .ok () ∧ d' = d ∧ d.state.poisoned = false ∧
        ¬ d.parameters.limits.maxTransactions < d.nextTransaction) ∨
      ∃ error, result = fail error ∧ (d' = d ∨ d' = d.poisonBoth)) d (checkEntry deadline) := by
  apply Ensures.get_bind
  split
  · exact .of_fail (.inr ⟨_, rfl, .inl rfl⟩)
  · rename_i live
    apply perform_bind
    intro expired
    split
    · exact .of_fail (.inr ⟨_, rfl, .inl rfl⟩)
    · split
      · exact ensures_poisonFail (.inr ⟨_, rfl, .inr rfl⟩)
      · rename_i within
        exact .of_pure (.inl ⟨rfl, rfl, by simpa using live, within⟩)

theorem ensures_enterNativeTransaction (d : Dispatcher) :
    Ensures (Entered d) d (enterNativeTransaction deadline) := by
  refine (ensures_checkEntry d).bind ?_ ?_
  · rintro stop d' (⟨hresult, -⟩ | ⟨error, hresult, rfl | rfl⟩)
    · cases hresult
    · cases hresult
      exact .refused error
    · cases hresult
      exact .poisoned error
  · rintro _ d' (⟨-, rfl, live, within⟩ | ⟨error, hresult, -⟩)
    · apply attempt_bind
      apply of_update
      rcases d'.state.beginTransaction_cases with ⟨h, poisoned⟩ | ⟨h, -, busy⟩ | ⟨h, -⟩
      · rw [live] at poisoned
        cases poisoned
      · rw [h]
        apply modify_bind
        exact .of_fail (.conflict live busy)
      · rw [h]
        apply of_update
        unfold takeTransactionId
        split
        · rename_i last
          exact .overflow live within last
        · rename_i next succ
          exact .entered live within succ
    · cases hresult

namespace Entered

variable {d d' : Dispatcher} {result : Run AcceptedControlError UInt64}

theorem evolves (h : Entered d result d') : d.Evolves d' := by
  cases h with
  | refused error => exact refl_of Evolves d
  | poisoned error => exact d.evolves_poisonBoth
  | conflict live busy =>
    exact trans_of Evolves (.of_state d.state.evolves_poison)
      (AdmitsTransport.transport _ _ fun _ => rfl)
  | overflow live within last => exact .of_state ⟨id, fun _ => ⟨rfl, rfl⟩, id⟩
  | entered live within succ =>
    obtain ⟨notLast, rfl⟩ := checkedSucc_eq_some.mp succ
    have hnext : (d.nextTransaction + 1).toNat = d.nextTransaction.toNat + 1 :=
      toNat_succ notLast
    rw [UInt64.lt_iff_toNat_lt, Nat.not_lt] at within
    have dead : ¬ d.state.poisoned = true := by simp [live]
    constructor
    · rfl
    · exact ⟨id, fun _ => ⟨rfl, rfl⟩, id⟩
    · exact fun poisoned => absurd poisoned dead
    · intro h
      have hpos := h.next_pos
      refine ⟨h.bounded, ?_, ?_, ?_⟩
      · simp only [hnext]
        omega
      · simp only [hnext]
        omega
      · simp only [hnext, List.map_append, h.issued, List.map_cons, List.map_nil]
        rw [Nat.add_sub_cancel, show d.nextTransaction.toNat = d.nextTransaction.toNat - 1 + 1 by omega,
          List.range'_1_concat]
        simp
        omega
    · exact id

/-- A conflict is what leaves the ledger behind, so a settled dispatcher stays settled unless a
    transaction is open and the ledger is live. -/
theorem settled (h : Entered d result d') (quiet : d.Quiet) : d'.Settled := by
  cases h with
  | refused error => exact quiet.toSettled
  | poisoned error => exact settled_poisonBoth quiet.idle
  | conflict live busy =>
    rcases busy with isOpen | pending
    · exact ⟨quiet.idle, fun _ => ⟨rfl, quiet.free isOpen⟩⟩
    · rw [quiet.idle] at pending
      cases pending
  | overflow live within last =>
    have dead : ¬ d.state.poisoned = true := by simp [live]
    exact ⟨quiet.idle, fun poisoned => absurd poisoned dead⟩
  | entered live within succ =>
    have dead : ¬ d.state.poisoned = true := by simp [live]
    exact ⟨quiet.idle, fun poisoned => absurd poisoned dead⟩

theorem opened {id : UInt64} (h : Entered d (.ok id) d') :
    d.state.poisoned = false ∧ d'.state.transactionOpen = true := by
  cases h with
  | entered live within succ => exact ⟨live, rfl⟩

theorem closed {error : AcceptedControlError} (h : Entered d (fail error) d')
    (closed : d.Closed) : d'.Closed := by
  cases h with
  | refused _ => exact closed
  | poisoned _ => exact .inr rfl
  | conflict live busy => exact .inr rfl

/-- With limits below the last number the `expect` of the counter never fires. -/
theorem noFault (h : Entered d result d') (ordered : d.Ordered) : NoFault result := by
  cases h with
  | refused error => exact noFault_fail error
  | poisoned error => exact noFault_fail error
  | conflict live busy => exact noFault_fail _
  | overflow live within last =>
    have notLast : d.nextTransaction ≠ u64Max := by
      intro isLast
      apply ordered.bounded
      rw [UInt64.lt_iff_toNat_lt, isLast] at within
      have := d.parameters.limits.maxTransactions.toNat_lt
      rw [← UInt64.toNat_inj]
      rw [show u64Max.toNat = 2 ^ 64 - 1 from rfl] at within ⊢
      omega
    rw [checkedSucc_eq_some.mpr ⟨notLast, rfl⟩] at last
    cases last
  | entered live within succ => exact noFault_ok _

end Entered

/-! ### Begins -/

/-- What an operation that begins a transaction came to: a success was not poisoned before and
    leaves what `after` says, and a failure leaves no transaction open that was not open before. -/
structure Begun (after : α → Dispatcher → Prop) (d : Dispatcher) (result : Run ε α)
    (d' : Dispatcher) : Prop where
  evolves : d.Evolves d'
  settled : d.Quiet → d'.Settled
  returned : ∀ a, result = .ok a → d.state.poisoned = false ∧ after a d'
  closed : ∀ error, result = fail error → d.Closed → d'.Closed

/-- What the rest of an operation inside an open transaction came to: a failure has closed it. -/
structure Continued (after : α → Dispatcher → Prop) (d : Dispatcher) (result : Run ε α)
    (d' : Dispatcher) : Prop where
  evolves : d.Evolves d'
  settled : d.Settled → d'.Settled
  returned : ∀ a, result = .ok a → after a d'
  closed : ∀ error, result = fail error → d'.Closed

/-- The operation begins a transaction. -/
def Begins (after : α → Dispatcher → Prop) (x : Effect Dispatcher ε α) : Prop :=
  ∀ d, Op.Ensures (Begun after d) d x

/-- The operation goes on with an open transaction. -/
def Continues (after : α → Dispatcher → Prop) (x : Effect Dispatcher ε α) : Prop :=
  ∀ d, d.state.transactionOpen = true → Op.Ensures (Continued after d) d x

/-- The transaction is open still. -/
def StillOpen (_ : α) (d : Dispatcher) : Prop := d.state.transactionOpen = true

section Rules

variable {mid : α → Dispatcher → Prop} {after : β → Dispatcher → Prop}
  {x : Effect Dispatcher ε α} {f : α → Effect Dispatcher ε β} {y : Effect Dispatcher ε β}
  {d' : Dispatcher}

theorem Begun.of_steady (steady : d.Steady d')
    (failed : ∀ b, result ≠ .ok b) : Begun after d result d' where
  evolves := steady.toEvolves
  settled quiet := steady.settled quiet.toSettled
  returned b ok := absurd ok (failed b)
  closed _ _ := steady.closed

theorem Continued.of_steady (steady : d.Steady d') (ok : ∀ b, result = .ok b → after b d')
    (failed : ∀ error, result = fail error → d'.Closed) : Continued after d result d' :=
  ⟨steady.toEvolves, steady.settled, ok, failed⟩

/-- What is left to do after a dispatcher has evolved. -/
theorem Continued.trans {d₁ : Dispatcher} (evolves : d.Evolves d₁)
    (settled : d.Settled → d₁.Settled) (later : Continued after d₁ result d') :
    Continued after d result d' :=
  ⟨trans_of Evolves evolves later.evolves, later.settled ∘ settled, later.returned, later.closed⟩

theorem Continued.mapError_of {convert : ε → ε'} (continues : Ensures (Continued after d) d y) :
    Ensures (Continued after d) d (Op.mapError convert y) := by
  refine Ensures.mapError (continues.mono ?_)
  intro result d' continued
  refine ⟨continued.evolves, continued.settled, ?_, ?_⟩
  · intro b ok
    exact continued.returned b (mapError_eq_ok.mp ok)
  · intro error failed
    rcases result with (_ | _) | _
    · exact continued.closed _ rfl
    · cases failed
    · cases failed

theorem Continued.bind_of (first : Ensures (Continued mid d) d x)
    (rest : ∀ a d, mid a d → Ensures (Continued after d) d (f a)) :
    Ensures (Continued after d) d (x >>= f) := by
  refine first.bind ?_ ?_
  · intro stop d' continued
    refine ⟨continued.evolves, continued.settled, nofun, ?_⟩
    intro error failed
    cases failed
    exact continued.closed error rfl
  · intro a d₁ continued
    refine (rest a d₁ (continued.returned a rfl)).mono ?_
    intro result d' later
    exact .trans continued.evolves continued.settled later

namespace Begins

theorem fail {error : ε} : Begins after (Op.fail error) :=
  fun d => .of_fail (.of_steady (refl_of Steady d) nofun)

theorem enter : Begins StillOpen (enterNativeTransaction deadline) := by
  intro d
  refine (ensures_enterNativeTransaction d).mono ?_
  intro result d' entered
  refine ⟨entered.evolves, entered.settled, ?_, ?_⟩
  · rintro id rfl
    exact entered.opened
  · rintro error rfl
    exact entered.closed

theorem mapError {convert : ε → ε'} (begins : Begins after y) :
    Begins after (Op.mapError convert y) := by
  intro d
  refine Ensures.mapError ((begins d).mono ?_)
  intro result d' begun
  refine ⟨begun.evolves, begun.settled, ?_, ?_⟩
  · intro b ok
    exact begun.returned b (mapError_eq_ok.mp ok)
  · intro error failed
    rcases result with (_ | _) | _
    · exact begun.closed _ rfl
    · cases failed
    · cases failed

/-- Nothing is opened or ended before the begin. -/
theorem preceded (steady : Op.Keeps Steady x) (begins : ∀ a, Begins after (f a)) :
    Begins after (x >>= f) := by
  intro d
  refine (steady d).bind ?_ ?_
  · intro stop d' related
    exact .of_steady related nofun
  · intro a d₁ related
    refine (begins a d₁).mono ?_
    intro result d' begun
    refine ⟨trans_of Evolves related.toEvolves begun.evolves, ?_, ?_, ?_⟩
    · exact fun quiet => begun.settled (related.quiet quiet)
    · intro b ok
      obtain ⟨live, holds⟩ := begun.returned b ok
      exact ⟨related.toEvolves.live live, holds⟩
    · exact fun error failed closed => begun.closed error failed (related.closed closed)

/-- A begin that goes on inside its transaction. -/
theorem bind (begins : Begins mid x) (rest : ∀ a d, mid a d → Ensures (Continued after d) d (f a)) :
    Begins after (x >>= f) := by
  intro d
  refine (begins d).bind ?_ ?_
  · intro stop d' begun
    refine ⟨begun.evolves, begun.settled, nofun, ?_⟩
    intro error failed
    cases failed
    exact begun.closed error rfl
  · intro a d₁ begun
    obtain ⟨live, holds⟩ := begun.returned a rfl
    refine (rest a d₁ holds).mono ?_
    intro result d' continued
    exact ⟨trans_of Evolves begun.evolves continued.evolves, continued.settled ∘ begun.settled,
      fun b ok => ⟨live, continued.returned b ok⟩,
      fun error failed _ => continued.closed error failed⟩

/-- An error drops the leases, which changes nothing else. -/
theorem orDrop {leases : List LeaseReservation} (begins : Begins after y) :
    Begins after (orDrop leases y) := by
  intro d
  refine attempt_bind ((begins d).mono ?_)
  intro result d₁ begun
  cases result with
  | ok a => exact .of_pure begun
  | error stop =>
    have dropped : d₁.Steady (d₁.release leases) := Admits.release d₁ leases
    apply modify_bind
    apply of_ofRun
    refine ⟨trans_of Evolves begun.evolves dropped.toEvolves,
      fun quiet => dropped.settled (begun.settled quiet), nofun, ?_⟩
    intro error failed closed
    exact dropped.closed (begun.closed error failed closed)

end Begins

/-! ### Inside an open transaction -/

namespace Continues

theorem pure {b : β} (holds : ∀ d, d.state.transactionOpen = true → after b d) :
    Continues after (Pure.pure b : Effect Dispatcher ε β) := by
  intro d isOpen
  apply of_pure
  refine .of_steady (refl_of Steady d) ?_ nofun
  intro _ same
  cases same
  exact holds d isOpen

theorem fault : Continues after (Op.ofRun Run.fault : Effect Dispatcher ε β) :=
  fun d _ => .of_ofRun (.of_steady (refl_of Steady d) nofun nofun)

theorem poisonFail {error : ε} : Continues after (poisonFail error : Effect Dispatcher ε β) := by
  intro d _
  apply ensures_poisonFail
  exact .of_steady (Admits.poisonBoth d) nofun fun _ _ => .inr rfl

/-- An error poisons, so it closes. -/
theorem orPoison {convert : ε → ε'} (steady : Op.Keeps Steady x) :
    Continues StillOpen (orPoison convert x) := by
  intro d isOpen
  refine (ensures_orPoison convert steady d).mono ?_
  intro result d' related
  exact .of_steady related.1 (fun _ _ => related.1.transactionOpen.trans isOpen)
    fun error failed => .inr (related.2 error failed)

theorem attempt (steady : Op.Keeps Steady x) :
    Continues StillOpen (Op.attempt x : Effect Dispatcher ε' (Run ε α)) := by
  intro d isOpen
  refine Ensures.attempt ((steady d).mono ?_)
  intro result d' related
  exact .of_steady related (fun _ _ => related.transactionOpen.trans isOpen) nofun

theorem get_bind {f : Dispatcher → Effect Dispatcher ε β}
    (continues : ∀ d, Continues after (f d)) : Continues after (Op.get >>= f) :=
  fun d isOpen => Ensures.get_bind (continues d d isOpen)

theorem mapError {convert : ε → ε'} (continues : Continues after y) :
    Continues after (Op.mapError convert y) :=
  fun d isOpen => Continued.mapError_of (continues d isOpen)

theorem bind (first : Continues mid x)
    (rest : ∀ a d, mid a d → Ensures (Continued after d) d (f a)) : Continues after (x >>= f) :=
  fun d isOpen => Continued.bind_of (first d isOpen) rest

theorem orDrop {leases : List LeaseReservation} (continues : Continues after y) :
    Continues after (orDrop leases y) := by
  intro d isOpen
  refine attempt_bind ((continues d isOpen).mono ?_)
  intro result d₁ continued
  cases result with
  | ok a => exact .of_pure continued
  | error stop =>
    have dropped : d₁.Steady (d₁.release leases) := Admits.release d₁ leases
    apply modify_bind
    apply of_ofRun
    refine .trans continued.evolves continued.settled (.of_steady dropped nofun ?_)
    intro error failed
    exact dropped.closed (continued.closed error failed)

end Continues

end Rules

/-! ### The begins of the coordinator -/

open Continues

theorem begins_beginNativeTransaction {entries : List ManifestEntry} :
    Begins StillOpen (beginNativeTransaction entries deadline) := by
  apply Begins.preceded keeps_checkEntry
  intro _
  apply Begins.preceded Op.Keeps.get
  intro d
  split
  · exact .fail
  · split
    · exact Begins.enter.bind fun _ => pure fun _ isOpen => isOpen
    · exact .fail

theorem begins_beginPublicTransferCapacity {batch : TransferBatch} :
    Begins StillOpen (beginPublicTransferCapacity batch deadline) := by
  apply Begins.preceded (ofRun _)
  intro entries
  exact .mapError begins_beginNativeTransaction

/-- The guard has the dispatcher as it is, with its transaction open, and has not poisoned it. -/
def HandedTo (borrowed : α → Borrowed) (a : α) (d : Dispatcher) : Prop :=
  borrowed a = ⟨d, false⟩ ∧ d.state.transactionOpen = true

theorem continues_hand {borrowed : α → Borrowed} {guard : Dispatcher → α}
    (holds : ∀ d, borrowed (guard d) = ⟨d, false⟩) :
    Continues (HandedTo borrowed)
      (Op.get >>= fun d => Pure.pure (guard d) : Effect Dispatcher ε α) := by
  intro d isOpen
  apply Ensures.get_bind
  apply of_pure
  refine .of_steady (refl_of Steady d) ?_ nofun
  intro _ same
  cases same
  exact ⟨holds d, isOpen⟩

variable {batch : MixedDirectionBatch} {reservations : List LeaseReservation}
  {frame : CapabilityFrame} {expected : ExpectedBatch} {status : CoordinatorCapacityStatus}

theorem keeps_checkProfile : Op.Keeps Steady (checkProfile backend) :=
  Op.Keeps.get.bind fun _ => .ofRun _

theorem begins_beginGuard : Begins (HandedTo borrowed) (beginGuard batch reservations deadline) :=
  begins_beginNativeTransaction.mapError.orDrop.bind fun _ => continues_hand fun _ => rfl

theorem begins_sectionBeginMixedDirectionBatch :
    Begins (HandedTo borrowed) (sectionBeginMixedDirectionBatch backend batch deadline) := by
  apply Begins.preceded keeps_checkProfile
  intro _
  apply Begins.preceded (ofRun _)
  intro _
  apply Begins.preceded keeps_reserveMappedLengths.mapError
  intro reservations
  exact begins_beginGuard

theorem begins_linuxBeginMixedDirectionBatchReserved :
    Begins (HandedTo borrowed)
      (linuxBeginMixedDirectionBatchReserved batch reservations deadline) := by
  have checked : Op.Keeps Steady (checkReserved batch reservations deadline) :=
    keeps_checkProfile.bind fun _ => (ofRun _).bind fun _ => .ofRun _
  apply Begins.preceded (keeps_orDrop checked)
  intro _
  exact begins_beginGuard

theorem begins_linuxBeginMixedDirectionBatch :
    Begins (HandedTo borrowed) (linuxBeginMixedDirectionBatch batch deadline) := by
  apply Begins.preceded keeps_reserveMappedLengths.mapError
  intro reservations
  exact begins_linuxBeginMixedDirectionBatchReserved

theorem begins_linuxBeginWriterBatch :
    Begins (HandedTo borrowed) (linuxBeginWriterBatch batch deadline) := by
  apply Begins.preceded keeps_checkProfile
  intro _
  apply Begins.preceded (ofRun _)
  intro _
  exact begins_beginGuard

/-! ### The begins of the receiver -/

theorem begins_beginExpectedMixedDirectionBatch :
    Begins (HandedTo ReceiverTransaction.borrowed)
      (beginExpectedMixedDirectionBatch t backend expected deadline) := by
  apply Begins.preceded keeps_checkProfile
  intro _
  apply Begins.preceded Op.Keeps.get
  intro d
  apply Begins.preceded (detached _).mapError
  intro expected
  apply Begins.preceded keeps_reserveMappedLengths.mapError
  intro reservations
  exact Begins.enter.mapError.orDrop.bind fun _ => continues_hand fun _ => rfl

theorem begins_linuxBeginExpectedBatch {writer : WriterEndpoint} :
    Begins (HandedTo ReceiverTransaction.borrowed)
      (linuxBeginExpectedBatch t writer expected deadline) := by
  apply Begins.preceded keeps_checkProfile
  intro _
  apply Begins.preceded Op.Keeps.get
  intro d
  apply Begins.preceded (detached _).mapError
  intro expected
  exact Begins.enter.mapError.bind fun _ => continues_hand fun _ => rfl

theorem continues_receiveOffer {expected : ExpectedMixedDirectionBatch} {transactionId : UInt64} :
    Continues StillOpen (receiveOffer backend expected transactionId deadline) := by
  apply (Continues.orPoison keeps_receiveRecord).bind
  intro offer
  apply Continues.get_bind
  intro d
  split
  · exact .poisonFail
  · split
    · exact .pure fun _ isOpen => isOpen
    · exact .poisonFail

theorem continues_reserveIfReady {lengths : List UInt64} :
    Continues StillOpen (reserveIfReady status lengths) := by
  unfold reserveIfReady
  split
  · apply (attempt keeps_reserveMappedLengths).bind
    intro result
    rcases result with (_ | _) | reservations
    · exact pure fun _ isOpen => isOpen
    · exact fault
    · exact pure fun _ isOpen => isOpen
  · exact .pure fun _ isOpen => isOpen

/-- Ending an open transaction fails only where the session is poisoned. -/
theorem ensures_endTransaction (isOpen : d.state.transactionOpen = true) :
    Ensures (fun result d' =>
      (result = .ok () ∧ d' = { d with state := { d.state with transactionOpen := false } } ∧
        d.state.poisoned = false) ∨
      (result = fail .poisoned ∧ d' = d ∧ d.state.poisoned = true)) d
      (onState ControlState.endTransaction) := by
  apply of_update
  rcases d.state.endTransaction_cases with ⟨h, poisoned⟩ | ⟨h, -, closed⟩ | ⟨h, live, -⟩
  · rw [h]
    exact .inr ⟨rfl, rfl, poisoned⟩
  · rw [isOpen] at closed
    cases closed
  · rw [h]
    exact .inl ⟨rfl, rfl, live⟩

theorem continues_endTransaction :
    Continues (fun _ d => d.state.transactionOpen = false)
      (onState ControlState.endTransaction) := by
  intro d isOpen
  refine (ensures_endTransaction isOpen).mono ?_
  rintro result d' (⟨rfl, rfl, live⟩ | ⟨rfl, rfl, poisoned⟩)
  · have dead : ¬ d.state.poisoned = true := by simp [live]
    exact
      { evolves := .of_state ⟨id, fun _ => ⟨rfl, rfl⟩, id⟩
        settled := fun h => ⟨h.idle, fun poisoned => absurd poisoned dead⟩
        returned := fun _ _ => rfl
        closed := nofun }
  · exact .of_steady (refl_of Steady d') nofun fun _ _ => .inr poisoned

theorem continues_answerOffer {reservations : Option (List LeaseReservation)} :
    Continues StillOpen (answerOffer backend frame status reservations deadline) := by
  have send (bytes : Bytes) :
      Continues StillOpen (orPoison preflightTransport (sendRecord backend bytes deadline)) :=
    .orPoison keeps_sendRecord
  cases reservations with
  | some leases =>
    exact (send _).orDrop.bind fun _ => pure fun _ isOpen => isOpen
  | none =>
    apply (send _).bind
    intro _
    apply continues_endTransaction.mapError.bind
    intro _ d closed
    apply of_fail
    exact .of_steady (refl_of Steady d) nofun fun _ _ => .inl closed

theorem begins_beginPublicExpectedMixedDirectionBatch :
    Begins (HandedTo ReceiverTransaction.borrowed)
      (beginPublicExpectedMixedDirectionBatch t backend expected deadline) := by
  apply Begins.preceded keeps_checkProfile.mapError
  intro _
  apply Begins.preceded Op.Keeps.get
  intro d
  apply Begins.preceded (detached _).mapError
  intro expected
  apply Begins.enter.mapError.bind
  intro transactionId
  apply continues_receiveOffer.bind
  intro offer
  apply continues_reserveIfReady.bind
  intro reservations
  apply continues_answerOffer.bind
  intro leases
  exact continues_hand fun _ => rfl

/-! ### The capacity preflight of the coordinator -/

/-- What is left by ending a transaction that may not be open: an end where none is open poisons
    the control state alone. -/
structure Ending (d d' : Dispatcher) : Prop where
  evolves : d.Evolves d'
  settled : d.state.transactionOpen = true ∨ d.state.poisoned = true → d.Settled → d'.Settled
  closed : d.Closed → d'.Closed

theorem Ending.of_steady (steady : d.Steady d') : d.Ending d' :=
  ⟨steady.toEvolves, fun _ => steady.settled, steady.closed⟩

theorem Ending.preceded {d₁ : Dispatcher} (steady : d.Steady d₁) (ending : d₁.Ending d') :
    d.Ending d' where
  evolves := trans_of Evolves steady.toEvolves ending.evolves
  settled busy settled := by
    refine ending.settled ?_ (steady.settled settled)
    exact busy.imp steady.transactionOpen.trans steady.control.poisoned
  closed := ending.closed ∘ steady.closed

theorem keeps_endTransaction : Op.Keeps Ending (onState ControlState.endTransaction) := by
  intro d
  apply of_update
  rcases d.state.endTransaction_cases with ⟨h, -⟩ | ⟨h, live, closed⟩ | ⟨h, live, -⟩
  · rw [h]
    exact .of_steady (refl_of Steady d)
  · rw [h]
    refine ⟨.of_state d.state.evolves_poison, ?_, fun _ => .inr rfl⟩
    intro busy
    simp [live, closed] at busy
  · rw [h]
    have dead : ¬ d.state.poisoned = true := by simp [live]
    refine ⟨.of_state ⟨id, fun _ => ⟨rfl, rfl⟩, id⟩, ?_, fun _ => .inl rfl⟩
    exact fun _ settled => ⟨settled.idle, fun poisoned => absurd poisoned dead⟩

theorem Ending.keeps_bind {f : α → Effect Dispatcher ε β} (steady : Op.Keeps Steady x)
    (rest : ∀ a, Op.Keeps Ending (f a)) : Op.Keeps Ending (x >>= f) := by
  intro d
  refine (steady d).bind (fun _ _ related => .of_steady related) ?_
  intro a d₁ related
  exact (rest a d₁).mono fun _ _ ending => .preceded related ending

theorem Ending.keeps_of_steady (steady : Op.Keeps Steady x) : Op.Keeps Ending x :=
  fun d => (steady d).mono fun _ _ related => .of_steady related

/-- The exchange from any state, a transaction being open or not. -/
theorem keeps_exchangePublicTransferCapacity :
    Op.Keeps Ending (exchangePublicTransferCapacity backend frame status deadline) := by
  apply Ending.keeps_bind (keeps_orPoison keeps_sendRecord)
  intro _
  apply Ending.keeps_bind (keeps_orPoison keeps_receiveRecord)
  intro response
  split
  · exact Ending.keeps_of_steady keeps_poisonFail
  · split
    · exact Ending.keeps_of_steady keeps_poisonFail
    · intro d
      unfold Op.when
      split
      · exact (keeps_endTransaction.mapError d).bind (fun _ _ ending => ending)
          fun _ _ ending => .of_pure ending
      · exact .of_pure (.of_steady (refl_of Steady d))

/-- After the exchange the transaction is open if both sides are ready, and over otherwise. -/
def Exchanged (status : CoordinatorCapacityStatus) (peerReady : Bool) (d : Dispatcher) : Prop :=
  if status = .ready ∧ peerReady = true then d.state.transactionOpen = true
  else d.state.transactionOpen = false

theorem continues_exchangePublicTransferCapacity :
    Continues (Exchanged status)
      (exchangePublicTransferCapacity backend frame status deadline) := by
  apply (Continues.orPoison keeps_sendRecord).bind
  intro _
  apply (Continues.orPoison keeps_receiveRecord).bind
  intro response
  show Continues _ _
  split
  · exact .poisonFail
  · rename_i peerReady _
    split
    · exact .poisonFail
    · rename_i consistent
      by_cases rejected : status ≠ .ready ∨ peerReady = false
      · simp only [Op.when, if_pos rejected]
        apply continues_endTransaction.mapError.bind
        intro _ d closed
        apply of_pure
        refine .of_steady (refl_of Steady d) ?_ nofun
        intro _ same
        cases same
        have notBoth : ¬ (status = .ready ∧ peerReady = true) := by
          rintro ⟨rfl, rfl⟩
          simp at rejected
        rw [Exchanged, if_neg notBoth]
        exact closed
      · simp only [Op.when, if_neg rejected]
        rw [not_or, not_not] at rejected
        refine pure fun d isOpen => ?_
        rw [Exchanged, if_pos ⟨rejected.1, by simpa using rejected.2⟩]
        exact isOpen

theorem continues_offerPrepared {batch : TransferBatch} {leases : List LeaseReservation} :
    Continues StillOpen (offerPrepared backend batch frame leases deadline) := by
  apply Continues.get_bind
  intro d
  apply (attempt (detached _)).bind
  intro preparation
  apply continues_exchangePublicTransferCapacity.mapError.orDrop.bind
  intro peerReady d exchanged
  -- Only a prepared batch was offered as ready.
  rcases preparation with (error | _) | prepared
  · have dropped : d.Steady (d.release leases) := Admits.release d leases
    apply modify_bind
    apply of_fail
    exact .of_steady dropped nofun fun _ _ => dropped.closed (.inl exchanged)
  · exact .of_ofRun (.of_steady (refl_of Steady d) nofun nofun)
  · cases peerReady with
    | true =>
      apply of_pure
      exact .of_steady (refl_of Steady d) (fun _ _ => exchanged) nofun
    | false =>
      have dropped : d.Steady (d.release leases) := Admits.release d leases
      apply modify_bind
      apply of_fail
      exact .of_steady dropped nofun fun _ _ => dropped.closed (.inl exchanged)

theorem begins_transferCapacity {batch : TransferBatch} :
    Begins StillOpen (transferCapacity backend batch deadline) := by
  apply Begins.preceded (perform _)
  intro expired
  split
  · exact .fail
  · apply begins_beginPublicTransferCapacity.mapError.bind
    intro frame
    apply (attempt keeps_reserveMappedLengths).bind
    intro result
    rcases result with (_ | _) | leases
    · apply continues_exchangePublicTransferCapacity.mapError.bind
      intro peerReady d closed
      apply of_fail
      exact .of_steady (refl_of Steady d) nofun fun _ _ => .inl closed
    · exact fault
    · exact continues_offerPrepared.bind fun _ => pure fun _ isOpen => isOpen

/-- The preflighted begin takes an open transaction over, or poisons. -/
theorem ensures_beginPublicMixedDirectionBatchPreflighted (d : Dispatcher) :
    Ensures (fun result d' => d.Steady d' ∧
      (∀ tx, result = .ok tx → HandedTo borrowed tx d') ∧
      ∀ error, result = fail error → d'.Closed) d
      (beginPublicMixedDirectionBatchPreflighted backend batch reservations frame deadline) := by
  apply Ensures.get_bind
  split
  · have dropped : d.Steady (d.poisonBoth.release reservations) :=
      trans_of Steady (Admits.poisonBoth d) (Admits.release _ _)
    apply attempt_bind
    apply ensures_poisonFail
    apply modify_bind
    apply of_ofRun
    refine ⟨dropped, ?_, fun _ _ => .inr rfl⟩
    intro tx returned
    cases returned
  · rename_i accepted
    simp only [not_or] at accepted
    apply of_pure
    refine ⟨refl_of Steady d, ?_, nofun⟩
    intro _ same
    cases same
    exact ⟨rfl, by simpa using accepted.2.2.2.1⟩

theorem continues_beginPublicMixedDirectionBatchPreflighted :
    Continues (HandedTo borrowed)
      (beginPublicMixedDirectionBatchPreflighted backend batch reservations frame deadline) := by
  intro d _
  refine (ensures_beginPublicMixedDirectionBatchPreflighted d).mono ?_
  intro result d' ⟨steady, handed, closed⟩
  exact .of_steady steady handed closed

end Dispatcher

/-! ### The end of a guard -/

/-- A guard that will not poison any more has ended its transaction or poisoned the session. -/
def Borrowed.Spent (b : Borrowed) : Prop :=
  b.alreadyPoisoned = true → b.dispatcher.Closed

/-- What a `commit` came to: a success was not poisoned before, and dropping the guard closes the
    transaction in any case. -/
structure Finished (b : Borrowed) (result : Run ε α) (b' : Borrowed) : Prop where
  evolves : b.dispatcher.Evolves b'.dispatcher
  settled : b.Honest → b.dispatcher.Settled → b'.dispatcher.Settled
  spent : b.Honest → b'.Spent
  live : ∀ a, result = .ok a → b.dispatcher.state.poisoned = false

/-- The operation of a guard ends its transaction or fails. -/
def Finishes {τ : Type} (part : τ → Borrowed) (x : Effect τ ε α) : Prop :=
  ∀ s, Op.Ensures (fun result s' => Finished (part s) result (part s')) s x

/-- After a `commit` has ended the transaction only the transport changes. -/
def Borrowed.Trailing (b b' : Borrowed) : Prop :=
  b'.alreadyPoisoned = b.alreadyPoisoned ∧ b.dispatcher.OnlyTransport b'.dispatcher

instance : IsPreorder Borrowed Borrowed.Trailing where
  refl _ := ⟨rfl, refl_of OnlyTransport _⟩
  trans _ _ _ first second :=
    ⟨second.1.trans first.1, trans_of OnlyTransport first.2 second.2⟩

variable {b : Borrowed} {result : Run ε α}

theorem Borrowed.Honest.spent (honest : b.Honest) : b.Spent :=
  fun already => .inr (honest already)

open Borrowed

theorem Borrowed.honest_poison (honest : b.Honest) : b.poison.Honest := by
  unfold poison
  split
  · exact honest
  · exact fun _ => rfl

theorem Finished.of_lifted {b' : Borrowed} (related : Lifted Steady b b')
    (failed : ∀ a, result ≠ .ok a) : Finished b result b' where
  evolves := related.1.toEvolves
  settled _ := related.1.settled
  spent honest := (related.2 honest).spent
  live a ok := absurd ok (failed a)

/-- A guard on which nothing was called. -/
theorem Finished.untouched : Finished b (fail () : Run Unit Unit) b :=
  .of_lifted (refl_of (Lifted Steady) b) nofun

namespace Finishes

variable {τ : Type} {part : τ → Borrowed} {x : Effect τ ε α} {f : α → Effect τ ε β}

/-- Before the end the guard poisons where something fails. -/
theorem preceded (keeps : Op.Keeps (InvImage (Lifted Steady) part) x)
    (rest : ∀ a, Finishes part (f a)) : Finishes part (x >>= f) := by
  intro s
  refine (keeps s).bind ?_ ?_
  · intro stop s' related
    exact .of_lifted related nofun
  · intro a s₁ related
    refine (rest a s₁).mono ?_
    intro result s' finished
    exact
      { evolves := trans_of Evolves related.1.toEvolves finished.evolves
        settled := fun honest settled =>
          finished.settled (related.2 honest) (related.1.settled settled)
        spent := fun honest => finished.spent (related.2 honest)
        live := fun b ok => related.1.toEvolves.live (finished.live b ok) }

theorem followed (finishes : Finishes part x)
    (rest : ∀ a, Op.Keeps (InvImage Trailing part) (f a)) : Finishes part (x >>= f) := by
  intro s
  refine (finishes s).bind ?_ ?_
  · intro stop s' finished
    exact ⟨finished.evolves, finished.settled, finished.spent, nofun⟩
  · intro a s₁ finished
    refine (rest a s₁).mono ?_
    intro result s' trailing
    obtain ⟨already, only⟩ := trailing
    have steady := only.steady
    exact
      { evolves := trans_of Evolves finished.evolves steady.toEvolves
        settled := fun honest settled => steady.settled (finished.settled honest settled)
        spent := fun honest spent =>
          steady.closed (finished.spent honest (already.symm.trans spent))
        live := fun _ _ => finished.live a rfl }

theorem zoom {replace : τ → Borrowed → τ} {x : Effect Borrowed ε α} (finishes : Finishes id x)
    (replaced : ∀ s b, part (replace s b) = b) : Finishes part (Op.zoom part replace x) := by
  intro s
  refine Ensures.zoom ((finishes (part s)).mono ?_)
  intro result b finished
  rw [replaced s b]
  exact finished

theorem poisonFail {error : ε} : Finishes id (Borrowed.poisonFail error : Effect Borrowed ε α) := by
  intro b
  apply modify_bind
  apply of_fail
  exact .of_lifted b.lifted_poison nofun

end Finishes

/-- Ending the transaction of an honest guard fails only where the session is poisoned. -/
theorem ensures_endBorrowed (b : Borrowed) :
    Ensures (fun (result : Run CapabilityBatchError Unit) b' =>
      (result = .ok () ∧ b.dispatcher.state.poisoned = false ∧
        b' = { b with dispatcher := { b.dispatcher with
          state := { b.dispatcher.state with transactionOpen := false } } }) ∨
      ∃ error, result = fail error ∧ Finished b result b') b
      (Borrowed.orPoison (fun error => .control (.control error))
        (onState ControlState.endTransaction)) := by
  apply attempt_bind
  apply Ensures.zoom
  apply of_update
  rcases b.dispatcher.state.endTransaction_cases with ⟨h, -⟩ | ⟨h, live, -⟩ | ⟨h, live, -⟩
  · rw [h]
    apply modify_bind
    apply of_fail
    exact .inr ⟨_, rfl, .of_lifted b.lifted_poison nofun⟩
  · rw [h]
    apply modify_bind
    apply of_fail
    refine .inr ⟨_, rfl, ?_, ?_, ?_, nofun⟩
    · exact trans_of Evolves (.of_state b.dispatcher.state.evolves_poison) (lifted_poison _).1
    · intro honest settled
      cases already : b.alreadyPoisoned with
      | true =>
        rw [honest already] at live
        cases live
      | false =>
        simp only [poison]
        exact settled_poisonBoth settled.idle
    · exact fun _ => (honest_poison fun _ => rfl).spent
  · rw [h]
    exact .of_pure (.inl ⟨rfl, live, rfl⟩)

theorem finishes_finish : Finishes id finish := by
  intro b
  refine (ensures_endBorrowed b).bind ?_ ?_
  · rintro stop b' (⟨failed, -⟩ | ⟨error, -, finished⟩)
    · cases failed
    · exact ⟨finished.evolves, finished.settled, finished.spent, nofun⟩
  · rintro _ b' (⟨-, live, rfl⟩ | ⟨error, failed, -⟩)
    · have dead : ¬ b.dispatcher.state.poisoned = true := by simp [live]
      apply of_modify
      exact
        { evolves := .of_state ⟨id, fun _ => ⟨rfl, rfl⟩, id⟩
          settled := fun _ h => ⟨h.idle, fun poisoned => absurd poisoned dead⟩
          spent := fun _ _ => .inl rfl
          live := fun _ _ => live }
    · cases failed

open Finishes

namespace CoordinatorTransaction

theorem finishes_inner {x : Effect Borrowed ε α} (finishes : Finishes id x) :
    Finishes borrowed (inner x) :=
  finishes.zoom fun _ _ => rfl

theorem finishes_finish : Finishes borrowed finish := by
  apply preceded Op.Keeps.get
  intro tx
  split
  · exact finishes_inner Session.finishes_finish
  · exact finishes_inner .poisonFail

theorem finishes_commit : Finishes borrowed (commit backend) := by
  have trailing : Op.Keeps (InvImage Trailing borrowed) (do
        Op.when (backend = .windows) (inner (lift clearLedger))
        committed) := by
    have only : Op.Keeps OnlyTransport
        (clearLedger : BatchEffect Dispatcher Unit) := keeps_clearLedger
    have cleared : Op.Keeps Trailing (lift clearLedger) :=
      only.zoom fun _ _ only => ⟨rfl, only⟩
    refine Op.Keeps.bind (.when (cleared.zoom fun _ _ related => related)) fun _ => ?_
    apply Op.Keeps.get.bind
    intro tx
    refine Op.Keeps.bind (.modify fun tx => ?_) fun _ => .pure _
    exact refl_of Trailing tx.borrowed
  apply preceded Op.Keeps.get
  intro tx
  split
  · apply preceded (keeps_inner keeps_receiveFrame)
    intro _
    apply preceded (keeps_inner keeps_sendFrame)
    intro _
    exact finishes_finish.followed fun _ => trailing
  · exact finishes_inner .poisonFail

end CoordinatorTransaction

namespace ReceiverTransaction

theorem finishes_inner {x : Effect Borrowed ε α} (finishes : Finishes id x) :
    Finishes ReceiverTransaction.borrowed (inner x) :=
  finishes.zoom fun _ _ => rfl

theorem finishes_commit : Finishes ReceiverTransaction.borrowed (commit backend) := by
  have trailing : Op.Keeps (InvImage Trailing ReceiverTransaction.borrowed) committed := by
    apply Op.Keeps.get.bind
    intro tx
    split
    · exact .ofRun _
    · refine Op.Keeps.bind (.modify fun tx => ?_) fun _ => .pure _
      exact refl_of Trailing tx.borrowed
  apply preceded Op.Keeps.get
  intro tx
  split
  · exact finishes_inner .poisonFail
  · split
    · exact finishes_inner .poisonFail
    · apply preceded (keeps_inner keeps_sendFrame)
      intro _
      apply preceded (keeps_inner keeps_receiveFrame)
      intro _
      exact (finishes_inner Session.finishes_finish).followed fun _ => trailing

end ReceiverTransaction

/-! ### Dropping a guard -/

/-- Dropping a guard poisons what it has not ended. -/
theorem Borrowed.Spent.closed_poison (spent : b.Spent) : b.poison.dispatcher.Closed := by
  unfold poison
  split
  · rename_i already
    exact spent already
  · exact .inr rfl

theorem CoordinatorTransaction.closed_drop {tx : CoordinatorTransaction}
    (spent : tx.borrowed.Spent) : tx.drop.Closed :=
  (Admits.release _ _ : Steady _ _).closed spent.closed_poison

theorem ReceiverTransaction.closed_drop {tx : ReceiverTransaction}
    (spent : tx.borrowed.Spent) : tx.drop.Closed :=
  (Admits.release _ _ : Steady _ _).closed spent.closed_poison

/-- What ends the transaction of a guard that was just handed out closes it. -/
theorem Finishes.continued {τ : Type} {part : τ → Borrowed} {drop : τ → Dispatcher} {tx : τ}
    {x : Effect τ ε α} (finishes : Finishes part x) (handed : HandedTo part tx d)
    (dropped : ∀ tx', (part tx').dispatcher.Steady (drop tx'))
    (closed : ∀ {tx'}, (part tx').Spent → (drop tx').Closed) :
    Ensures (Continued (fun _ d => d.Closed) d) d (Op.within tx drop x) := by
  refine Ensures.within ((finishes tx).mono ?_)
  intro result tx' finished
  rw [handed.1] at finished
  have closes := closed (finished.spent nofun)
  exact
    { evolves := trans_of Evolves finished.evolves (dropped tx').toEvolves
      settled := fun settled => (dropped tx').settled (finished.settled nofun settled)
      returned := fun _ _ => closes
      closed := fun _ _ => closes }

namespace Dispatcher

theorem ensures_completeCoordinator {tx : CoordinatorTransaction}
    (handed : HandedTo borrowed tx d) :
    Ensures (Continued (fun _ d => d.Closed) d) d (completeCoordinator backend tx) :=
  (preceded keeps_prepare fun _ => finishes_commit).continued handed rel_drop closed_drop

open ReceiverTransaction

theorem ensures_completeReceiver {tx : ReceiverTransaction}
    (handed : HandedTo ReceiverTransaction.borrowed tx d) :
    Ensures (Continued (fun _ d => d.Closed) d) d (completeReceiver t backend tx) :=
  (preceded ReceiverTransaction.keeps_prepare fun _ => finishes_commit).continued handed
    rel_drop closed_drop

/-! ### Whole batches -/

/-- A step that opens and ends nothing after the transaction is over. -/
theorem Continued.of_closed (steady : Op.Keeps Steady x) (closed : d.Closed) :
    Ensures (Continued (fun _ d => d.Closed) d) d x := by
  refine (steady d).mono ?_
  intro result d' related
  exact .of_steady related (fun _ _ => related.closed closed) fun _ _ => related.closed closed

open Continued

theorem begins_transferBatch {batch : TransferBatch} :
    Begins (fun _ d => d.Closed) (transferBatch t backend batch deadline) := by
  apply begins_transferCapacity.bind
  intro prepared
  apply continues_beginPublicMixedDirectionBatchPreflighted.mapError.bind
  intro tx d handed
  apply bind_of (mapError_of (ensures_completeCoordinator handed))
  intro committed d closed
  exact of_closed keeps_activateCoordinatorBatch.mapError closed

theorem begins_receiveBatch {expected : ExpectedBatch} :
    Begins (fun _ d => d.Closed) (receiveBatch t backend expected deadline) := by
  have checked : Op.Keeps Steady (checkReceiveDeadline backend deadline) := by
    apply when
    apply (perform _).bind
    intro expired
    split
    · exact .fail _
    · exact .pure ()
  apply Begins.preceded checked
  intro _
  apply begins_beginPublicExpectedMixedDirectionBatch.mapError.bind
  intro tx d handed
  apply bind_of (mapError_of (ensures_completeReceiver handed))
  intro committed d closed
  exact of_closed keeps_activateReceiverBatch.mapError closed

end Dispatcher

end NativeIpc.Session
