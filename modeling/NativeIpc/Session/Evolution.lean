import NativeIpc.Session.PublicBatch

/-!
# How a dispatcher evolves

Most operations change a dispatcher only by poisoning it, by what they do to its
transport and by what they do to its ledger. A relation that admits these
changes is kept by each such operation, whatever its calls are answered.
-/

namespace NativeIpc.Session

open NativeIpc.Lib Bytes Run
open Op (Keeps)
open Dispatcher
open Activation (ActiveRegionOwner RegionActivationError settles_activateLinuxRegions)

variable {ε ε' α β : Type} {t : Target} {backend : Backend} {deadline : Deadline}

/-- The relation admits every change of a dispatcher's transport that does not take poison back. -/
class AdmitsTransport (rel : Dispatcher → Dispatcher → Prop) : Prop
    extends IsPreorder Dispatcher rel where
  transport : ∀ d transport, (d.transport.poisoned = true → transport.poisoned = true) →
    rel d { d with transport }

/-- The relation admits every change of a dispatcher outside its control state and counters that
    does not take poison back, and poisoning itself. -/
class Admits (rel : Dispatcher → Dispatcher → Prop) : Prop extends AdmitsTransport rel where
  poisonBoth : ∀ d, rel d d.poisonBoth
  resources : ∀ d resources, (d.resources.state ≠ .active → resources.state ≠ .active) →
    rel d { d with resources }
  poisoned : ∀ d d', rel d d' → d.state.poisoned = true → d'.state.poisoned = true

/-! ### The transports -/

section Transport

variable {rel : Dispatcher → Dispatcher → Prop} [AdmitsTransport rel] {frame : CapabilityFrame}

theorem keeps_poisonTransport : Keeps rel (Op.modify poisonTransport : Effect Dispatcher ε Unit) :=
  .modify fun d => AdmitsTransport.transport d _ fun _ => rfl

theorem keeps_settle {reply : Except IoFailure α} : Keeps rel (settle backend reply) := by
  cases reply with
  | ok a => exact .pure a
  | error failure => exact (Keeps.when keeps_poisonTransport).bind fun _ => .fail _

theorem keeps_ensureLive : Keeps rel ensureLive := by
  apply Keeps.get.bind
  intro d
  split
  · exact .fail _
  · split
    · exact .fail _
    · exact .pure ()

theorem keeps_refuseEarly {error : SessionTransportError} :
    Keeps rel (refuseEarly backend error : Transporting α) :=
  (Keeps.when keeps_poisonTransport).bind fun _ => .fail error

theorem keeps_sendRecord {bytes : Bytes} : Keeps rel (sendRecord backend bytes deadline) := by
  apply keeps_ensureLive.bind
  intro _
  split
  · exact keeps_refuseEarly
  · exact (Keeps.perform _).bind fun _ => keeps_settle

theorem keeps_receiveRecord {maximum : Nat} :
    Keeps rel (receiveRecord backend maximum deadline) := by
  apply keeps_ensureLive.bind
  intro _
  split
  · exact keeps_refuseEarly
  · exact (Keeps.perform _).bind fun _ => keeps_settle

theorem keeps_linuxSendCapabilityRecord {capabilities : List Nat} :
    Keeps rel (linuxSendCapabilityRecord frame capabilities deadline) := by
  apply Keeps.get.bind
  intro d
  apply (Keeps.ofRun _).bind
  intro _
  apply (Keeps.ofRun _).bind
  intro _
  apply (Keeps.ofRun _).bind
  intro _
  apply (Keeps.ofRun _).bind
  intro _
  exact (Keeps.perform _).bind fun _ => keeps_settle

theorem keeps_macSendCapabilityRecord {capabilities : List Nat} :
    Keeps rel (macSendCapabilityRecord frame capabilities deadline) := by
  apply keeps_ensureLive.bind
  intro _
  apply (Keeps.ofRun _).bind
  intro _
  exact (Keeps.perform _).bind fun _ => keeps_settle

theorem keeps_duplicateSource (handles : List Nat) (source : Nat × Bool) :
    Keeps rel (duplicateSource handles source) := by
  apply (Keeps.detached _).mapError.bind
  intro remote
  refine Keeps.bind (.modify ?_) fun _ => .pure _
  intro d
  apply AdmitsTransport.transport
  exact fun poisoned => poisoned

theorem keeps_installAndSend {sources : List (Nat × Bool)} :
    Keeps rel (installAndSend frame sources deadline) := by
  apply (Keeps.foldlM keeps_duplicateSource []).bind
  intro handles
  apply (Keeps.perform _).bind
  intro reply
  split
  · exact .pure ()
  · exact .fail _

theorem keeps_terminateChildCode : Keeps rel (terminateChildCode deadline) := by
  apply (Keeps.perform _).bind
  intro reply
  split
  · exact .pure _
  · exact .fail _

theorem keeps_clearLedger : Keeps rel (clearLedger : Effect Dispatcher ε Unit) :=
  .modify fun d => AdmitsTransport.transport d _ fun poisoned => poisoned

theorem keeps_windowsCapabilityBody {batch : MixedDirectionBatch} :
    Keeps rel (windowsCapabilityBody frame batch deadline) := by
  apply Keeps.get.bind
  intro d
  apply (Keeps.ofRun _).bind
  intro _
  apply (Keeps.detached _).mapError.bind
  intro sources
  apply (Keeps.ofRun _).bind
  intro _
  apply keeps_installAndSend.attempt.bind
  intro result
  cases result with
  | ok _ => exact .pure ()
  | error stop =>
    apply keeps_terminateChildCode.bind
    intro _
    exact keeps_clearLedger.bind fun _ => .ofRun _

theorem keeps_terminal {x : Transporting α} (keeps : Keeps rel x) : Keeps rel (terminal x) := by
  apply keeps.attempt.bind
  intro result
  cases result with
  | ok a => exact .pure a
  | error stop => exact keeps_poisonTransport.bind fun _ => .ofRun _

theorem keeps_sendCapabilityRecord {batch : MixedDirectionBatch} :
    Keeps rel (sendCapabilityRecord backend frame batch deadline) := by
  cases backend with
  | linux => exact keeps_linuxSendCapabilityRecord
  | macos => exact keeps_macSendCapabilityRecord
  | windows =>
    exact keeps_ensureLive.bind fun _ => keeps_terminal keeps_windowsCapabilityBody

theorem keeps_receiveCandidate {count : Nat} :
    Keeps rel (receiveCandidate backend count deadline) := by
  apply keeps_ensureLive.bind
  intro _
  apply (Keeps.ofRun _).bind
  intro _
  apply (Keeps.perform _).bind
  intro reply
  apply keeps_settle.bind
  intro message
  split
  · exact .pure message
  · exact keeps_settle

theorem keeps_windowsReceiveCapabilityRecord {expected : CapabilityFrame} :
    Keeps rel (windowsReceiveCapabilityRecord expected deadline) := by
  apply keeps_receiveCandidate.bind
  intro message
  split
  · exact .pure _
  · exact keeps_settle

theorem keeps_takeLifecycle : Keeps rel (takeLifecycle : Effect Dispatcher ε Unit) :=
  .modify fun d => AdmitsTransport.transport d _ fun poisoned => poisoned

end Transport

variable {rel : Dispatcher → Dispatcher → Prop} [Admits rel]

/-! ### Building blocks -/

open Admits

theorem Admits.release (d : Dispatcher) (leases : List LeaseReservation) :
    rel d (d.release leases) := by
  apply resources
  rw [ResourceOwner.releaseAll_state]
  exact id

theorem keeps_poisonBoth : Keeps rel (Op.modify poisonBoth : Effect Dispatcher ε Unit) :=
  .modify poisonBoth

theorem keeps_poisonFail {error : ε} : Keeps rel (poisonFail error : Effect Dispatcher ε α) :=
  keeps_poisonBoth.bind fun _ => .fail error

variable {x : Effect Dispatcher ε α}

theorem keeps_orPoison {convert : ε → ε'} (keeps : Keeps rel x) :
    Keeps rel (orPoison convert x) := by
  apply keeps.attempt.bind
  intro result
  rcases result with (error | _) | a
  · exact keeps_poisonFail
  · exact .ofRun _
  · exact .pure a

theorem keeps_dropLeases {leases : List LeaseReservation} :
    Keeps rel (dropLeases leases : Effect Dispatcher ε Unit) :=
  .modify fun d => release d leases

theorem keeps_orDrop {leases : List LeaseReservation} (keeps : Keeps rel x) :
    Keeps rel (orDrop leases x) := by
  apply keeps.attempt.bind
  intro result
  cases result with
  | ok a => exact .pure a
  | error stop => exact keeps_dropLeases.bind fun _ => .ofRun _

theorem keeps_onResources {f : ResourceOwner → Run ε α × ResourceOwner}
    (later : ∀ r, r.state ≠ .active → (f r).2.state ≠ .active) : Keeps rel (onResources f) :=
  .update fun d => resources d _ (later d.resources)

/-! ### The peer, the child and the ledger -/

theorem keeps_tryPollPeer : Keeps rel (tryPollPeer backend) := by
  have poll : Keeps rel (pollTransport backend) :=
    keeps_ensureLive.bind fun _ => (Keeps.perform _).bind fun _ => keeps_settle
  apply Keeps.get.bind
  intro d
  split
  · exact .fail _
  · apply (keeps_orPoison poll).bind
    intro state
    cases state with
    | running => exact .pure _
    | exitedUnknown => exact keeps_poisonBoth.bind fun _ => .pure _

theorem keeps_tryCloseResources : Keeps rel tryCloseResources :=
  keeps_onResources fun owner => owner.tryClose_state_ne_active

theorem keeps_poisonSession : Keeps rel poisonSession :=
  keeps_poisonBoth

theorem keeps_waitForChild : Keeps rel (waitForChild deadline) := by
  apply (Keeps.perform _).bind
  intro cleanup
  exact (Keeps.when keeps_poisonBoth).bind fun _ => .pure _

theorem keeps_abortChild : Keeps rel (abortChild backend deadline) := by
  apply keeps_poisonBoth.bind
  intro _
  apply (Keeps.when keeps_takeLifecycle).bind
  intro _
  exact (Keeps.perform _).bind fun _ => .pure _

theorem keeps_waitForWindowsChild : Keeps rel (waitForWindowsChild deadline) := by
  apply (Keeps.perform _).bind
  intro reply
  split
  · apply keeps_clearLedger.bind
    intro _
    exact keeps_poisonBoth.bind fun _ => .pure _
  · exact (Keeps.when keeps_poisonBoth).bind fun _ => .fail _

theorem keeps_waitForLinuxPeerExit : Keeps rel (waitForLinuxPeerExit deadline) := by
  have wait : Keeps rel (waitForPeerExit deadline) := by
    apply Keeps.get.bind
    intro d
    split
    · exact .fail _
    · apply (Keeps.perform _).bind
      intro reply
      split
      · exact .pure _
      · exact .fail _
  apply wait.attempt.bind
  intro result
  rcases result with (error | _) | (_ | _)
  · exact (Keeps.when keeps_poisonBoth).bind fun _ => .fail _
  · exact .ofRun _
  · exact .pure _
  · exact keeps_poisonBoth.bind fun _ => .pure _

theorem keeps_reserveMappedLengths {lengths : List UInt64} :
    Keeps rel (reserveMappedLengths lengths) := by
  apply keeps_onResources
  intro owner inactive
  rw [ResourceOwner.reserveMappedLengths_state]
  exact inactive

theorem keeps_checkEntry : Keeps rel (checkEntry deadline) := by
  apply Keeps.get.bind
  intro d
  split
  · exact .fail _
  · apply (Keeps.perform _).bind
    intro expired
    split
    · exact .fail _
    · split
      · exact keeps_poisonFail
      · exact .pure ()

/-! ### Activation -/

theorem keeps_activateRegions {specs : List ActiveRegionSpec} {reservations : List LeaseReservation}
    {owners : Effect Unit RegionActivationError (List ActiveRegionOwner)} :
    Keeps rel (activateRegions specs reservations owners) := by
  have made : Keeps rel (if reservations.length = specs.length then Op.detached owners
      else pure []) := by
    split
    · exact .detached _
    · exact .pure _
  apply (keeps_orDrop made).bind
  intro owners d
  obtain ⟨result, c', runs, settled⟩ :=
    (settles_activateLinuxRegions specs reservations none owners ⟨d, []⟩).returns
  refine Op.Ensures.get_bind (.within fun history => ?_)
  unfold Op.wp
  rw [runs]
  rcases result with (error | _) | set
  · change rel d c'.dispatcher
    rw [settled.dispatcher]
    exact trans_of rel (poisonBoth d) (release _ reservations)
  · exact settled.elim
  · change rel d c'.dispatcher
    rw [settled.1]
    exact refl_of rel d

theorem keeps_activateChecked {specs : MemoryEffect Unit (List ActiveRegionSpec)}
    {owners : Nat → Run RegionActivationError (List ActiveRegionOwner)}
    {reservations : List LeaseReservation} :
    Keeps rel (activateChecked backend specs owners reservations) := by
  apply (keeps_orDrop (keeps_orPoison (.detached _))).bind
  intro (_, specs)
  exact keeps_activateRegions

theorem keeps_activateCoordinatorBatch {committed : CoordinatorCommitted} :
    Keeps rel (activateCoordinatorBatch t backend committed) := by
  apply Keeps.get.bind
  intro d
  split
  · exact keeps_orDrop keeps_poisonFail
  · exact keeps_activateChecked

theorem keeps_activateReceiverBatch {committed : ReceiverCommitted} :
    Keeps rel (activateReceiverBatch t backend committed) := by
  apply Keeps.get.bind
  intro d
  split
  · exact keeps_orDrop keeps_poisonFail
  · exact keeps_activateChecked

/-! ### Guards -/

/-- A guard that will not poison any more has done so. -/
def Borrowed.Honest (b : Borrowed) : Prop :=
  b.alreadyPoisoned = true → b.dispatcher.state.poisoned = true

/-- The relation for a borrowed dispatcher, whose guard stays honest. -/
def Borrowed.Lifted (rel : Dispatcher → Dispatcher → Prop) (b b' : Borrowed) : Prop :=
  rel b.dispatcher b'.dispatcher ∧ (b.Honest → b'.Honest)

instance : IsPreorder Borrowed (Borrowed.Lifted rel) where
  refl _ := ⟨refl_of rel _, id⟩
  trans _ _ _ first second := ⟨trans_of rel first.1 second.1, second.2 ∘ first.2⟩

namespace Borrowed

theorem lifted_poison (b : Borrowed) : Lifted rel b b.poison := by
  unfold poison
  split
  · exact refl_of (Lifted rel) b
  · exact ⟨poisonBoth _, fun _ _ => rfl⟩

theorem keeps_lift (keeps : Keeps rel x) : Keeps (Lifted rel) (lift x) := by
  apply keeps.zoom
  intro _ _ related
  exact ⟨related, fun honest already => poisoned _ _ related (honest already)⟩

theorem keeps_poisonFail {error : ε} :
    Keeps (Lifted rel) (poisonFail error : Effect Borrowed ε α) :=
  (Keeps.modify lifted_poison).bind fun _ => .fail error

theorem keeps_orPoison {convert : ε → ε'} (keeps : Keeps rel x) :
    Keeps (Lifted rel) (orPoison convert x) := by
  apply (keeps_lift keeps).attempt.bind
  intro result
  rcases result with (error | _) | a
  · exact keeps_poisonFail
  · exact .ofRun _
  · exact .pure a

theorem keeps_memory {x : MemoryEffect Unit α} : Keeps (Lifted rel) (memory x) :=
  keeps_orPoison (.detached x)

theorem keeps_sendFrame {frame : Bytes} : Keeps (Lifted rel) (sendFrame backend frame deadline) :=
  keeps_orPoison keeps_sendRecord

theorem keeps_receiveFrame {frame : Bytes} :
    Keeps (Lifted rel) (receiveFrame backend frame deadline) := by
  apply (keeps_orPoison keeps_receiveRecord).bind
  intro bytes
  split
  · exact .pure ()
  · exact keeps_poisonFail

end Borrowed

open Borrowed (Lifted keeps_memory keeps_sendFrame keeps_receiveFrame)

instance isPreorder_part {σ τ : Type} (rel : σ → σ → Prop) [IsPreorder σ rel] (part : τ → σ) :
    IsPreorder τ (InvImage rel part) where
  refl t := refl_of rel (part t)
  trans _ _ _ first second := trans_of rel first second

theorem keeps_setting {part : τ → Borrowed} {f : τ → τ} (same : ∀ tx, part (f tx) = part tx) :
    Op.Keeps (InvImage (Lifted rel) part) (Op.modify f : Effect τ ε Unit) := by
  apply Op.Keeps.modify
  intro tx
  show Lifted rel (part tx) (part (f tx))
  rw [same tx]
  exact refl_of (Lifted rel) _

namespace CoordinatorTransaction

/-- The operation changes what the transaction borrows as `rel` allows. -/
abbrev Keeps (rel : Dispatcher → Dispatcher → Prop) (x : Effect CoordinatorTransaction ε α) :
    Prop :=
  Op.Keeps (InvImage (Lifted rel) CoordinatorTransaction.borrowed) x

theorem rel_drop (tx : CoordinatorTransaction) : rel tx.borrowed.dispatcher tx.drop :=
  trans_of rel (Borrowed.lifted_poison tx.borrowed).1 (release _ _)

omit [Admits rel] in
theorem keeps_inner {x : Effect Borrowed ε α} (keeps : Op.Keeps (Lifted rel) x) :
    Keeps rel (inner x) :=
  keeps.zoom fun _ _ related => related

theorem keeps_send : Keeps rel (send backend) := by
  apply Op.Keeps.get.bind
  intro tx
  split
  · exact keeps_inner Borrowed.keeps_poisonFail
  · refine Op.Keeps.bind (keeps_setting ?_) fun _ => ?_
    · exact fun _ => rfl
    · exact keeps_inner (Borrowed.keeps_orPoison keeps_sendCapabilityRecord)

theorem keeps_attempt : Keeps rel attempt := by
  apply Op.Keeps.get.bind
  intro tx
  split
  · exact keeps_inner Borrowed.keeps_poisonFail
  · exact keeps_setting fun _ => rfl

theorem keeps_importedSealed
    {settle : MixedDirectionBatch → MemoryEffect Unit MixedDirectionBatch} :
    Keeps rel (importedSealed backend settle) := by
  apply Op.Keeps.get.bind
  intro tx
  apply (keeps_inner keeps_receiveFrame).bind
  intro _
  apply (keeps_inner keeps_memory).bind
  intro batch
  refine Op.Keeps.bind (keeps_setting ?_) fun _ => ?_
  · exact fun _ => rfl
  · exact keeps_inner keeps_sendFrame

theorem keeps_prepare : Keeps rel (prepare backend) := by
  cases backend with
  | linux =>
    apply keeps_attempt.bind
    intro _
    apply Op.Keeps.get.bind
    intro tx
    apply (keeps_inner keeps_memory).bind
    intro _
    apply keeps_send.bind
    intro _
    exact .when keeps_importedSealed
  | macos =>
    apply keeps_attempt.bind
    intro _
    apply Op.Keeps.get.bind
    intro tx
    apply (keeps_inner keeps_memory).bind
    intro _
    exact keeps_send.bind fun _ => keeps_importedSealed
  | windows =>
    apply keeps_attempt.bind
    intro _
    apply Op.Keeps.get.bind
    intro tx
    apply (keeps_inner keeps_memory).bind
    intro _
    apply (keeps_inner keeps_sendFrame).bind
    intro _
    exact keeps_send.bind fun _ => keeps_importedSealed

theorem keeps_linuxWriterSend : Keeps rel linuxWriterSend := by
  apply Op.Keeps.get.bind
  intro tx
  exact (keeps_inner keeps_memory).bind fun _ => keeps_send

theorem keeps_linuxReceiverWriterPrepare : Keeps rel linuxReceiverWriterPrepare := by
  apply keeps_attempt.bind
  intro _
  apply Op.Keeps.get.bind
  intro tx
  apply (keeps_inner keeps_memory).bind
  intro _
  exact keeps_send.bind fun _ => keeps_importedSealed

end CoordinatorTransaction

namespace ReceiverTransaction

/-- The operation changes what the transaction borrows as `rel` allows. -/
abbrev Keeps (rel : Dispatcher → Dispatcher → Prop) (x : Effect ReceiverTransaction ε α) : Prop :=
  Op.Keeps (InvImage (Lifted rel) ReceiverTransaction.borrowed) x

theorem rel_drop (tx : ReceiverTransaction) : rel tx.borrowed.dispatcher tx.drop :=
  trans_of rel (Borrowed.lifted_poison tx.borrowed).1 (release _ _)

omit [Admits rel] in
theorem keeps_inner {x : Effect Borrowed ε α} (keeps : Op.Keeps (Lifted rel) x) :
    Keeps rel (inner x) :=
  keeps.zoom fun _ _ related => related

theorem keeps_attempt : Keeps rel attempt := by
  apply Op.Keeps.get.bind
  intro tx
  split
  · exact keeps_inner Borrowed.keeps_poisonFail
  · exact keeps_setting fun _ => rfl

theorem keeps_expectation : Keeps rel expectation := by
  apply Op.Keeps.get.bind
  intro tx
  split
  · exact .pure _
  · exact .ofRun _

theorem keeps_matchOffer {expected : ExpectedMixedDirectionBatch} {bytes : Bytes} :
    Keeps rel (matchOffer backend expected bytes) := by
  apply Op.Keeps.get.bind
  intro tx
  split
  · exact keeps_inner Borrowed.keeps_poisonFail
  · split
    · exact keeps_inner Borrowed.keeps_poisonFail
    · split
      · exact .pure _
      · exact keeps_inner Borrowed.keeps_poisonFail

theorem keeps_importWith {x : MemoryEffect Unit ImportedMixedDirectionBatch} :
    Keeps rel (importWith x) := by
  refine Op.Keeps.bind (keeps_setting ?_) fun _ => ?_
  · exact fun _ => rfl
  · exact keeps_inner keeps_memory

theorem keeps_importedSealed {frame : CapabilityFrame} :
    Keeps rel (importedSealed backend frame) := by
  apply Op.Keeps.get.bind
  intro tx
  apply (keeps_inner keeps_sendFrame).bind
  intro _
  exact keeps_inner keeps_receiveFrame

theorem keeps_retain {imported : ImportedMixedDirectionBatch} {frame : Option CapabilityFrame} :
    Keeps rel (retain imported frame) :=
  keeps_setting fun _ => rfl

theorem keeps_receiveImport
    {importBatch : ExpectedMixedDirectionBatch → TransferManifest → List Nat →
      MemoryEffect Unit ImportedMixedDirectionBatch} :
    Keeps rel (receiveImport backend importBatch) := by
  apply keeps_attempt.bind
  intro _
  apply keeps_expectation.bind
  intro expected
  apply Op.Keeps.get.bind
  intro tx
  apply (keeps_inner (Borrowed.keeps_orPoison keeps_receiveCandidate)).bind
  intro record
  apply keeps_matchOffer.bind
  intro admitted
  exact keeps_importWith.bind fun _ => .pure _

/-- The last part of a `prepare`, where the imported objects are checked again. -/
theorem keeps_verify {verify : ReceiverTransaction → MemoryEffect Unit α}
    {imported : ImportedMixedDirectionBatch} {frame : Option CapabilityFrame} :
    Keeps rel (do
      let tx ← Op.get
      let _ ← inner (Borrowed.memory (verify tx))
      retain imported frame) := by
  apply Op.Keeps.get.bind
  intro tx
  exact (keeps_inner keeps_memory).bind fun _ => keeps_retain

theorem keeps_linuxPrepare : Keeps rel (linuxPrepare t) := by
  apply keeps_receiveImport.bind
  intro received
  apply (Op.Keeps.when keeps_importedSealed).bind
  intro _
  exact keeps_verify

theorem keeps_macPrepare : Keeps rel (macPrepare t) := by
  apply keeps_receiveImport.bind
  intro received
  apply keeps_importedSealed.bind
  intro _
  exact keeps_verify

theorem keeps_windowsPrepare : Keeps rel (windowsPrepare t) := by
  apply keeps_attempt.bind
  intro _
  apply Op.Keeps.get.bind
  intro tx
  apply (keeps_inner (Borrowed.keeps_orPoison keeps_receiveRecord)).bind
  intro offer
  apply keeps_expectation.bind
  intro expected
  apply keeps_matchOffer.bind
  intro admitted
  apply (keeps_inner (Borrowed.keeps_orPoison keeps_windowsReceiveCapabilityRecord)).bind
  intro rights
  apply keeps_importWith.bind
  intro imported
  apply keeps_importedSealed.bind
  intro _
  apply (keeps_inner keeps_memory).bind
  intro _
  exact keeps_retain

theorem keeps_prepare : Keeps rel (prepare t backend) := by
  cases backend with
  | linux => exact keeps_linuxPrepare
  | macos => exact keeps_macPrepare
  | windows => exact keeps_windowsPrepare

theorem keeps_linuxCoordinatorWriterReceive : Keeps rel (linuxCoordinatorWriterReceive t) := by
  apply keeps_receiveImport.bind
  intro received
  exact keeps_retain

theorem keeps_linuxReceiverWriterPrepare : Keeps rel (linuxReceiverWriterPrepare t) := by
  apply keeps_receiveImport.bind
  intro received
  apply keeps_importedSealed.bind
  intro _
  exact keeps_verify

end ReceiverTransaction

end NativeIpc.Session
