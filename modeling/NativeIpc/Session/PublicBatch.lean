import NativeIpc.Session.Activation
import NativeIpc.Session.Transaction

/-!
# Whole batches

Beginning a transaction, activating what it committed, and the public
`transfer_batch` and `receive_batch` of the three backends, which put the
capacity preflight, the guard and the activation together.
Lines are those of `accepted_control.rs`.
-/

namespace NativeIpc.Session

open NativeIpc.Lib Bytes Run
open Activation (MappingOwner ActiveRegionOwner RegionActivationError ActiveRegionSet Custody
  activateLinuxRegions)

/-! ### Beginning on the coordinator -/

namespace Dispatcher

variable (backend : Backend)

/-- `authority_profile() != ..`, which every begin refuses. -/
def checkProfile : BatchEffect Dispatcher Unit := do
  let d ← Op.get
  Op.ofRun (rejectIf (d.parameters.authorityProfile ≠ backend.profile) (.memory .wrongProvenance))

/-- `begin_public_linux_mixed_direction_batch_preflighted`, lines 1667-1704, and its
    copies for macOS, 792-826, and Windows, 993-1028. Whether the session is poisoned is not
    looked at. -/
def beginPublicMixedDirectionBatchPreflighted (batch : MixedDirectionBatch)
    (reservations : List LeaseReservation) (frame : CapabilityFrame) (deadline : Deadline) :
    BatchEffect Dispatcher CoordinatorTransaction := do
  let d ← Op.get
  if d.parameters.authorityProfile ≠ backend.profile ∨ batch.deadline ≠ deadline ∨
      reservations.length ≠ batch.reservationLengths.length ∨ d.state.transactionOpen = false ∨
      d.frameMatchesEntries frame batch.manifestEntries = false then
    orDrop reservations (poisonFail (.memory .wrongProvenance))
  else
    pure (.start d frame deadline batch reservations)

variable (batch : MixedDirectionBatch)

/-- The last step of a begin without preflight. -/
def beginGuard (reservations : List LeaseReservation)
    (deadline : Deadline) : BatchEffect Dispatcher CoordinatorTransaction := do
  let frame ← orDrop reservations
    (Op.mapError .control (beginNativeTransaction batch.manifestEntries deadline))
  let d ← Op.get
  pure (.start d frame deadline batch reservations)

/-- `begin_macos_mixed_direction_batch`, lines 836-870, and its copy for Windows,
    1043-1078. -/
def sectionBeginMixedDirectionBatch (batch : MixedDirectionBatch)
    (deadline : Deadline) : BatchEffect Dispatcher CoordinatorTransaction := do
  checkProfile backend
  Op.ofRun (rejectIf (batch.deadline ≠ deadline) (.memory .wrongProvenance))
  let reservations ← Op.mapError .resource (reserveMappedLengths batch.reservationLengths)
  beginGuard batch reservations deadline

/-- The checks of `begin_linux_mixed_direction_batch_reserved` on its arguments. -/
def checkReserved (reservations : List LeaseReservation)
    (deadline : Deadline) : BatchEffect Dispatcher Unit := do
  checkProfile .linux
  Op.ofRun (rejectIf (batch.deadline ≠ deadline) (.memory .deadlineMismatch))
  Op.ofRun (rejectIf (reservations.length ≠ batch.reservationLengths.length)
    (.memory .invalidBatch))

/-- `begin_linux_mixed_direction_batch_reserved`, lines 1623-1665. -/
def linuxBeginMixedDirectionBatchReserved (reservations : List LeaseReservation)
    (deadline : Deadline) : BatchEffect Dispatcher CoordinatorTransaction := do
  orDrop reservations (checkReserved batch reservations deadline)
  beginGuard batch reservations deadline

/-- `begin_linux_mixed_direction_batch`, lines 1612-1621. -/
def linuxBeginMixedDirectionBatch (deadline : Deadline) :
    BatchEffect Dispatcher CoordinatorTransaction := do
  let reservations ← Op.mapError .resource (reserveMappedLengths batch.reservationLengths)
  linuxBeginMixedDirectionBatchReserved batch reservations deadline

/-- `begin_linux_coordinator_writer_batch` and `begin_linux_receiver_writer_batch`,
    lines 1541-1610: nothing is reserved. -/
def linuxBeginWriterBatch (deadline : Deadline) :
    BatchEffect Dispatcher CoordinatorTransaction := do
  checkProfile .linux
  Op.ofRun (rejectIf (batch.deadline ≠ deadline) (.memory .deadlineMismatch))
  beginGuard batch [] deadline

/-! ### Beginning on the receiver -/

/-- `begin_linux_expected_mixed_direction_batch`, lines 1893-1940, and its copies for
    macOS, 1276-1311, and Windows, 1201-1237. -/
def beginExpectedMixedDirectionBatch (t : Target) (backend : Backend) (expected : ExpectedBatch)
    (deadline : Deadline) : BatchEffect Dispatcher ReceiverTransaction := do
  checkProfile backend
  let d ← Op.get
  let expected ← Op.mapError .memory
    (Op.detached (backend.expectBatch t expected d.parameters.limits deadline))
  let reservations ← Op.mapError .resource (reserveMappedLengths expected.reservationLengths)
  let transactionId ← orDrop reservations
    (Op.mapError .control (enterNativeTransaction deadline))
  let d ← Op.get
  pure (.start d expected none reservations deadline transactionId)

/-- `begin_linux_expected_coordinator_writer_batch` and
    `begin_linux_expected_receiver_writer_batch`, lines 1810-1891. -/
def linuxBeginExpectedBatch (t : Target) (writer : WriterEndpoint) (expected : ExpectedBatch)
    (deadline : Deadline) : BatchEffect Dispatcher ReceiverTransaction := do
  checkProfile .linux
  let d ← Op.get
  let expected ← Op.mapError .memory
    (Op.detached (LinuxExpectedBatch.prepare t writer expected d.parameters.limits deadline))
  let transactionId ← Op.mapError .control (enterNativeTransaction deadline)
  let d ← Op.get
  pure (.start d expected none [] deadline transactionId)

/-- `LinuxBatchBeginError`, lines 301-306. The other backends return the error
    alone. -/
structure BatchBeginError where
  error : CapabilityBatchError
  transactionOpenOnFailure : Bool
  deriving DecidableEq, Repr

namespace BatchBeginError

variable (error : CapabilityBatchError)

/-- Lines 309-314. -/
def beforeTransaction : BatchBeginError := ⟨error, false⟩

/-- Lines 316-321. -/
def afterTransaction : BatchBeginError := ⟨error, true⟩

/-- Lines 323-328. -/
def readyAfterTransaction : BatchBeginError := ⟨error, false⟩

end BatchBeginError

open BatchBeginError

/-- A transport failure inside the preflight of the receiver. -/
def preflightTransport (error : SessionTransportError) : BatchBeginError :=
  afterTransaction (.control (.transport error))

/-- The offer of the coordinator, if it is the one that is expected. -/
def receiveOffer (expected : ExpectedMixedDirectionBatch)
    (transactionId : UInt64) (deadline : Deadline) :
    Effect Dispatcher BatchBeginError (CapabilityFrame × CoordinatorCapacityStatus) := do
  let offer ← orPoison preflightTransport (receiveRecord backend controlFrameLen deadline)
  let d ← Op.get
  match CapabilityFrame.decodeCoordinatorCapacity offer with
  | none => poisonFail (afterTransaction (.control (.control .nonCanonical)))
  | some (frame, manifest, status) =>
    if receivedMixedManifestMatches backend d.parameters transactionId expected manifest then
      pure (frame, status)
    else
      poisonFail (afterTransaction (.control (.control .nonCanonical)))

/-- `self.reserve_mapped_lengths(..).ok()`, tried only for a ready coordinator. -/
def reserveIfReady (status : CoordinatorCapacityStatus) (lengths : List UInt64) :
    Effect Dispatcher BatchBeginError (Option (List LeaseReservation)) := do
  if status = .ready then
    match ← Op.attempt (reserveMappedLengths lengths) with
    | .ok reservations => pure (some reservations)
    | .error (.error _) => pure none
    | .error .fault => Op.ofRun Run.fault
  else
    pure none

/-- What the receiver returns when it has answered that it is not ready. -/
def rejection (status : CoordinatorCapacityStatus) : CapabilityBatchError :=
  match status with
  | .preparationFailed => .peerPreparationFailed
  | .ready | .activeLimit => .activeLimit

/-- The receiver's answer, and the end of the transaction if it is a rejection. -/
def answerOffer (frame : CapabilityFrame)
    (status : CoordinatorCapacityStatus) (reservations : Option (List LeaseReservation))
    (deadline : Deadline) : Effect Dispatcher BatchBeginError (List LeaseReservation) := do
  match reservations with
  | some leases => do
    orDrop leases (orPoison preflightTransport
      (sendRecord backend (frame.receiverCapacityFrame true) deadline))
    pure leases
  | none => do
    orPoison preflightTransport
      (sendRecord backend (frame.receiverCapacityFrame false) deadline)
    Op.mapError (fun error => afterTransaction (.control (.control error)))
      (onState ControlState.endTransaction)
    Op.fail (readyAfterTransaction (rejection status))

/-- `begin_public_linux_expected_mixed_direction_batch`, lines 1942-2052, and its
    copies for macOS, 1313-1402, and Windows, 1109-1199. Only Linux keeps the offered frame. -/
def beginPublicExpectedMixedDirectionBatch (t : Target) (backend : Backend)
    (expected : ExpectedBatch) (deadline : Deadline) :
    Effect Dispatcher BatchBeginError ReceiverTransaction := do
  Op.mapError beforeTransaction (checkProfile backend)
  let d ← Op.get
  let expected ← Op.mapError (fun error => beforeTransaction (.memory error))
    (Op.detached (backend.expectBatch t expected d.parameters.limits deadline))
  let transactionId ← Op.mapError (fun error => beforeTransaction (.control error))
    (enterNativeTransaction deadline)
  let (frame, status) ← receiveOffer backend expected transactionId deadline
  let reservations ← reserveIfReady status expected.reservationLengths
  let leases ← answerOffer backend frame status reservations deadline
  let d ← Op.get
  let preflightFrame := if backend = .linux then some frame else none
  pure (.start d expected preflightFrame leases deadline transactionId)

end Dispatcher

/-! ### Activation -/

variable {ε : Type}

/-- The owner of the view of an object. Where a view lies is not part of an entry: it has pages of
    its own and no guard. -/
def viewOwner (authority : LocalRegionAuthority) (spec : ActiveRegionSpec) (object : Nat)
    (mappedLen : UInt64) (pageSize : Nat) : ActiveRegionOwner :=
  let view : MappingOwner :=
    { base := object * pageSize, len := mappedLen.toNat, pageSize, guardInstalled := false }
  match authority with
  | .writer => .writer spec view
  | .reader => .reader spec view

/-- One owner of `into_active_region_owners`, linux_vnext/memory.rs:2273-2361. -/
def PreparedEntry.owner (t : Target) (backend : Backend) (pageSize : Nat) (entry : PreparedEntry) :
    Run ε ActiveRegionOwner := do
  let spec ← expect (entry.activeSpec t backend)
  -- Only Linux has entries without a view.
  if entry.region.writer = .receiver ∧ backend = .linux ∧ entry.view = .absent then Run.fault
  else
    pure (viewOwner entry.region.writer.coordinatorAuthority spec entry.object
      entry.region.mappedLen pageSize)

/-- linux_vnext/memory.rs:2273-2355, and its copies, macos_vnext/memory.rs:312-354 and
    windows_vnext/memory.rs:453-495. -/
def MixedDirectionBatch.intoActiveRegionOwners (t : Target) (backend : Backend)
    (batch : MixedDirectionBatch) (pageSize : Nat) : Run ε (List ActiveRegionOwner) :=
  batch.entries.mapM (PreparedEntry.owner t backend pageSize)

/-- One owner of `into_active_region_owners`, linux_vnext/memory.rs:2406-2456. -/
def ImportedEntry.owner (t : Target) (backend : Backend) (pageSize : Nat) (entry : ImportedEntry) :
    Run ε ActiveRegionOwner := do
  let spec ← expect (entry.activeSpec t backend)
  pure (viewOwner entry.writer.receiverAuthority spec entry.object entry.manifest.mappedLen
    pageSize)

/-- linux_vnext/memory.rs:2406-2456, and its copies, macos_vnext/memory.rs:612-644 and
    windows_vnext/memory.rs:852-894. -/
def ImportedMixedDirectionBatch.intoActiveRegionOwners (t : Target) (backend : Backend)
    (batch : ImportedMixedDirectionBatch) (pageSize : Nat) : Run ε (List ActiveRegionOwner) :=
  batch.entries.mapM (ImportedEntry.owner t backend pageSize)

namespace Dispatcher

/-- `page_size().expect(..)`, where Linux has the page size already. -/
def ownerPageSize (backend : Backend) (pageSize : Nat) : Effect Unit ε Nat := do
  if backend = .linux then pure pageSize
  else
    let page ← Op.attempt (nativePageSize backend)
    Op.ofRun (expect page)

/-- `activate_linux_regions`, lines 2206-2285, and its copies, 2056-2203. The owners are made only
    for as many reservations as specs. -/
def activateRegions (specs : List ActiveRegionSpec) (reservations : List LeaseReservation)
    (owners : Effect Unit RegionActivationError (List ActiveRegionOwner)) :
    Effect Dispatcher RegionActivationError ActiveRegionSet := do
  let owners ← orDrop reservations
    (if reservations.length = specs.length then Op.detached owners else pure [])
  let d ← Op.get
  Op.within ⟨d, []⟩ Custody.dispatcher (activateLinuxRegions specs reservations none owners)

/-- What all six activations do after they have checked what was committed: Linux asks for the page
    size first. -/
def activateChecked (backend : Backend) (specs : MemoryEffect Unit (List ActiveRegionSpec))
    (owners : Nat → Run RegionActivationError (List ActiveRegionOwner))
    (reservations : List LeaseReservation) :
    Effect Dispatcher RegionActivationError ActiveRegionSet := do
  let (pageSize, specs) ← orDrop reservations (orPoison .memory (Op.detached do
    let pageSize ← if backend = .linux then nativePageSize .linux else pure 0
    let specs ← specs
    pure (pageSize, specs)))
  activateRegions specs reservations do
    let pageSize ← ownerPageSize backend pageSize
    Op.ofRun (owners pageSize)

/-- `activate_linux_coordinator_mixed_direction_batch`, lines 1706-1741, and its
    copies, 872-896 and 1080-1104. -/
def activateCoordinatorBatch (t : Target) (backend : Backend) (committed : CoordinatorCommitted) :
    Effect Dispatcher RegionActivationError ActiveRegionSet := do
  let d ← Op.get
  if committed.parameters ≠ d.parameters ∨ committed.batch.deadline ≠ committed.deadline then
    orDrop committed.reservations (poisonFail .wrongSession)
  else
    activateChecked backend (backend.coordinatorSpecs t committed.batch)
      (committed.batch.intoActiveRegionOwners t backend) committed.reservations

/-- `activate_linux_receiver_mixed_direction_batch`, lines 1773-1808, and its copies,
    1404-1428 and 1239-1263. -/
def activateReceiverBatch (t : Target) (backend : Backend) (committed : ReceiverCommitted) :
    Effect Dispatcher RegionActivationError ActiveRegionSet := do
  let d ← Op.get
  if committed.parameters ≠ d.parameters then
    orDrop committed.reservations (poisonFail .wrongSession)
  else
    activateChecked backend (backend.receiverSpecs t committed.batch committed.deadline)
      (committed.batch.intoActiveRegionOwners t backend) committed.reservations

end Dispatcher

/-! ### Public batch operations -/

/-- What a public batch operation fails with, before it is turned into a public error. -/
inductive PublicBatchError where
  | deadlineExpired
  | activeLimit
  | memory (error : MemoryError)
  | batch (error : CapabilityBatchError)
  | activation (error : RegionActivationError)
  deriving DecidableEq

/-- `LinuxPublicReadyFailure`, linux_vnext/spawn.rs: the error, and whether a transaction was open
    when it happened. The other backends return the error alone. -/
structure PublicReadyFailure where
  error : PublicBatchError
  transactionOpenOnFailure : Bool
  deriving DecidableEq

namespace PublicReadyFailure

variable (error : PublicBatchError)

/-- `before_transaction`. -/
def beforeTransaction : PublicReadyFailure := ⟨error, false⟩

/-- `after_transaction`. -/
def afterTransaction : PublicReadyFailure := ⟨error, true⟩

/-- `ready_after_transaction`. -/
def readyAfterTransaction : PublicReadyFailure := ⟨error, false⟩

end PublicReadyFailure

namespace Dispatcher

open PublicReadyFailure

variable {α : Type}

/-- An error of a batch operation once the transaction is open. -/
def afterBatch (x : BatchEffect Dispatcher α) : Effect Dispatcher PublicReadyFailure α :=
  Op.mapError (fun error => afterTransaction (.batch error)) x

/-- What the coordinator offers after its native preparation. -/
def preparationStatus (preparation : Run MemoryError MixedDirectionBatch) :
    CoordinatorCapacityStatus :=
  match preparation with
  | .ok _ => .ready
  | .error _ => .preparationFailed

variable (backend : Backend)

/-- The part of `transfer_batch` between the reservation and the begin of the guard, for a
    reservation that succeeded. -/
def offerPrepared (batch : TransferBatch) (frame : CapabilityFrame) (leases : List LeaseReservation)
    (deadline : Deadline) : Effect Dispatcher PublicReadyFailure MixedDirectionBatch := do
  let d ← Op.get
  let preparation ← Op.attempt
    (Op.detached (backend.prepareBatch batch d.parameters.authorityProfile deadline))
  let peerReady ← orDrop leases (afterBatch
    (exchangePublicTransferCapacity backend frame (preparationStatus preparation) deadline))
  match preparation with
  | .error .fault => Op.ofRun Run.fault
  | .error (.error error) => do
    dropLeases leases
    Op.fail (readyAfterTransaction (.memory error))
  | .ok prepared =>
    if peerReady then pure prepared
    else do
      dropLeases leases
      Op.fail (readyAfterTransaction .activeLimit)

/-- The capacity preflight of `transfer_batch`, up to the answer of the peer,
    linux_vnext/spawn.rs:1056-1097, macos_vnext/session.rs:867-905 and
    windows_vnext/session.rs:742-780. -/
def transferCapacity (batch : TransferBatch) (deadline : Deadline) :
    Effect Dispatcher PublicReadyFailure
      (CapabilityFrame × MixedDirectionBatch × List LeaseReservation) := do
  if ← isExpired deadline then
    Op.fail (beforeTransaction .deadlineExpired)
  else
    let frame ← Op.mapError (fun error => beforeTransaction (.batch error))
      (beginPublicTransferCapacity batch deadline)
    match ← Op.attempt (reserveTransferBatch batch) with
    | .error .fault => Op.ofRun Run.fault
    | .error (.error _) => do
      let _ ← afterBatch (exchangePublicTransferCapacity backend frame .activeLimit deadline)
      Op.fail (readyAfterTransaction .activeLimit)
    | .ok leases => do
      let prepared ← offerPrepared backend batch frame leases deadline
      pure (frame, prepared, leases)

/-- `transaction.prepare()?; transaction.commit()?` of the coordinator, and the end of the guard. -/
def completeCoordinator (tx : CoordinatorTransaction) :
    BatchEffect Dispatcher CoordinatorCommitted :=
  Op.within tx CoordinatorTransaction.drop do
    CoordinatorTransaction.prepare backend
    CoordinatorTransaction.commit backend

/-- linux_vnext/spawn.rs:1051-1119, macos_vnext/session.rs:862-922 and
    windows_vnext/session.rs:737-797. -/
def transferBatch (t : Target) (backend : Backend) (batch : TransferBatch) (deadline : Deadline) :
    Effect Dispatcher PublicReadyFailure ActiveRegionSet := do
  let (frame, prepared, leases) ← transferCapacity backend batch deadline
  let tx ← afterBatch
    (beginPublicMixedDirectionBatchPreflighted backend prepared leases frame deadline)
  let committed ← afterBatch (completeCoordinator backend tx)
  Op.mapError (fun error => afterTransaction (.activation error))
    (activateCoordinatorBatch t backend committed)

/-- `transaction.prepare()?; transaction.commit()?` of the receiver, and the end of the guard. -/
def completeReceiver (t : Target) (backend : Backend) (tx : ReceiverTransaction) :
    BatchEffect Dispatcher ReceiverCommitted :=
  Op.within tx ReceiverTransaction.drop do
    ReceiverTransaction.prepare t backend
    ReceiverTransaction.commit backend

/-- The first check of `receive_batch`, which Linux leaves to the begin. -/
def checkReceiveDeadline (deadline : Deadline) : Effect Dispatcher PublicReadyFailure Unit := do
  Op.when (backend ≠ .linux) do
    if ← isExpired deadline then Op.fail (beforeTransaction .deadlineExpired)

/-- linux_vnext/spawn.rs:1194-1223, macos_vnext/session.rs:1004-1022 and
    windows_vnext/session.rs:818-836. -/
def receiveBatch (t : Target) (backend : Backend) (expected : ExpectedBatch)
    (deadline : Deadline) : Effect Dispatcher PublicReadyFailure ActiveRegionSet := do
  checkReceiveDeadline backend deadline
  let tx ← Op.mapError
    (fun failure => { error := .batch failure.error
                      transactionOpenOnFailure := failure.transactionOpenOnFailure })
    (beginPublicExpectedMixedDirectionBatch t backend expected deadline)
  let committed ← afterBatch (completeReceiver t backend tx)
  Op.mapError (fun error => afterTransaction (.activation error))
    (activateReceiverBatch t backend committed)

end Dispatcher

end NativeIpc.Session
