import NativeIpc.Session.Control
import NativeIpc.Session.Native

/-!
# The accepted-control dispatcher

The owner of an accepted session (`backend/accepted_control.rs`): its transport,
the control state, the lease ledger and the transaction counter, with the
operations on application records, on the child process and on the begin of a
batch transaction. Operations that are the same on the three backends take the
backend as an argument.
Lines are those of `accepted_control.rs`.
-/

namespace NativeIpc.Session

open NativeIpc.Lib Bytes Run

/-! ### State and errors -/

/-- What the transports keep between calls: whether they are poisoned, whether the Linux
    coordinator has taken its child's lifecycle, and the handles the Windows coordinator has
    installed in its child. -/
structure Transport where
  poisoned : Bool
  reaped : Bool
  remoteLedger : List Nat
  deriving DecidableEq, Repr

/-- Lines 79-82. -/
inductive AcceptedControlError where
  | control (error : ControlError)
  | transport (error : SessionTransportError)
  deriving DecidableEq, Repr

/-- `LinuxCapabilityBatchError`, `MacCapabilityBatchError` and `WindowsCapabilityBatchError`,
    lines 293-299, 210-216 and 274-280. -/
inductive CapabilityBatchError where
  | memory (error : MemoryError)
  | control (error : AcceptedControlError)
  | resource (error : ResourceError)
  | activeLimit
  | peerPreparationFailed
  deriving DecidableEq, Repr

/-- A program of a capability batch. -/
abbrev BatchEffect (σ α : Type) : Type := Effect σ CapabilityBatchError α

/-- `AcceptedControlDispatcher`, lines 88-95. The field `issued` is a history
    variable: the ids that `enter_native_transaction` has handed out. Nothing reads it. -/
structure Dispatcher where
  transport : Transport
  state : ControlState
  maximumWireLen : Nat
  parameters : AcceptedSessionParameters
  nextTransaction : UInt64
  resources : ResourceOwner
  issued : List UInt64

/-- `SessionState` as the dispatcher reports it. -/
inductive SessionState where
  | ready
  | poisoned
  deriving DecidableEq, Repr

namespace Dispatcher

/-- Lines 440-468. -/
def new (t : Target) (transport : Transport) (parameters : AcceptedSessionParameters) :
    Option Dispatcher := do
  let limits := parameters.limits
  if (limits.validate t).toOption.isNone ∨ parameters.authorityProfile.isVnext = false then none
  else
    let maximumWireLen ← controlWireLen t limits.maxControlPayloadBytes.toNat
    let state ← ControlState.new parameters.facts.nonce limits.maxControlPayloadBytes
    let resources ← (ResourceOwner.new t limits).toOption
    some {
      transport
      state
      maximumWireLen
      parameters
      nextTransaction := 1
      resources
      issued := [] }

variable (d : Dispatcher)

/-- Lines 586-597. -/
def sessionState : SessionState :=
  if d.state.poisoned ∨ d.resources.state ≠ .active then .poisoned else .ready

/-- `transport.poison()`. -/
def poisonTransport : Dispatcher :=
  { d with transport := { d.transport with poisoned := true } }

/-- Lines 639-643. -/
def poisonBoth : Dispatcher :=
  { d with
    state := d.state.poison
    transport := { d.transport with poisoned := true }
    resources := d.resources.poison }

/-- The ledger after some leases are dropped. -/
def release (leases : List LeaseReservation) : Dispatcher :=
  { d with resources := d.resources.releaseAll leases }

end Dispatcher

/-! ### Building blocks -/

variable {σ ε ε' α : Type}

/-- A method of the control state. -/
def onState (f : ControlState → Run ε α × ControlState) : Effect Dispatcher ε α :=
  Op.update fun d => ((f d.state).1, { d with state := (f d.state).2 })

/-- A method of the lease ledger. -/
def onResources (f : ResourceOwner → Run ε α × ResourceOwner) : Effect Dispatcher ε α :=
  Op.update fun d => ((f d.resources).1, { d with resources := (f d.resources).2 })

/-- `self.poison_both(); return Err(error)`. -/
def poisonFail (error : ε) : Effect Dispatcher ε α := do
  Op.modify Dispatcher.poisonBoth
  Op.fail error

/-- `match x { Ok(a) => a, Err(error) => { self.poison_both(); return Err(..) } }`. -/
def orPoison (convert : ε → ε') (x : Effect Dispatcher ε α) : Effect Dispatcher ε' α := do
  match ← Op.attempt x with
  | .ok a => pure a
  | .error (.error error) => poisonFail (convert error)
  | .error .fault => Op.ofRun Run.fault

/-! ### The transports -/

/-- `MAX_ZERO_RIGHTS_PACKET_BYTES`, linux_vnext.rs:20, and `MAX_VNEXT_RECORD_BYTES`,
    macos/bootstrap.rs:59 and windows.rs:453. -/
def maxRecordBytes : Nat := 64 * 1024

/-- An operation of the transport in a dispatcher. -/
abbrev Transporting (α : Type) : Type := Effect Dispatcher SessionTransportError α

variable (backend : Backend)

/-- The outcome of an operation of the transport, which the macOS and Windows transports poison
    themselves over whenever it is an error. -/
def settle (reply : Except IoFailure α) : Transporting α :=
  match reply with
  | .ok a => pure a
  | .error failure => do
    Op.when (backend ≠ .linux ∨ failure.poisons = true) (Op.modify Dispatcher.poisonTransport)
    Op.fail failure.error

/-- `ensure_live`, and the checks of the Linux transport that stand for it. -/
def ensureLive : Transporting Unit := do
  let d ← Op.get
  if d.transport.reaped then Op.fail .peerExited
  else if d.transport.poisoned then Op.fail (.native none)

/-- A refusal before any I/O, which only the Windows transport poisons itself over. -/
def refuseEarly (error : SessionTransportError) : Transporting α := do
  Op.when (backend = .windows) (Op.modify Dispatcher.poisonTransport)
  Op.fail error

/-- linux_vnext/spawn.rs:1788-1827, macos_vnext/transport.rs:242-253 and
    windows_vnext/transport.rs:203-216. -/
def sendRecord (bytes : Bytes) (deadline : Deadline) : Transporting Unit := do
  ensureLive
  if bytes = [] ∨ maxRecordBytes < bytes.length then
    refuseEarly backend .recordTooLarge
  else
    let reply : Except IoFailure Unit ← Op.perform (Call.sendRecord bytes deadline)
    settle backend reply

/-- The bound that a transport passes on for a record of at most `maximum` bytes: Linux refuses
    one above its packet size, the others clamp it. -/
def recordBound (maximum : Nat) : Option Nat :=
  if maximum = 0 then none
  else if backend = .linux then
    if maxRecordBytes < maximum then none else some maximum
  else
    some (min maximum maxRecordBytes)

/-- linux_vnext/spawn.rs:1829-1866, macos_vnext/transport.rs:255-269 and
    windows_vnext/transport.rs:218-231. -/
def receiveRecord (maximum : Nat) (deadline : Deadline) : Transporting Bytes := do
  ensureLive
  match recordBound backend maximum with
  | none => refuseEarly backend .recordTooLarge
  | some bound =>
    let reply : Except IoFailure Bytes ← Op.perform (Call.receiveRecord bound deadline)
    settle backend reply

/-- `MAX_PACKET_FDS`, linux_vnext.rs:16, and `MAX_CAPABILITY_COUNT`,
    windows_vnext/transport.rs:25. -/
def maxCapabilityCount : Nat := 16

variable (frame : CapabilityFrame)

/-- `send_capability_record` on Linux, linux_vnext/spawn.rs:1556-1582 with 1868-1912. -/
def linuxSendCapabilityRecord (capabilities : List Nat)
    (deadline : Deadline) : Transporting Unit := do
  let d ← Op.get
  Op.ofRun (rejectIf (d.transport.reaped = true) .peerExited)
  Op.ofRun (rejectIf (capabilities.length ≠ frame.capabilityCount ∨
    maxCapabilityCount < capabilities.length) .malformedRecord)
  Op.ofRun (rejectIf (d.transport.poisoned = true) (.native none))
  Op.ofRun (rejectIf (capabilities = []) .malformedRecord)
  let reply : Except IoFailure Unit ←
    Op.perform (Call.sendCapabilities ⟨frame.bytes, capabilities⟩ deadline)
  settle .linux reply

/-- `send_capability_record` on macOS, macos_vnext/transport.rs:330-345. -/
def macSendCapabilityRecord (capabilities : List Nat)
    (deadline : Deadline) : Transporting Unit := do
  ensureLive
  Op.ofRun (rejectIf (capabilities.length ≠ frame.capabilityCount ∨ capabilities = [] ∨
    maxCapabilityCount < capabilities.length) .malformedRecord)
  let reply : Except IoFailure Unit ←
    Op.perform (Call.sendCapabilities ⟨frame.bytes, capabilities⟩ deadline)
  settle .macos reply

/-- One turn of the loop that installs handles in the child, windows_vnext/transport.rs:309-313:
    each handle is in the ledger before the next one is made. -/
def duplicateSource (handles : List Nat) (source : Nat × Bool) : Transporting (List Nat) := do
  let remote ← Op.mapError (fun _ => SessionTransportError.native none)
    (Op.detached (native (.duplicate source.1 source.2)))
  Op.modify fun d => { d with
    transport := { d.transport with remoteLedger := d.transport.remoteLedger ++ [remote] } }
  pure (handles ++ [remote])

/-- The inner operation of `send_capability_record`, windows_vnext/transport.rs:308-333: the
    handles and the record that names them. -/
def installAndSend (sources : List (Nat × Bool)) (deadline : Deadline) : Transporting Unit := do
  let handles ← sources.foldlM duplicateSource []
  let reply : Except IoFailure Unit ←
    Op.perform (Call.sendCapabilities ⟨frame.bytes, handles⟩ deadline)
  match reply with
  | .ok () => pure ()
  | .error failure => Op.fail failure.error

/-- `session.terminate_and_reap_code(deadline).map_err(..)?`. -/
def terminateChildCode (deadline : Deadline) : Transporting UInt32 := do
  let reply : Except SessionTransportError UInt32 ← Op.perform (Call.childExitCode true deadline)
  match reply with
  | .ok code => pure code
  | .error error => Op.fail error

/-- `remote_ledger.clear()`. -/
def clearLedger : Effect Dispatcher ε Unit :=
  Op.modify fun d => { d with transport := { d.transport with remoteLedger := [] } }

/-- The body of `send_capability_record`, windows_vnext/transport.rs:296-339. -/
def windowsCapabilityBody (batch : MixedDirectionBatch)
    (deadline : Deadline) : Transporting Unit := do
  let d ← Op.get
  Op.ofRun (rejectIf (d.transport.remoteLedger ≠ []) .malformedRecord)
  let sources ← Op.mapError (fun _ => SessionTransportError.malformedRecord)
    (Op.detached (WindowsMixedDirectionBatch.capabilitySources batch))
  Op.ofRun (rejectIf (sources.length ≠ frame.capabilityCount ∨ sources = [] ∨
    maxCapabilityCount < sources.length) .malformedRecord)
  match ← Op.attempt (installAndSend frame sources deadline) with
  | .ok () => pure ()
  | .error stop => do
    let _ ← terminateChildCode deadline
    clearLedger
    Op.ofRun (.error stop)

/-- windows_vnext/transport.rs:154-162. -/
def terminal (x : Transporting α) : Transporting α := do
  match ← Op.attempt x with
  | .ok a => pure a
  | .error stop => do
    Op.modify Dispatcher.poisonTransport
    Op.ofRun (.error stop)

/-- `send_capability_record` on Windows, windows_vnext/transport.rs:289-341. -/
def windowsSendCapabilityRecord (batch : MixedDirectionBatch)
    (deadline : Deadline) : Transporting Unit := do
  ensureLive
  terminal (windowsCapabilityBody frame batch deadline)

/-- `send_capability_record` with the capabilities of a batch. -/
def sendCapabilityRecord (frame : CapabilityFrame) (batch : MixedDirectionBatch)
    (deadline : Deadline) : Transporting Unit :=
  match backend with
  | .linux => linuxSendCapabilityRecord frame batch.capabilities deadline
  | .macos => macSendCapabilityRecord frame batch.capabilities deadline
  | .windows => windowsSendCapabilityRecord frame batch deadline

/-- `receive_candidate_capability_record`, linux_vnext/spawn.rs:1941-1979 and
    macos_vnext/transport.rs:213-235. A record with another number of rights is malformed. -/
def receiveCandidate (count : Nat) (deadline : Deadline) : Transporting Message := do
  ensureLive
  Op.ofRun (rejectIf (count = 0 ∨ maxCapabilityCount < count) .malformedRecord)
  let reply : Except IoFailure Message ← Op.perform (Call.receiveCapabilities count deadline)
  let message ← settle backend reply
  if message.rights.length = count then pure message
  else settle backend (.error ⟨.malformedRecord, false⟩)

/-- `receive_capability_record` on Windows, windows_vnext/transport.rs:347-371, with
    `adopt_capability_record`, 420-461: the record must name the expected frame and distinct
    nonzero handles. -/
def windowsReceiveCapabilityRecord (expected : CapabilityFrame) (deadline : Deadline) :
    Transporting (List Nat) := do
  let message ← receiveCandidate .windows expected.capabilityCount deadline
  if message.bytes = expected.bytes ∧ 0 ∉ message.rights ∧ message.rights.Nodup then
    pure message.rights
  else settle .windows (.error ⟨.malformedRecord, true⟩)

/-! ### Application records, the peer and the child -/

namespace Dispatcher

/-- Lines 478-510. -/
def sendParts (t : Target) (backend : Backend) (kind : UInt32) (payload : Bytes)
    (deadline : Deadline) : Effect Dispatcher AcceptedControlError Unit := do
  let d ← Op.get
  if d.state.poisoned then Op.fail (.control .poisoned)
  else
    match d.state.encodedLenParts t kind payload.length with
    | .error .fault => Op.ofRun Run.fault
    | .error (.error error) =>
      if error = .transactionConflict ∨ error = .sequenceExhausted then
        poisonFail (.control error)
      else
        Op.fail (.control error)
    | .ok wireLen => do
      let reserved : Bool ← Op.perform (Call.tryReserve wireLen)
      if reserved then
        let wire := List.replicate wireLen 0
        match ← Op.attempt (onState fun s => s.encodePartsInto t kind payload wire) with
        | .error .fault => Op.ofRun Run.fault
        | .error (.error error) => do
          Op.modify fun d => if d.state.poisoned then d.poisonTransport else d
          Op.fail (.control error)
        | .ok (_, wire) => orPoison .transport (sendRecord backend wire deadline)
      else
        Op.fail (.control .allocationFailed)

/-- Lines 512-548. -/
def receive (t : Target) (backend : Backend) (deadline : Deadline) :
    Effect Dispatcher AcceptedControlError ControlFrame := do
  let d ← Op.get
  if d.state.poisoned then Op.fail (.control .poisoned)
  else if d.state.transactionOpen then poisonFail (.control .transactionConflict)
  else
    let wire ← orPoison .transport (receiveRecord backend d.maximumWireLen deadline)
    if wire.length ≤ d.maximumWireLen then
      orPoison .control (onState fun s => s.decodeOwned t wire)
    else
      poisonFail (.transport .recordTooLarge)

variable (backend : Backend)

/-- `try_poll_peer` of the transports, linux_vnext/spawn.rs:1424-1434. -/
def pollTransport : Transporting PeerState := do
  ensureLive
  let reply : Except IoFailure PeerState ← Op.perform Call.pollPeer
  settle backend reply

/-- accepted_control.rs:550-565. -/
def tryPollPeer : Effect Dispatcher AcceptedControlError PeerState := do
  let d ← Op.get
  if d.state.poisoned then Op.fail (.control .poisoned)
  else
    match ← orPoison .transport (pollTransport backend) with
    | .running => pure .running
    | .exitedUnknown => do
      Op.modify poisonBoth
      pure .exitedUnknown

/-- Lines 605-607. -/
def tryCloseResources : Effect Dispatcher ResourceError Unit :=
  onResources ResourceOwner.tryClose

/-- Lines 610-612. -/
def poisonSession : Effect Dispatcher Empty Unit :=
  Op.modify poisonBoth

/-- `lifecycle.take()` of the Linux coordinator. -/
def takeLifecycle : Effect Dispatcher ε Unit :=
  Op.modify fun d => { d with transport := { d.transport with reaped := true } }

variable (deadline : Deadline)

/-- `wait_for_linux_child` and `wait_for_macos_child`, lines 1433-1442 and
    706-715. -/
def waitForChild : Effect Dispatcher Empty ChildCleanupFacts := do
  let cleanup : ChildCleanupFacts ← Op.perform (Call.reapChild false deadline)
  Op.when (cleanup.directChildComplete = true ∨ cleanup.nativeError.isSome = true)
    (Op.modify poisonBoth)
  pure cleanup

/-- `abort_linux_child` and `abort_macos_child`, lines 1444-1450 and 717-723. Only
    the Linux transport gives its lifecycle away. -/
def abortChild (deadline : Deadline) : Effect Dispatcher Empty ChildCleanupFacts := do
  Op.modify poisonBoth
  Op.when (backend = .linux) takeLifecycle
  let cleanup : ChildCleanupFacts ← Op.perform (Call.reapChild true deadline)
  pure cleanup

/-- Lines 901-913, with `wait_for_child_exit`,
    windows_vnext/transport.rs:118-130. -/
def waitForWindowsChild : Transporting UInt32 := do
  let reply : Except SessionTransportError UInt32 ← Op.perform (Call.childExitCode false deadline)
  match reply with
  | .ok code => do
    clearLedger
    Op.modify poisonBoth
    pure code
  | .error error => do
    Op.when (error ≠ .deadlineExpired) (Op.modify poisonBoth)
    Op.fail error

/-- accepted_control.rs:915-922, with `terminate_and_reap_code`,
    windows_vnext/transport.rs:377-390. The resources are left as they are. -/
def terminateWindowsChild : Transporting UInt32 := do
  Op.modify poisonTransport
  Op.modify fun d => { d with state := d.state.poison }
  let code ← terminateChildCode deadline
  clearLedger
  pure code

/-- accepted_control.rs:4448-4455, with the transports' own. The resources
    are left as they are. -/
def terminateAndReap (deadline : Deadline) : Transporting Unit := do
  Op.modify poisonTransport
  Op.modify fun d => { d with state := d.state.poison }
  match backend with
  | .windows => do
    let _ ← terminateChildCode deadline
    clearLedger
  | _ => do
    let d ← Op.get
    Op.ofRun (rejectIf (d.transport.reaped = true) .peerExited)
    Op.when (backend = .linux) takeLifecycle
    let cleanup : ChildCleanupFacts ← Op.perform (Call.reapChild true deadline)
    if cleanup.directChildComplete then pure ()
    else Op.fail (if cleanup.nativeError.isSome then .native cleanup.nativeError
      else .deadlineExpired)

/-- `wait_for_peer_exit` of the Linux receiver's transport, linux_vnext/spawn.rs:1651-1692. -/
def waitForPeerExit : Transporting PeerState := do
  let d ← Op.get
  if d.transport.poisoned then Op.fail .poisoned
  else
    let reply : Except SessionTransportError PeerState ← Op.perform (Call.waitPeerExit deadline)
    match reply with
    | .ok state => pure state
    | .error error => Op.fail error

/-- accepted_control.rs:1746-1763. -/
def waitForLinuxPeerExit : Transporting PeerState := do
  match ← Op.attempt (waitForPeerExit deadline) with
  | .ok .exitedUnknown => do
    Op.modify poisonBoth
    pure .exitedUnknown
  | .ok .running => pure .running
  | .error (.error error) => do
    Op.when (error ≠ .deadlineExpired) (Op.modify poisonBoth)
    Op.fail error
  | .error .fault => Op.ofRun Run.fault

/-! ### Entering a transaction and the capacity preflight -/

/-- Lines 615-624. -/
def reserveMappedLengths (lengths : List UInt64) :
    Effect Dispatcher ResourceError (List LeaseReservation) :=
  onResources fun owner => owner.reserveMappedLengths lengths

/-- Leases that go out of scope. -/
def dropLeases (leases : List LeaseReservation) : Effect Dispatcher ε Unit :=
  Op.modify fun d => d.release leases

/-- `x?` while leases are held that an error drops. -/
def orDrop (leases : List LeaseReservation) (x : Effect Dispatcher ε α) :
    Effect Dispatcher ε α := do
  match ← Op.attempt x with
  | .ok a => pure a
  | .error stop => do
    dropLeases leases
    Op.ofRun (.error stop)

/-- The manifest of a transaction with these entries, lines 4229-4236. -/
def manifest (d : Dispatcher) (transferId : UInt64) (entries : List ManifestEntry) :
    Option TransferManifest :=
  TransferManifest.newWithAuthority d.parameters.facts.nonce d.parameters.facts.parentPid
    d.parameters.facts.childPid transferId d.parameters.authorityProfile entries

/-- Lines 4189-4205. -/
def frameMatchesEntries (d : Dispatcher) (frame : CapabilityFrame)
    (entries : List ManifestEntry) : Bool :=
  match CapabilityFrame.decode frame.bytes with
  | none => false
  | some (_, manifest) =>
    match d.manifest manifest.transferId entries with
    | none => false
    | some expected => manifest = expected ∧ manifest.fitsLimits d.parameters.limits

/-- The checks that both entry points of a transaction make first, lines 4212-4226
    and 4250-4264. -/
def checkEntry : Effect Dispatcher AcceptedControlError Unit := do
  let d ← Op.get
  if d.state.poisoned then Op.fail (.control .poisoned)
  else if ← isExpired deadline then Op.fail (.transport .deadlineExpired)
  else if d.parameters.limits.maxTransactions < d.nextTransaction then
    poisonFail (.control .sequenceExhausted)

/-- The end of `enter_native_transaction`, lines 4274-4279: the id is handed out and
    the counter goes up; `expect` is the fault. -/
def takeTransactionId (d : Dispatcher) : Run AcceptedControlError UInt64 × Dispatcher :=
  match checkedSucc d.nextTransaction with
  | none => (Run.fault, d)
  | some next =>
    (.ok d.nextTransaction,
      { d with nextTransaction := next, issued := d.issued ++ [d.nextTransaction] })

/-- Lines 4246-4280. A conflict poisons the control state
    and the transport, and leaves the resources as they are. -/
def enterNativeTransaction : Effect Dispatcher AcceptedControlError UInt64 := do
  checkEntry deadline
  match ← Op.attempt (onState ControlState.beginTransaction) with
  | .ok () => Op.update takeTransactionId
  | .error .fault => Op.ofRun Run.fault
  | .error (.error error) => do
    Op.modify fun d => if d.state.poisoned then d.poisonTransport else d
    Op.fail (.control error)

/-- Lines 4207-4244. -/
def beginNativeTransaction (entries : List ManifestEntry) (deadline : Deadline) :
    Effect Dispatcher AcceptedControlError CapabilityFrame := do
  checkEntry deadline
  let d ← Op.get
  match d.manifest d.nextTransaction entries with
  | none => Op.fail (.control .nonCanonical)
  | some manifest =>
    if manifest.fitsLimits d.parameters.limits then do
      let _ ← enterNativeTransaction deadline
      pure (CapabilityFrame.fromManifest manifest)
    else
      Op.fail (.control .payloadTooLarge)

/-- `begin_public_linux_transfer_capacity`, lines 1464-1474, and its copies for
    macOS, 725-735, and Windows, 924-936. -/
def beginPublicTransferCapacity (batch : TransferBatch) (deadline : Deadline) :
    BatchEffect Dispatcher CapabilityFrame := do
  let entries ← Op.ofRun (okOr batch.manifestEntries (.memory .invalidBatch))
  Op.mapError .control (beginNativeTransaction entries deadline)

/-- `reserve_linux_transfer_batch`, lines 1457-1462, and its copies for macOS,
    737-742, and Windows, 938-943. -/
def reserveTransferBatch (batch : TransferBatch) :
    Effect Dispatcher ResourceError (List LeaseReservation) :=
  reserveMappedLengths batch.reservationLengths

/-- Which of the two answers of a receiver the response is. -/
def capacityAnswer (frame : CapabilityFrame) (response : Bytes) : Option Bool :=
  if frame.receiverCapacityFrame true = response then some true
  else if frame.receiverCapacityFrame false = response then some false
  else none

/-- `exchange_public_linux_transfer_capacity`, lines 1476-1522, and its copies for
    macOS, 744-790, and Windows, 945-991. -/
def exchangePublicTransferCapacity (frame : CapabilityFrame)
    (localStatus : CoordinatorCapacityStatus) (deadline : Deadline) :
    BatchEffect Dispatcher Bool := do
  orPoison (fun error => .control (.transport error))
    (sendRecord backend (frame.coordinatorCapacityFrame localStatus) deadline)
  let response ← orPoison (fun error => .control (.transport error))
    (receiveRecord backend controlFrameLen deadline)
  match capacityAnswer frame response with
  | none => poisonFail (.control (.control .nonCanonical))
  | some peerReady =>
    if localStatus ≠ .ready ∧ peerReady = true then
      poisonFail (.control (.control .nonCanonical))
    else do
      Op.when (localStatus ≠ .ready ∨ peerReady = false)
        (Op.mapError (fun error => .control (.control error))
          (onState ControlState.endTransaction))
      pure peerReady

end Dispatcher

end NativeIpc.Session
