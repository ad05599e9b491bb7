import NativeIpc.Session.Dispatcher

/-!
# Batch transactions

The guards of an open batch transaction (`backend/accepted_control.rs`): the
coordinator's and the receiver's, with `prepare`, `commit` and what dropping
them does. A guard has borrowed the dispatcher and poisons it at most once.
Lines are those of `accepted_control.rs`.
-/

namespace NativeIpc.Session

open NativeIpc.Lib Bytes Run

variable {ε ε' α : Type}

/-! ### The borrowed dispatcher -/

/-- The dispatcher a guard has borrowed, and `already_poisoned`. -/
structure Borrowed where
  dispatcher : Dispatcher
  alreadyPoisoned : Bool

namespace Borrowed

/-- `poison` of the guards, lines 4304-4309. -/
def poison (b : Borrowed) : Borrowed :=
  if b.alreadyPoisoned then b
  else { dispatcher := b.dispatcher.poisonBoth, alreadyPoisoned := true }

/-- An operation of the dispatcher. -/
def lift (x : Effect Dispatcher ε α) : Effect Borrowed ε α :=
  Op.zoom Borrowed.dispatcher (fun b d => { b with dispatcher := d }) x

/-- `self.poison(); return Err(error)`. -/
def poisonFail (error : ε) : Effect Borrowed ε α := do
  Op.modify Borrowed.poison
  Op.fail error

/-- `match x { Ok(a) => a, Err(error) => { self.poison(); return Err(..) } }`. -/
def orPoison (convert : ε → ε') (x : Effect Dispatcher ε α) : Effect Borrowed ε' α := do
  match ← Op.attempt (lift x) with
  | .ok a => pure a
  | .error (.error error) => poisonFail (convert error)
  | .error .fault => Op.ofRun Run.fault

/-- An operation of the transport, whose failure poisons. -/
def transport (x : Transporting α) : BatchEffect Borrowed α :=
  orPoison (fun error => .control (.transport error)) x

/-- An operation of the memory modules, whose failure poisons. -/
def memory (x : MemoryEffect Unit α) : BatchEffect Borrowed α :=
  orPoison .memory (Op.detached x)

/-- The record is refused as not canonical. -/
def nonCanonical : BatchEffect Borrowed α :=
  poisonFail (.control (.control .nonCanonical))

/-- The call is refused as repeated or out of order. -/
def replayOrReorder : BatchEffect Borrowed α :=
  poisonFail (.control (.control .replayOrReorder))

/-- `send_preparation_bytes`, lines 4365-4371, and the sends of the receiver. -/
def sendFrame (backend : Backend) (frame : Bytes) (deadline : Deadline) :
    BatchEffect Borrowed Unit :=
  transport (sendRecord backend frame deadline)

/-- `receive_preparation` and `receive_completion`, lines 4311-4354, and the same
    lines of the receiver: the next record must be `frame`. -/
def receiveFrame (backend : Backend) (frame : Bytes) (deadline : Deadline) :
    BatchEffect Borrowed Unit := do
  let bytes ← transport (receiveRecord backend controlFrameLen deadline)
  if bytes = frame then pure () else nonCanonical

/-- The end of a transaction: `end_transaction`, after which dropping the guard changes nothing. -/
def finish : BatchEffect Borrowed Unit := do
  orPoison (fun error => .control (.control error)) (onState ControlState.endTransaction)
  Op.modify fun b => { b with alreadyPoisoned := true }

end Borrowed

open Borrowed (lift transport memory sendFrame receiveFrame nonCanonical replayOrReorder)

/-! ### The coordinator -/

/-- `LinuxCoordinatorMixedDirectionTransaction`, lines 138-149, its copies for macOS
    and Windows, and the two Linux transactions of one direction, 119-135. The `attempted` of the
    inner `CoordinatorCapabilityTransaction`, 102-108, is `sent`. -/
structure CoordinatorTransaction where
  borrowed : Borrowed
  frame : CapabilityFrame
  deadline : Deadline
  sent : Bool
  batch : MixedDirectionBatch
  reservations : List LeaseReservation
  attempted : Bool

/-- `LinuxCoordinatorCommittedMixedDirectionBatch`, lines 154-161, and its copies. -/
structure CoordinatorCommitted where
  batch : MixedDirectionBatch
  reservations : List LeaseReservation
  parameters : AcceptedSessionParameters
  deadline : Deadline

namespace CoordinatorTransaction

/-- The guard right after a begin. -/
def start (d : Dispatcher) (frame : CapabilityFrame) (deadline : Deadline)
    (batch : MixedDirectionBatch) (reservations : List LeaseReservation) : CoordinatorTransaction :=
  { borrowed := ⟨d, false⟩, frame, deadline, sent := false, batch, reservations,
    attempted := false }

/-- `Drop` of the inner transaction, lines 4400-4404, then the leases. -/
def drop (tx : CoordinatorTransaction) : Dispatcher :=
  tx.borrowed.poison.dispatcher.release tx.reservations

/-- A step of the inner transaction. -/
def inner (x : Effect Borrowed ε α) : Effect CoordinatorTransaction ε α :=
  Op.zoom CoordinatorTransaction.borrowed (fun tx b => { tx with borrowed := b }) x

variable (backend : Backend)

/-- `CoordinatorCapabilityTransaction::send`, lines 4284-4302. -/
def send : BatchEffect CoordinatorTransaction Unit := do
  let tx ← Op.get
  if tx.sent then inner replayOrReorder
  else
    Op.modify fun tx => { tx with sent := true }
    inner (transport (sendCapabilityRecord backend tx.frame tx.batch tx.deadline))

/-- The first lines of every `prepare`: it may be called once. -/
def attempt : BatchEffect CoordinatorTransaction Unit := do
  let tx ← Op.get
  if tx.attempted then inner replayOrReorder
  else Op.modify fun tx => { tx with attempted := true }

/-- The exchange of IMPORTED and SEALED around a step of the memory module. -/
def importedSealed (settle : MixedDirectionBatch → MemoryEffect Unit MixedDirectionBatch) :
    BatchEffect CoordinatorTransaction Unit := do
  let tx ← Op.get
  inner (receiveFrame backend (tx.frame.preparationFrame .imported) tx.deadline)
  let batch ← inner (memory (settle tx.batch))
  Op.modify fun tx => { tx with batch }
  inner (sendFrame backend (tx.frame.preparationFrame .sealed) tx.deadline)

/-- `LinuxCoordinatorMixedDirectionTransaction::prepare`, lines 2650-2692. -/
def linuxPrepare : BatchEffect CoordinatorTransaction Unit := do
  attempt
  let tx ← Op.get
  inner (memory (LinuxMixedDirectionBatch.revalidateBeforeSend tx.batch))
  send .linux
  Op.when (tx.batch.requiresImportedSealed = true)
    (importedSealed .linux LinuxMixedDirectionBatch.sealAfterImport)

/-- `MacCoordinatorMixedDirectionTransaction::prepare`, lines 2543-2589: the batch is
    revalidated where Linux seals it. -/
def macPrepare : BatchEffect CoordinatorTransaction Unit := do
  attempt
  let tx ← Op.get
  inner (memory (MacMixedDirectionBatch.revalidateBeforeSend tx.batch))
  send .macos
  importedSealed .macos fun batch => do
    MacMixedDirectionBatch.revalidateBeforeSend batch
    pure batch

/-- `WindowsCoordinatorMixedDirectionTransaction::prepare`, lines 2429-2478: the
    manifest goes ahead of the handles as a record of its own. -/
def windowsPrepare : BatchEffect CoordinatorTransaction Unit := do
  attempt
  let tx ← Op.get
  inner (memory (WindowsMixedDirectionBatch.revalidateBeforeSend tx.batch))
  inner (sendFrame .windows tx.frame.bytes tx.deadline)
  send .windows
  importedSealed .windows fun batch => do
    WindowsMixedDirectionBatch.revalidateBeforeSend batch
    pure batch

/-- `prepare` of each backend. -/
def prepare : BatchEffect CoordinatorTransaction Unit :=
  match backend with
  | .linux => linuxPrepare
  | .macos => macPrepare
  | .windows => windowsPrepare

/-- `CoordinatorCapabilityTransaction::finish`, lines 4373-4384. -/
def finish : BatchEffect CoordinatorTransaction Unit := do
  let tx ← Op.get
  if tx.sent then inner Borrowed.finish else inner replayOrReorder

/-- The moves out of the guard at the end of `commit`. -/
def committed : BatchEffect CoordinatorTransaction CoordinatorCommitted := do
  let tx ← Op.get
  Op.modify fun tx => { tx with reservations := [] }
  pure {
    batch := tx.batch
    reservations := tx.reservations
    parameters := tx.borrowed.dispatcher.parameters
    deadline := tx.deadline }

/-- Lines 2697-2792, 2591-2635 and 2480-2528. Windows also forgets the
    handles it has installed in the child. -/
def commit : BatchEffect CoordinatorTransaction CoordinatorCommitted := do
  let tx ← Op.get
  if tx.attempted then
    inner (receiveFrame backend (tx.frame.completionFrame .ready) tx.deadline)
    inner (sendFrame backend (tx.frame.completionFrame .commit) tx.deadline)
    finish
    Op.when (backend = .windows) (inner (lift clearLedger))
    committed
  else
    inner replayOrReorder

/-- `LinuxCoordinatorWriterTransaction::send`, lines 2289-2298. -/
def linuxWriterSend : BatchEffect CoordinatorTransaction Unit := do
  let tx ← Op.get
  inner (memory (LinuxMixedDirectionBatch.revalidate tx.batch.deadline tx.batch.entries))
  send .linux

/-- `LinuxCoordinatorReceiverWriterTransaction::prepare`, lines 2313-2370. -/
def linuxReceiverWriterPrepare : BatchEffect CoordinatorTransaction Unit := do
  attempt
  let tx ← Op.get
  inner (memory (LinuxMixedDirectionBatch.revalidate tx.batch.deadline tx.batch.entries))
  send .linux
  importedSealed .linux LinuxMixedDirectionBatch.sealAfterImport

end CoordinatorTransaction

/-! ### The receiver -/

/-- `LinuxReceiverMixedDirectionTransaction`, lines 403-427, its copies for macOS and
    Windows, and the two Linux transactions of one direction. Only the Linux guard of a public
    batch has a `preflight_frame`. -/
structure ReceiverTransaction where
  borrowed : Borrowed
  expected : Option ExpectedMixedDirectionBatch
  imported : Option ImportedMixedDirectionBatch
  frame : Option CapabilityFrame
  preflightFrame : Option CapabilityFrame
  reservations : List LeaseReservation
  deadline : Deadline
  transactionId : UInt64
  attempted : Bool

/-- `LinuxReceiverCommittedMixedDirectionBatch`, lines 429-436, and its copies. -/
structure ReceiverCommitted where
  batch : ImportedMixedDirectionBatch
  reservations : List LeaseReservation
  parameters : AcceptedSessionParameters
  deadline : Deadline

/-- `linux_received_mixed_manifest_matches`, lines 4081-4095, and its copies,
    4047-4079 and 4098-4129. -/
def receivedMixedManifestMatches (backend : Backend) (parameters : AcceptedSessionParameters)
    (transactionId : UInt64) (expected : ExpectedMixedDirectionBatch)
    (manifest : TransferManifest) : Bool :=
  manifest.nonce = parameters.facts.nonce
    && manifest.parentPid = parameters.facts.parentPid
    && manifest.childPid = parameters.facts.childPid
    && manifest.transferId = transactionId
    && manifest.authorityProfile = parameters.authorityProfile
    && manifest.fitsLimits parameters.limits
    && backend.matchesManifest expected manifest

namespace ReceiverTransaction

/-- The guard right after a begin. -/
def start (d : Dispatcher) (expected : ExpectedMixedDirectionBatch)
    (preflightFrame : Option CapabilityFrame) (reservations : List LeaseReservation)
    (deadline : Deadline) (transactionId : UInt64) : ReceiverTransaction :=
  { borrowed := ⟨d, false⟩, expected := some expected, imported := none, frame := none,
    preflightFrame, reservations, deadline, transactionId, attempted := false }

/-- Lines 4146-4151, then the leases. -/
def drop (tx : ReceiverTransaction) : Dispatcher :=
  tx.borrowed.poison.dispatcher.release tx.reservations

/-- A step on the dispatcher. -/
def inner (x : Effect Borrowed ε α) : Effect ReceiverTransaction ε α :=
  Op.zoom ReceiverTransaction.borrowed (fun tx b => { tx with borrowed := b }) x

/-- The first lines of every `prepare`: it may be called once. -/
def attempt : BatchEffect ReceiverTransaction Unit := do
  let tx ← Op.get
  if tx.attempted then inner replayOrReorder
  else Op.modify fun tx => { tx with attempted := true }

/-- `self.expected.as_ref().expect(..)`. -/
def expectation : BatchEffect ReceiverTransaction ExpectedMixedDirectionBatch := do
  let tx ← Op.get
  match tx.expected with
  | some expected => pure expected
  | none => Op.ofRun Run.fault

variable (backend : Backend)

/-- The manifest a record names, if it is the one that is expected. -/
def matchOffer (expected : ExpectedMixedDirectionBatch) (bytes : Bytes) :
    BatchEffect ReceiverTransaction (CapabilityFrame × TransferManifest) := do
  let tx ← Op.get
  match CapabilityFrame.decode bytes with
  | none => inner nonCanonical
  | some (frame, manifest) =>
    if tx.preflightFrame.any fun preflight => preflight.bytes ≠ frame.bytes then
      inner nonCanonical
    else if receivedMixedManifestMatches backend tx.borrowed.dispatcher.parameters
        tx.transactionId expected manifest then
      pure (frame, manifest)
    else
      inner nonCanonical

/-- `self.expected.take()` and the import. -/
def importWith (x : MemoryEffect Unit ImportedMixedDirectionBatch) :
    BatchEffect ReceiverTransaction ImportedMixedDirectionBatch := do
  Op.modify fun tx => { tx with expected := none }
  inner (memory x)

/-- The exchange of IMPORTED and SEALED. -/
def importedSealed (frame : CapabilityFrame) : BatchEffect ReceiverTransaction Unit := do
  let tx ← Op.get
  inner (sendFrame backend (frame.preparationFrame .imported) tx.deadline)
  inner (receiveFrame backend (frame.preparationFrame .sealed) tx.deadline)

/-- `self.imported = Some(imported); self.frame = Some(frame)`. -/
def retain (imported : ImportedMixedDirectionBatch) (frame : Option CapabilityFrame) :
    BatchEffect ReceiverTransaction Unit :=
  Op.modify fun tx => { tx with imported := some imported, frame }

/-- The first part of every `prepare` that takes the manifest and the objects from one record:
    lines 3675-3744, 3480-3530, 2854-2916 and 2961-3021. -/
def receiveImport (importBatch : ExpectedMixedDirectionBatch → TransferManifest → List Nat →
      MemoryEffect Unit ImportedMixedDirectionBatch) :
    BatchEffect ReceiverTransaction
      (ExpectedMixedDirectionBatch × CapabilityFrame × ImportedMixedDirectionBatch) := do
  attempt
  let expected ← expectation
  let tx ← Op.get
  let record ← inner (transport (receiveCandidate backend expected.entries.length tx.deadline))
  let (frame, manifest) ← matchOffer backend expected record.bytes
  let imported ← importWith (importBatch expected manifest record.rights)
  pure (expected, frame, imported)

variable (t : Target)

/-- `LinuxReceiverMixedDirectionTransaction::prepare`, lines 3674-3824. -/
def linuxPrepare : BatchEffect ReceiverTransaction Unit := do
  let (expected, frame, imported) ←
    receiveImport .linux (LinuxExpectedMixedDirectionBatch.importBatch t true)
  Op.when (expected.requiresImportedSealed = true) (importedSealed .linux frame)
  let tx ← Op.get
  inner (memory (LinuxImportedMixedDirectionBatch.verifyFinalSeals imported tx.deadline))
  retain imported (some frame)

/-- `MacReceiverMixedDirectionTransaction::prepare`, lines 3479-3580. -/
def macPrepare : BatchEffect ReceiverTransaction Unit := do
  let (_, frame, imported) ←
    receiveImport .macos (MacExpectedMixedDirectionBatch.importBatch t)
  importedSealed .macos frame
  let tx ← Op.get
  let _ ← inner (memory (MacImportedMixedDirectionBatch.activationSpecs t imported tx.deadline))
  retain imported (some frame)

/-- `WindowsReceiverMixedDirectionTransaction::prepare`, lines 3257-3378: the
    manifest comes ahead of the handles. -/
def windowsPrepare : BatchEffect ReceiverTransaction Unit := do
  attempt
  let tx ← Op.get
  let offer ← inner (transport (receiveRecord .windows controlFrameLen tx.deadline))
  let expected ← expectation
  let (frame, manifest) ← matchOffer .windows expected offer
  let rights ← inner (transport (windowsReceiveCapabilityRecord frame tx.deadline))
  let imported ← importWith
    (WindowsExpectedMixedDirectionBatch.importBatch t expected manifest rights)
  importedSealed .windows frame
  let _ ← inner
    (memory (WindowsImportedMixedDirectionBatch.activationSpecs t imported tx.deadline))
  retain imported (some frame)

/-- `prepare` of each backend. -/
def prepare (backend : Backend) : BatchEffect ReceiverTransaction Unit :=
  match backend with
  | .linux => linuxPrepare t
  | .macos => macPrepare t
  | .windows => windowsPrepare t

/-- The moves out of the guard at the end of `commit`; `expect` is the fault. -/
def committed : BatchEffect ReceiverTransaction ReceiverCommitted := do
  let tx ← Op.get
  match tx.imported with
  | none => Op.ofRun Run.fault
  | some batch => do
    Op.modify fun tx => { tx with imported := none, reservations := [] }
    pure {
      batch
      reservations := tx.reservations
      parameters := tx.borrowed.dispatcher.parameters
      deadline := tx.deadline }

/-- Lines 3829-3955, 3582-3652 and 3380-3457. -/
def commit : BatchEffect ReceiverTransaction ReceiverCommitted := do
  let tx ← Op.get
  match tx.frame with
  | none => inner replayOrReorder
  | some frame =>
    if tx.attempted = false ∨ tx.imported.isNone then inner replayOrReorder
    else
      inner (sendFrame backend (frame.completionFrame .ready) tx.deadline)
      inner (receiveFrame backend (frame.completionFrame .commit) tx.deadline)
      inner Borrowed.finish
      committed

/-- `LinuxReceiverCoordinatorWriterTransaction::receive`, lines 2853-2925. -/
def linuxCoordinatorWriterReceive : BatchEffect ReceiverTransaction Unit := do
  let (_, _, imported) ←
    receiveImport .linux (LinuxExpectedMixedDirectionBatch.importBatch t false)
  retain imported none

/-- `LinuxReceiverWriterTransaction::prepare`, lines 2960-3176. -/
def linuxReceiverWriterPrepare : BatchEffect ReceiverTransaction Unit := do
  let (_, frame, imported) ←
    receiveImport .linux (LinuxExpectedMixedDirectionBatch.importBatch t false)
  importedSealed .linux frame
  let tx ← Op.get
  inner (memory (LinuxImportedMixedDirectionBatch.verifyFinalSeals imported tx.deadline))
  retain imported none

end ReceiverTransaction

end NativeIpc.Session
