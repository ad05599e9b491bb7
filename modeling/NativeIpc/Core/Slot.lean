import NativeIpc.Core.Geometry

/-!
# Slots and acknowledgement cells

Publication, observation and acknowledgement of fixed slots, after
`native-ipc-core/src/slot.rs` and `native-ipc-core/src/mapping.rs`. Shared
memory is the byte content of a mapping; an atomic field is read and written
at its offset in its record. Each modelled call runs without interleaving, so
memory orderings do not appear. Multi-byte fields are little endian, as
`encode_into` writes them.
-/

namespace NativeIpc.Core

open NativeIpc.Lib Bytes Run

/-! ### Shared words -/

variable (bytes : Bytes)

/-- An atomic load of a 64-bit field. -/
def loadU64 (offset : Nat) : UInt64 :=
  UInt64.ofNat (toLe (bytes.extract offset (offset + 8)))

/-- An atomic load of a 32-bit field. -/
def loadU32 (offset : Nat) : UInt32 :=
  UInt32.ofNat (toLe (bytes.extract offset (offset + 4)))

/-- An atomic store to a 64-bit field. -/
def storeU64 (offset : Nat) (value : UInt64) : Bytes :=
  bytes.overwrite offset (ofLe 8 value.toNat)

/-- An atomic store to a 32-bit field. -/
def storeU32 (offset : Nat) (value : UInt32) : Bytes :=
  bytes.overwrite offset (ofLe 4 value.toNat)

/-- The offset of `SlotMetadata::payload_len` (slot.rs:749). -/
def payloadLenOffset : Nat := 8

/-- The offset of `SlotMetadata::published_sequence` (slot.rs:751). -/
def publishedSequenceOffset : Nat := 16

/-! ### Bindings, observations and errors, with their names in slot.rs -/

/-- slot.rs:160, as a reader holds it. -/
structure SlotBinding where
  role : RoleId
  generation : UInt64
  payloadCapacity : UInt32
  slotIndex : UInt32
  slotCount : UInt32
  deriving DecidableEq, Repr

/-- slot.rs:111: the two options of the source's binding
    are always set for a writer. -/
structure WriterSlotBinding extends SlotBinding where
  acknowledgementOwner : RoleId
  acknowledgementCellIndex : UInt32
  deriving DecidableEq, Repr

structure AcknowledgementBinding where
  owner : RoleId
  target : RoleId
  slotIndex : UInt32
  cellIndex : UInt32
  generation : UInt64
  deriving DecidableEq, Repr

structure SlotObservation where
  role : RoleId
  slotIndex : UInt32
  generation : UInt64
  sequence : UInt64
  payloadLen : UInt32
  deriving DecidableEq, Repr

structure AcknowledgementObservation where
  owner : RoleId
  target : RoleId
  generation : UInt64
  slotIndex : UInt32
  cellIndex : UInt32
  sequence : UInt64
  deriving DecidableEq, Repr

inductive SlotError where
  | zeroGeneration
  | unpublishedSequence
  | staleGeneration (expected actual : UInt64)
  | sequenceWrap
  | wrongSlot (expected actual : UInt32)
  | unexpectedFirstSequence (expected actual : UInt64)
  | unexpectedNextSequence (expected actual : UInt64)
  | missingAcknowledgement (sequence : UInt64)
  | wrongAcknowledgementTarget
  | wrongAcknowledgementOwner
  | wrongAcknowledgementSlot
  | wrongAcknowledgementCell
  | staleAcknowledgementGeneration
  | laggingAcknowledgement (expected actual : UInt64)
  | futureAcknowledgement (expected actual : UInt64)
  | staleSequence (expected actual : UInt64)
  | payloadTooLarge (length capacity : UInt32)
  | changedPayloadLength (expected actual : UInt32)
  | wrongObservationRole
  deriving DecidableEq, Repr

inductive AcknowledgementError where
  | wrongTarget
  | staleGeneration
  | wrongSlot
  | unpublishedSequence
  | nonMonotonic (current next : UInt64)
  deriving DecidableEq, Repr

/-- mapping.rs:53. -/
inductive BindingError where
  | mappingSizeMismatch (expected actual : Nat)
  | misalignedRecord
  | layout (error : LayoutError)
  | slot (error : SlotError)
  | allocationFailed
  | payloadLengthOverflow
  | destinationTooSmall (required provided : Nat)
  | topologyMismatch
  | missingRoute (target : RoleId) (slot : UInt32)
  deriving DecidableEq, Repr

/-! ### Slot operations -/

/-- slot.rs:718-728, for the slot record at `start`. -/
def validateBoundGeneration (start : Nat) (expected : UInt64) : Run SlotError Unit := do
  rejectIf (expected = 0) .zeroGeneration
  let actual := loadU64 bytes start
  rejectIf (actual ≠ expected) (.staleGeneration expected actual)

/-- slot.rs:730-743. -/
def validateSequenceSlot (binding : SlotBinding) (sequence : UInt64) : Run SlotError Unit := do
  rejectIf (sequence = 0) .unpublishedSequence
  let expected := UInt32.ofNat ((sequence.toNat - 1) % binding.slotCount.toNat)
  rejectIf (binding.slotIndex ≠ expected) (.wrongSlot expected binding.slotIndex)

/-- The reuse check of `prepare_publish` (slot.rs:216-249): one rotation after
    the current sequence, with the exact acknowledgement of it. -/
def checkReuse (binding : WriterSlotBinding) (current sequence : UInt64)
    (acknowledgement : Option AcknowledgementObservation) : Run SlotError Unit := do
  let expected ← okOr (checkedAdd 64 current.toNat binding.slotCount.toNat) .sequenceWrap
  rejectIf (sequence.toNat ≠ expected) (.unexpectedNextSequence (UInt64.ofNat expected) sequence)
  let acknowledgement ← okOr acknowledgement (.missingAcknowledgement current)
  rejectIf (acknowledgement.target ≠ binding.role) .wrongAcknowledgementTarget
  rejectIf (acknowledgement.owner ≠ binding.acknowledgementOwner) .wrongAcknowledgementOwner
  rejectIf (acknowledgement.slotIndex ≠ binding.slotIndex) .wrongAcknowledgementSlot
  rejectIf (acknowledgement.cellIndex ≠ binding.acknowledgementCellIndex)
    .wrongAcknowledgementCell
  rejectIf (acknowledgement.generation ≠ binding.generation) .staleAcknowledgementGeneration
  rejectIf (acknowledgement.sequence < current)
    (.laggingAcknowledgement current acknowledgement.sequence)
  rejectIf (acknowledgement.sequence > current)
    (.futureAcknowledgement current acknowledgement.sequence)

/-- `WriterSlot::prepare_publish` (slot.rs:199-261): the reservation is its
    sequence and the binding's capacity. -/
def preparePublish (start : Nat) (binding : WriterSlotBinding) (sequence : UInt64)
    (acknowledgement : Option AcknowledgementObservation) : Run SlotError Unit := do
  validateBoundGeneration bytes start binding.generation
  validateSequenceSlot binding.toSlotBinding sequence
  let current := loadU64 bytes (start + publishedSequenceOffset)
  if current = 0 then
    rejectIf (sequence.toNat ≠ binding.slotIndex.toNat + 1)
      (.unexpectedFirstSequence (UInt64.ofNat (binding.slotIndex.toNat + 1)) sequence)
  else
    checkReuse binding current sequence acknowledgement

/-- `PublishReservation::publish` (slot.rs:357-377): the result and the mapping. -/
def publishReserved (start : Nat) (capacity : UInt32) (sequence : UInt64)
    (payloadLen : UInt32) : Run SlotError Unit × Bytes :=
  if payloadLen > capacity then (fail (.payloadTooLarge payloadLen capacity), bytes)
  else
    let bytes := storeU32 bytes (start + payloadLenOffset) payloadLen
    let bytes := storeU64 bytes (start + publishedSequenceOffset) sequence
    (.ok (), bytes)

/-- `ReaderSlot::observe` (slot.rs:289-315). -/
def observeSlot (start : Nat) (binding : SlotBinding)
    (expectedSequence : UInt64) : Run SlotError SlotObservation := do
  validateSequenceSlot binding expectedSequence
  let sequence := loadU64 bytes (start + publishedSequenceOffset)
  rejectIf (sequence ≠ expectedSequence) (.staleSequence expectedSequence sequence)
  validateBoundGeneration bytes start binding.generation
  let payloadLen := loadU32 bytes (start + payloadLenOffset)
  rejectIf (payloadLen > binding.payloadCapacity)
    (.payloadTooLarge payloadLen binding.payloadCapacity)
  pure { role := binding.role, slotIndex := binding.slotIndex,
         generation := binding.generation, sequence, payloadLen }

/-- `ReaderSlot::recheck` (slot.rs:322-352). It compares no slot index. -/
def recheckSlot (start : Nat) (binding : SlotBinding)
    (observation : SlotObservation) : Run SlotError Unit := do
  rejectIf (observation.role ≠ binding.role) .wrongObservationRole
  rejectIf (observation.generation ≠ binding.generation)
    (.staleGeneration binding.generation observation.generation)
  let sequence := loadU64 bytes (start + publishedSequenceOffset)
  rejectIf (sequence ≠ observation.sequence) (.staleSequence observation.sequence sequence)
  validateBoundGeneration bytes start observation.generation
  let payloadLen := loadU32 bytes (start + payloadLenOffset)
  rejectIf (payloadLen ≠ observation.payloadLen)
    (.changedPayloadLength observation.payloadLen payloadLen)

/-- `AcknowledgementWriter::acknowledge` (slot.rs:483-515), for the cell at
    `start`: the result and the mapping. -/
def acknowledgeCell (start : Nat) (binding : AcknowledgementBinding)
    (observation : SlotObservation) : Run AcknowledgementError Unit × Bytes :=
  if observation.role ≠ binding.target then (fail .wrongTarget, bytes)
  else if observation.generation ≠ binding.generation then (fail .staleGeneration, bytes)
  else if observation.slotIndex ≠ binding.slotIndex then (fail .wrongSlot, bytes)
  else if observation.sequence = 0 then (fail .unpublishedSequence, bytes)
  else
    let current := loadU64 bytes start
    if observation.sequence < current then
      (fail (.nonMonotonic current observation.sequence), bytes)
    else if observation.sequence = current then (.ok (), bytes)
    else (.ok (), storeU64 bytes start observation.sequence)

/-- `AcknowledgementReader::observe` (slot.rs:540-549). -/
def observeCell (start : Nat) (binding : AcknowledgementBinding) : AcknowledgementObservation where
  owner := binding.owner
  target := binding.target
  generation := binding.generation
  slotIndex := binding.slotIndex
  cellIndex := binding.cellIndex
  sequence := loadU64 bytes start

/-! ### Bound mappings -/

variable {t : Target}

namespace ValidatedRegionLayout

variable (layout : ValidatedRegionLayout t)

/-- layout.rs:542-551. -/
def readerSlotBinding (slot : UInt32) : LayoutRun SlotBinding := do
  let _ ← layout.slotRange slot
  pure { role := layout.role, generation := layout.header.generation,
         payloadCapacity := layout.header.payloadCapacity, slotIndex := slot,
         slotCount := layout.header.slotCount }

/-- layout.rs:522-539. -/
def writerSlotBinding (route : AcknowledgementRoute) : LayoutRun WriterSlotBinding := do
  rejectIf (route.target ≠ layout.role) .routeRegionMismatch
  let _ ← layout.slotRange route.slotIndex
  pure { role := layout.role, generation := layout.header.generation,
         payloadCapacity := layout.header.payloadCapacity, slotIndex := route.slotIndex,
         slotCount := layout.header.slotCount, acknowledgementOwner := route.owner,
         acknowledgementCellIndex := route.cellIndex }

/-- `acknowledgement_writer_binding` and `acknowledgement_reader_binding`
    (layout.rs:576-604), which differ only in the type they mint. -/
def acknowledgementBinding (route : AcknowledgementRoute) : LayoutRun AcknowledgementBinding := do
  rejectIf (route.owner ≠ layout.role) .routeRegionMismatch
  let _ ← layout.acknowledgementRange route.cellIndex
  pure { owner := route.owner, target := route.target, slotIndex := route.slotIndex,
         cellIndex := route.cellIndex, generation := layout.header.generation }

end ValidatedRegionLayout

/-- `ReaderRegion` and `WriterRegion` (mapping.rs:128, mapping.rs:265), which have
    the same fields; the mapping's bytes are passed to each call. -/
structure BoundRegion (t : Target) where
  base : Nat
  layout : ValidatedRegionLayout t
  topology : RegionSetLayout t
  matched : layout.matchesTopology topology = true

namespace BoundRegion

/-- `ReaderRegion::new` and `WriterRegion::new` (mapping.rs:139-155). -/
def new (base mappingLen : Nat) (layout : ValidatedRegionLayout t)
    (topology : RegionSetLayout t) : Run BindingError (BoundRegion t) :=
  if mappingLen ≠ layout.mappingSize then
    fail (.mappingSizeMismatch layout.mappingSize mappingLen)
  else if matched : layout.matchesTopology topology = true then
    .ok ⟨base, layout, topology, matched⟩
  else fail .topologyMismatch

variable (region : BoundRegion t)

/-- mapping.rs:394-413, for either record type: both have 64 bytes
    and an alignment of 64. The record is its offset. -/
def record (range : Nat × Nat) : Run BindingError Nat := do
  rejectIf (range.2 - range.1 < slotHeaderSize) (.layout .rangeOutOfBounds)
  rejectIf ((region.base + range.1) % slotHeaderSize ≠ 0) .misalignedRecord
  pure range.1

/-- `ReaderRegion::slot` (mapping.rs:158-170): the record and its binding. -/
def readerSlot (bytes : Bytes) (slot : UInt32) : Run BindingError (Nat × SlotBinding) := do
  let binding ← (region.layout.readerSlotBinding slot).mapError .layout
  let range ← (region.layout.slotRange slot).mapError .layout
  let start ← region.record range
  (validateBoundGeneration bytes start binding.generation).mapError .slot
  pure (start, binding)

/-- `WriterRegion::slot` (mapping.rs:300-317). -/
def writerSlot (bytes : Bytes) (slot : UInt32) : Run BindingError (Nat × WriterSlotBinding) := do
  let target := region.layout.role
  let route ← okOr (region.topology.acknowledgementRoute target slot) (.missingRoute target slot)
  let binding ← (region.layout.writerSlotBinding route).mapError .layout
  let range ← (region.layout.slotRange route.slotIndex).mapError .layout
  let start ← region.record range
  (validateBoundGeneration bytes start binding.generation).mapError .slot
  pure (start, binding)

/-- `ReaderRegion::acknowledgement` and `WriterRegion::acknowledgement`
    (mapping.rs:242-261, mapping.rs:347-366): the cell and its binding. -/
def acknowledgement (target : RoleId) (slot : UInt32) :
    Run BindingError (Nat × AcknowledgementBinding) := do
  let route ← okOr (region.topology.acknowledgementRoute target slot) (.missingRoute target slot)
  let binding ← (region.layout.acknowledgementBinding route).mapError .layout
  let range ← (region.layout.acknowledgementRange route.cellIndex).mapError .layout
  let start ← region.record range
  pure (start, binding)

/-- `ReaderRegion::slot(slot)?.observe(sequence)?`. -/
def observe (bytes : Bytes) (slot : UInt32) (sequence : UInt64) :
    Run BindingError SlotObservation := do
  let (start, binding) ← region.readerSlot bytes slot
  (observeSlot bytes start binding sequence).mapError .slot

/-- `ReaderRegion::slot(slot)?.recheck(observation)?`. -/
def recheck (bytes : Bytes) (slot : UInt32)
    (observation : SlotObservation) : Run BindingError Unit := do
  let (start, binding) ← region.readerSlot bytes slot
  (recheckSlot bytes start binding observation).mapError .slot

/-- `ReaderRegion::copy_payload` (mapping.rs:176-199), whose allocation succeeds here. -/
def copyPayload (bytes : Bytes) (slot : UInt32)
    (expectedSequence : UInt64) : Run BindingError Bytes := do
  let observation ← region.observe bytes slot expectedSequence
  let range ← (region.layout.slotPayloadRange slot observation.payloadLen).mapError .layout
  let owned := bytes.extract range.1 range.2
  region.recheck bytes slot observation
  pure owned

/-- What `WriterRegion::publish` does before it writes (mapping.rs:327-332): the
    payload range, the slot record, its capacity and the payload length. -/
def reservePublish (bytes : Bytes) (slot : UInt32) (sequence : UInt64)
    (acknowledgement : Option AcknowledgementObservation) (payload : Bytes) :
    Run BindingError (Nat × Nat × UInt32 × UInt32) := do
  rejectIf (¬ payload.length < 2 ^ 32) .payloadLengthOverflow
  let payloadLen := UInt32.ofNat payload.length
  let range ← (region.layout.slotPayloadRange slot payloadLen).mapError .layout
  let (start, binding) ← region.writerSlot bytes slot
  (preparePublish bytes start binding sequence acknowledgement).mapError .slot
  pure (range.1, start, binding.payloadCapacity, payloadLen)

/-- `WriterRegion::publish` (mapping.rs:320-344): the result and the mapping. -/
def publish (bytes : Bytes) (slot : UInt32) (sequence : UInt64)
    (acknowledgement : Option AcknowledgementObservation) (payload : Bytes) :
    Run BindingError Unit × Bytes :=
  match region.reservePublish bytes slot sequence acknowledgement payload with
  | .error stop => (.error stop, bytes)
  | .ok (payloadStart, start, capacity, payloadLen) =>
    let bytes := bytes.overwrite payloadStart payload
    let (result, bytes) := publishReserved bytes start capacity sequence payloadLen
    (result.mapError .slot, bytes)

end BoundRegion

/-- The error of an acknowledgement: binding the cell or writing it. -/
inductive AcknowledgeError where
  | binding (error : BindingError)
  | acknowledgement (error : AcknowledgementError)
  deriving DecidableEq, Repr

/-- `WriterRegion::acknowledgement(target, slot)?.acknowledge(observation)`: the
    result and the mapping. -/
def BoundRegion.acknowledge (region : BoundRegion t) (bytes : Bytes) (target : RoleId)
    (slot : UInt32) (observation : SlotObservation) : Run AcknowledgeError Unit × Bytes :=
  match (region.acknowledgement target slot).mapError AcknowledgeError.binding with
  | .error stop => (.error stop, bytes)
  | .ok (start, binding) =>
    let (result, bytes) := acknowledgeCell bytes start binding observation
    (result.mapError .acknowledgement, bytes)

/-- `ReaderRegion::acknowledgement(target, slot)?.observe()`. -/
def BoundRegion.observeAcknowledgement (region : BoundRegion t) (bytes : Bytes)
    (target : RoleId) (slot : UInt32) : Run BindingError AcknowledgementObservation := do
  let (start, binding) ← region.acknowledgement target slot
  pure (observeCell bytes start binding)

end NativeIpc.Core
