import NativeIpc.Session.FinalSealing

/-!
# Native batches

The memory side of a mixed-direction batch: the coordinator's prepared entries,
the receiver's expectation and its imported entries, on the three backends
(`backend/linux_vnext/memory.rs`, `backend/macos_vnext/memory.rs` and
`backend/windows_vnext/memory.rs`). The kernel's part of each operation is a
`NativeStep`; a view always has the mapped length it was asked for. Guard
policies, which only add ways to fail, are part of the native steps. Final
sealing is the program of `Session.FinalSealing`, its calls made native steps.
Lines are those of `linux_vnext/memory.rs`.
-/

namespace NativeIpc.Session

open NativeIpc.Lib Bytes Run

variable {σ : Type}

/-! ### Page rounding -/

/-- What a backend returns when the page size is not a power of two. -/
def Backend.pageSizeError : Backend → MemoryError
  | .linux | .macos => .native none
  | .windows => .invalidSize

/-- Lines 2928-2936 and windows_vnext/memory.rs:1244-1254, and
    `page_size`, macos.rs:1062-1072. -/
def nativePageSize (backend : Backend) : MemoryEffect σ Nat := do
  let page ← native .pageSize
  if page.isPowerOfTwo then pure page else Op.fail backend.pageSizeError

/-- What a backend returns when a length cannot be rounded up. -/
def Backend.pageAlignError : Backend → MemoryError
  | .linux => .invalidSize
  | .macos | .windows => .native none

variable (t : Target)

/-- The rounding of `page_align`, lines 2938-2947, macos.rs:1074-1086 and
    windows.rs:1753-1769. -/
def pageAlign (page size : Nat) : Option UInt64 :=
  if size = 0 then none
  else do
    let value ← checkedAdd t.bits size (page - 1)
    let aligned := value / page * page
    if aligned < 2 ^ (t.bits - 1) then some (.ofNat aligned) else none

/-! ### Prepared batches -/

/-- The local view of a prepared region: a receiver-written region gets the coordinator's view
    only after final sealing on Linux. -/
inductive ViewState where
  | absent
  | mapped
  deriving DecidableEq, Repr

/-- An entry of `LinuxMixedDirectionBatch`, `MacMixedDirectionBatch` or
    `WindowsMixedDirectionBatch`: the region, its kernel object and the local view. -/
structure PreparedEntry where
  region : PreparedRegion
  object : Nat
  view : ViewState

/-- `LinuxMixedDirectionBatch`, `MacMixedDirectionBatch` and `WindowsMixedDirectionBatch`. -/
structure MixedDirectionBatch where
  entries : List PreparedEntry
  deadline : Deadline

namespace MixedDirectionBatch

variable (batch : MixedDirectionBatch)

/-- Lines 1140-1148. -/
def manifestEntries : List ManifestEntry :=
  batch.entries.map fun entry => entry.region.entry

/-- Lines 1150-1155. -/
def reservationLengths : List UInt64 :=
  batch.manifestEntries.map ManifestEntry.mappedLen

/-- Lines 1157-1165, and `capability_names`,
    macos_vnext/memory.rs:262-270. -/
def capabilities : List Nat :=
  batch.entries.map PreparedEntry.object

/-- linux_vnext/memory.rs:1179-1183. -/
def requiresImportedSealed : Bool :=
  batch.entries.any fun entry => entry.region.writer = .receiver

/-- The start of every `prepare_inner`: the regions in canonical order. -/
def pending (backend : Backend) (batch : TransferBatch) (authorityProfile : NativeAuthorityProfile)
    (deadline : Deadline) : MemoryEffect σ (List PreparedRegion) := do
  checkDeadline deadline
  Op.ofRun (rejectIf (authorityProfile ≠ backend.profile) .wrongProvenance)
  Op.ofRun (rejectIf (batch.regions = []) .invalidBatch)
  pure batch.canonical

/-- The checks of `validate_prepared_entries` on one entry, macos_vnext/memory.rs:667-698 and
    windows_vnext/memory.rs:922-952, after the entries before it. -/
def validEntry (backend : Backend) (earlier : List PreparedEntry) (entry : PreparedEntry) : Bool :=
  let region := entry.region
  earlier.getLast?.all (fun previous => previous.region.id.key < region.id.key)
    && (backend = .windows || entry.object ≠ 0)
    && !(earlier.any fun previous => previous.object = entry.object)
    && region.logicalLen ≠ 0 && region.logicalLen ≤ region.mappedLen

/-- The loop of `validate_prepared_entries`. -/
def validateEntries (backend : Backend) (deadline : Deadline) :
    List PreparedEntry → List PreparedEntry → MemoryEffect σ Unit
  | _, [] => checkDeadline deadline
  | earlier, entry :: rest => do
    checkDeadline deadline
    if validEntry backend earlier entry then
      validateEntries backend deadline (earlier ++ [entry]) rest
    else
      Op.fail .wrongProvenance

/-- macos_vnext/memory.rs:667-701 and windows_vnext/memory.rs:922-952. -/
def validatePreparedEntries (backend : Backend) (entries : List PreparedEntry)
    (deadline : Deadline) : MemoryEffect σ Unit := do
  Op.ofRun (rejectIf (entries = [] ∨ 16 < entries.length) .invalidBatch)
  validateEntries backend deadline [] entries

end MixedDirectionBatch

namespace LinuxMixedDirectionBatch

/-- The coordinator's view of a region it writes exists from the start. -/
def initialView : WriterEndpoint → ViewState
  | .coordinator => .mapped
  | .receiver => .absent

variable (deadline : Deadline)

/-- One turn of the loop of `prepare_inner`, lines 1099-1124. The batch of one
    region that the source hands on never refuses it. -/
def prepareEntry (entries : List PreparedEntry) (region : PreparedRegion) :
    MemoryEffect σ (List PreparedEntry) := do
  checkDeadline deadline
  let single ← Op.ofRun
    ((TransferBatch.new 1 region.mappedLen region.mappedLen).mapError fun _ => .invalidBatch)
  Op.ofRun ((single.add region).1.mapError fun _ => .invalidBatch)
  let object ← native (.prepareRegion region.id region.writer region.mappedLen)
  pure (entries ++ [{ region, object, view := initialView region.writer }])

/-- Lines 1072-1138. -/
def prepare (batch : TransferBatch) (authorityProfile : NativeAuthorityProfile)
    (deadline : Deadline) : MemoryEffect σ MixedDirectionBatch := do
  let regions ← MixedDirectionBatch.pending .linux batch authorityProfile deadline
  let entries ← regions.foldlM (prepareEntry deadline) []
  checkDeadline deadline
  pure { entries, deadline }

/-- `validate_object(fd, len, seals)? == key`. -/
def validateKey (object : Nat) (mappedLen : UInt64) (seals : SealSet) : MemoryEffect σ Unit := do
  let key ← native (.validateObject object mappedLen seals)
  Op.ofRun (rejectIf (key ≠ object) .wrongObject)

/-- `CoordinatorWriterPrepared::revalidate`, lines 688-702: the original and the
    exported descriptor name one object. -/
def revalidatePrepared (entry : PreparedEntry) : MemoryEffect σ Unit := do
  checkDeadline deadline
  let original ← native (.validateObject entry.object entry.region.mappedLen .finalSeals)
  checkDeadline deadline
  let exported ← native (.validateObject entry.object entry.region.mappedLen .finalSeals)
  checkDeadline deadline
  Op.ofRun (rejectIf (original ≠ entry.object ∨ exported ≠ entry.object) .wrongObject)

/-- One turn of the loops of `revalidate` and `revalidate_prefix`. -/
def revalidateTurn (entry : PreparedEntry) : MemoryEffect σ Unit := do
  match entry.region.writer with
  | .coordinator => revalidatePrepared deadline entry
  | .receiver =>
    Op.ofRun (rejectIf (entry.view ≠ .absent) .wrongObject)
    validateKey entry.object entry.region.mappedLen .prefixSeals
  checkDeadline deadline

/-- `LinuxCoordinatorWriterBatch::revalidate`, lines 773-783, and
    `LinuxReceiverWriterBatch::revalidate_prefix`, 884-897, on the entries of such a batch. -/
def revalidate (entries : List PreparedEntry) : MemoryEffect σ Unit := do
  checkDeadline deadline
  entries.forM (revalidateTurn deadline)

/-- Lines 1167-1177: each entry is a batch of its own. -/
def revalidateBeforeSend (batch : MixedDirectionBatch) : MemoryEffect σ Unit := do
  checkDeadline batch.deadline
  batch.entries.forM fun entry => do
    revalidate batch.deadline [entry]
    checkDeadline batch.deadline

/-- `pending.advise(..)?` and the check after it, for both advices. -/
def adviseView (view : Nat) : MemoryEffect σ Unit := do
  let _ ← native (.advise view)
  checkDeadline deadline
  let _ ← native (.advise view)
  checkDeadline deadline

/-- An entry as the final sealing has it, a batch of one region. The number of its object is its
    key, and no view is mapped yet. -/
def sealingEntry (entry : PreparedEntry) : Sealing.MixedEntry :=
  let key : Sealing.ObjectKey :=
    { device := 0, inode := entry.object, mappedLen := entry.region.mappedLen }
  match entry.region.writer with
  | .coordinator => .coordinatorWriter [{ fd := entry.object, key }]
  | .receiver => .receiverWriter [{
      fd := entry.object, key, mapping := none, pendingMapping := none,
      guardRequested := entry.region.guardRequested }]

/-- What the final sealing asks of the system, as native steps. A guard that is asked for is placed
    or fails the step. -/
def makeSealing : (c : Sealing.Call) → Proc Call Reply (Sealing.Reply c)
  | .expired deadline => .call (.expired deadline) .ret
  | .validateObject fd mappedLen seals =>
    let expected := if seals = Sealing.finalSeals then .finalSeals else .prefixSeals
    .call (.native (.validateObject fd mappedLen expected)) fun (reply : Except MemoryError Nat) =>
      .ret (reply.map fun key => { device := 0, inode := key, mappedLen })
  | .addSeals fd _ =>
    .call (.native (.addSeals fd)) fun (reply : Except MemoryError Nat) =>
      .ret (reply.map fun _ => ())
  | .map fd len guard =>
    .call (.native (.mapView fd len false)) fun (reply : Except MemoryError Nat) =>
      .ret (reply.map fun base => { base, len, guarded := guard })
  | .advise base _ _ =>
    .call (.native (.advise base)) fun (reply : Except MemoryError Nat) =>
      .ret (reply.map fun _ => ())

/-- The entry with the view that the final sealing has mapped. -/
def withView (entry : PreparedEntry) (sealed : Sealing.MixedEntry) : PreparedEntry :=
  if sealed.receivers.any fun receiver => receiver.mapping.isSome then
    { entry with view := .mapped }
  else entry

/-- Lines 1185-1318: the batch with its views. What an error leaves half mapped is dropped with
    the transaction. -/
def sealAfterImport (batch : MixedDirectionBatch) : MemoryEffect σ MixedDirectionBatch := do
  let ((), sealed) ← Op.through makeSealing (batch.entries.map sealingEntry)
    (Sealing.sealAfterImport batch.deadline)
  pure { batch with entries := List.zipWith withView batch.entries sealed }

end LinuxMixedDirectionBatch

namespace MacMixedDirectionBatch

/-- One turn of the loop of `prepare_inner`, macos_vnext/memory.rs:195-239. -/
def prepareEntry (deadline : Deadline) (entries : List PreparedEntry) (region : PreparedRegion) :
    MemoryEffect σ (List PreparedEntry) := do
  checkDeadline deadline
  let _ ← Op.ofRun (okOr region.nativeSpec .invalidBatch)
  let object ← native (.prepareRegion region.id region.writer region.mappedLen)
  pure (entries ++ [{ region, object, view := .mapped }])

/-- macos_vnext/memory.rs:167-246. -/
def prepare (batch : TransferBatch) (authorityProfile : NativeAuthorityProfile)
    (deadline : Deadline) : MemoryEffect σ MixedDirectionBatch := do
  let regions ← MixedDirectionBatch.pending .macos batch authorityProfile deadline
  let entries ← regions.foldlM (prepareEntry deadline) []
  checkDeadline deadline
  MixedDirectionBatch.validatePreparedEntries .macos entries deadline
  pure { entries, deadline }

/-- macos_vnext/memory.rs:283-286. -/
def revalidateBeforeSend (batch : MixedDirectionBatch) : MemoryEffect σ Unit := do
  checkDeadline batch.deadline
  MixedDirectionBatch.validatePreparedEntries .macos batch.entries batch.deadline

end MacMixedDirectionBatch

namespace WindowsMixedDirectionBatch

/-- One turn of the loop of `prepare_inner`, windows_vnext/memory.rs:316-375: as on macOS. -/
def prepareEntry (deadline : Deadline) (entries : List PreparedEntry) (region : PreparedRegion) :
    MemoryEffect σ (List PreparedEntry) :=
  MacMixedDirectionBatch.prepareEntry deadline entries region

/-- windows_vnext/memory.rs:293-384. -/
def prepare (batch : TransferBatch) (authorityProfile : NativeAuthorityProfile)
    (deadline : Deadline) : MemoryEffect σ MixedDirectionBatch := do
  let regions ← MixedDirectionBatch.pending .windows batch authorityProfile deadline
  let entries ← regions.foldlM (prepareEntry deadline) []
  checkDeadline deadline
  MixedDirectionBatch.validatePreparedEntries .windows entries deadline
  pure { entries, deadline }

/-- windows_vnext/memory.rs:413-416. -/
def revalidateBeforeSend (batch : MixedDirectionBatch) : MemoryEffect σ Unit := do
  checkDeadline batch.deadline
  MixedDirectionBatch.validatePreparedEntries .windows batch.entries batch.deadline

/-- windows_vnext/memory.rs:418-425: each object and whether the peer may
    write to it. -/
def capabilitySources (batch : MixedDirectionBatch) : MemoryEffect σ (List (Nat × Bool)) := do
  revalidateBeforeSend batch
  pure (batch.entries.map fun entry => (entry.object, entry.region.writer = .receiver))

end WindowsMixedDirectionBatch

/-! ### Expectations -/

/-- An entry of an expectation, linux_vnext/memory.rs `LinuxExpectedMixedDirectionEntry` and
    macos_vnext/memory.rs:401-407. -/
structure ExpectedEntry where
  id : RegionId
  writer : WriterEndpoint
  logicalLen : UInt64
  mappedLen : UInt64
  deriving DecidableEq

/-- `LinuxExpectedMixedDirectionBatch`, `MacExpectedMixedDirectionBatch` and
    `WindowsExpectedMixedDirectionBatch`. -/
structure ExpectedMixedDirectionBatch where
  entries : List ExpectedEntry
  totalLogical : UInt64
  totalMapped : UInt64
  deadline : Deadline
  deriving DecidableEq

namespace ExpectedMixedDirectionBatch

variable (expected : ExpectedMixedDirectionBatch)

/-- Lines 1808-1810. -/
def reservationLengths : List UInt64 :=
  expected.entries.map ExpectedEntry.mappedLen

/-- Lines 1816-1820. -/
def requiresImportedSealed : Bool :=
  expected.entries.any fun entry => entry.writer = .receiver

/-- The limits every expectation is checked against first. -/
def AboveLimits (limits : SessionLimits) (expected : ExpectedBatch) : Prop :=
  limits.maxRegionsPerBatch.toNat < expected.regions.length ∨
    limits.maxActiveRegions.toNat < expected.regions.length ∨
    limits.maxBatchBytes < expected.totalLogical

instance (limits : SessionLimits) (expected : ExpectedBatch) :
    Decidable (AboveLimits limits expected) :=
  inferInstanceAs (Decidable (_ ∨ _))

/-- The comparison of one entry with the entry of a manifest at its place. -/
def matchesEntry (expected : ExpectedEntry) (received : ManifestEntry) (ordinal : Nat) : Bool :=
  received.regionId = expected.id.value && received.writer = expected.writer.code
    && received.access = expected.writer.access && received.logicalLen = expected.logicalLen
    && received.mappedLen = expected.mappedLen && received.ordinal.toNat = ordinal

/-- Lines 1822-1840. -/
def matchesManifest (manifest : TransferManifest) : Bool :=
  manifest.entries.length = expected.entries.length
    && manifest.totalLogical = expected.totalLogical
    && manifest.totalMapped = expected.totalMapped
    && (expected.entries.zip manifest.entries).zipIdx.all fun ((entry, received), ordinal) =>
      matchesEntry entry received ordinal

end ExpectedMixedDirectionBatch

variable (expected : ExpectedBatch) (limits : SessionLimits) (deadline : Deadline)

namespace LinuxExpectedMixedDirectionBatch

/-- The turn of the loop of `prepare` after its deadline check, lines 1775-1794. -/
def expectEntry (sofar : List ExpectedEntry × UInt64) (region : ExpectedRegion) :
    MemoryEffect σ (List ExpectedEntry × UInt64) := do
  Op.ofRun (rejectIf (limits.maxRegionBytes < region.logicalLen) .invalidBatch)
  Op.ofRun (rejectIf (region.logicalLen = 0) Backend.linux.pageAlignError)
  let page ← nativePageSize .linux
  let mappedLen ← Op.ofRun
    (okOr (pageAlign t page region.logicalLen.toNat) Backend.linux.pageAlignError)
  let totalMapped ← Op.ofRun (okOr (checkedAddU64 sofar.2 mappedLen) .invalidBatch)
  Op.ofRun (rejectIf (limits.maxBatchBytes < totalMapped ∨ limits.maxActiveBytes < totalMapped)
    .invalidBatch)
  let entry : ExpectedEntry :=
    { id := region.id, writer := region.writer, logicalLen := region.logicalLen, mappedLen }
  pure (sofar.1 ++ [entry], totalMapped)

/-- One turn of the loop of `prepare`, lines 1773-1794. -/
def prepareEntry (sofar : List ExpectedEntry × UInt64) (region : ExpectedRegion) :
    MemoryEffect σ (List ExpectedEntry × UInt64) := do
  checkDeadline deadline
  expectEntry t limits sofar region

/-- Lines 1759-1802. -/
def prepare : MemoryEffect σ ExpectedMixedDirectionBatch := do
  checkDeadline deadline
  Op.ofRun (rejectIf (ExpectedMixedDirectionBatch.AboveLimits limits expected) .invalidBatch)
  let (entries, totalMapped) ← expected.regions.foldlM (prepareEntry t limits deadline) ([], 0)
  pure { entries, totalLogical := expected.totalLogical, totalMapped, deadline }

/-- Lines 1822-1840. -/
def matchesManifest (expected : ExpectedMixedDirectionBatch) (manifest : TransferManifest) : Bool :=
  expected.matchesManifest manifest

end LinuxExpectedMixedDirectionBatch

/-- `LinuxExpectedCoordinatorWriterBatch::prepare`, lines 1388-1433, and
    `LinuxExpectedReceiverWriterBatch::prepare`, 1561-1606: all regions have one writer. -/
def LinuxExpectedBatch.prepare (writer : WriterEndpoint) (expected : ExpectedBatch)
    (limits : SessionLimits) (deadline : Deadline) :
    MemoryEffect σ ExpectedMixedDirectionBatch := do
  checkDeadline deadline
  Op.ofRun (rejectIf (ExpectedMixedDirectionBatch.AboveLimits limits expected) .invalidBatch)
  let (entries, totalMapped) ← expected.regions.foldlM (fun sofar region => do
    checkDeadline deadline
    Op.ofRun (rejectIf (region.writer ≠ writer) .unsupportedDirection)
    LinuxExpectedMixedDirectionBatch.expectEntry t limits sofar region) ([], 0)
  pure { entries, totalLogical := expected.totalLogical, totalMapped, deadline }

namespace MacExpectedMixedDirectionBatch

/-- What `new` checks before its loop, macos_vnext/memory.rs:423-431. -/
def checkLimits : MemoryEffect σ Unit := do
  checkDeadline deadline
  let _ ← Op.ofRun ((limits.validate t).mapError fun _ => .invalidBatch)
  Op.ofRun (rejectIf (ExpectedMixedDirectionBatch.AboveLimits limits expected) .invalidBatch)

/-- The turn of the loop of `new` with a mapped length, macos_vnext/memory.rs:436-452. -/
def addEntry (sofar : List ExpectedEntry × UInt64) (region : ExpectedRegion)
    (mappedLen : UInt64) : Run MemoryError (List ExpectedEntry × UInt64) := do
  let totalMapped ← okOr (checkedAddU64 sofar.2 mappedLen) .invalidSize
  let entry : ExpectedEntry :=
    { id := region.id, writer := region.writer, logicalLen := region.logicalLen, mappedLen }
  pure (sofar.1 ++ [entry], totalMapped)

/-- One turn of the loop of `new`, macos_vnext/memory.rs:435-453. -/
def prepareEntry (page : Nat) (sofar : List ExpectedEntry × UInt64) (region : ExpectedRegion) :
    MemoryEffect σ (List ExpectedEntry × UInt64) := do
  Op.ofRun (rejectIf (limits.maxRegionBytes < region.logicalLen) .invalidSize)
  let mappedLen ← Op.ofRun
    (okOr (pageAlign t page region.logicalLen.toNat) Backend.macos.pageAlignError)
  Op.ofRun (addEntry sofar region mappedLen)

/-- The end of `new`, macos_vnext/memory.rs:454-462. -/
def finish (entries : List ExpectedEntry) (totalMapped : UInt64) :
    Run MemoryError ExpectedMixedDirectionBatch := do
  rejectIf (limits.maxBatchBytes < totalMapped ∨ limits.maxActiveBytes < totalMapped) .invalidSize
  pure { entries, totalLogical := expected.totalLogical, totalMapped, deadline }

/-- macos_vnext/memory.rs:418-460. -/
def new : MemoryEffect σ ExpectedMixedDirectionBatch := do
  checkLimits t expected limits deadline
  let page ← nativePageSize .macos
  let (entries, totalMapped) ← expected.regions.foldlM (prepareEntry t limits page) ([], 0)
  Op.ofRun (finish expected limits deadline entries totalMapped)

/-- macos_vnext/memory.rs:462-481. -/
def matchesManifest (expected : ExpectedMixedDirectionBatch) (manifest : TransferManifest) : Bool :=
  manifest.authorityProfile = .macMachV1 && expected.matchesManifest manifest

end MacExpectedMixedDirectionBatch

namespace WindowsExpectedMixedDirectionBatch

/-- One turn of the loop of `new`, windows_vnext/memory.rs:622-640, which asks for the page size
    each time. -/
def prepareEntry (limits : SessionLimits) (sofar : List ExpectedEntry × UInt64)
    (region : ExpectedRegion) : MemoryEffect σ (List ExpectedEntry × UInt64) := do
  Op.ofRun (rejectIf (limits.maxRegionBytes < region.logicalLen) .invalidSize)
  Op.ofRun (rejectIf (region.logicalLen = 0) Backend.windows.pageAlignError)
  let page ← native .pageSize
  Op.ofRun (rejectIf (¬ page.isPowerOfTwo) Backend.windows.pageAlignError)
  let mappedLen ← Op.ofRun
    (okOr (pageAlign t page region.logicalLen.toNat) Backend.windows.pageAlignError)
  Op.ofRun (MacExpectedMixedDirectionBatch.addEntry sofar region mappedLen)

/-- windows_vnext/memory.rs:644-687. -/
def new (expected : ExpectedBatch) (limits : SessionLimits) (deadline : Deadline) :
    MemoryEffect σ ExpectedMixedDirectionBatch := do
  MacExpectedMixedDirectionBatch.checkLimits t expected limits deadline
  let (entries, totalMapped) ← expected.regions.foldlM (prepareEntry t limits) ([], 0)
  Op.ofRun (MacExpectedMixedDirectionBatch.finish expected limits deadline entries totalMapped)

/-- windows_vnext/memory.rs:689-708. -/
def matchesManifest (expected : ExpectedMixedDirectionBatch) (manifest : TransferManifest) : Bool :=
  manifest.authorityProfile = .windowsSectionsV1 && expected.matchesManifest manifest

end WindowsExpectedMixedDirectionBatch

/-! ### Activation -/

/-- `LinuxActiveRegionSpec`, lines 137-143, `MacActiveRegionSpec` and
    `WindowsActiveRegionSpec`. -/
structure ActiveRegionSpec where
  id : RegionId
  authority : LocalRegionAuthority
  logicalLen : Nat
  mappedLen : UInt64
  guardRequested : GuardPolicy
  deriving DecidableEq

/-- The value fits `usize`. -/
def fitsUsize (value : UInt64) : Prop := value.toNat < 2 ^ t.bits

instance (t : Target) (value : UInt64) : Decidable (fitsUsize t value) :=
  inferInstanceAs (Decidable (_ < _))

/-- What a backend returns for the spec of a region with inconsistent lengths. -/
def Backend.inconsistent : Backend → MemoryError
  | .linux => .wrongObject
  | .macos | .windows => .wrongProvenance

/-- Lines 2897-2918, and `active_spec`,
    macos_vnext/memory.rs:850-870. -/
def activeRegionSpec (backend : Backend) (regionId : BitVec 128)
    (authority : LocalRegionAuthority) (logicalLen mappedLen : UInt64)
    (guardRequested : GuardPolicy) : Run MemoryError ActiveRegionSpec :=
  if h : regionId = 0 then fail .wrongProvenance
  else do
    rejectIf (¬ fitsUsize t logicalLen ∨ ¬ fitsUsize t mappedLen) .invalidSize
    rejectIf (logicalLen = 0 ∨ mappedLen < logicalLen) backend.inconsistent
    pure {
      id := ⟨regionId, h⟩, authority, logicalLen := logicalLen.toNat, mappedLen, guardRequested }

variable (specs : List ActiveRegionSpec)

/-- No neighbours with `pair[0].id >= pair[1].id`. -/
def increasingIds : Bool :=
  (specs.zip specs.tail).all fun pair => pair.1.id.key < pair.2.id.key

/-- Lines 2920-2926. -/
def validateActiveSpecs : Run MemoryError Unit :=
  rejectIf (specs = [] ∨ 16 < specs.length ∨ increasingIds specs = false) .wrongProvenance

/-- `validate_active_specs`, macos_vnext/memory.rs:905-917 and its copy for Windows. -/
def validateSectionSpecs : Run MemoryError Unit := do
  rejectIf (specs = [] ∨ 16 < specs.length) .invalidBatch
  rejectIf (increasingIds specs = false ∨
    (specs.any fun spec => spec.logicalLen = 0 || spec.mappedLen.toNat < spec.logicalLen) = true)
    .wrongProvenance

/-- The coordinator's authority over a region with this writer. -/
def WriterEndpoint.coordinatorAuthority : WriterEndpoint → LocalRegionAuthority
  | .coordinator => .writer
  | .receiver => .reader

/-- The receiver's authority over a region with this writer. -/
def WriterEndpoint.receiverAuthority : WriterEndpoint → LocalRegionAuthority
  | .coordinator => .reader
  | .receiver => .writer

/-- The specification of a prepared entry, for the coordinator. -/
def PreparedEntry.activeSpec (backend : Backend) (entry : PreparedEntry) :
    Run MemoryError ActiveRegionSpec :=
  activeRegionSpec t backend entry.region.id.value entry.region.writer.coordinatorAuthority
    entry.region.logicalLen entry.region.mappedLen entry.region.guardRequested

namespace LinuxMixedDirectionBatch

/-- One turn of the loop of `activation_specs`, lines 2229-2269. -/
def activationSpec (deadline : Deadline) (specs : List ActiveRegionSpec) (entry : PreparedEntry) :
    MemoryEffect σ (List ActiveRegionSpec) := do
  match entry.region.writer with
  | .coordinator => revalidatePrepared deadline entry
  | .receiver =>
    validateKey entry.object entry.region.mappedLen .finalSeals
    Op.ofRun (rejectIf (entry.view ≠ .mapped) .wrongObject)
  let spec ← Op.ofRun (entry.activeSpec t .linux)
  checkDeadline deadline
  pure (specs ++ [spec])

/-- Lines 2226-2271. -/
def activationSpecs (batch : MixedDirectionBatch) : MemoryEffect σ (List ActiveRegionSpec) := do
  checkDeadline batch.deadline
  let specs ← batch.entries.foldlM (activationSpec t batch.deadline) []
  Op.ofRun (validateActiveSpecs specs)
  pure specs

end LinuxMixedDirectionBatch

/-- The specifications of the entries, in order. -/
def MixedDirectionBatch.sectionSpecs (backend : Backend) (batch : MixedDirectionBatch) :
    Run MemoryError (List ActiveRegionSpec) := do
  let specs ← batch.entries.mapM (PreparedEntry.activeSpec t backend)
  validateSectionSpecs specs
  pure specs

/-- macos_vnext/memory.rs:288-310. -/
def MacMixedDirectionBatch.activationSpecs (batch : MixedDirectionBatch) :
    MemoryEffect σ (List ActiveRegionSpec) := do
  revalidateBeforeSend batch
  Op.ofRun (batch.sectionSpecs t .macos)

/-- windows_vnext/memory.rs:427-451. -/
def WindowsMixedDirectionBatch.activationSpecs (batch : MixedDirectionBatch) :
    MemoryEffect σ (List ActiveRegionSpec) := do
  revalidateBeforeSend batch
  Op.ofRun (batch.sectionSpecs t .windows)

/-! ### Imported batches -/

/-- An imported region: its manifest entry, its object and the key found at the import. -/
structure ImportedEntry where
  manifest : ManifestEntry
  writer : WriterEndpoint
  object : Nat
  key : Nat
  deriving DecidableEq

/-- `LinuxImportedMixedDirectionBatch`, `MacImportedMixedDirectionBatch` and
    `WindowsImportedMixedDirectionBatch`. -/
structure ImportedMixedDirectionBatch where
  entries : List ImportedEntry
  deriving DecidableEq

/-- The manifest entry stands at its place and agrees with the writer it was imported for:
    lines 2371-2396, and `validate_imported_manifest`, macos_vnext/memory.rs. -/
def ImportedEntry.Canonical (entry : ImportedEntry) (ordinal : Nat) : Prop :=
  entry.manifest.ordinal.toNat = ordinal ∧ entry.manifest.writer = entry.writer.code ∧
    entry.manifest.access = entry.writer.access

instance (entry : ImportedEntry) (ordinal : Nat) : Decidable (entry.Canonical ordinal) :=
  inferInstanceAs (Decidable (_ ∧ _))

/-- The specification of an imported entry: `manifest_active_spec`, lines 2880-2895, and
    `active_spec_from_manifest`, macos_vnext/memory.rs:872-888. The manifest has no guard policy. -/
def ImportedEntry.activeSpec (backend : Backend) (entry : ImportedEntry) :
    Run MemoryError ActiveRegionSpec := do
  let manifest := entry.manifest
  match backend with
  | .linux => pure ()
  | .macos | .windows => do
    rejectIf (¬ fitsUsize t manifest.logicalLen ∨ ¬ fitsUsize t manifest.mappedLen) .invalidSize
    let _ ← okOr (NativeRegionSpec.new manifest.regionId manifest.incarnation manifest.writer
      manifest.logicalLen manifest.mappedLen) .wrongProvenance
  activeRegionSpec t backend manifest.regionId entry.writer.receiverAuthority manifest.logicalLen
    manifest.mappedLen .bestEffort

namespace LinuxImportedMixedDirectionBatch

/-- `LinuxImportedMixedDirectionEntry::validate`, lines 1986-1995. -/
def validate (entry : ImportedEntry) (seals : SealSet) : MemoryEffect σ Unit := do
  let key ← native (.validateObject entry.object entry.manifest.mappedLen seals)
  Op.ofRun (rejectIf (key ≠ entry.key) .wrongObject)

/-- Lines 2152-2166. -/
def verifyFinalSeals (batch : ImportedMixedDirectionBatch) (deadline : Deadline) :
    MemoryEffect σ Unit := do
  checkDeadline deadline
  batch.entries.forM fun entry => do
    validate entry .finalSeals
    checkDeadline deadline

/-- One turn of the loop of `activation_specs`, lines 2367-2402. -/
def activationSpec (deadline : Deadline) (specs : List ActiveRegionSpec) (entry : ImportedEntry) :
    MemoryEffect σ (List ActiveRegionSpec) := do
  validate entry .finalSeals
  Op.ofRun (rejectIf (¬ entry.Canonical specs.length) .wrongProvenance)
  let spec ← Op.ofRun (entry.activeSpec t .linux)
  checkDeadline deadline
  pure (specs ++ [spec])

/-- Lines 2359-2404. -/
def activationSpecs (batch : ImportedMixedDirectionBatch) (deadline : Deadline) :
    MemoryEffect σ (List ActiveRegionSpec) := do
  checkDeadline deadline
  let specs ← batch.entries.foldlM (activationSpec t deadline) []
  Op.ofRun (validateActiveSpecs specs)
  pure specs

end LinuxImportedMixedDirectionBatch

namespace MacImportedMixedDirectionBatch

/-- One turn of the loop of `activation_specs`, macos_vnext/memory.rs:585-600. -/
def activationSpec (deadline : Deadline) (specs : List ActiveRegionSpec) (entry : ImportedEntry) :
    MemoryEffect σ (List ActiveRegionSpec) := do
  checkDeadline deadline
  Op.ofRun (rejectIf (¬ entry.Canonical specs.length) .wrongProvenance)
  let spec ← Op.ofRun (entry.activeSpec t .macos)
  pure (specs ++ [spec])

/-- macos_vnext/memory.rs:587-610. -/
def activationSpecs (batch : ImportedMixedDirectionBatch) (deadline : Deadline) :
    MemoryEffect σ (List ActiveRegionSpec) := do
  checkDeadline deadline
  let specs ← batch.entries.foldlM (activationSpec t deadline) []
  checkDeadline deadline
  Op.ofRun (validateSectionSpecs specs)
  pure specs

end MacImportedMixedDirectionBatch

/-- windows_vnext/memory.rs:823-850: as on macOS. -/
def WindowsImportedMixedDirectionBatch.activationSpecs (batch : ImportedMixedDirectionBatch)
    (deadline : Deadline) : MemoryEffect σ (List ActiveRegionSpec) :=
  MacImportedMixedDirectionBatch.activationSpecs t batch deadline

/-! ### Imports -/

/-- What every import checks before its loop: the clock, the count and the manifest. -/
def ExpectedMixedDirectionBatch.checkImport (expected : ExpectedMixedDirectionBatch)
    (matching : Bool) (rights : List Nat) : MemoryEffect σ Unit := do
  checkDeadline expected.deadline
  Op.ofRun (rejectIf (rights.length ≠ expected.entries.length ∨ matching = false)
    .wrongProvenance)

/-- The entries of the expectation with those of the manifest and the received objects. -/
def ExpectedMixedDirectionBatch.importItems (expected : ExpectedMixedDirectionBatch)
    (manifest : TransferManifest) (rights : List Nat) :
    List ((ExpectedEntry × ManifestEntry) × Nat) :=
  (expected.entries.zip manifest.entries).zip rights

namespace LinuxExpectedMixedDirectionBatch

/-- The seals an imported descriptor must have, lines 1887-1890. -/
def importSeals : WriterEndpoint → SealSet
  | .coordinator => .finalSeals
  | .receiver => .prefixSeals

/-- One turn of the loop of `import`, lines 1874-1951. The batches of one
    direction, 1480-1556 and 1653-1750, do not compare the keys. -/
def importEntry (distinctKeys : Bool) (deadline : Deadline) (imported : List ImportedEntry)
    (item : (ExpectedEntry × ManifestEntry) × Nat) : MemoryEffect σ (List ImportedEntry) := do
  let ((expected, manifest), object) := item
  checkDeadline deadline
  Op.ofRun (rejectIf (¬ fitsUsize t manifest.mappedLen) .invalidSize)
  let seals := importSeals expected.writer
  let key ← native (.validateObject object manifest.mappedLen seals)
  Op.ofRun (rejectIf (distinctKeys = true ∧
    (imported.any fun retained => retained.key = key) = true) .wrongObject)
  checkDeadline deadline
  let view ← native (.mapView object manifest.mappedLen (expected.writer = .receiver))
  checkDeadline deadline
  LinuxMixedDirectionBatch.adviseView deadline view
  let _ ← native (.intoMapping view)
  let retained : ImportedEntry := { manifest, writer := expected.writer, object, key }
  checkDeadline deadline
  LinuxImportedMixedDirectionBatch.validate retained seals
  pure (imported ++ [retained])

/-- `import`, lines 1845-1969, and with `distinctKeys` off those of the batches of
    one direction, 1456-1558 and 1629-1755. -/
def importBatch (distinctKeys : Bool) (expected : ExpectedMixedDirectionBatch)
    (manifest : TransferManifest) (rights : List Nat) :
    MemoryEffect σ ImportedMixedDirectionBatch := do
  expected.checkImport (matchesManifest expected manifest) rights
  let entries ← (expected.importItems manifest rights).foldlM
    (importEntry t distinctKeys expected.deadline) []
  checkDeadline expected.deadline
  pure { entries }

end LinuxExpectedMixedDirectionBatch

/-- One turn of the loop of `import_inner`, macos_vnext/memory.rs:520-555 and
    windows_vnext/memory.rs:706-742. Only a Mach name may be null. -/
def importSection (refuseNull : Bool) (deadline : Deadline) (imported : List ImportedEntry)
    (item : (ExpectedEntry × ManifestEntry) × Nat) : MemoryEffect σ (List ImportedEntry) := do
  let ((expected, manifest), object) := item
  checkDeadline deadline
  Op.ofRun (rejectIf ((refuseNull = true ∧ object = 0) ∨
    (imported.any fun retained => retained.object = object) = true) .wrongObject)
  let key ← native (.mapExact object expected.mappedLen (expected.writer = .receiver))
  pure (imported ++ [{ manifest, writer := expected.writer, object, key }])

/-- The two imports of sections. -/
def importSections (refuseNull matching : Bool) (expected : ExpectedMixedDirectionBatch)
    (manifest : TransferManifest) (rights : List Nat) :
    MemoryEffect σ ImportedMixedDirectionBatch := do
  expected.checkImport matching rights
  let entries ← (expected.importItems manifest rights).foldlM
    (importSection refuseNull expected.deadline) []
  checkDeadline expected.deadline
  let batch : ImportedMixedDirectionBatch := { entries }
  let _ ← MacImportedMixedDirectionBatch.activationSpecs t batch expected.deadline
  pure batch

/-- `import`, macos_vnext/memory.rs:497-560. -/
def MacExpectedMixedDirectionBatch.importBatch (expected : ExpectedMixedDirectionBatch)
    (manifest : TransferManifest) (rights : List Nat) :
    MemoryEffect σ ImportedMixedDirectionBatch :=
  importSections t true (matchesManifest expected manifest) expected manifest rights

/-- `import`, windows_vnext/memory.rs:684-747. -/
def WindowsExpectedMixedDirectionBatch.importBatch (expected : ExpectedMixedDirectionBatch)
    (manifest : TransferManifest) (rights : List Nat) :
    MemoryEffect σ ImportedMixedDirectionBatch :=
  importSections t false (matchesManifest expected manifest) expected manifest rights

/-! ### The operations of each backend -/

namespace Backend

variable (backend : Backend)

/-- `MixedDirectionBatch::prepare` of each backend. -/
def prepareBatch (batch : TransferBatch) (authorityProfile : NativeAuthorityProfile)
    (deadline : Deadline) : MemoryEffect σ MixedDirectionBatch :=
  match backend with
  | .linux => LinuxMixedDirectionBatch.prepare batch authorityProfile deadline
  | .macos => MacMixedDirectionBatch.prepare batch authorityProfile deadline
  | .windows => WindowsMixedDirectionBatch.prepare batch authorityProfile deadline

/-- The constructor of the expectation on each backend. -/
def expectBatch (t : Target) (expected : ExpectedBatch) (limits : SessionLimits)
    (deadline : Deadline) : MemoryEffect σ ExpectedMixedDirectionBatch :=
  match backend with
  | .linux => LinuxExpectedMixedDirectionBatch.prepare t expected limits deadline
  | .macos => MacExpectedMixedDirectionBatch.new t expected limits deadline
  | .windows => WindowsExpectedMixedDirectionBatch.new t expected limits deadline

/-- `matches_manifest` of each backend. -/
def matchesManifest (expected : ExpectedMixedDirectionBatch) (manifest : TransferManifest) : Bool :=
  match backend with
  | .linux => LinuxExpectedMixedDirectionBatch.matchesManifest expected manifest
  | .macos => MacExpectedMixedDirectionBatch.matchesManifest expected manifest
  | .windows => WindowsExpectedMixedDirectionBatch.matchesManifest expected manifest

/-- The coordinator's `activation_specs` of each backend. -/
def coordinatorSpecs (t : Target) (batch : MixedDirectionBatch) :
    MemoryEffect σ (List ActiveRegionSpec) :=
  match backend with
  | .linux => LinuxMixedDirectionBatch.activationSpecs t batch
  | .macos => MacMixedDirectionBatch.activationSpecs t batch
  | .windows => WindowsMixedDirectionBatch.activationSpecs t batch

/-- The receiver's `activation_specs` of each backend. -/
def receiverSpecs (t : Target) (batch : ImportedMixedDirectionBatch)
    (deadline : Deadline) : MemoryEffect σ (List ActiveRegionSpec) :=
  match backend with
  | .linux => LinuxImportedMixedDirectionBatch.activationSpecs t batch deadline
  | .macos => MacImportedMixedDirectionBatch.activationSpecs t batch deadline
  | .windows => WindowsImportedMixedDirectionBatch.activationSpecs t batch deadline

end Backend

end NativeIpc.Session
