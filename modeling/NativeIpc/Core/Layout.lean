import Mathlib.Data.List.Sort
import Mathlib.Data.Prod.Lex
import NativeIpc.Lib.Bytes
import NativeIpc.Lib.Search
import NativeIpc.Lib.Words

/-!
# Region layouts

The calculation and validation of independent directional regions, after
`native-ipc-core/src/layout.rs`. Offsets are computed in `u64` or `usize`
words; `t : Target` fixes the width of `usize`. The three allocations of owned
metadata are taken to succeed, so `AllocationFailed` does not occur.
Lines are those of `layout.rs`.
-/

namespace NativeIpc.Core

open NativeIpc.Lib List

def cacheLine : Nat := 64

/-- Line 16, `NIPCREG\0`. -/
def regionMagic : Bytes := [78, 73, 80, 67, 82, 69, 71, 0]

def regionHeaderSize : Nat := 128

/-- `SLOT_HEADER_SIZE` (`slot.rs`). -/
def slotHeaderSize : Nat := 64

/-- `ACKNOWLEDGEMENT_CELL_SIZE` (`slot.rs`). -/
def acknowledgementCellSize : Nat := 64

def versionMajor : UInt16 := 1

def versionMinor : UInt16 := 0

/-- Line 22: zero is reserved. -/
structure RoleId where
  get : UInt32
  nonzero : get ≠ 0
  deriving DecidableEq, Repr

/-- Line 39. -/
inductive Endpoint where
  | initiator
  | responder
  deriving DecidableEq, Repr

/-- `endpoint as u32`. -/
def Endpoint.raw : Endpoint → UInt32
  | .initiator => 1
  | .responder => 2

/-- Lines 47-53. -/
def Endpoint.fromRaw (raw : UInt32) : Option Endpoint :=
  if raw = 1 then some .initiator else if raw = 2 then some .responder else none

/-- Line 58. -/
structure RegionSpec where
  role : RoleId
  writer : Endpoint
  slotCount : UInt32
  payloadBytes : UInt32
  acknowledgementCount : UInt32
  deriving DecidableEq, Repr

/-- `AcknowledgementRouteSpec` and, once validated, `AcknowledgementRoute`
    (line 73, line 86): the two have the same fields. -/
structure AcknowledgementRoute where
  owner : RoleId
  target : RoleId
  slotIndex : UInt32
  cellIndex : UInt32
  deriving DecidableEq, Repr

/-- Line 127. -/
structure LayoutLimits where
  maximumMappingSize : UInt64
  maximumSlotCount : UInt32
  maximumAcknowledgementCount : UInt32
  maximumPayloadBytes : UInt32
  deriving DecidableEq, Repr

/-- Lines 604-617. -/
structure RegionHeader where
  totalSize : UInt64
  schemaId : FixedBytes 32
  generation : UInt64
  role : UInt32
  writer : UInt32
  acknowledgementOffset : UInt64
  acknowledgementCount : UInt32
  acknowledgementStride : UInt32
  slotsOffset : UInt64
  slotCount : UInt32
  slotStride : UInt32
  payloadCapacity : UInt32
  deriving DecidableEq, Repr

/-- Lines 621-721. -/
inductive LayoutError where
  | overflow
  | zeroGeneration
  | emptyRegionSet
  | duplicateRole (role : RoleId)
  | limitExceeded
  | emptySlots
  | mappingTooSmall (required actual : Nat)
  | badMagic
  | badVersion (major minor : UInt16)
  | badHeaderSize (size : UInt32)
  | schemaMismatch
  | staleGeneration (expected actual : UInt64)
  | unexpectedRole (expected : RoleId) (actual : UInt32)
  | unexpectedWriter
  | reservedFieldSet
  | badTotalSize
  | badAcknowledgementLayout
  | acknowledgementNotZero
  | badSlotLayout
  | slotMetadataNotInitialized
  | badSlotStride
  | rangeOutOfBounds
  | slotOutOfBounds (slot count : UInt32)
  | acknowledgementOutOfBounds (index count : UInt32)
  | payloadOutOfBounds (length capacity : UInt32)
  | capabilityPaddingNotZero
  | invalidAcknowledgementRoute
  | duplicateAcknowledgementRoute
  | incompleteAcknowledgementRoutes
  | routeRegionMismatch
  | topologyMismatch
  deriving DecidableEq, Repr

/-- Results of the layout functions. -/
abbrev LayoutRun (α : Type) := Run LayoutError α

open Run

/-- `align_up` (lines 938-943). -/
def alignUpRun (value alignment : Nat) : LayoutRun Nat := okOr (alignUp value alignment) .overflow

/-- Lines 926-936: the range as a pair of its ends. -/
def checkedRange (t : Target) (start stop total mappedLen : Nat) : LayoutRun (Nat × Nat) := do
  rejectIf (start > stop ∨ stop > total ∨ stop > mappedLen ∨ stop > 2 ^ t.bits - 1)
    .rangeOutOfBounds
  let first ← castTo t.bits start
  let last ← castTo t.bits stop
  pure (first, last)

/-! ### Calculation of one region -/

variable (spec : RegionSpec)

/-- Lines 732-743. -/
def validateCounts (limits : LayoutLimits) : LayoutRun Unit := do
  rejectIf (spec.slotCount = 0 ∨ spec.payloadBytes = 0) .emptySlots
  rejectIf (spec.slotCount > limits.maximumSlotCount ∨
      spec.payloadBytes > limits.maximumPayloadBytes ∨
      spec.acknowledgementCount > limits.maximumAcknowledgementCount) .limitExceeded

/-- The header computed by `RegionLayout::calculate` (lines 221-272). -/
def calculateHeader (t : Target) (schemaId : FixedBytes 32) (generation : UInt64)
    (spec : RegionSpec) (limits : LayoutLimits) : LayoutRun RegionHeader := do
  validateCounts spec limits
  let acknowledgementLen ←
    okOr (checkedMul 64 spec.acknowledgementCount.toNat acknowledgementCellSize) .overflow
  let acknowledgementEnd ← okOr (checkedAdd 64 regionHeaderSize acknowledgementLen) .overflow
  let slotsOffset ← alignUpRun acknowledgementEnd cacheLine
  let slotLen ← okOr (checkedAdd 64 slotHeaderSize spec.payloadBytes.toNat) .overflow
  let slotStride ← alignUpRun slotLen cacheLine
  let slotsLen ← okOr (checkedMul 64 slotStride spec.slotCount.toNat) .overflow
  let totalSize ← okOr (checkedAdd 64 slotsOffset slotsLen) .overflow
  rejectIf (slotStride > 2 ^ 32 - 1 ∨ totalSize > limits.maximumMappingSize.toNat ∨
      totalSize > 2 ^ t.bits - 1) .limitExceeded
  pure {
    totalSize := UInt64.ofNat totalSize
    schemaId := schemaId
    generation := generation
    role := spec.role.get
    writer := spec.writer.raw
    acknowledgementOffset := UInt64.ofNat regionHeaderSize
    acknowledgementCount := spec.acknowledgementCount
    acknowledgementStride := UInt32.ofNat acknowledgementCellSize
    slotsOffset := UInt64.ofNat slotsOffset
    slotCount := spec.slotCount
    slotStride := UInt32.ofNat slotStride
    payloadCapacity := spec.payloadBytes }

/-- The record size of a slot that holds `capacity` payload bytes. -/
def strideFor (capacity : Nat) : Nat := (slotHeaderSize + capacity + 63) / 64 * 64

/-- Where the slots start: after the header and the acknowledgement cells. -/
def RegionSpec.exactSlotsOffset : Nat :=
  regionHeaderSize + spec.acknowledgementCount.toNat * acknowledgementCellSize

/-- The exact size of a region, without a word width. -/
def RegionSpec.exactTotal : Nat :=
  spec.exactSlotsOffset + strideFor spec.payloadBytes.toNat * spec.slotCount.toNat

/-- The header of a calculable region. -/
def RegionSpec.header (schemaId : FixedBytes 32) (generation : UInt64) : RegionHeader where
  totalSize := UInt64.ofNat spec.exactTotal
  schemaId := schemaId
  generation := generation
  role := spec.role.get
  writer := spec.writer.raw
  acknowledgementOffset := UInt64.ofNat regionHeaderSize
  acknowledgementCount := spec.acknowledgementCount
  acknowledgementStride := UInt32.ofNat acknowledgementCellSize
  slotsOffset := UInt64.ofNat spec.exactSlotsOffset
  slotCount := spec.slotCount
  slotStride := UInt32.ofNat (strideFor spec.payloadBytes.toNat)
  payloadCapacity := spec.payloadBytes

/-- What every calculated header satisfies: the offsets are the exact, aligned
    ones, the region fits `usize`, and the role and the writer are valid. -/
structure RegionHeader.Canonical (t : Target) (h : RegionHeader) : Prop where
  role_ne : h.role ≠ 0
  writer_ok : (Endpoint.fromRaw h.writer).isSome
  slotCount_pos : 0 < h.slotCount.toNat
  capacity_pos : 0 < h.payloadCapacity.toNat
  acknowledgementOffset_eq : h.acknowledgementOffset.toNat = regionHeaderSize
  acknowledgementStride_eq : h.acknowledgementStride.toNat = acknowledgementCellSize
  slotsOffset_eq : h.slotsOffset.toNat =
    regionHeaderSize + h.acknowledgementCount.toNat * acknowledgementCellSize
  slotStride_eq : h.slotStride.toNat = strideFor h.payloadCapacity.toNat
  totalSize_eq : h.totalSize.toNat =
    h.slotsOffset.toNat + h.slotStride.toNat * h.slotCount.toNat
  totalSize_fits : h.totalSize.toNat < 2 ^ t.bits

/-- The conditions under which a region is calculated. -/
structure Calculable (t : Target) (spec : RegionSpec) (limits : LayoutLimits) : Prop where
  slotCount_pos : 0 < spec.slotCount.toNat
  payload_pos : 0 < spec.payloadBytes.toNat
  slotCount_le : spec.slotCount ≤ limits.maximumSlotCount
  payload_le : spec.payloadBytes ≤ limits.maximumPayloadBytes
  acknowledgementCount_le : spec.acknowledgementCount ≤ limits.maximumAcknowledgementCount
  stride_fits : strideFor spec.payloadBytes.toNat < 2 ^ 32
  total_le : spec.exactTotal ≤ limits.maximumMappingSize.toNat
  total_fits : spec.exactTotal < 2 ^ t.bits

variable {spec : RegionSpec} {t : Target} {generation : UInt64}

theorem validateCounts_eq_ok {limits : LayoutLimits} {u : Unit} :
    validateCounts spec limits = .ok u ↔
      (0 < spec.slotCount.toNat ∧ 0 < spec.payloadBytes.toNat) ∧
      spec.slotCount ≤ limits.maximumSlotCount ∧
      spec.payloadBytes ≤ limits.maximumPayloadBytes ∧
      spec.acknowledgementCount ≤ limits.maximumAcknowledgementCount := by
  have hpos (n : UInt32) : ¬ n = 0 ↔ 0 < n.toNat := by
    rw [← UInt32.toNat_inj, UInt32.toNat_zero]
    omega
  simp only [validateCounts, bind_eq_ok, rejectIf_eq_ok, exists_const, not_or, hpos,
    gt_iff_lt, UInt32.not_lt]

variable {h : RegionHeader}

/-- The checked arithmetic computes the exact header, or the region does not fit. -/
theorem calculateHeader_eq_ok {schemaId : FixedBytes 32} {limits : LayoutLimits} :
    calculateHeader t schemaId generation spec limits = .ok h ↔
      Calculable t spec limits ∧ h = spec.header schemaId generation := by
  have halign : (regionHeaderSize + spec.acknowledgementCount.toNat * acknowledgementCellSize + 63)
      / 64 * 64 = spec.exactSlotsOffset := by
    simp only [RegionSpec.exactSlotsOffset, regionHeaderSize, acknowledgementCellSize]
    omega
  have hmax := limits.maximumMappingSize.toNat_lt
  simp only [calculateHeader, alignUpRun, cacheLine, bind_eq_ok, validateCounts_eq_ok, okOr_eq_ok,
    checkedMul_eq_some, checkedAdd_eq_some, alignUp_64_eq_some, rejectIf_eq_ok, pure_eq_ok,
    exists_const]
  constructor
  · rintro ⟨counts, _, ⟨-, rfl⟩, _, ⟨-, rfl⟩, _, ⟨-, rfl⟩, _, ⟨-, rfl⟩, _, ⟨-, rfl⟩,
      _, ⟨-, rfl⟩, _, ⟨-, rfl⟩, bounds, rfl⟩
    rw [halign] at bounds
    simp only [not_or, not_lt, gt_iff_lt] at bounds
    obtain ⟨stride, total, fits⟩ := bounds
    have hpow : 0 < 2 ^ t.bits := Nat.two_pow_pos _
    refine ⟨⟨counts.1.1, counts.1.2, counts.2.1, counts.2.2.1, counts.2.2.2, ?_, total, ?_⟩, ?_⟩
    · unfold strideFor
      omega
    · unfold RegionSpec.exactTotal strideFor
      omega
    · rw [halign]
      rfl
  · rintro ⟨c, rfl⟩
    have htotal := c.total_le
    have hfits := c.total_fits
    have hstride := c.stride_fits
    simp only [RegionSpec.exactTotal, strideFor] at htotal hfits hstride
    refine ⟨⟨⟨c.slotCount_pos, c.payload_pos⟩, c.slotCount_le, c.payload_le,
      c.acknowledgementCount_le⟩, _, ⟨?_, rfl⟩, _, ⟨?_, rfl⟩, _, ⟨?_, rfl⟩, _, ⟨?_, rfl⟩,
      _, ⟨?_, rfl⟩, _, ⟨?_, rfl⟩, _, ⟨?_, rfl⟩, ?_, ?_⟩
    all_goals simp only [acknowledgementCellSize, regionHeaderSize, slotHeaderSize] at *
    all_goals first | rw [halign] | skip
    all_goals first | omega | skip
    rfl

theorem Endpoint.fromRaw_raw (e : Endpoint) : Endpoint.fromRaw e.raw = some e := by
  cases e <;> rfl

theorem Calculable.exactSlotsOffset_lt {limits : LayoutLimits}
    (c : Calculable t spec limits) : spec.exactSlotsOffset < 2 ^ 64 := by
  have htotal := t.fits_u64 c.total_fits
  unfold RegionSpec.exactTotal at htotal
  omega

theorem calculateHeader_canonical {schemaId : FixedBytes 32} {limits : LayoutLimits}
    (calculated : calculateHeader t schemaId generation spec limits = .ok h) : h.Canonical t := by
  obtain ⟨c, rfl⟩ := calculateHeader_eq_ok.mp calculated
  have htotal : (UInt64.ofNat spec.exactTotal).toNat = spec.exactTotal :=
    UInt64.toNat_ofNat_of_lt' (t.fits_u64 c.total_fits)
  have hslots : (UInt64.ofNat spec.exactSlotsOffset).toNat = spec.exactSlotsOffset :=
    UInt64.toNat_ofNat_of_lt' c.exactSlotsOffset_lt
  have hstride : (UInt32.ofNat (strideFor spec.payloadBytes.toNat)).toNat =
      strideFor spec.payloadBytes.toNat := UInt32.toNat_ofNat_of_lt' c.stride_fits
  refine ⟨spec.role.nonzero, ?_, c.slotCount_pos, c.payload_pos, rfl, rfl, hslots, hstride, ?_, ?_⟩
  · simp [RegionSpec.header, Endpoint.fromRaw_raw]
  · simp only [RegionSpec.header, htotal, hslots, hstride]
    rfl
  · simpa only [RegionSpec.header, htotal] using c.total_fits

/-- Line 215. Its fields are private and `calculate`
    is its only constructor, so its header is canonical. -/
structure RegionLayout (t : Target) where
  header : RegionHeader
  canonical : header.Canonical t

namespace RegionLayout

variable {t : Target}

/-- Lines 221-272. -/
def calculate (t : Target) (schemaId : FixedBytes 32) (generation : UInt64)
    (spec : RegionSpec) (limits : LayoutLimits) : LayoutRun (RegionLayout t) :=
  match calculated : calculateHeader t schemaId generation spec limits with
  | .ok header => .ok ⟨header, calculateHeader_canonical calculated⟩
  | .error stop => .error stop

/-- Line 275. -/
def role (region : RegionLayout t) : RoleId := ⟨region.header.role, region.canonical.role_ne⟩

/-- Line 280, whose `unreachable!()` is excluded
    by the canonical header. -/
def writer (region : RegionLayout t) : Endpoint :=
  (Endpoint.fromRaw region.header.writer).get region.canonical.writer_ok

theorem calculate_eq_ok {schemaId : FixedBytes 32}
    {limits : LayoutLimits} {region : RegionLayout t} :
    calculate t schemaId generation spec limits = .ok region ↔
      Calculable t spec limits ∧ region.header = spec.header schemaId generation := by
  rw [← calculateHeader_eq_ok]
  unfold calculate
  split
  · rename_i header calculated
    constructor
    · intro h
      cases h
      exact calculated
    · intro h
      cases region
      cases calculated.symm.trans h
      rfl
  · rename_i stop failed
    simp [failed]

end RegionLayout

/-! ### The header codec -/

open Bytes

/-- Lines 886-905, on the first 128 bytes of a mapping. -/
def encodeHeader (header : RegionHeader) (bytes : Bytes) : LayoutRun Bytes := do
  let bytes ← put bytes 0 regionMagic
  let bytes ← putU16 bytes 8 versionMajor
  let bytes ← putU16 bytes 10 versionMinor
  let bytes ← putU32 bytes 12 (UInt32.ofNat regionHeaderSize)
  let bytes ← putU64 bytes 16 header.totalSize
  let bytes ← put bytes 24 header.schemaId.list
  let bytes ← putU64 bytes 56 header.generation
  let bytes ← putU32 bytes 64 header.role
  let bytes ← putU32 bytes 68 header.writer
  let bytes ← putU64 bytes 72 header.acknowledgementOffset
  let bytes ← putU32 bytes 80 header.acknowledgementCount
  let bytes ← putU32 bytes 84 header.acknowledgementStride
  let bytes ← putU64 bytes 88 header.slotsOffset
  let bytes ← putU32 bytes 96 header.slotCount
  let bytes ← putU32 bytes 100 header.slotStride
  let bytes ← putU32 bytes 104 header.payloadCapacity
  let bytes ← putU32 bytes 108 0
  put bytes 112 (List.replicate 16 0)

/-- Lines 907-924. -/
def decodeHeader (bytes : Bytes) : LayoutRun RegionHeader := do
  let schemaId ← slice bytes 24 56 >>= toFixed 32
  let totalSize ← getU64 bytes 16
  let generation ← getU64 bytes 56
  let role ← getU32 bytes 64
  let writer ← getU32 bytes 68
  let acknowledgementOffset ← getU64 bytes 72
  let acknowledgementCount ← getU32 bytes 80
  let acknowledgementStride ← getU32 bytes 84
  let slotsOffset ← getU64 bytes 88
  let slotCount ← getU32 bytes 96
  let slotStride ← getU32 bytes 100
  let payloadCapacity ← getU32 bytes 104
  pure { totalSize, schemaId, generation, role, writer, acknowledgementOffset,
         acknowledgementCount, acknowledgementStride, slotsOffset, slotCount, slotStride,
         payloadCapacity }

/-- Lines 867-884. -/
def validateHeaderEncoding (bytes : Bytes) : LayoutRun Unit := do
  let magic ← slice bytes 0 8
  rejectIf (magic ≠ regionMagic) .badMagic
  let major ← getU16 bytes 8
  let minor ← getU16 bytes 10
  rejectIf (major ≠ versionMajor ∨ minor ≠ versionMinor) (.badVersion major minor)
  let headerSize ← getU32 bytes 12
  rejectIf (headerSize ≠ UInt32.ofNat regionHeaderSize) (.badHeaderSize headerSize)
  let reserved ← getU32 bytes 108
  let padding ← slice bytes 112 128
  rejectIf (reserved ≠ 0 ∨ ∃ byte ∈ padding, byte ≠ 0) .reservedFieldSet

/-- One turn of the slot loop of `encode_into` (lines 316-320). -/
def RegionLayout.initializeSlot {t : Target} (region : RegionLayout t) (destination : Bytes)
    (slot : Nat) : LayoutRun Bytes := do
  let offset ← castTo t.bits region.header.slotsOffset.toNat
  let distance ← plainMul t.bits slot region.header.slotStride.toNat
  let start ← plainAdd t.bits offset distance
  putU64 destination start region.header.generation

/-- Lines 303-322: the destination after a
    successful call. -/
def RegionLayout.encodeInto {t : Target} (region : RegionLayout t) (destination : Bytes) :
    LayoutRun Bytes := do
  let total := region.header.totalSize.toNat
  rejectIf (¬ total < 2 ^ t.bits) .overflow
  rejectIf (destination.length < total) (.mappingTooSmall total destination.length)
  let destination ← put destination 0 (List.replicate total 0)
  let head ← slice destination 0 regionHeaderSize
  let head ← encodeHeader region.header head
  let destination ← put destination 0 head
  (List.range region.header.slotCount.toNat).foldlM region.initializeSlot destination

/-! ### Region sets and acknowledgement routes -/

section Routes

variable {t : Target}

/-- The sum of one count over all regions (lines 749-758). -/
def totalCount (count : RegionHeader → UInt32) (regions : List (RegionLayout t)) : LayoutRun Nat :=
  regions.foldlM
    (fun total region => okOr (checkedAdd t.bits total (count region.header).toNat) .overflow) 0

variable (regions : List (RegionLayout t))

/-- `regions.iter().find(|region| region.role() == role)` (lines 188-190). -/
def findRegion (role : RoleId) : Option (RegionLayout t) :=
  regions.find? fun region => decide (region.role = role)

/-- Two routes name the same slot or the same cell. -/
def AcknowledgementRoute.Clashes (a b : AcknowledgementRoute) : Prop :=
  (a.target = b.target ∧ a.slotIndex = b.slotIndex) ∨
    (a.owner = b.owner ∧ a.cellIndex = b.cellIndex)

instance (a b : AcknowledgementRoute) : Decidable (a.Clashes b) :=
  inferInstanceAs (Decidable (_ ∨ _))

/-- One turn of the loop of `validate_routes` (lines 767-797): the routes
    accepted before, with this one appended. -/
def pushRoute (routes : List AcknowledgementRoute)
    (spec : AcknowledgementRoute) : LayoutRun (List AcknowledgementRoute) := do
  let owner ← okOr (findRegion regions spec.owner) .invalidAcknowledgementRoute
  let target ← okOr (findRegion regions spec.target) .invalidAcknowledgementRoute
  rejectIf (owner.role = target.role ∨ owner.writer = target.writer ∨
      spec.slotIndex ≥ target.header.slotCount ∨
      spec.cellIndex ≥ owner.header.acknowledgementCount) .invalidAcknowledgementRoute
  rejectIf (∃ route ∈ routes, route.Clashes spec) .duplicateAcknowledgementRoute
  pure (routes ++ [spec])

/-- Lines 745-796. The exit of line 765, where the routes cannot be allocated, is left out. -/
def validateRoutes (specs : List AcknowledgementRoute) : LayoutRun (List AcknowledgementRoute) := do
  let totalSlots ← totalCount (·.slotCount) regions
  let totalCells ← totalCount (·.acknowledgementCount) regions
  rejectIf (specs.length ≠ totalSlots ∨ specs.length ≠ totalCells)
    .incompleteAcknowledgementRoutes
  specs.foldlM (pushRoute regions) []

/-- The sort key `(target, slot_index)` of the route lookup. -/
def AcknowledgementRoute.key (route : AcknowledgementRoute) : Nat ×ₗ Nat :=
  toLex (route.target.get.toNat, route.slotIndex.toNat)

/-- Lines 798-809: the route positions in key order, once they are allocated (802).
    Accepted routes have distinct keys, so every sort gives the same list. -/
def buildRouteLookup (routes : List AcknowledgementRoute) : List (Fin routes.length) :=
  (List.finRange routes.length).insertionSort fun i j => (routes.get i).key ≤ (routes.get j).key

variable {regions : List (RegionLayout t)}

theorem pushRoute_eq_ok {routes result} {spec : AcknowledgementRoute} :
    pushRoute regions routes spec = .ok result ↔
      (∃ owner target, findRegion regions spec.owner = some owner ∧
        findRegion regions spec.target = some target ∧
        owner.role ≠ target.role ∧ owner.writer ≠ target.writer ∧
        spec.slotIndex < target.header.slotCount ∧
        spec.cellIndex < owner.header.acknowledgementCount) ∧
      (∀ route ∈ routes, ¬ route.Clashes spec) ∧ result = routes ++ [spec] := by
  simp only [pushRoute, bind_eq_ok, okOr_eq_ok, rejectIf_eq_ok, pure_eq_ok, exists_const, not_or,
    ge_iff_le, UInt32.not_le, not_exists, not_and]
  constructor
  · rintro ⟨owner, howner, target, htarget, valid, fresh, rfl⟩
    exact ⟨⟨owner, target, howner, htarget, valid⟩, fresh, rfl⟩
  · rintro ⟨⟨owner, target, howner, htarget, valid⟩, fresh, rfl⟩
    exact ⟨owner, howner, target, htarget, valid, fresh, rfl⟩

/-- Validation keeps the given routes in the given order. -/
theorem validateRoutes_routes {specs routes}
    (valid : validateRoutes regions specs = .ok routes) : routes = specs := by
  simp only [validateRoutes, bind_eq_ok, rejectIf_eq_ok, exists_const] at valid
  obtain ⟨_, _, _, _, _, loop⟩ := valid
  refine foldlM_invariant (P := fun done built => built = done) loop rfl ?_
  intro done spec built built' hbuilt hpush
  rw [(pushRoute_eq_ok.mp hpush).2.2, hbuilt]

end Routes

/-- The loop of `RegionSetLayout::calculate` over the specifications
    (lines 164-171); `prior` are those before the current one. -/
def calculateRegions (t : Target) (schemaId : FixedBytes 32) (generation : UInt64)
    (limits : LayoutLimits) :
    List RegionSpec → List RegionSpec → LayoutRun (List (RegionLayout t))
  | _, [] => pure []
  | prior, spec :: rest => do
    rejectIf (∃ other ∈ prior, other.role = spec.role) (.duplicateRole spec.role)
    let region ← RegionLayout.calculate t schemaId generation spec limits
    let regions ← calculateRegions t schemaId generation limits (prior ++ [spec]) rest
    pure (region :: regions)

variable {regions : List (RegionLayout t)}

/-- The loop succeeds exactly on new, distinct roles with calculable regions. -/
theorem calculateRegions_eq_ok {schemaId : FixedBytes 32}
    {limits : LayoutLimits} {prior specs : List RegionSpec} :
    calculateRegions t schemaId generation limits prior specs = .ok regions ↔
      (∀ spec ∈ specs, ∀ other ∈ prior, other.role ≠ spec.role) ∧
      (specs.map (·.role)).Nodup ∧ (∀ spec ∈ specs, Calculable t spec limits) ∧
      regions.map (·.header) = specs.map (·.header schemaId generation) := by
  induction specs generalizing prior regions with
  | nil => cases regions <;> simp [calculateRegions, pure_eq_ok]
  | cons spec rest ih =>
    simp only [calculateRegions, bind_eq_ok, rejectIf_eq_ok, exists_const, not_exists, not_and,
      RegionLayout.calculate_eq_ok, pure_eq_ok, ih, map_cons, nodup_cons,
      forall_mem_cons]
    constructor
    · rintro ⟨fresh, region, ⟨calculable, header⟩, tail, ⟨new, distinct, all, headers⟩, rfl⟩
      refine ⟨⟨fresh, ?_⟩, ⟨?_, distinct⟩, ⟨calculable, all⟩, ?_⟩
      · intro other hother p hp
        exact new other hother p (by simp [hp])
      · intro hmem
        obtain ⟨other, hother, hrole⟩ := mem_map.mp hmem
        exact new other hother spec (by simp) hrole.symm
      · rw [map_cons, header, headers]
    · rintro ⟨⟨fresh, new⟩, ⟨hrole, distinct⟩, ⟨calculable, all⟩, headers⟩
      cases regions with
      | nil => simp at headers
      | cons region tail =>
        rw [map_cons, List.cons.injEq] at headers
        refine ⟨fresh, region, ⟨calculable, headers.1⟩, tail, ⟨?_, distinct, all, headers.2⟩, rfl⟩
        intro other hother p hp
        rcases mem_append.mp hp with hp | hp
        · exact new other hother p hp
        · rw [mem_singleton.mp hp]
          intro heq
          exact hrole (mem_map.mpr ⟨other, hother, heq.symm⟩)

/-- The roles of calculated regions are those of their specifications. -/
theorem calculateRegions_roles {schemaId : FixedBytes 32} {specs : List RegionSpec}
    (headers : regions.map (·.header) = specs.map (·.header schemaId generation)) :
    regions.map (·.role) = specs.map (·.role) := by
  have injective : Function.Injective RoleId.get := by
    rintro ⟨a, ha⟩ ⟨b, hb⟩ h
    cases h
    rfl
  apply map_injective_iff.mpr injective
  simpa [map_map, Function.comp_def, RegionLayout.role, RegionSpec.header]
    using congrArg (List.map (·.role)) headers

/-- Line 140. Its fields are private and `calculate`
    is its only constructor: the roles are distinct, the generation is not
    zero, the routes passed their validation and the lookup was built from them. -/
structure RegionSetLayout (t : Target) where
  regions : List (RegionLayout t)
  routes : List AcknowledgementRoute
  routeLookup : List (Fin routes.length)
  roles_distinct : (regions.map (·.role)).Nodup
  generation_ne : ∀ region ∈ regions, region.header.generation ≠ 0
  routes_valid : validateRoutes regions routes = .ok routes
  lookup_built : routeLookup = buildRouteLookup routes

namespace RegionSetLayout

variable {t : Target}

/-- Lines 148-180. The exit of line 164, where the regions cannot be allocated, is left out. -/
def calculate (t : Target) (schemaId : FixedBytes 32) (generation : UInt64)
    (specs : List RegionSpec) (routeSpecs : List AcknowledgementRoute) (limits : LayoutLimits) :
    LayoutRun (RegionSetLayout t) :=
  if zero : generation = 0 then fail .zeroGeneration
  else if specs.isEmpty then fail .emptyRegionSet
  else
    match calculated : calculateRegions t schemaId generation limits [] specs with
    | .error stop => .error stop
    | .ok regions =>
      match valid : validateRoutes regions routeSpecs with
      | .error stop => .error stop
      | .ok routes => .ok {
          regions := regions
          routes := routes
          routeLookup := buildRouteLookup routes
          roles_distinct := by
            obtain ⟨_, distinct, _, headers⟩ := calculateRegions_eq_ok.mp calculated
            rwa [calculateRegions_roles headers]
          generation_ne := by
            obtain ⟨_, _, _, headers⟩ := calculateRegions_eq_ok.mp calculated
            intro region hregion
            obtain ⟨spec, _, heq⟩ := List.mem_map.mp
              (headers ▸ List.mem_map_of_mem (f := RegionLayout.header) hregion)
            rw [← heq]
            exact zero
          routes_valid := validateRoutes_routes valid ▸ valid
          lookup_built := rfl }

/-- Lines 188-190. -/
def region (topology : RegionSetLayout t) (role : RoleId) : Option (RegionLayout t) :=
  findRegion topology.regions role

/-- Lines 193-206. -/
def acknowledgementRoute (topology : RegionSetLayout t) (target : RoleId) (slotIndex : UInt32) :
    Option AcknowledgementRoute :=
  let key := toLex (target.get.toNat, slotIndex.toNat)
  (binarySearch topology.routeLookup (fun i => (topology.routes.get i).key) key).bind fun position =>
    (topology.routeLookup[position]?).map fun i => topology.routes.get i

end RegionSetLayout

/-! ### Validation of a mapping -/

/-- Line 326. -/
structure ValidationExpectations where
  schemaId : FixedBytes 32
  generation : UInt64
  role : RoleId
  writer : Endpoint
  maximumMappingSize : UInt64
  deriving DecidableEq, Repr

/-- Line 343. The header is one of the
    topology's, hence canonical; ranges are pairs of their ends. -/
structure ValidatedRegionLayout (t : Target) where
  header : RegionHeader
  acknowledgements : Nat × Nat
  slots : Nat × Nat
  mappingSize : Nat
  routes : List AcknowledgementRoute
  canonical : header.Canonical t

/-- Lines 811-865. -/
def validateHeader (t : Target) (header : RegionHeader) (mappedLen : Nat)
    (expected : ValidationExpectations) : LayoutRun Unit := do
  rejectIf (header.schemaId ≠ expected.schemaId) .schemaMismatch
  rejectIf (header.generation ≠ expected.generation)
    (.staleGeneration expected.generation header.generation)
  rejectIf (header.role ≠ expected.role.get) (.unexpectedRole expected.role header.role)
  rejectIf (Endpoint.fromRaw header.writer ≠ some expected.writer) .unexpectedWriter
  rejectIf (mappedLen > expected.maximumMappingSize.toNat ∨ header.totalSize.toNat > mappedLen ∨
      header.totalSize > expected.maximumMappingSize ∨
      header.totalSize.toNat > 2 ^ t.bits - 1) .badTotalSize
  rejectIf (header.acknowledgementOffset.toNat ≠ regionHeaderSize ∨
      header.acknowledgementStride.toNat ≠ acknowledgementCellSize) .badAcknowledgementLayout
  let acknowledgementLen ← okOr (checkedMul 64 header.acknowledgementCount.toNat
    header.acknowledgementStride.toNat) .overflow
  let acknowledgementEnd ←
    okOr (checkedAdd 64 header.acknowledgementOffset.toNat acknowledgementLen) .overflow
  let expectedSlotsOffset ← alignUpRun acknowledgementEnd cacheLine
  rejectIf (header.slotsOffset.toNat ≠ expectedSlotsOffset ∨
      header.slotsOffset.toNat % cacheLine ≠ 0) .badSlotLayout
  rejectIf (header.slotCount = 0 ∨ header.payloadCapacity = 0) .emptySlots

namespace ValidatedRegionLayout

variable {t : Target}

/-- The topology's region of a role, when its header is the given one
    (lines 392-395). -/
def matchRegion (topology : RegionSetLayout t) (role : RoleId) (header : RegionHeader) :
    LayoutRun { region : RegionLayout t // region.header = header } :=
  match topology.region role with
  | some region =>
    if same : region.header = header then .ok ⟨region, same⟩ else fail .topologyMismatch
  | none => fail .topologyMismatch

/-- One turn of the slot loop of `validate` (lines 441-449). -/
def checkSlot (t : Target) (header : RegionHeader) (bytes : Bytes) (slotsStart slot : Nat) :
    LayoutRun Unit := do
  let distance ← plainMul t.bits slot header.slotStride.toNat
  let start ← plainAdd t.bits slotsStart distance
  let generation ← getU64 bytes start
  let metadataStart ← plainAdd t.bits start 8
  let metadataEnd ← plainAdd t.bits start slotHeaderSize
  let metadata ← slice bytes metadataStart metadataEnd
  rejectIf (generation ≠ header.generation ∨ ∃ byte ∈ metadata, byte ≠ 0)
    .slotMetadataNotInitialized

/-- Lines 370-460. -/
def validate (bytes : Bytes) (expected : ValidationExpectations)
    (topology : RegionSetLayout t) : LayoutRun (ValidatedRegionLayout t) := do
  rejectIf (expected.generation = 0) .zeroGeneration
  rejectIf (bytes.length < regionHeaderSize) (.mappingTooSmall regionHeaderSize bytes.length)
  let head ← slice bytes 0 regionHeaderSize
  validateHeaderEncoding head
  let header ← decodeHeader head
  validateHeader t header bytes.length expected
  let region ← matchRegion topology expected.role header
  let acknowledgementLen ← okOr (checkedMul 64 header.acknowledgementCount.toNat
    header.acknowledgementStride.toNat) .overflow
  let acknowledgementsEnd ←
    okOr (checkedAdd 64 header.acknowledgementOffset.toNat acknowledgementLen) .overflow
  let acknowledgements ← checkedRange t header.acknowledgementOffset.toNat acknowledgementsEnd
    header.totalSize.toNat bytes.length
  let cells ← slice bytes acknowledgements.1 acknowledgements.2
  rejectIf (∃ byte ∈ cells, byte ≠ 0) .acknowledgementNotZero
  let total ← castTo t.bits header.totalSize.toNat
  let padding ← slice bytes total bytes.length
  rejectIf (∃ byte ∈ padding, byte ≠ 0) .capabilityPaddingNotZero
  let slotLen ← okOr (checkedAdd 64 slotHeaderSize header.payloadCapacity.toNat) .overflow
  let minimumStride ← alignUpRun slotLen cacheLine
  rejectIf (header.slotStride.toNat ≠ minimumStride) .badSlotStride
  let slotsLen ← okOr (checkedMul 64 header.slotStride.toNat header.slotCount.toNat) .overflow
  let slotsEnd ← okOr (checkedAdd 64 header.slotsOffset.toNat slotsLen) .overflow
  rejectIf (slotsEnd ≠ header.totalSize.toNat) .badTotalSize
  let slots ← checkedRange t header.slotsOffset.toNat slotsEnd header.totalSize.toNat bytes.length
  forRange header.slotCount.toNat (checkSlot t header bytes slots.1)
  pure {
    header := header
    acknowledgements := acknowledgements
    slots := slots
    mappingSize := bytes.length
    routes := topology.routes
    canonical := region.2 ▸ region.1.canonical }

variable (layout : ValidatedRegionLayout t)

def role : RoleId :=
  ⟨layout.header.role, layout.canonical.role_ne⟩

/-- Lines 354-363. -/
def matchesTopology (topology : RegionSetLayout t) : Bool :=
  ((topology.region layout.role).any fun region => decide (region.header = layout.header)) &&
  decide (layout.routes.length = topology.routes.length) &&
  layout.routes.all fun route => topology.routes.contains route

/-- Lines 478-494. -/
def slotRange (slot : UInt32) : LayoutRun (Nat × Nat) := do
  rejectIf (slot ≥ layout.header.slotCount) (.slotOutOfBounds slot layout.header.slotCount)
  let distance ← plainMul t.bits slot.toNat layout.header.slotStride.toNat
  let start ← okOr (checkedAdd t.bits layout.slots.1 distance) .overflow
  let stop ← okOr (checkedAdd t.bits start layout.header.slotStride.toNat) .overflow
  pure (start, stop)

/-- Lines 496-519. -/
def slotPayloadRange (slot payloadLen : UInt32) : LayoutRun (Nat × Nat) := do
  rejectIf (payloadLen > layout.header.payloadCapacity)
    (.payloadOutOfBounds payloadLen layout.header.payloadCapacity)
  let slot ← layout.slotRange slot
  let start ← okOr (checkedAdd t.bits slot.1 slotHeaderSize) .overflow
  let stop ← okOr (checkedAdd t.bits start payloadLen.toNat) .overflow
  rejectIf (stop > slot.2) .rangeOutOfBounds
  pure (start, stop)

/-- Lines 554-570. -/
def acknowledgementRange (index : UInt32) : LayoutRun (Nat × Nat) := do
  rejectIf (index ≥ layout.header.acknowledgementCount)
    (.acknowledgementOutOfBounds index layout.header.acknowledgementCount)
  let distance ← plainMul t.bits index.toNat layout.header.acknowledgementStride.toNat
  let start ← okOr (checkedAdd t.bits layout.acknowledgements.1 distance) .overflow
  let stop ← okOr (checkedAdd t.bits start layout.header.acknowledgementStride.toNat) .overflow
  pure (start, stop)

end ValidatedRegionLayout

/-! ### A small topology

Two regions of opposite direction, on which the general results are evaluated. -/

namespace Sample

/-- The role written by the initiator. -/
def requests : RoleId := ⟨1, by decide⟩

/-- The role written by the responder. -/
def replies : RoleId := ⟨2, by decide⟩

def schemaId : FixedBytes 32 := ⟨List.replicate 32 7, by decide⟩

def requestSpec : RegionSpec := ⟨requests, .initiator, 2, 8, 1⟩

def replySpec : RegionSpec := ⟨replies, .responder, 1, 8, 2⟩

def specs : List RegionSpec := [requestSpec, replySpec]

def routes : List AcknowledgementRoute :=
  [⟨replies, requests, 1, 0⟩, ⟨requests, replies, 0, 0⟩, ⟨replies, requests, 0, 1⟩]

def limits : LayoutLimits := ⟨4096, 4, 4, 64⟩

def expected : ValidationExpectations := ⟨schemaId, 5, requests, .initiator, 4096⟩

end Sample

end NativeIpc.Core
