import NativeIpc.Core.Validation

/-!
# Geometry of validated regions

The ranges that the accessors of a validated layout return are those of the
canonical header: aligned to cache lines, pairwise disjoint and inside the
region. The accessors multiply without a check; the bound on `total_size`
makes every such product fit `usize`, whether it has 32 or 64 bits.
-/

namespace NativeIpc.Core

open NativeIpc.Lib Bytes Run
open ValidatedRegionLayout (acknowledgementRange checkSlot matchRegion slotPayloadRange slotRange)

variable {t : Target}

/-- The records of a region. -/
inductive Record where
  | header
  | cell (index : UInt32)
  | slot (index : UInt32)
  deriving DecidableEq

/-- The record exists in a region with this header. -/
def Record.Exists (header : RegionHeader) : Record → Prop
  | .header => True
  | .cell index => index < header.acknowledgementCount
  | .slot index => index < header.slotCount

/-- The range of a record, as the accessors return it. -/
def ValidatedRegionLayout.recordRange (layout : ValidatedRegionLayout t) :
    Record → LayoutRun (Nat × Nat)
  | .header => pure (0, regionHeaderSize)
  | .cell index => layout.acknowledgementRange index
  | .slot index => layout.slotRange index

/-- Where an acknowledgement cell starts. -/
def cellStart (index : Nat) : Nat := regionHeaderSize + index * acknowledgementCellSize

variable {record : Record}

namespace RegionLayout

variable (region : RegionLayout t) (mappingSize : Nat) (routes : List AcknowledgementRoute)

/-- The range of a slot record, with no word width. -/
def slotSpan (slot : Nat) : Nat × Nat :=
  (region.header.slotStart slot, region.header.slotStart slot + region.header.slotStride.toNat)

theorem slotRange_validated (slot : UInt32) :
    (region.validated mappingSize routes).slotRange slot =
      if slot < region.header.slotCount then .ok (region.slotSpan slot.toNat)
      else fail (.slotOutOfBounds slot region.header.slotCount) := by
  by_cases hslot : slot < region.header.slotCount
  · have hend := region.canonical.slotEnd_le (UInt32.lt_iff_toNat_lt.mp hslot)
    have husize := region.canonical.totalSize_fits
    rw [if_pos hslot]
    unfold RegionHeader.slotStart at hend
    simp only [slotRange, validated, bind_eq_ok, rejectIf_eq_ok,
      exists_const, plainMul_eq_ok, okOr_eq_ok, checkedAdd_eq_some, pure_eq_ok, ge_iff_le,
      UInt32.not_le]
    exact ⟨hslot, _, ⟨by omega, rfl⟩, _, ⟨by omega, rfl⟩, _, ⟨by omega, rfl⟩, rfl⟩
  · rw [if_neg hslot]
    simp [slotRange, validated, rejectIf, UInt32.not_lt.mp hslot, fail, bind, Except.bind]

theorem acknowledgementRange_validated (index : UInt32) :
    (region.validated mappingSize routes).acknowledgementRange index =
      if index < region.header.acknowledgementCount then
        .ok (cellStart index.toNat, cellStart index.toNat + acknowledgementCellSize)
      else fail (.acknowledgementOutOfBounds index region.header.acknowledgementCount) := by
  by_cases hindex : index < region.header.acknowledgementCount
  · have hlt := UInt32.lt_iff_toNat_lt.mp hindex
    have hslots := region.canonical.slotsOffset_eq
    have htotal := region.canonical.totalSize_eq
    have husize := region.canonical.totalSize_fits
    rw [acknowledgementCellSize] at hslots
    rw [if_pos hindex]
    simp only [acknowledgementRange, validated, bind_eq_ok, rejectIf_eq_ok,
      exists_const, plainMul_eq_ok, okOr_eq_ok, checkedAdd_eq_some, pure_eq_ok, ge_iff_le,
      UInt32.not_le, region.canonical.acknowledgementStride_eq, acknowledgementCellSize]
    exact ⟨hindex, _, ⟨by omega, rfl⟩, _, ⟨by omega, rfl⟩, _, ⟨by omega, rfl⟩, rfl⟩
  · rw [if_neg hindex]
    simp [acknowledgementRange, validated, rejectIf,
      UInt32.not_lt.mp hindex, fail, bind, Except.bind]

theorem slotPayloadRange_validated (slot payloadLen : UInt32) :
    (region.validated mappingSize routes).slotPayloadRange slot payloadLen =
      if payloadLen ≤ region.header.payloadCapacity then
        if slot < region.header.slotCount then
          .ok (region.header.slotStart slot.toNat + slotHeaderSize,
            region.header.slotStart slot.toNat + slotHeaderSize + payloadLen.toNat)
        else fail (.slotOutOfBounds slot region.header.slotCount)
      else fail (.payloadOutOfBounds payloadLen region.header.payloadCapacity) := by
  by_cases hlen : payloadLen ≤ region.header.payloadCapacity
  · rw [if_pos hlen]
    by_cases hslot : slot < region.header.slotCount
    · have hend := region.canonical.slotEnd_le (UInt32.lt_iff_toNat_lt.mp hslot)
      have husize := region.canonical.totalSize_fits
      have hcapacity := UInt32.le_iff_toNat_le.mp hlen
      have hstride := region.canonical.slotStride_eq
      rw [strideFor] at hstride
      rw [if_pos hslot]
      simp only [slotPayloadRange, slotRange_validated, if_pos hslot,
        slotSpan, bind_eq_ok, rejectIf_eq_ok, exists_const, okOr_eq_ok, checkedAdd_eq_some,
        pure_eq_ok, gt_iff_lt, UInt32.not_lt, Except.ok.injEq]
      exact ⟨hlen, _, rfl, _, ⟨by omega, rfl⟩, _, ⟨by omega, rfl⟩, by omega, rfl⟩
    · rw [if_neg hslot]
      simp only [slotPayloadRange, slotRange_validated, if_neg hslot]
      simp [validated, rejectIf, UInt32.not_lt.mpr hlen, fail, bind, Except.bind]
  · rw [if_neg hlen]
    simp [slotPayloadRange, validated, rejectIf, UInt32.not_le.mp hlen, fail, bind, Except.bind]

/-- The range of a record, with no word width. -/
def recordSpan (record : Record) : Nat × Nat :=
  match record with
  | .header => (0, regionHeaderSize)
  | .cell index => (cellStart index.toNat, cellStart index.toNat + acknowledgementCellSize)
  | .slot index => region.slotSpan index.toNat

theorem recordRange_of_exists (valid : record.Exists region.header) :
    (region.validated mappingSize routes).recordRange record = .ok (region.recordSpan record) := by
  cases record with
  | header => rfl
  | cell index => exact (region.acknowledgementRange_validated _ _ index).trans (if_pos valid)
  | slot index => exact (region.slotRange_validated _ _ index).trans (if_pos valid)

theorem recordRange_of_not_exists (invalid : ¬ record.Exists region.header) :
    ∃ e, (region.validated mappingSize routes).recordRange record = fail e := by
  cases record with
  | header => exact absurd trivial invalid
  | cell index => exact ⟨_, (region.acknowledgementRange_validated _ _ index).trans (if_neg invalid)⟩
  | slot index => exact ⟨_, (region.slotRange_validated _ _ index).trans (if_neg invalid)⟩

theorem recordRange_eq_ok {range : Nat × Nat} :
    (region.validated mappingSize routes).recordRange record = .ok range ↔
      record.Exists region.header ∧ range = region.recordSpan record := by
  constructor
  · intro h
    by_cases valid : record.Exists region.header
    · rw [region.recordRange_of_exists _ _ valid] at h
      exact ⟨valid, (Except.ok.inj h).symm⟩
    · obtain ⟨e, he⟩ := region.recordRange_of_not_exists mappingSize routes valid
      rw [he] at h
      cases h
  · rintro ⟨valid, rfl⟩
    exact region.recordRange_of_exists _ _ valid

variable {region}

theorem recordSpan_aligned (record : Record) : (region.recordSpan record).1 % cacheLine = 0 := by
  have hslots := region.canonical.slotsOffset_eq
  have hstride := region.canonical.slotStride_eq
  cases record with
  | header => rfl
  | cell index =>
    simp only [recordSpan, cellStart, regionHeaderSize, acknowledgementCellSize, cacheLine]
    omega
  | slot index =>
    simp only [recordSpan, slotSpan, RegionHeader.slotStart, hslots, hstride, regionHeaderSize,
      acknowledgementCellSize, strideFor, slotHeaderSize, cacheLine]
    rw [← Nat.mul_assoc]
    omega

theorem cellEnd_le {index : UInt32} (valid : index < region.header.acknowledgementCount) :
    cellStart index.toNat + acknowledgementCellSize ≤ region.header.slotsOffset.toNat := by
  have hlt := UInt32.lt_iff_toNat_lt.mp valid
  rw [region.canonical.slotsOffset_eq, cellStart, acknowledgementCellSize]
  omega

theorem recordSpan_inside (valid : record.Exists region.header) :
    (region.recordSpan record).1 < (region.recordSpan record).2 ∧
      (region.recordSpan record).2 ≤ region.header.totalSize.toNat := by
  have hoff := region.canonical.slotsOffset_ge
  have htotal := region.canonical.totalSize_eq
  have hstride := region.canonical.stride_ge
  rw [slotHeaderSize] at hstride
  cases record with
  | header =>
    simp only [recordSpan]
    rw [regionHeaderSize] at hoff ⊢
    omega
  | cell index =>
    have hend := cellEnd_le valid
    simp only [recordSpan]
    rw [acknowledgementCellSize] at hend ⊢
    omega
  | slot index =>
    have hend := region.canonical.slotEnd_le (UInt32.lt_iff_toNat_lt.mp valid)
    simp only [recordSpan, slotSpan]
    omega

theorem cellSpan_disjoint {i j : Nat} (h : i < j) :
    cellStart i + acknowledgementCellSize ≤ cellStart j := by
  simp only [cellStart, acknowledgementCellSize]
  omega

/-- Different records do not overlap. -/
theorem recordSpan_disjoint {a b : Record} (ha : a.Exists region.header)
    (hb : b.Exists region.header) (hne : a ≠ b) :
    (region.recordSpan a).2 ≤ (region.recordSpan b).1 ∨
      (region.recordSpan b).2 ≤ (region.recordSpan a).1 := by
  have hoff := region.canonical.slotsOffset_ge
  have hheader (i : Nat) : regionHeaderSize ≤ cellStart i := by
    unfold cellStart
    omega
  have hslot (i : Nat) : region.header.slotsOffset.toNat ≤ region.header.slotStart i := by
    unfold RegionHeader.slotStart
    omega
  cases a with
  | header =>
    cases b with
    | header => exact absurd rfl hne
    | cell j => exact .inl (hheader _)
    | slot j => exact .inl (hoff.trans (hslot _))
  | cell i =>
    cases b with
    | header => exact .inr (hheader _)
    | cell j =>
      have hne' : i.toNat ≠ j.toNat := fun h => hne (by rw [UInt32.toNat_inj.mp h])
      rcases Nat.lt_or_gt_of_ne hne' with h | h
      · exact .inl (cellSpan_disjoint h)
      · exact .inr (cellSpan_disjoint h)
    | slot j => exact .inl ((cellEnd_le ha).trans (hslot _))
  | slot i =>
    cases b with
    | header => exact .inr (hoff.trans (hslot _))
    | cell j => exact .inr ((cellEnd_le hb).trans (hslot _))
    | slot j =>
      have hne' : i.toNat ≠ j.toNat := fun h => hne (by rw [UInt32.toNat_inj.mp h])
      rcases Nat.lt_or_gt_of_ne hne' with h | h
      · exact .inl (region.header.slotStart_add_stride_le h)
      · exact .inr (region.header.slotStart_add_stride_le h)

end RegionLayout

/-! ### Absence of faults -/

theorem validateHeaderEncoding_noFault {head : Bytes} (hlen : head.length = regionHeaderSize) :
    NoFault (validateHeaderEncoding head) := by
  rw [regionHeaderSize] at hlen
  unfold validateHeaderEncoding
  refine noFault_bind (noFault_slice (by omega) (by omega)) fun _ _ => ?_
  refine noFault_rejectIf_bind fun _ => ?_
  refine noFault_bind (noFault_getWord (by omega)) fun _ _ => ?_
  refine noFault_bind (noFault_getWord (by omega)) fun _ _ => ?_
  refine noFault_rejectIf_bind fun _ => ?_
  refine noFault_bind (noFault_getWord (by omega)) fun _ _ => ?_
  refine noFault_rejectIf_bind fun _ => ?_
  refine noFault_bind (noFault_getWord (by omega)) fun _ _ => ?_
  refine noFault_bind (noFault_slice (by omega) (by omega)) fun _ _ => ?_
  exact noFault_rejectIf _ _

theorem decodeHeader_noFault {head : Bytes} (hlen : head.length = regionHeaderSize) :
    NoFault (decodeHeader head) := by
  rw [regionHeaderSize] at hlen
  unfold decodeHeader
  refine noFault_bind (noFault_bind (noFault_slice (by omega) (by omega)) ?_) fun _ _ => ?_
  · intro part hpart
    obtain ⟨-, rfl⟩ := slice_eq_ok.mp hpart
    have hpart : (head.extract 24 56).length = 32 := length_extract_of_le (by omega)
    simp [toFixed, hpart]
  iterate 11 refine noFault_bind (noFault_getWord (by omega)) fun _ _ => ?_
  exact noFault_pure _

theorem validateHeader_noFault (header : RegionHeader) (mappedLen : Nat)
    (expected : ValidationExpectations) : NoFault (validateHeader t header mappedLen expected) := by
  unfold validateHeader alignUpRun
  iterate 6 refine noFault_rejectIf_bind fun _ => ?_
  iterate 3 refine noFault_bind (noFault_okOr _ _) fun _ _ => ?_
  refine noFault_rejectIf_bind fun _ => ?_
  exact noFault_rejectIf _ _

theorem checkedRange_noFault (start stop total mappedLen : Nat) :
    NoFault (checkedRange t start stop total mappedLen) := by
  have hpow : 0 < 2 ^ t.bits := Nat.two_pow_pos _
  refine noFault_rejectIf_bind fun h => ?_
  refine noFault_bind (noFault_assume (by omega)) fun _ _ => ?_
  exact noFault_bind (noFault_assume (by omega)) fun _ _ => noFault_pure _

variable {bytes : Bytes}

theorem checkSlot_noFault {header : RegionHeader} (canonical : header.Canonical t)
    (fits : header.totalSize.toNat ≤ bytes.length) {slot : Nat}
    (hslot : slot < header.slotCount.toNat) :
    NoFault (checkSlot t header bytes header.slotsOffset.toNat slot) := by
  have hend := canonical.slotEnd_le hslot
  have hstride := canonical.stride_ge
  have husize := canonical.totalSize_fits
  unfold RegionHeader.slotStart at hend
  rw [slotHeaderSize] at hstride
  refine noFault_bind (noFault_assume (by omega)) fun _ h => ?_
  obtain ⟨-, rfl⟩ := assume_eq_ok.mp h
  refine noFault_bind (noFault_assume (by omega)) fun _ h => ?_
  obtain ⟨-, rfl⟩ := assume_eq_ok.mp h
  refine noFault_bind (noFault_getWord (by omega)) fun _ _ => ?_
  refine noFault_bind (noFault_assume (by omega)) fun _ h => ?_
  obtain ⟨-, rfl⟩ := assume_eq_ok.mp h
  refine noFault_bind (noFault_assume (by rw [slotHeaderSize]; omega)) fun _ h => ?_
  obtain ⟨-, rfl⟩ := assume_eq_ok.mp h
  rw [slotHeaderSize]
  refine noFault_bind (noFault_slice (by omega) (by omega)) fun _ _ => ?_
  exact noFault_rejectIf _ _

theorem matchRegion_noFault (topology : RegionSetLayout t) (role : RoleId) (header : RegionHeader) :
    NoFault (matchRegion topology role header) := by
  unfold matchRegion
  split
  · split <;> simp
  · simp

/-- No mapping makes the validation of a region fault. -/
theorem validate_noFault (bytes : Bytes) (expected : ValidationExpectations)
    (topology : RegionSetLayout t) :
    NoFault (ValidatedRegionLayout.validate bytes expected topology) := by
  unfold ValidatedRegionLayout.validate alignUpRun
  refine noFault_rejectIf_bind fun _ => ?_
  refine noFault_rejectIf_bind fun hlen => ?_
  rw [Nat.not_lt] at hlen
  refine noFault_bind (noFault_slice (Nat.zero_le _) hlen) fun head hhead => ?_
  have hhead : head.length = regionHeaderSize := by
    obtain ⟨-, rfl⟩ := slice_eq_ok.mp hhead
    rw [length_extract_of_le hlen, Nat.sub_zero]
  refine noFault_bind (validateHeaderEncoding_noFault hhead) fun _ _ => ?_
  refine noFault_bind (decodeHeader_noFault hhead) fun header _ => ?_
  refine noFault_bind (validateHeader_noFault _ _ _) fun _ valid => ?_
  refine noFault_bind (matchRegion_noFault _ _ _) fun region _ => ?_
  obtain ⟨region, rfl⟩ := region
  -- from here on the header is canonical and the region fits the mapping
  have canonical := region.canonical
  obtain ⟨-, -, -, -, fits, -⟩ := (validateHeader_eq_ok canonical).mp valid
  refine noFault_bind (noFault_okOr _ _) fun _ _ => ?_
  refine noFault_bind (noFault_okOr _ _) fun _ _ => ?_
  refine noFault_bind (checkedRange_noFault _ _ _ _) fun range hrange => ?_
  obtain ⟨hle, -, hstop, -, rfl⟩ := checkedRange_eq_ok.mp hrange
  refine noFault_bind (noFault_slice hle hstop) fun _ _ => ?_
  refine noFault_rejectIf_bind fun _ => ?_
  refine noFault_bind (noFault_assume canonical.totalSize_fits) fun _ h => ?_
  obtain ⟨-, rfl⟩ := assume_eq_ok.mp h
  refine noFault_bind (noFault_slice fits (Nat.le_refl _)) fun _ _ => ?_
  refine noFault_rejectIf_bind fun _ => ?_
  iterate 2 refine noFault_bind (noFault_okOr _ _) fun _ _ => ?_
  refine noFault_rejectIf_bind fun _ => ?_
  iterate 2 refine noFault_bind (noFault_okOr _ _) fun _ _ => ?_
  refine noFault_rejectIf_bind fun _ => ?_
  refine noFault_bind (checkedRange_noFault _ _ _ _) fun range hrange => ?_
  obtain ⟨-, -, -, -, rfl⟩ := checkedRange_eq_ok.mp hrange
  refine noFault_bind (noFault_forRange fun slot hslot => ?_) fun _ _ => noFault_pure _
  exact checkSlot_noFault canonical fits hslot

theorem calculate_noFault (schemaId : FixedBytes 32) (generation : UInt64) (spec : RegionSpec)
    (limits : LayoutLimits) :
    NoFault (RegionLayout.calculate t schemaId generation spec limits) := by
  have hheader : NoFault (calculateHeader t schemaId generation spec limits) := by
    unfold calculateHeader alignUpRun
    refine noFault_bind ?_ fun _ _ => ?_
    · exact noFault_rejectIf_bind fun _ => noFault_rejectIf _ _
    iterate 7 refine noFault_bind (noFault_okOr _ _) fun _ _ => ?_
    exact noFault_rejectIf_bind fun _ => noFault_pure _
  unfold RegionLayout.calculate
  split
  · exact noFault_ok _
  · rename_i stop failed
    rw [failed] at hheader
    simpa [NoFault] using hheader

/-! ### The geometry of a calculated and validated region -/

/-- The layout that validation returns is the one of the region with its header. -/
theorem validate_eq_validated {region : RegionLayout t} {expected : ValidationExpectations}
    {topology : RegionSetLayout t} {layout : ValidatedRegionLayout t}
    (validated : ValidatedRegionLayout.validate bytes expected topology = .ok layout)
    (same : layout.header = region.header) :
    layout = region.validated bytes.length topology.routes := by
  obtain ⟨found, -, -, -, -, -, rfl⟩ := validate_eq_ok.mp validated
  cases found
  cases region
  cases same
  rfl

/-- For a calculated region and any validated layout of it, with `usize` of
    either width: the calculated offsets are the exact ones, the header, the
    acknowledgement cells and the slot records are aligned, disjoint and inside
    the region, payload ranges exist exactly for valid slots and lengths and
    lie behind the slot header, other indices give errors, and nothing
    overflows or truncates on the way. -/
theorem range_geometry {schemaId : FixedBytes 32} {generation : UInt64} {spec : RegionSpec}
    {limits : LayoutLimits} {region : RegionLayout t}
    (calculated : RegionLayout.calculate t schemaId generation spec limits = .ok region)
    {bytes : Bytes} {expected : ValidationExpectations} {topology : RegionSetLayout t}
    {layout : ValidatedRegionLayout t}
    (validated : ValidatedRegionLayout.validate bytes expected topology = .ok layout)
    (same : layout.header = region.header) :
    (region.header.totalSize.toNat = spec.exactTotal ∧
      region.header.slotsOffset.toNat = spec.exactSlotsOffset ∧
      region.header.slotStride.toNat = strideFor spec.payloadBytes.toNat) ∧
    region.header.totalSize ≤ limits.maximumMappingSize ∧
    (∀ record : Record, record.Exists region.header →
      ∃ range, layout.recordRange record = .ok range ∧ range.1 % cacheLine = 0 ∧
        range.1 < range.2 ∧ range.2 ≤ region.header.totalSize.toNat) ∧
    (∀ record : Record, ¬ record.Exists region.header →
      ∃ e, layout.recordRange record = fail e) ∧
    (∀ (a b : Record) (ra rb : Nat × Nat), a ≠ b → layout.recordRange a = .ok ra →
      layout.recordRange b = .ok rb → ra.2 ≤ rb.1 ∨ rb.2 ≤ ra.1) ∧
    (∀ slot payloadLen : UInt32,
      ((∃ range, layout.slotPayloadRange slot payloadLen = .ok range) ↔
        slot < region.header.slotCount ∧ payloadLen ≤ region.header.payloadCapacity) ∧
      ∀ range, layout.slotPayloadRange slot payloadLen = .ok range →
        ∃ record, layout.slotRange slot = .ok record ∧
          range.1 = record.1 + slotHeaderSize ∧ range.2 = range.1 + payloadLen.toNat ∧
          range.2 ≤ record.2) ∧
    NoFault (RegionLayout.calculate t schemaId generation spec limits) ∧
    NoFault (ValidatedRegionLayout.validate bytes expected topology) ∧
    (∀ record, NoFault (layout.recordRange record)) ∧
    ∀ slot payloadLen, NoFault (layout.slotPayloadRange slot payloadLen) := by
  obtain rfl := validate_eq_validated validated same
  obtain ⟨c, hheader⟩ := RegionLayout.calculate_eq_ok.mp calculated
  refine ⟨?_, ?_, ?_, ?_, ?_, ?_, calculate_noFault _ _ _ _, validate_noFault _ _ _, ?_, ?_⟩
  · rw [hheader]
    exact ⟨UInt64.toNat_ofNat_of_lt' (t.fits_u64 c.total_fits),
      UInt64.toNat_ofNat_of_lt' c.exactSlotsOffset_lt, UInt32.toNat_ofNat_of_lt' c.stride_fits⟩
  · rw [hheader, UInt64.le_iff_toNat_le]
    simpa only [RegionSpec.header, UInt64.toNat_ofNat_of_lt' (t.fits_u64 c.total_fits)]
      using c.total_le
  · intro record valid
    exact ⟨_, region.recordRange_of_exists _ _ valid, region.recordSpan_aligned record,
      region.recordSpan_inside valid⟩
  · intro record invalid
    exact region.recordRange_of_not_exists _ _ invalid
  · intro a b ra rb hne ha hb
    obtain ⟨existsA, rfl⟩ := (region.recordRange_eq_ok _ _).mp ha
    obtain ⟨existsB, rfl⟩ := (region.recordRange_eq_ok _ _).mp hb
    exact region.recordSpan_disjoint existsA existsB hne
  · intro slot payloadLen
    rw [region.slotPayloadRange_validated, region.slotRange_validated]
    by_cases hlen : payloadLen ≤ region.header.payloadCapacity
    · by_cases hslot : slot < region.header.slotCount
      · rw [if_pos hlen, if_pos hslot, if_pos hslot]
        refine ⟨⟨fun _ => ⟨hslot, hlen⟩, fun _ => ⟨_, rfl⟩⟩, ?_⟩
        intro range hrange
        cases hrange
        refine ⟨_, rfl, rfl, rfl, ?_⟩
        have hcapacity := UInt32.le_iff_toNat_le.mp hlen
        have hstride := region.canonical.slotStride_eq
        rw [strideFor] at hstride
        simp only [RegionLayout.slotSpan]
        omega
      · simp [hlen, hslot, fail]
    · simp [hlen, fail]
  · intro record
    by_cases valid : record.Exists region.header
    · rw [region.recordRange_of_exists _ _ valid]
      exact noFault_ok _
    · obtain ⟨e, he⟩ := region.recordRange_of_not_exists bytes.length topology.routes valid
      rw [he]
      exact noFault_fail e
  · intro slot payloadLen
    rw [region.slotPayloadRange_validated]
    split
    · split
      · exact noFault_ok _
      · exact noFault_fail _
    · exact noFault_fail _

/-- The hypotheses of `range_geometry` hold of a freshly encoded region. -/
theorem range_geometry_sample :
    ∃ (region : RegionLayout .w64) (topology : RegionSetLayout .w64) (bytes : Bytes)
      (layout : ValidatedRegionLayout .w64),
      RegionLayout.calculate .w64 Sample.schemaId 5 Sample.requestSpec Sample.limits =
        .ok region ∧
      ValidatedRegionLayout.validate bytes Sample.expected topology = .ok layout ∧
      layout.header = region.header ∧
      ∀ (a b : Record) (ra rb : Nat × Nat), a ≠ b → layout.recordRange a = .ok ra →
        layout.recordRange b = .ok rb → ra.2 ≤ rb.1 ∨ rb.2 ≤ ra.1 := by
  obtain ⟨topology, region, calculated, found, single⟩ :
      ∃ (topology : RegionSetLayout .w64) (region : RegionLayout .w64),
        RegionSetLayout.calculate .w64 Sample.schemaId 5 Sample.specs Sample.routes
          Sample.limits = .ok topology ∧
        topology.region Sample.requests = some region ∧
        RegionLayout.calculate .w64 Sample.schemaId 5 Sample.requestSpec Sample.limits =
          .ok region := ⟨_, _, rfl, rfl, rfl⟩
  obtain ⟨-, hheader⟩ := RegionLayout.calculate_eq_ok.mp single
  have agrees : Sample.expected.Agrees region := by
    refine ⟨by rw [hheader]; rfl, by rw [hheader]; rfl, ?_⟩
    rw [RegionLayout.writer_eq_iff, hheader]
    rfl
  have hmax : region.header.totalSize ≤ Sample.expected.maximumMappingSize := by
    rw [hheader]
    decide
  obtain ⟨image, encoded, -⟩ := region.encodeInto_ok
    (List.replicate region.header.totalSize.toNat 0) (by simp)
  have validated := validate_encodeInto found agrees hmax encoded
  exact ⟨region, topology, image, _, single, validated, rfl,
    (range_geometry single validated rfl).2.2.2.2.1⟩

end NativeIpc.Core
