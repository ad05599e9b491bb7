import NativeIpc.Core.Image

/-!
# Exactness of region validation

`validate` accepts a quiescent mapping exactly when it is the image of the
topology's region, up to the payload bytes of the slots and zero padding. The
topology's header is canonical, so once the decoded header equals it every
range check on the way holds and only the byte conditions are left.
-/

namespace NativeIpc.Core

open NativeIpc.Lib Bytes Run

variable {t : Target}

/-- A byte behind the 64-byte header of some slot record. -/
def RegionHeader.InPayload (header : RegionHeader) (i : Nat) : Prop :=
  ∃ slot < header.slotCount.toNat,
    header.slotStart slot + slotHeaderSize ≤ i ∧ i < header.slotStart slot + header.slotStride.toNat

variable {topology : RegionSetLayout t} {header : RegionHeader} {expected : ValidationExpectations}
    {bytes : Bytes} {region : RegionLayout t}
  {role : RoleId} {regions : List (RegionLayout t)}

open ValidatedRegionLayout

theorem matchRegion_eq_ok {region : { region : RegionLayout t // region.header = header }} :
    matchRegion topology role header = .ok region ↔
      topology.region role = some region.1 := by
  obtain ⟨region, same⟩ := region
  unfold matchRegion
  split
  · rename_i found hfound
    rw [hfound, Option.some.injEq]
    by_cases hsame : found.header = header
    · rw [dif_pos hsame]
      simp
    · rw [dif_neg hsame]
      simp only [fail, reduceCtorEq, false_iff]
      rintro rfl
      exact hsame same
  · rename_i hnone
    simp [hnone, fail]

/-- On a canonical header the structural checks of `validate_header` hold. -/
theorem validateHeader_eq_ok (canonical : header.Canonical t) {mappedLen : Nat} :
    validateHeader t header mappedLen expected = .ok () ↔
      header.schemaId = expected.schemaId ∧ header.generation = expected.generation ∧
      header.role = expected.role.get ∧ Endpoint.fromRaw header.writer = some expected.writer ∧
      header.totalSize.toNat ≤ mappedLen ∧ mappedLen ≤ expected.maximumMappingSize.toNat := by
  have hacks := header.acknowledgementCount.toNat_lt
  have husize := canonical.totalSize_fits
  have hslots := canonical.slotsOffset_eq
  have hcount : ¬ header.slotCount = 0 := by
    intro h
    have := canonical.slotCount_pos
    simp [h] at this
  have hcapacity : ¬ header.payloadCapacity = 0 := by
    intro h
    have := canonical.capacity_pos
    simp [h] at this
  simp only [validateHeader, alignUpRun, cacheLine, bind_eq_ok, rejectIf_eq_ok, exists_const,
    okOr_eq_ok, checkedMul_eq_some, checkedAdd_eq_some, alignUp_64_eq_some, not_not, not_or,
    canonical.acknowledgementOffset_eq, canonical.acknowledgementStride_eq, hcount, hcapacity,
    not_false_eq_true, and_true, gt_iff_lt, Nat.not_lt, UInt64.not_lt, UInt64.le_iff_toNat_le,
    true_and]
  rw [regionHeaderSize, acknowledgementCellSize] at hslots ⊢
  constructor
  · rintro ⟨schema, generation, role, writer, ⟨hmax, hlen, -, -⟩, -⟩
    exact ⟨schema, generation, role, writer, hlen, hmax⟩
  · rintro ⟨schema, generation, role, writer, hlen, hmax⟩
    exact ⟨schema, generation, role, writer, ⟨hmax, hlen, by omega, by omega⟩,
      _, ⟨by omega, rfl⟩, _, ⟨by omega, rfl⟩, _, ⟨by omega, rfl⟩, (),
      rejectIf_eq_ok.mpr (by omega)⟩

/-- A range is taken if it lies inside the region and the mapping and ends in a `usize`. -/
theorem checkedRange_eq_ok {start stop total mappedLen : Nat} {range : Nat × Nat} :
    checkedRange t start stop total mappedLen = .ok range ↔
      start ≤ stop ∧ stop ≤ total ∧ stop ≤ mappedLen ∧ stop < 2 ^ t.bits ∧
        range = (start, stop) := by
  have hpow : 0 < 2 ^ t.bits := Nat.two_pow_pos _
  simp only [checkedRange, bind_eq_ok, rejectIf_eq_ok, exists_const, castTo_eq_ok, pure_eq_ok,
    not_or, gt_iff_lt, Nat.not_lt]
  constructor
  · rintro ⟨⟨hle, htotal, hlen, husize⟩, _, ⟨-, rfl⟩, _, ⟨-, rfl⟩, rfl⟩
    exact ⟨hle, htotal, hlen, by omega, rfl⟩
  · rintro ⟨hle, htotal, hlen, husize, rfl⟩
    exact ⟨⟨hle, htotal, hlen, by omega⟩, _, ⟨by omega, rfl⟩, _, ⟨by omega, rfl⟩, rfl⟩

/-- A slot passes its check exactly when its 64-byte header is the initial one. -/
theorem checkSlot_eq_ok (canonical : header.Canonical t)
    (fits : header.totalSize.toNat ≤ bytes.length) {slot : Nat}
    (hslot : slot < header.slotCount.toNat) :
    checkSlot t header bytes header.slotsOffset.toNat slot = .ok () ↔
      ∀ inner < slotHeaderSize,
        bytes[header.slotStart slot + inner]? = header.imageAt (header.slotStart slot + inner) := by
  have hend := canonical.slotEnd_le hslot
  have hstride := canonical.stride_ge
  have husize := canonical.totalSize_fits
  have himage {inner : Nat} (hinner : inner < slotHeaderSize) :
      header.imageAt (header.slotStart slot + inner) =
        if inner < 8 then (ofLe 8 header.generation.toNat)[inner]? else some 0 := by
    rw [RegionHeader.imageAt, canonical.imageUpto_slot _ (by omega)]
    simp [hslot]
  rw [slotHeaderSize] at *
  have hgeneration : bytes.extract (header.slotStart slot) (header.slotStart slot + 8) =
      ofLe 8 header.generation.toNat ↔
        ∀ inner < 8, bytes[header.slotStart slot + inner]? =
          (ofLe 8 header.generation.toNat)[inner]? := by
    simpa using extract_eq_iff bytes (ofLe 8 header.generation.toNat) (header.slotStart slot)
  have hfit : header.slotStart slot + 64 ≤ bytes.length := by omega
  have hmetadata := all_zero_extract (header.slotStart slot + 8) hfit
  have hinside : header.slotsOffset.toNat + slot * header.slotStride.toNat + 64 ≤
      header.totalSize.toNat := by
    unfold RegionHeader.slotStart at hend
    omega
  simp only [checkSlot, slotHeaderSize, bind_eq_ok, plainMul_eq_ok,
    plainAdd_eq_ok, slice_eq_ok, getU64_eq_ok, rejectIf_eq_ok, not_or, not_exists, not_and,
    not_not]
  constructor
  · rintro ⟨_, ⟨-, rfl⟩, _, ⟨-, rfl⟩, _, generation, _, ⟨-, rfl⟩, _, ⟨-, rfl⟩, _, ⟨-, rfl⟩,
      rfl, metadata⟩
    intro inner hinner
    rw [himage hinner]
    split
    · rename_i h8
      exact hgeneration.mp generation inner h8
    · exact hmetadata.mp metadata _ (by omega) (by omega)
  · intro h
    refine ⟨_, ⟨by omega, rfl⟩, _, ⟨by omega, rfl⟩, header.generation, ?_,
      _, ⟨by omega, rfl⟩, _, ⟨by omega, rfl⟩, _, ⟨by omega, rfl⟩, rfl, ?_⟩
    · refine hgeneration.mpr ?_
      intro inner hinner
      rw [h inner (by omega), himage (by omega), if_pos hinner]
    · refine hmetadata.mpr ?_
      intro i hlow hhigh
      obtain ⟨inner, rfl⟩ := Nat.exists_eq_add_of_le (Nat.le_of_add_right_le hlow)
      rw [h inner (by omega), himage (by omega), if_neg (by omega)]

/-- The mapping holds the initial image of the region, up to payload bytes,
    followed by zeros. -/
structure RegionHeader.Initial (header : RegionHeader) (bytes : Bytes) : Prop where
  image : ∀ i < header.totalSize.toNat, ¬ header.InPayload i → bytes[i]? = header.imageAt i
  padding : ∀ i, header.totalSize.toNat ≤ i → i < bytes.length → bytes[i]? = some 0

theorem RegionHeader.not_inPayload_of_lt (header : RegionHeader) {i : Nat}
    (hi : i < header.slotsOffset.toNat) : ¬ header.InPayload i := by
  rintro ⟨slot, -, hlow, -⟩
  unfold RegionHeader.slotStart at hlow
  omega

namespace RegionHeader.Canonical

variable {header : RegionHeader}

/-- The header bytes of one record are no payload bytes of another. -/
theorem not_inPayload_slotHeader {slot inner : Nat}
    (hinner : inner < slotHeaderSize) : ¬ header.InPayload (header.slotStart slot + inner) := by
  rintro ⟨other, -, hlow, hhigh⟩
  rcases Nat.lt_trichotomy slot other with h | rfl | h
  · have := header.slotStart_add_stride_le h
    omega
  · omega
  · have := header.slotStart_add_stride_le h
    omega

/-- The initial image, in the four parts in which `validate` reads it. -/
theorem initial_iff (canonical : header.Canonical t)
    (fits : header.totalSize.toNat ≤ bytes.length) :
    header.Initial bytes ↔
      bytes.extract 0 regionHeaderSize = headerImage header ∧
      (∀ byte ∈ bytes.extract regionHeaderSize header.slotsOffset.toNat, byte = 0) ∧
      (∀ byte ∈ bytes.extract header.totalSize.toNat bytes.length, byte = 0) ∧
      ∀ slot < header.slotCount.toNat, ∀ inner < slotHeaderSize,
        bytes[header.slotStart slot + inner]? = header.imageAt (header.slotStart slot + inner) := by
  have hoff := canonical.slotsOffset_ge
  have htotal := canonical.totalSize_eq
  have hstride := canonical.stride_ge
  have hhead := extract_eq_iff bytes (headerImage header) 0
  simp only [length_headerImage, Nat.zero_add] at hhead
  rw [hhead, all_zero_extract _ (by omega), all_zero_extract _ (Nat.le_refl _)]
  constructor
  · rintro ⟨image, padding⟩
    refine ⟨?_, ?_, padding, ?_⟩
    · intro i hi
      rw [image i (by omega) (header.not_inPayload_of_lt (by omega))]
      exact header.imageUpto_header _ hi
    · intro i hlow hhigh
      rw [image i (by omega) (header.not_inPayload_of_lt hhigh)]
      exact header.imageUpto_cells _ hlow hhigh
    · intro slot hslot inner hinner
      have hend := canonical.slotEnd_le hslot
      exact image _ (by omega) (not_inPayload_slotHeader hinner)
  · rintro ⟨head, cells, padding, slots⟩
    refine ⟨?_, padding⟩
    intro i hi hpayload
    by_cases hlow : i < regionHeaderSize
    · rw [head i hlow]
      exact (header.imageUpto_header _ hlow).symm
    · by_cases hmid : i < header.slotsOffset.toNat
      · rw [cells i (by omega) hmid]
        exact (header.imageUpto_cells _ (by omega) hmid).symm
      · obtain ⟨slot, inner, hslot, hinner, rfl⟩ := canonical.exists_slot (by omega) hi
        refine slots slot hslot inner ?_
        by_contra hout
        exact hpayload ⟨slot, hslot, by omega, by omega⟩

end RegionHeader.Canonical

theorem findRegion_role (found : findRegion regions role = some region) : region.role = role := by
  simpa using List.find?_some found

theorem findRegion_mem (found : findRegion regions role = some region) : region ∈ regions :=
  List.mem_of_find?_eq_some found

/-- The identity facts of a region that the expectations name. -/
structure ValidationExpectations.Agrees (expected : ValidationExpectations)
    (region : RegionLayout t) : Prop where
  schemaId : region.header.schemaId = expected.schemaId
  generation : region.header.generation = expected.generation
  writer : region.writer = expected.writer

theorem RegionLayout.writer_eq_iff {writer : Endpoint} :
    region.writer = writer ↔ Endpoint.fromRaw region.header.writer = some writer := by
  unfold RegionLayout.writer
  rw [Option.eq_some_iff_get_eq]
  exact ⟨fun h => ⟨_, h⟩, fun ⟨_, h⟩ => h⟩

/-- What `validate` returns for a region of the topology. -/
def RegionLayout.validated (region : RegionLayout t) (mappingSize : Nat)
    (routes : List AcknowledgementRoute) : ValidatedRegionLayout t where
  header := region.header
  acknowledgements := (regionHeaderSize, region.header.slotsOffset.toNat)
  slots := (region.header.slotsOffset.toNat, region.header.totalSize.toNat)
  mappingSize := mappingSize
  routes := routes
  canonical := region.canonical

theorem RegionLayout.header_validated (region : RegionLayout t) (size : Nat)
    (routes : List AcknowledgementRoute) : (region.validated size routes).header = region.header :=
  rfl

/-- Validation accepts exactly the initial images of the topology's region and
    returns its header. -/
theorem validate_eq_ok {layout : ValidatedRegionLayout t} :
    validate bytes expected topology = .ok layout ↔
      ∃ region, topology.region expected.role = some region ∧ expected.Agrees region ∧
        region.header.totalSize.toNat ≤ bytes.length ∧
        bytes.length ≤ expected.maximumMappingSize.toNat ∧ region.header.Initial bytes ∧
        layout = region.validated bytes.length topology.routes := by
  simp only [validate, bind_eq_ok, rejectIf_eq_ok,
    slice_eq_ok, matchRegion_eq_ok, okOr_eq_ok, checkedMul_eq_some, checkedAdd_eq_some,
    checkedRange_eq_ok, castTo_eq_ok, alignUpRun, cacheLine, alignUp_64_eq_some, forRange_eq_ok,
    pure_eq_ok, not_not, not_exists, not_and, Unique.exists_iff, PUnit.default_eq_unit]
  constructor
  · rintro ⟨-, hlen, _, ⟨-, rfl⟩, encoding, header, decoded, valid, ⟨region, rfl⟩, found, rest⟩
    obtain ⟨_, ⟨-, rfl⟩, _, ⟨-, rfl⟩, _, ⟨-, -, -, -, rfl⟩, _, ⟨-, rfl⟩, cells, rest⟩ := rest
    obtain ⟨_, ⟨-, rfl⟩, _, ⟨-, rfl⟩, padding, rest⟩ := rest
    obtain ⟨_, ⟨-, rfl⟩, _, ⟨-, rfl⟩, -, _, ⟨-, rfl⟩, _, ⟨-, rfl⟩, hend, _, ⟨-, -, -, -, rfl⟩,
      slots, rfl⟩ := rest
    have canonical := region.canonical
    obtain ⟨schema, generation, -, writer, fits, hmax⟩ := (validateHeader_eq_ok canonical).mp valid
    have hhead : (bytes.extract 0 regionHeaderSize).length = regionHeaderSize := by
      rw [length_extract_of_le (by omega), Nat.sub_zero]
    rw [canonical.acknowledgementOffset_eq, canonical.acknowledgementStride_eq,
      ← canonical.slotsOffset_eq] at cells
    refine ⟨region, found, ⟨schema, generation, RegionLayout.writer_eq_iff.mpr writer⟩, fits,
      hmax, ?_, ?_⟩
    · refine (canonical.initial_iff fits).mpr ⟨?_, cells, padding, ?_⟩
      · exact (header_accepted_iff hhead).mp ⟨encoding, decoded⟩
      · intro slot hslot
        exact (checkSlot_eq_ok canonical fits hslot).mp (slots slot hslot)
    · simp only [RegionLayout.validated, canonical.acknowledgementOffset_eq,
        canonical.acknowledgementStride_eq, canonical.slotsOffset_eq, canonical.totalSize_eq]
  · rintro ⟨region, found, agrees, fits, hmax, initial, rfl⟩
    have canonical := region.canonical
    have hoff := canonical.slotsOffset_ge
    have htotal := canonical.totalSize_eq
    have husize := canonical.totalSize_fits
    have h64 := t.fits_u64 husize
    have hcapacity := region.header.payloadCapacity.toNat_lt
    have hhead : (bytes.extract 0 regionHeaderSize).length = regionHeaderSize := by
      rw [length_extract_of_le (by omega), Nat.sub_zero]
    obtain ⟨head, cells, padding, slots⟩ := (canonical.initial_iff fits).mp initial
    obtain ⟨encoding, decoded⟩ := (header_accepted_iff hhead).mpr head
    have hrole : region.header.role = expected.role.get :=
      congrArg RoleId.get (findRegion_role found)
    have hgeneration : ¬ expected.generation = 0 := by
      rw [← agrees.generation]
      exact topology.generation_ne region (findRegion_mem found)
    refine ⟨hgeneration, by omega, _, ⟨⟨by omega, by omega⟩, rfl⟩, encoding, region.header,
      decoded, ?_, ⟨region, rfl⟩, found, ?_⟩
    · exact (validateHeader_eq_ok canonical).mpr ⟨agrees.schemaId, agrees.generation, hrole,
        RegionLayout.writer_eq_iff.mp agrees.writer, fits, hmax⟩
    have hslots := canonical.slotsOffset_eq
    have hstride := canonical.slotStride_eq
    have hslot : slotHeaderSize + region.header.payloadCapacity.toNat + 63 < 2 ^ 64 := by
      rw [slotHeaderSize]
      omega
    simp only [canonical.acknowledgementOffset_eq, canonical.acknowledgementStride_eq]
    refine ⟨_, ⟨by omega, rfl⟩, _, ⟨by omega, rfl⟩, _,
      ⟨by omega, by omega, by omega, by omega, rfl⟩, _, ⟨⟨by omega, by omega⟩, rfl⟩, ?_,
      _, ⟨husize, rfl⟩, _, ⟨⟨fits, Nat.le_refl _⟩, rfl⟩, padding, _, ⟨by omega, rfl⟩,
      _, ⟨hslot, rfl⟩, hstride, _, ⟨by omega, rfl⟩, _, ⟨by omega, rfl⟩, htotal.symm, _,
      ⟨by omega, by omega, by omega, by omega, rfl⟩, ?_, ?_⟩
    · rw [← hslots]
      exact cells
    · intro slot hslot
      exact (checkSlot_eq_ok canonical fits hslot).mpr (slots slot hslot)
    · simp only [RegionLayout.validated, hslots, htotal]

/-- The image in a mapping, stated with what `encode_into` leaves in any
    destination that is large enough. -/
theorem initial_iff_encodeInto :
    region.header.Initial bytes ↔
      (∀ destination : Bytes, region.header.totalSize.toNat ≤ destination.length →
        ∃ image, region.encodeInto destination = .ok image ∧
          ∀ i < region.header.totalSize.toNat, ¬ region.header.InPayload i →
            bytes[i]? = image[i]?) ∧
      ∀ i, region.header.totalSize.toNat ≤ i → i < bytes.length → bytes[i]? = some 0 := by
  constructor
  · intro initial
    refine ⟨?_, initial.padding⟩
    intro destination fits
    obtain ⟨image, encoded, -, hget⟩ := region.encodeInto_ok _ fits
    refine ⟨image, encoded, ?_⟩
    intro i hi hpayload
    rw [hget i, if_pos hi]
    exact initial.image i hi hpayload
  · rintro ⟨same, padding⟩
    refine ⟨?_, padding⟩
    intro i hi hpayload
    let zeros := List.replicate region.header.totalSize.toNat (0 : UInt8)
    have fits : region.header.totalSize.toNat ≤ zeros.length := by simp [zeros]
    obtain ⟨image, encoded, hsame⟩ := same zeros fits
    obtain ⟨_, encoded', -, hget⟩ := region.encodeInto_ok _ fits
    cases encoded.symm.trans encoded'
    rw [hsame i hi hpayload, hget i, if_pos hi]
    rfl

/-- A freshly encoded region passes its own validation. -/
theorem validate_encodeInto {image : Bytes} (found : topology.region expected.role = some region)
    (agrees : expected.Agrees region) (hmax : region.header.totalSize ≤ expected.maximumMappingSize)
    (encoded : region.encodeInto (List.replicate region.header.totalSize.toNat 0) = .ok image) :
    validate image expected topology =
      .ok (region.validated region.header.totalSize.toNat topology.routes) := by
  obtain ⟨_, encoded', hlen, hget⟩ := region.encodeInto_ok
    (List.replicate region.header.totalSize.toNat 0) (by simp)
  cases encoded.symm.trans encoded'
  rw [List.length_replicate] at hlen
  refine validate_eq_ok.mpr ⟨region, found, agrees, by omega, ?_, ⟨?_, ?_⟩, by rw [hlen]⟩
  · rw [hlen]
    exact UInt64.le_iff_toNat_le.mp hmax
  · intro i hi _
    rw [hget i, if_pos hi]
    rfl
  · intro i hlow hhigh
    omega

/-- Validation against a topology succeeds exactly on mappings that hold the
    region's encoded image, whatever the payload bytes are, followed by zero
    padding, and it returns the topology's header. -/
theorem validate_exact (topology : RegionSetLayout t) (expected : ValidationExpectations)
    (bytes : Bytes) :
    ((∃ layout, ValidatedRegionLayout.validate bytes expected topology = .ok layout) ↔
      ∃ region, topology.region expected.role = some region ∧
        region.header.schemaId = expected.schemaId ∧
        region.header.generation = expected.generation ∧
        region.role = expected.role ∧ region.writer = expected.writer ∧
        region.header.totalSize.toNat ≤ bytes.length ∧
        bytes.length ≤ expected.maximumMappingSize.toNat ∧
        (∀ destination : Bytes, region.header.totalSize.toNat ≤ destination.length →
          ∃ image, region.encodeInto destination = .ok image ∧
            ∀ i < region.header.totalSize.toNat, ¬ region.header.InPayload i →
              bytes[i]? = image[i]?) ∧
        ∀ i, region.header.totalSize.toNat ≤ i → i < bytes.length → bytes[i]? = some 0) ∧
    ∀ layout, ValidatedRegionLayout.validate bytes expected topology = .ok layout →
      ∃ region, topology.region expected.role = some region ∧
        layout.header = region.header := by
  simp only [validate_eq_ok]
  refine ⟨⟨?_, ?_⟩, ?_⟩
  · rintro ⟨-, region, found, agrees, fits, hmax, initial, -⟩
    exact ⟨region, found, agrees.schemaId, agrees.generation, findRegion_role found,
      agrees.writer, fits, hmax, initial_iff_encodeInto.mp initial⟩
  · rintro ⟨region, found, schema, generation, -, writer, fits, hmax, image⟩
    exact ⟨_, region, found, ⟨schema, generation, writer⟩, fits, hmax,
      initial_iff_encodeInto.mpr image, rfl⟩
  · rintro layout ⟨region, found, -, -, -, -, rfl⟩
    exact ⟨region, found, rfl⟩

end NativeIpc.Core
