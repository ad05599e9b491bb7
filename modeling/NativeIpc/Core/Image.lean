import NativeIpc.Core.Layout

/-!
# The encoded image of a region

What `encode_into` leaves in a mapping, byte by byte: the encoded header, the
connection generation at the start of every slot record, and zeros elsewhere.
The header codec is exact in both directions: the 128 bytes that pass
`validate_header_encoding` and decode to a header are its encoding and nothing
else.
-/

namespace NativeIpc.Core

open NativeIpc.Lib Bytes Run

variable (header : RegionHeader)

/-- The fields of an encoded header in the order of their offsets. -/
def headerFields : List Bytes :=
  [regionMagic, ofLe 2 versionMajor.toNat, ofLe 2 versionMinor.toNat,
    ofLe 4 (UInt32.ofNat regionHeaderSize).toNat, ofLe 8 header.totalSize.toNat,
    header.schemaId.list, ofLe 8 header.generation.toNat, ofLe 4 header.role.toNat,
    ofLe 4 header.writer.toNat, ofLe 8 header.acknowledgementOffset.toNat,
    ofLe 4 header.acknowledgementCount.toNat, ofLe 4 header.acknowledgementStride.toNat,
    ofLe 8 header.slotsOffset.toNat, ofLe 4 header.slotCount.toNat,
    ofLe 4 header.slotStride.toNat, ofLe 4 header.payloadCapacity.toNat,
    ofLe 4 (0 : UInt32).toNat, List.replicate 16 0]

/-- The 128 bytes of an encoded header. -/
def headerImage : Bytes := (headerFields header).flatten

@[simp] theorem length_headerImage : (headerImage header).length = regionHeaderSize := by
  simp [headerImage, headerFields, regionMagic, header.schemaId.length_eq, regionHeaderSize]

/-- The written-out offsets of `encode_header` are those of consecutive fields. -/
theorem encodeHeader_eq_putFields (bytes : Bytes) :
    encodeHeader header bytes = putFields bytes 0 (headerFields header) := by
  simp [encodeHeader, headerFields, putFields, putU16, putU32, putU64, regionMagic,
    header.schemaId.length_eq]

variable {header : RegionHeader} {head : Bytes}

theorem encodeHeader_eq {bytes : Bytes} (hlen : bytes.length = regionHeaderSize) :
    encodeHeader header bytes = .ok (headerImage header) := by
  rw [encodeHeader_eq_putFields]
  exact putFields_full ((length_headerImage header).trans hlen.symm)

open RegionHeader

section

variable (hlen : head.length = regionHeaderSize)
include hlen

/-- A buffer is an encoded header exactly when the header's fields stand in it. -/
theorem eq_headerImage_iff : head = headerImage header ↔ FieldsAt head 0 (headerFields header) :=
  eq_flatten_iff (hlen.trans (length_headerImage header).symm)

theorem validateHeaderEncoding_eq_ok :
    validateHeaderEncoding head = .ok () ↔
      head.extract 0 8 = regionMagic ∧ head.extract 8 10 = ofLe 2 versionMajor.toNat ∧
      head.extract 10 12 = ofLe 2 versionMinor.toNat ∧
      head.extract 12 16 = ofLe 4 (UInt32.ofNat regionHeaderSize).toNat ∧
      head.extract 108 112 = ofLe 4 (0 : UInt32).toNat ∧
      head.extract 112 128 = List.replicate 16 0 := by
  have hzero : (head.extract 112 128 = List.replicate 16 0) ↔
      ∀ byte ∈ head.extract 112 128, byte = 0 := by
    rw [List.eq_replicate_iff, length_extract_of_le (by rw [hlen]; decide)]
    simp
  simp only [validateHeaderEncoding, bind_eq_ok, slice_eq_ok, rejectIf_eq_ok, getU16_eq_ok,
    getU32_eq_ok, hlen, hzero, exists_const, not_or, not_not, not_exists, not_and]
  constructor
  · rintro ⟨_, ⟨_, rfl⟩, magic, _, major, _, minor, ⟨rfl, rfl⟩, _, size, rfl, _, reserved, _, ⟨_,
      rfl⟩, rfl, padding⟩
    exact ⟨magic, major, minor, size, reserved, padding⟩
  · rintro ⟨magic, major, minor, size, reserved, padding⟩
    exact ⟨_, ⟨by decide, rfl⟩, magic, _, major, _, minor, ⟨rfl, rfl⟩, _, size, rfl, _, reserved, _,
      ⟨by decide, rfl⟩, rfl, padding⟩

theorem decodeHeader_eq_ok :
    decodeHeader head = .ok header ↔
      head.extract 16 24 = ofLe 8 header.totalSize.toNat ∧
      head.extract 24 56 = header.schemaId.list ∧
      head.extract 56 64 = ofLe 8 header.generation.toNat ∧
      head.extract 64 68 = ofLe 4 header.role.toNat ∧
      head.extract 68 72 = ofLe 4 header.writer.toNat ∧
      head.extract 72 80 = ofLe 8 header.acknowledgementOffset.toNat ∧
      head.extract 80 84 = ofLe 4 header.acknowledgementCount.toNat ∧
      head.extract 84 88 = ofLe 4 header.acknowledgementStride.toNat ∧
      head.extract 88 96 = ofLe 8 header.slotsOffset.toNat ∧
      head.extract 96 100 = ofLe 4 header.slotCount.toNat ∧
      head.extract 100 104 = ofLe 4 header.slotStride.toNat ∧
      head.extract 104 108 = ofLe 4 header.payloadCapacity.toNat := by
  simp only [decodeHeader, bind_eq_ok, slice_eq_ok, toFixed_eq_ok, getU32_eq_ok, getU64_eq_ok,
    pure_eq_ok, hlen]
  constructor
  · rintro ⟨_, ⟨_, ⟨_, rfl⟩, schema⟩, _, total, _, generation, _, role, _, writer, _, ackOffset, _,
      ackCount, _, ackStride, _, slotsOffset, _, slotCount, _, slotStride, _, capacity, rfl⟩
    exact ⟨total, schema, generation, role, writer, ackOffset, ackCount, ackStride, slotsOffset,
      slotCount, slotStride, capacity⟩
  · rintro ⟨total, schema, generation, role, writer, ackOffset, ackCount, ackStride, slotsOffset,
      slotCount, slotStride, capacity⟩
    exact ⟨_, ⟨_, ⟨by decide, rfl⟩, schema⟩, _, total, _, generation, _, role, _, writer, _,
      ackOffset, _, ackCount, _, ackStride, _, slotsOffset, _, slotCount, _, slotStride, _,
      capacity, rfl⟩

/-- The accepted encodings of a header are exactly its image. -/
theorem header_accepted_iff :
    (validateHeaderEncoding head = .ok () ∧ decodeHeader head = .ok header) ↔
      head = headerImage header := by
  rw [eq_headerImage_iff hlen, validateHeaderEncoding_eq_ok hlen, decodeHeader_eq_ok hlen]
  simp only [headerFields, FieldsAt, length_ofLe, header.schemaId.length_eq, List.length_replicate,
    and_true]
  constructor
  · rintro ⟨⟨magic, major, minor, size, reserved, padding⟩, total, schema, generation, role,
      writer, ackOffset, ackCount, ackStride, slotsOffset, slotCount, slotStride, capacity⟩
    exact ⟨magic, major, minor, size, total, schema, generation, role, writer, ackOffset,
      ackCount, ackStride, slotsOffset, slotCount, slotStride, capacity, reserved, padding⟩
  · rintro ⟨magic, major, minor, size, total, schema, generation, role, writer, ackOffset,
      ackCount, ackStride, slotsOffset, slotCount, slotStride, capacity, reserved, padding⟩
    exact ⟨⟨magic, major, minor, size, reserved, padding⟩, total, schema, generation, role,
      writer, ackOffset, ackCount, ackStride, slotsOffset, slotCount, slotStride, capacity⟩

end

/-! ### The whole region -/

namespace RegionHeader

/-- The image of a region whose first `written` slot records are initialised. -/
def imageUpto (header : RegionHeader) (written i : Nat) : Option UInt8 :=
  let slot := (i - header.slotsOffset.toNat) / header.slotStride.toNat
  let inner := (i - header.slotsOffset.toNat) % header.slotStride.toNat
  if i < regionHeaderSize then (headerImage header)[i]?
  else if header.slotsOffset.toNat ≤ i ∧ slot < written ∧ inner < 8 then
    (ofLe 8 header.generation.toNat)[inner]?
  else some 0

/-- The byte at `i` of an encoded region. -/
def imageAt (header : RegionHeader) (i : Nat) : Option UInt8 :=
  header.imageUpto header.slotCount.toNat i

/-- Where a slot record starts. -/
def slotStart (header : RegionHeader) (slot : Nat) : Nat :=
  header.slotsOffset.toNat + slot * header.slotStride.toNat

variable {t : Target} {header : RegionHeader}

/-- A slot record ends before any later one starts. -/
theorem slotStart_add_stride_le (header : RegionHeader) {slot later : Nat} (h : slot < later) :
    header.slotStart slot + header.slotStride.toNat ≤ header.slotStart later := by
  have hmul := Nat.mul_le_mul_right header.slotStride.toNat (Nat.succ_le_of_lt h)
  rw [Nat.succ_mul] at hmul
  unfold slotStart
  omega

theorem Canonical.stride_ge (canonical : header.Canonical t) :
    slotHeaderSize ≤ header.slotStride.toNat := by
  rw [canonical.slotStride_eq, strideFor, slotHeaderSize]
  omega

theorem Canonical.slotsOffset_ge (canonical : header.Canonical t) :
    regionHeaderSize ≤ header.slotsOffset.toNat := by
  rw [canonical.slotsOffset_eq]
  omega

/-- Every slot record lies before the end of the region. -/
theorem Canonical.slotEnd_le (canonical : header.Canonical t) {slot : Nat}
    (hslot : slot < header.slotCount.toNat) :
    header.slotStart slot + header.slotStride.toNat ≤ header.totalSize.toNat := by
  have htotal := canonical.totalSize_eq
  rw [Nat.mul_comm] at htotal
  rw [htotal]
  exact header.slotStart_add_stride_le hslot

variable {i : Nat}

theorem imageUpto_header (header : RegionHeader) (written : Nat)
    (hi : i < regionHeaderSize) : header.imageUpto written i = (headerImage header)[i]? := by
  simp [imageUpto, hi]

theorem imageUpto_cells (header : RegionHeader) (written : Nat) (hlow : regionHeaderSize ≤ i)
    (hhigh : i < header.slotsOffset.toNat) : header.imageUpto written i = some 0 := by
  rw [imageUpto, if_neg (by omega), if_neg (by omega)]

theorem Canonical.imageUpto_slot (canonical : header.Canonical t) (written : Nat)
    {slot inner : Nat} (hinner : inner < header.slotStride.toNat) :
    header.imageUpto written (header.slotStart slot + inner) =
      if slot < written ∧ inner < 8 then (ofLe 8 header.generation.toNat)[inner]?
      else some 0 := by
  have hoff := canonical.slotsOffset_ge
  have hdiff : header.slotStart slot + inner - header.slotsOffset.toNat =
      inner + slot * header.slotStride.toNat := by
    unfold slotStart
    omega
  have hslot : (inner + slot * header.slotStride.toNat) / header.slotStride.toNat = slot := by
    rw [Nat.add_mul_div_right _ _ (by omega), Nat.div_eq_of_lt hinner, Nat.zero_add]
  have hmod : (inner + slot * header.slotStride.toNat) % header.slotStride.toNat = inner := by
    rw [Nat.add_mul_mod_self_right, Nat.mod_eq_of_lt hinner]
  have hge : header.slotsOffset.toNat ≤ header.slotStart slot + inner := by
    unfold slotStart
    omega
  simp only [imageUpto, hdiff, hslot, hmod, hge, true_and]
  rw [if_neg (by omega)]

/-- Every byte after the cells belongs to one slot record. -/
theorem Canonical.exists_slot (canonical : header.Canonical t)
    (hlow : header.slotsOffset.toNat ≤ i) (hhigh : i < header.totalSize.toNat) :
    ∃ slot inner, slot < header.slotCount.toNat ∧ inner < header.slotStride.toNat ∧
      i = header.slotStart slot + inner := by
  have hstride := canonical.stride_ge
  have hpos : 0 < header.slotStride.toNat := by
    unfold slotHeaderSize at hstride
    omega
  refine ⟨(i - header.slotsOffset.toNat) / header.slotStride.toNat,
    (i - header.slotsOffset.toNat) % header.slotStride.toNat, ?_, Nat.mod_lt _ hpos, ?_⟩
  · rw [Nat.div_lt_iff_lt_mul hpos, Nat.mul_comm]
    have := canonical.totalSize_eq
    omega
  · have := Nat.div_add_mod' (i - header.slotsOffset.toNat) header.slotStride.toNat
    unfold slotStart
    omega

end RegionHeader

namespace RegionLayout

variable {t : Target}

/-- A destination whose first `written` slot records are initialised. -/
def Encoded (region : RegionLayout t) (destination : Bytes) (written : Nat) (bytes : Bytes) :
    Prop :=
  bytes.length = destination.length ∧
    ∀ i, bytes[i]? =
      if i < region.header.totalSize.toNat then region.header.imageUpto written i
      else destination[i]?

variable {region : RegionLayout t}

/-- Initialising the next slot record. -/
theorem Encoded.putGeneration {destination bytes : Bytes} {written : Nat}
    (fits : region.header.totalSize.toNat ≤ destination.length)
    (encoded : region.Encoded destination written bytes)
    (hslot : written < region.header.slotCount.toNat) :
    region.Encoded destination (written + 1) (bytes.overwrite (region.header.slotStart written)
      (ofLe 8 region.header.generation.toNat)) := by
  have canonical := region.canonical
  have hend := canonical.slotEnd_le hslot
  have hstride := canonical.stride_ge
  rw [slotHeaderSize] at hstride
  obtain ⟨hlen, hget⟩ := encoded
  have hfit : region.header.slotStart written + (ofLe 8 region.header.generation.toNat).length ≤
      bytes.length := by
    rw [length_ofLe]
    omega
  refine ⟨(length_overwrite hfit).trans hlen, ?_⟩
  intro i
  rw [getElem?_overwrite hfit, length_ofLe, hget]
  by_cases htotal : i < region.header.totalSize.toNat
  · rw [if_pos htotal, if_pos htotal]
    by_cases hslots : region.header.slotsOffset.toNat ≤ i
    · obtain ⟨slot, inner, _, hinner, rfl⟩ := canonical.exists_slot hslots htotal
      rw [canonical.imageUpto_slot _ hinner, canonical.imageUpto_slot _ hinner]
      by_cases hsame : slot = written
      · subst hsame
        by_cases h8 : inner < 8
        · rw [if_pos (by omega), if_pos (by omega), Nat.add_sub_cancel_left]
        · rw [if_neg (by omega), if_neg (by omega), if_neg (by omega)]
      · -- another record: its bytes lie outside the written ones
        have hout : ¬ (region.header.slotStart written ≤ region.header.slotStart slot + inner ∧
            region.header.slotStart slot + inner < region.header.slotStart written + 8) := by
          rcases Nat.lt_or_gt_of_ne hsame with h | h
          · have := region.header.slotStart_add_stride_le h
            omega
          · have := region.header.slotStart_add_stride_le h
            omega
        rw [if_neg hout]
        congr 1
        simp only [eq_iff_iff, and_congr_left_iff]
        omega
    · have hout : ¬ (region.header.slotStart written ≤ i ∧
          i < region.header.slotStart written + 8) := by
        unfold slotStart
        omega
      rw [if_neg hout]
      by_cases hhead : i < regionHeaderSize
      · rw [imageUpto_header _ _ hhead, imageUpto_header _ _ hhead]
      · rw [imageUpto_cells _ _ (by omega) (by omega), imageUpto_cells _ _ (by omega) (by omega)]
  · rw [if_neg (by omega), if_neg htotal, if_neg htotal]

/-- One turn of the slot loop succeeds and initialises the next record. -/
theorem Encoded.initializeSlot {destination bytes : Bytes} {slot : Nat}
    (fits : region.header.totalSize.toNat ≤ destination.length)
    (encoded : region.Encoded destination slot bytes)
    (hslot : slot < region.header.slotCount.toNat) :
    ∃ next, region.initializeSlot bytes slot = .ok next ∧
      region.Encoded destination (slot + 1) next := by
  have husize := region.canonical.totalSize_fits
  have hend := region.canonical.slotEnd_le hslot
  have hstride := region.canonical.stride_ge
  have hlen := encoded.1
  refine ⟨_, ?_, encoded.putGeneration fits hslot⟩
  unfold slotStart at hend
  rw [slotHeaderSize] at hstride
  simp only [RegionLayout.initializeSlot, bind_eq_ok, castTo_eq_ok, plainMul_eq_ok,
    plainAdd_eq_ok, putU64, put_eq_ok, length_ofLe]
  exact ⟨_, ⟨by omega, rfl⟩, _, ⟨by omega, rfl⟩, _, ⟨by omega, rfl⟩, by omega, rfl⟩

/-- `encode_into` writes the image of the region and leaves the rest of the
    destination as it was; it fails only on a destination that is too small. -/
theorem encodeInto_ok (region : RegionLayout t) (destination : Bytes)
    (fits : region.header.totalSize.toNat ≤ destination.length) :
    ∃ out, region.encodeInto destination = .ok out ∧
      region.Encoded destination region.header.slotCount.toNat out := by
  have canonical := region.canonical
  have hoff := canonical.slotsOffset_ge
  have htotal := canonical.totalSize_eq
  have husize := canonical.totalSize_fits
  have hzero : (0 : Nat) + (List.replicate region.header.totalSize.toNat (0 : UInt8)).length ≤
      destination.length := by
    rw [List.length_replicate]
    omega
  let zeroed := destination.overwrite 0 (List.replicate region.header.totalSize.toNat 0)
  have hzlen : zeroed.length = destination.length := length_overwrite hzero
  have hhead : (zeroed.extract 0 regionHeaderSize).length = regionHeaderSize := by
    rw [length_extract_of_le (by omega), Nat.sub_zero]
  have hput : 0 + (headerImage region.header).length ≤ zeroed.length := by
    rw [length_headerImage]
    omega
  -- the loop starts from zeros with the header in front
  have hstart : region.Encoded destination 0 (zeroed.overwrite 0 (headerImage region.header)) := by
    refine ⟨(length_overwrite hput).trans hzlen, ?_⟩
    intro i
    rw [getElem?_overwrite hput, getElem?_overwrite hzero, length_headerImage,
      List.length_replicate]
    by_cases hi : i < regionHeaderSize
    · rw [if_pos (by omega), if_pos (by omega), imageUpto_header _ _ hi, Nat.sub_zero]
    · rw [if_neg (by omega)]
      by_cases hin : i < region.header.totalSize.toNat
      · simp [imageUpto, hi, hin]
      · rw [if_neg (by omega), if_neg hin]
  obtain ⟨out, hloop, hout⟩ := foldRange_total (P := region.Encoded destination) hstart
    fun slot hslot bytes encoded => encoded.initializeSlot fits hslot
  refine ⟨out, ?_, hout⟩
  simp only [encodeInto, bind_eq_ok, rejectIf_eq_ok, put_eq_ok, slice_eq_ok, exists_const]
  refine ⟨by omega, by omega, zeroed, ⟨hzero, rfl⟩, _, ⟨⟨by omega, by omega⟩, rfl⟩, _,
    encodeHeader_eq hhead, _, ⟨hput, rfl⟩, hloop⟩

end RegionLayout

end NativeIpc.Core
