import NativeIpc.Core.Routes
import NativeIpc.Core.Slot

/-!
# Effects of slot operations on shared memory

What a successful call checked, and what it wrote, in terms of the words of
one slot record or one acknowledgement cell. Records do not overlap, so a
write to one leaves the words of all others as they were.
-/

namespace NativeIpc.Core

open NativeIpc.Lib Bytes Run

variable {t : Target}

/-! ### Loads after stores -/

variable {bytes : Bytes} {start offset : Nat} {sequence : UInt64} {slot : UInt32}
    {acknowledgement : Option AcknowledgementObservation}

theorem loadU64_overwrite {part : Bytes} (fits : start + part.length ≤ bytes.length)
    (outside : offset + 8 ≤ start ∨ start + part.length ≤ offset) :
    loadU64 (bytes.overwrite start part) offset = loadU64 bytes offset := by
  rw [loadU64, extract_overwrite_of_disjoint fits outside, ← loadU64]

theorem loadU64_storeU64 (value : UInt64)
    (fits : offset + 8 ≤ bytes.length) : loadU64 (storeU64 bytes offset value) offset = value := by
  have h := extract_overwrite_same bytes (ofLe 8 value.toNat) offset
    (by rw [length_ofLe]; exact fits)
  rw [length_ofLe] at h
  have hlt : value.toNat < 256 ^ 8 := value.toNat_lt
  rw [loadU64, storeU64, h, toLe_ofLe, Nat.mod_eq_of_lt hlt, UInt64.ofNat_toNat]

theorem loadU32_storeU32 (value : UInt32)
    (fits : offset + 4 ≤ bytes.length) : loadU32 (storeU32 bytes offset value) offset = value := by
  have h := extract_overwrite_same bytes (ofLe 4 value.toNat) offset
    (by rw [length_ofLe]; exact fits)
  rw [length_ofLe] at h
  have hlt : value.toNat < 256 ^ 4 := value.toNat_lt
  rw [loadU32, storeU32, h, toLe_ofLe, Nat.mod_eq_of_lt hlt, UInt32.ofNat_toNat]

/-- A word of zero bytes. -/
theorem loadU64_eq_zero
    (zero : ∀ inner < 8, bytes[offset + inner]? = some 0) : loadU64 bytes offset = 0 := by
  have hext := extract_eq_iff bytes (List.replicate 8 0) offset
  rw [List.length_replicate] at hext
  have hzero : bytes.extract offset (offset + 8) = List.replicate 8 0 := by
    rw [hext]
    intro inner hinner
    rw [zero inner hinner, List.getElem?_replicate, if_pos hinner]
  rw [loadU64, hzero]
  rfl

/-! ### The words of a slot record -/

namespace RegionHeader

variable (header : RegionHeader)

/-- The published sequence of a slot. -/
def sequenceOf (bytes : Bytes) (slot : Nat) : UInt64 :=
  loadU64 bytes (header.slotStart slot + publishedSequenceOffset)

/-- The published payload length of a slot. -/
def payloadLenOf (bytes : Bytes) (slot : Nat) : UInt32 :=
  loadU32 bytes (header.slotStart slot + payloadLenOffset)

/-- The first `length` payload bytes of a slot. -/
def payloadOf (bytes : Bytes) (slot length : Nat) : Bytes :=
  bytes.extract (header.slotStart slot + slotHeaderSize)
    (header.slotStart slot + slotHeaderSize + length)

end RegionHeader

/-- The word of an acknowledgement cell. -/
def cellOf (bytes : Bytes) (cell : Nat) : UInt64 := loadU64 bytes (cellStart cell)

/-! ### What a successful call has checked -/

theorem validateSequenceSlot_eq_ok {binding : SlotBinding} {u : Unit} :
    validateSequenceSlot binding sequence = .ok u →
      0 < sequence.toNat ∧
        binding.slotIndex = UInt32.ofNat ((sequence.toNat - 1) % binding.slotCount.toNat) := by
  intro h
  simp only [validateSequenceSlot, bind_eq_ok, rejectIf_eq_ok, exists_const, not_not] at h
  refine ⟨?_, h.2⟩
  have hne : sequence.toNat ≠ 0 := fun hz => h.1 (UInt64.toNat_inj.mp (by simpa using hz))
  omega

namespace BoundRegion

variable {bound : BoundRegion t} {region : RegionLayout t} {size : Nat}
  {routes : List AcknowledgementRoute} (layout : bound.layout = region.validated size routes)

/-- A region is bound to a mapping of its layout's size. -/
theorem new_eq_ok {base len : Nat} {layout : ValidatedRegionLayout t} {topology : RegionSetLayout t}
    {bound : BoundRegion t} (binds : new base len layout topology = .ok bound) :
    len = layout.mappingSize ∧ bound.layout = layout := by
  unfold new at binds
  split at binds
  · cases binds
  · rename_i size
    split at binds
    · cases binds
      exact ⟨not_not.mp size, rfl⟩
    · cases binds

variable {range : Nat × Nat} {binding : WriterSlotBinding} {target : RoleId}
    {observation : SlotObservation} {payload : Bytes}

theorem record_eq_ok (h : bound.record range = .ok start) : start = range.1 := by
  simp only [record, bind_eq_ok, rejectIf_eq_ok, exists_const, pure_eq_ok] at h
  exact h.2.2.symm

include layout

theorem slotRange_eq_ok (h : bound.layout.slotRange slot = .ok range) :
    slot < region.header.slotCount ∧ range = region.slotSpan slot.toNat := by
  rw [layout, region.slotRange_validated] at h
  split at h
  · rename_i hslot
    exact ⟨hslot, (Except.ok.inj h).symm⟩
  · cases h

theorem readerSlot_eq_ok {binding : SlotBinding}
    (h : bound.readerSlot bytes slot = .ok (start, binding)) :
    slot < region.header.slotCount ∧ start = region.header.slotStart slot.toNat ∧
      binding = { role := region.role, generation := region.header.generation,
                  payloadCapacity := region.header.payloadCapacity, slotIndex := slot,
                  slotCount := region.header.slotCount } := by
  simp only [readerSlot, ValidatedRegionLayout.readerSlotBinding, bind_eq_ok, mapError_eq_ok,
    pure_eq_ok, Prod.mk.injEq] at h
  obtain ⟨_, ⟨_, hrange, rfl⟩, range, hrange', _, hrecord, _, -, rfl, rfl⟩ := h
  obtain ⟨hslot, rfl⟩ := slotRange_eq_ok layout hrange'
  refine ⟨hslot, record_eq_ok hrecord, ?_⟩
  rw [layout]
  rfl

theorem writerSlot_eq_ok (h : bound.writerSlot bytes slot = .ok (start, binding)) :
    ∃ route, bound.topology.acknowledgementRoute region.role slot = some route ∧
      slot < region.header.slotCount ∧ start = region.header.slotStart slot.toNat ∧
      binding = { role := region.role, generation := region.header.generation,
                  payloadCapacity := region.header.payloadCapacity, slotIndex := slot,
                  slotCount := region.header.slotCount, acknowledgementOwner := route.owner,
                  acknowledgementCellIndex := route.cellIndex } := by
  simp only [writerSlot, ValidatedRegionLayout.writerSlotBinding, bind_eq_ok, mapError_eq_ok,
    okOr_eq_ok, rejectIf_eq_ok, exists_const, pure_eq_ok, Prod.mk.injEq] at h
  obtain ⟨route, hroute, _, ⟨-, _, -, rfl⟩, range, hrange, _, hrecord, _, -, rfl, rfl⟩ := h
  have hrole : bound.layout.role = region.role := by
    rw [layout]
    rfl
  rw [hrole] at hroute
  obtain ⟨-, -, hindex⟩ := bound.topology.acknowledgementRoute_eq_some.mp hroute
  rw [hindex] at hrange
  obtain ⟨hslot, rfl⟩ := slotRange_eq_ok layout hrange
  refine ⟨route, hroute, hslot, record_eq_ok hrecord, ?_⟩
  rw [hrole, hindex, layout]
  rfl

theorem acknowledgement_eq_ok {binding : AcknowledgementBinding}
    (h : bound.acknowledgement target slot = .ok (start, binding)) :
    ∃ route, bound.topology.acknowledgementRoute target slot = some route ∧
      route.owner = region.role ∧ route.cellIndex < region.header.acknowledgementCount ∧
      start = cellStart route.cellIndex.toNat ∧
      binding = { owner := region.role, target := target, slotIndex := slot,
                  cellIndex := route.cellIndex, generation := region.header.generation } := by
  simp only [acknowledgement, ValidatedRegionLayout.acknowledgementBinding, bind_eq_ok,
    mapError_eq_ok, okOr_eq_ok, rejectIf_eq_ok, exists_const, not_not, pure_eq_ok,
    Prod.mk.injEq] at h
  obtain ⟨route, hroute, _, ⟨howner, _, -, rfl⟩, range, hrange, _, hrecord, rfl, rfl⟩ := h
  obtain ⟨-, htarget, hindex⟩ := bound.topology.acknowledgementRoute_eq_some.mp hroute
  have hrole : bound.layout.role = region.role := by
    rw [layout]
    rfl
  rw [layout, region.acknowledgementRange_validated] at hrange
  split at hrange
  · rename_i hcell
    cases hrange
    refine ⟨route, hroute, howner.trans hrole, hcell, record_eq_ok hrecord, ?_⟩
    rw [howner, hrole, htarget, hindex, layout]
    rfl
  · cases hrange

theorem observe_eq_ok (h : bound.observe bytes slot sequence = .ok observation) :
    slot < region.header.slotCount ∧ observation.role = region.role ∧
      observation.slotIndex = slot ∧ observation.generation = region.header.generation ∧
      observation.sequence = sequence ∧ 0 < sequence.toNat ∧
      region.header.sequenceOf bytes slot.toNat = sequence ∧
      region.header.payloadLenOf bytes slot.toNat = observation.payloadLen := by
  simp only [observe, bind_eq_ok, mapError_eq_ok] at h
  obtain ⟨⟨start, binding⟩, hslot, hobserve⟩ := h
  obtain ⟨hvalid, rfl, rfl⟩ := readerSlot_eq_ok layout hslot
  simp only [observeSlot, bind_eq_ok, rejectIf_eq_ok, exists_const, not_not, pure_eq_ok] at hobserve
  obtain ⟨_, hsequence, hcurrent, _, -, -, rfl⟩ := hobserve
  exact ⟨hvalid, rfl, rfl, rfl, hcurrent, (validateSequenceSlot_eq_ok hsequence).1, hcurrent, rfl⟩

theorem recheck_eq_ok {u : Unit} (h : bound.recheck bytes slot observation = .ok u) :
    slot < region.header.slotCount ∧ observation.role = region.role ∧
      observation.generation = region.header.generation ∧
      region.header.sequenceOf bytes slot.toNat = observation.sequence ∧
      region.header.payloadLenOf bytes slot.toNat = observation.payloadLen := by
  simp only [recheck, bind_eq_ok, mapError_eq_ok] at h
  obtain ⟨⟨start, binding⟩, hslot, hrecheck⟩ := h
  obtain ⟨hvalid, rfl, rfl⟩ := readerSlot_eq_ok layout hslot
  simp only [recheckSlot, bind_eq_ok, rejectIf_eq_ok, exists_const, not_not] at hrecheck
  obtain ⟨hrole, hgeneration, hsequence, _, -, hlen⟩ := hrecheck
  exact ⟨hvalid, hrole, hgeneration, hsequence, hlen⟩

theorem copyPayload_eq_ok (h : bound.copyPayload bytes slot sequence = .ok payload) :
    slot < region.header.slotCount ∧ 0 < sequence.toNat ∧
      region.header.sequenceOf bytes slot.toNat = sequence ∧
      payload = region.header.payloadOf bytes slot.toNat
        (region.header.payloadLenOf bytes slot.toNat).toNat := by
  simp only [copyPayload, bind_eq_ok, mapError_eq_ok, pure_eq_ok] at h
  obtain ⟨observation, hobserve, range, hrange, _, -, rfl⟩ := h
  obtain ⟨hvalid, -, -, -, -, hpos, hsequence, hlen⟩ := observe_eq_ok layout hobserve
  refine ⟨hvalid, hpos, hsequence, ?_⟩
  rw [layout, region.slotPayloadRange_validated] at hrange
  split at hrange
  · cases hrange
    rw [hlen]
    rfl
  · cases hrange

theorem acknowledge_cases (bytes : Bytes) (target : RoleId) (slot : UInt32)
    (observation : SlotObservation) :
    (bound.acknowledge bytes target slot observation).2 = bytes ∨
      ∃ route, bound.topology.acknowledgementRoute target slot = some route ∧
        route.owner = region.role ∧ route.cellIndex < region.header.acknowledgementCount ∧
        observation.role = target ∧ observation.slotIndex = slot ∧
        observation.generation = region.header.generation ∧
        (bound.acknowledge bytes target slot observation).2 =
          storeU64 bytes (cellStart route.cellIndex.toNat) observation.sequence := by
  unfold acknowledge
  split
  · exact .inl rfl
  · rename_i start binding hcell
    obtain ⟨route, hroute, howner, hvalid, rfl, rfl⟩ :=
      acknowledgement_eq_ok layout (mapError_eq_ok.mp hcell)
    simp only [acknowledgeCell]
    split
    · exact .inl rfl
    · rename_i hrole
      split
      · exact .inl rfl
      · rename_i hgeneration
        split
        · exact .inl rfl
        · rename_i hslot
          split
          · exact .inl rfl
          · split
            · exact .inl rfl
            · split
              · exact .inl rfl
              · exact .inr ⟨route, hroute, howner, hvalid, not_not.mp hrole, not_not.mp hslot,
                  not_not.mp hgeneration, rfl⟩

theorem observeAcknowledgement_eq_ok {observation : AcknowledgementObservation}
    (h : bound.observeAcknowledgement bytes target slot = .ok observation) :
    observation.owner = region.role ∧
      observation.cellIndex < region.header.acknowledgementCount ∧
      observation.sequence = cellOf bytes observation.cellIndex.toNat := by
  simp only [observeAcknowledgement, bind_eq_ok, pure_eq_ok] at h
  obtain ⟨⟨start, binding⟩, hcell, rfl⟩ := h
  obtain ⟨route, -, -, hvalid, rfl, rfl⟩ := acknowledgement_eq_ok layout hcell
  exact ⟨rfl, hvalid, rfl⟩

/-- The condition under which a sequence may be published in a slot: it is the
    first one, or it follows the current one by one rotation and an observation
    of the slot's acknowledgement cell, made in this generation and with exactly
    the current one, is supplied. -/
def MayPublish (region : RegionLayout t) (route : AcknowledgementRoute) (bytes : Bytes)
    (slot : UInt32) (sequence : UInt64)
    (acknowledgement : Option AcknowledgementObservation) : Prop :=
  let current := region.header.sequenceOf bytes slot.toNat
  (current = 0 ∧ sequence.toNat = slot.toNat + 1) ∨
    (current ≠ 0 ∧ sequence.toNat = current.toNat + region.header.slotCount.toNat ∧
      ∃ observation, acknowledgement = some observation ∧ observation.owner = route.owner ∧
        observation.cellIndex = route.cellIndex ∧
        observation.generation = region.header.generation ∧ observation.sequence = current)

omit layout in
theorem preparePublish_eq_ok {route : AcknowledgementRoute} {u : Unit}
    (hbinding : binding = { role := region.role, generation := region.header.generation,
                            payloadCapacity := region.header.payloadCapacity, slotIndex := slot,
                            slotCount := region.header.slotCount,
                            acknowledgementOwner := route.owner,
                            acknowledgementCellIndex := route.cellIndex })
    (h : preparePublish bytes (region.header.slotStart slot.toNat) binding sequence
      acknowledgement = .ok u) :
    0 < sequence.toNat ∧ MayPublish region route bytes slot sequence acknowledgement := by
  subst hbinding
  simp only [preparePublish, bind_eq_ok] at h
  obtain ⟨_, -, _, hsequence, hcheck⟩ := h
  refine ⟨(validateSequenceSlot_eq_ok hsequence).1, ?_⟩
  split at hcheck
  · rename_i hzero
    rw [rejectIf_eq_ok, not_not] at hcheck
    exact .inl ⟨hzero, hcheck⟩
  · rename_i hcurrent
    simp only [checkReuse, bind_eq_ok, okOr_eq_ok, checkedAdd_eq_some, rejectIf_eq_ok,
      exists_const, not_not, gt_iff_lt, UInt64.not_lt] at hcheck
    obtain ⟨_, ⟨-, rfl⟩, hnext, observation, hobservation, -, howner, -, hcell, hgeneration, hlow,
      hhigh⟩ := hcheck
    exact .inr ⟨hcurrent, hnext, observation, hobservation, howner, hcell, hgeneration,
      UInt64.le_antisymm hhigh hlow⟩

/-- The mapping after the payload and its length are written. -/
def writtenBytes (header : RegionHeader) (bytes : Bytes) (slot : Nat) (payload : Bytes) : Bytes :=
  storeU32 (bytes.overwrite (header.slotStart slot + slotHeaderSize) payload)
    (header.slotStart slot + payloadLenOffset) (UInt32.ofNat payload.length)

/-- The mapping after a successful publication. -/
def publishedBytes (header : RegionHeader) (bytes : Bytes) (slot : Nat) (sequence : UInt64)
    (payload : Bytes) : Bytes :=
  storeU64 (writtenBytes header bytes slot payload)
    (header.slotStart slot + publishedSequenceOffset) sequence

/-- What a reservation has checked, and where its payload and its record stand. -/
theorem reservePublish_eq_ok {payloadStart : Nat} {capacity payloadLen : UInt32}
    (reserved : bound.reservePublish bytes slot sequence acknowledgement payload =
      .ok (payloadStart, start, capacity, payloadLen)) :
    slot < region.header.slotCount ∧ payload.length ≤ region.header.payloadCapacity.toNat ∧
      0 < sequence.toNat ∧
      (∃ route, bound.topology.acknowledgementRoute region.role slot = some route ∧
        MayPublish region route bytes slot sequence acknowledgement) ∧
      payloadStart = region.header.slotStart slot.toNat + slotHeaderSize ∧
      start = region.header.slotStart slot.toNat ∧ capacity = region.header.payloadCapacity ∧
      payloadLen = UInt32.ofNat payload.length ∧ payloadLen ≤ capacity := by
  simp only [reservePublish, bind_eq_ok, mapError_eq_ok, rejectIf_eq_ok, exists_const, not_not,
    pure_eq_ok, Prod.mk.injEq] at reserved
  obtain ⟨hfits, range, hrange, ⟨start', binding⟩, hslot, _, hprepare, hstart, rfl, rfl, rfl⟩ :=
    reserved
  obtain ⟨route, hroute, hvalid, rfl, hbinding⟩ := writerSlot_eq_ok layout hslot
  obtain ⟨hpos, may⟩ := preparePublish_eq_ok hbinding hprepare
  have hlen : (UInt32.ofNat payload.length).toNat = payload.length :=
    UInt32.toNat_ofNat_of_lt' hfits
  rw [layout, region.slotPayloadRange_validated] at hrange
  split at hrange
  · rename_i hcapacity
    cases hrange
    have hfit : payload.length ≤ region.header.payloadCapacity.toNat := by
      rw [← hlen]
      exact UInt32.le_iff_toNat_le.mp hcapacity
    subst hbinding
    exact ⟨hvalid, hfit, hpos, ⟨route, hroute, may⟩, hstart.symm, rfl, rfl, rfl, hcapacity⟩
  · cases hrange

/-- A publication either fails and writes nothing, or it was allowed and writes
    its slot. -/
theorem publish_cases (bytes : Bytes) (slot : UInt32) (sequence : UInt64)
    (acknowledgement : Option AcknowledgementObservation) (payload : Bytes) :
    (∃ stop, bound.publish bytes slot sequence acknowledgement payload = (.error stop, bytes)) ∨
      (slot < region.header.slotCount ∧ payload.length ≤ region.header.payloadCapacity.toNat ∧
        0 < sequence.toNat ∧
        (∃ route, bound.topology.acknowledgementRoute region.role slot = some route ∧
          MayPublish region route bytes slot sequence acknowledgement) ∧
        bound.publish bytes slot sequence acknowledgement payload =
          (.ok (), publishedBytes region.header bytes slot.toNat sequence payload)) := by
  unfold publish
  split
  · exact .inl ⟨_, rfl⟩
  · rename_i payloadStart start capacity payloadLen hreserve
    obtain ⟨hvalid, hfit, hpos, hroute, rfl, rfl, rfl, rfl, hcapacity⟩ :=
      reservePublish_eq_ok layout hreserve
    refine .inr ⟨hvalid, hfit, hpos, hroute, ?_⟩
    have hnot : ¬ UInt32.ofNat payload.length > region.header.payloadCapacity :=
      UInt32.not_lt.mpr hcapacity
    simp only [publishReserved, hnot, if_false]
    rfl

end BoundRegion

/-! ### What a publication writes -/

open BoundRegion

namespace RegionHeader.Canonical

variable {header : RegionHeader} (canonical : header.Canonical t) {bytes : Bytes}
  (fits : header.totalSize.toNat ≤ bytes.length) {slot : Nat}
  (hslot : slot < header.slotCount.toNat) {payload : Bytes}
  (hpayload : payload.length ≤ header.payloadCapacity.toNat) (sequence : UInt64)

include canonical hpayload

/-- The payload of a slot ends inside its record. -/
theorem payloadEnd_le (slot : Nat) :
    header.slotStart slot + slotHeaderSize + payload.length ≤
      header.slotStart slot + header.slotStride.toNat := by
  rw [canonical.slotStride_eq, strideFor, slotHeaderSize]
  omega

include fits hslot

theorem payload_fits : header.slotStart slot + slotHeaderSize + payload.length ≤ bytes.length := by
  have hend := canonical.slotEnd_le hslot
  have hpay := canonical.payloadEnd_le hpayload slot
  omega

theorem length_writtenBytes : (writtenBytes header bytes slot payload).length = bytes.length := by
  have hpay := canonical.payload_fits fits hslot hpayload
  have hlen := length_overwrite hpay
  rw [writtenBytes, storeU32, length_overwrite, hlen]
  rw [length_ofLe, hlen, payloadLenOffset]
  rw [slotHeaderSize] at hpay
  omega

theorem length_publishedBytes :
    (publishedBytes header bytes slot sequence payload).length = bytes.length := by
  have hpay := canonical.payload_fits fits hslot hpayload
  have hlen := canonical.length_writtenBytes fits hslot hpayload
  rw [publishedBytes, storeU64, length_overwrite, hlen]
  rw [length_ofLe, hlen, publishedSequenceOffset]
  rw [slotHeaderSize] at hpay
  omega

/-- The sequence word is written last and alone. -/
theorem extract_publishedBytes_eq_written {a b : Nat}
    (outside : b ≤ header.slotStart slot + 16 ∨ header.slotStart slot + 24 ≤ a) :
    (publishedBytes header bytes slot sequence payload).extract a b =
      (writtenBytes header bytes slot payload).extract a b := by
  have hpay := canonical.payload_fits fits hslot hpayload
  have hlen := canonical.length_writtenBytes fits hslot hpayload
  rw [slotHeaderSize] at hpay
  refine extract_overwrite_of_disjoint ?_ ?_
  · rw [length_ofLe, hlen, publishedSequenceOffset]
    omega
  · rw [length_ofLe, publishedSequenceOffset]
    omega

theorem extract_writtenBytes {a b : Nat}
    (outside : b ≤ header.slotStart slot + 8 ∨ header.slotStart slot + 12 ≤ a) :
    (writtenBytes header bytes slot payload).extract a b =
      (bytes.overwrite (header.slotStart slot + slotHeaderSize) payload).extract a b := by
  have hpay := canonical.payload_fits fits hslot hpayload
  have hlen := length_overwrite hpay
  rw [slotHeaderSize] at hpay
  refine extract_overwrite_of_disjoint ?_ ?_
  · rw [length_ofLe, hlen, payloadLenOffset]
    omega
  · rw [length_ofLe, payloadLenOffset]
    omega

/-- A publication writes only behind the generation word of its own record. -/
theorem extract_publishedBytes {a b : Nat} (outside : b ≤ header.slotStart slot + 8 ∨
      header.slotStart slot + header.slotStride.toNat ≤ a) :
    (publishedBytes header bytes slot sequence payload).extract a b =
      bytes.extract a b := by
  have hpay := canonical.payload_fits fits hslot hpayload
  have hend := canonical.payloadEnd_le hpayload slot
  have hheader : slotHeaderSize = 64 := rfl
  rw [canonical.extract_publishedBytes_eq_written fits hslot hpayload sequence (by omega),
    canonical.extract_writtenBytes fits hslot hpayload (by omega),
    extract_overwrite_of_disjoint hpay (by omega)]

theorem sequenceOf_publishedBytes :
    header.sequenceOf (publishedBytes header bytes slot sequence payload) slot =
      sequence := by
  have hpay := canonical.payload_fits fits hslot hpayload
  have hlen := canonical.length_writtenBytes fits hslot hpayload
  rw [slotHeaderSize] at hpay
  refine loadU64_storeU64 sequence ?_
  rw [hlen, publishedSequenceOffset]
  omega

theorem payloadLenOf_publishedBytes :
    header.payloadLenOf (publishedBytes header bytes slot sequence payload) slot =
      UInt32.ofNat payload.length := by
  have hpay := canonical.payload_fits fits hslot hpayload
  have hlen := length_overwrite hpay
  have hoffset : payloadLenOffset = 8 := rfl
  rw [RegionHeader.payloadLenOf, loadU32,
    canonical.extract_publishedBytes_eq_written fits hslot hpayload sequence (by omega), ← loadU32]
  refine loadU32_storeU32 _ ?_
  rw [slotHeaderSize] at hpay
  rw [hlen]
  omega

theorem payloadOf_publishedBytes :
    header.payloadOf (publishedBytes header bytes slot sequence payload) slot
      payload.length = payload := by
  have hpay := canonical.payload_fits fits hslot hpayload
  have hheader : slotHeaderSize = 64 := rfl
  rw [RegionHeader.payloadOf,
    canonical.extract_publishedBytes_eq_written fits hslot hpayload sequence (by omega),
    canonical.extract_writtenBytes fits hslot hpayload (by omega), extract_overwrite_same _ _ _ hpay]

end RegionHeader.Canonical

end NativeIpc.Core
