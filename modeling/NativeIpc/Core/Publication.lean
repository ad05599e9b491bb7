import NativeIpc.Core.Ring

/-!
# The stores of a publication

`WriterRegion::publish` as the stores it makes, in the order in which it makes them. A
publication that fails makes none; one that succeeds writes the payload, its length and
then the sequence, and touches no other byte of the mapping.
-/

namespace NativeIpc.Core

open NativeIpc.Lib Bytes Run List

/-! ### Stores -/

/-- A store to shared memory. -/
structure Store where
  offset : Nat
  bytes : Bytes
  deriving DecidableEq

namespace Store

/-- The memory after a store. -/
def apply (memory : Bytes) (store : Store) : Bytes := memory.overwrite store.offset store.bytes

/-- The memory after some stores. -/
def applyAll (memory : Bytes) (stores : List Store) : Bytes := stores.foldl apply memory

/-- The store writes the byte at `i`. -/
def Touches (store : Store) (i : Nat) : Prop :=
  store.offset ≤ i ∧ i < store.offset + store.bytes.length

/-- The store stays inside a memory. -/
def Fits (memory : Bytes) (store : Store) : Prop :=
  store.offset + store.bytes.length ≤ memory.length

variable {memory : Bytes} {stores : List Store} {store : Store} {i : Nat}

theorem getElem?_apply (fits : store.Fits memory) (untouched : ¬ store.Touches i) :
    (apply memory store)[i]? = memory[i]? := by
  refine (getElem?_overwrite fits).trans ?_
  exact if_neg untouched

theorem length_applyAll (fits : ∀ store ∈ stores, store.Fits memory) :
    (applyAll memory stores).length = memory.length := by
  induction stores generalizing memory with
  | nil => rfl
  | cons store stores ih =>
    obtain ⟨first, others⟩ := forall_mem_cons.mp fits
    have same : (apply memory store).length = memory.length := length_overwrite first
    refine (ih ?_).trans same
    intro other member
    unfold Fits
    rw [same]
    exact others other member

/-- A byte that no store touches is unchanged. -/
theorem getElem?_applyAll (fits : ∀ store ∈ stores, store.Fits memory)
    (untouched : ∀ store ∈ stores, ¬ store.Touches i) :
    (applyAll memory stores)[i]? = memory[i]? := by
  induction stores generalizing memory with
  | nil => rfl
  | cons store stores ih =>
    obtain ⟨first, others⟩ := forall_mem_cons.mp fits
    obtain ⟨here, later⟩ := forall_mem_cons.mp untouched
    have same : (apply memory store).length = memory.length := length_overwrite first
    refine (ih ?_ later).trans (getElem?_apply first here)
    intro other member
    unfold Fits
    rw [same]
    exact others other member

end Store

/-! ### The stores of `publish` -/

/-- The stores of `PublishReservation::publish` (slot.rs:365-379). -/
def publishReservedStores (start : Nat) (capacity : UInt32) (sequence : UInt64)
    (payloadLen : UInt32) : Run SlotError Unit × List Store :=
  if payloadLen > capacity then (fail (.payloadTooLarge payloadLen capacity), [])
  else (.ok (), [⟨start + payloadLenOffset, ofLe 4 payloadLen.toNat⟩,
    ⟨start + publishedSequenceOffset, ofLe 8 sequence.toNat⟩])

variable {t : Target}

/-- The stores of `WriterRegion::publish` (mapping.rs:310-335), with its result. -/
def BoundRegion.publishStores (region : BoundRegion t) (bytes : Bytes) (slot : UInt32)
    (sequence : UInt64) (acknowledgement : Option AcknowledgementObservation) (payload : Bytes) :
    Run BindingError Unit × List Store :=
  match region.reservePublish bytes slot sequence acknowledgement payload with
  | .error stop => (.error stop, [])
  | .ok (payloadStart, start, capacity, payloadLen) =>
    let (result, stores) := publishReservedStores start capacity sequence payloadLen
    (result.mapError .slot, ⟨payloadStart, payload⟩ :: stores)

/-- The result and the mapping of a publication are those of its stores. -/
theorem BoundRegion.publish_eq_stores (bound : BoundRegion t) (bytes : Bytes) (slot : UInt32)
    (sequence : UInt64) (acknowledgement : Option AcknowledgementObservation) (payload : Bytes) :
    bound.publish bytes slot sequence acknowledgement payload =
      ((bound.publishStores bytes slot sequence acknowledgement payload).1,
        Store.applyAll bytes
          (bound.publishStores bytes slot sequence acknowledgement payload).2) := by
  unfold publish publishStores
  cases bound.reservePublish bytes slot sequence acknowledgement payload with
  | error stop => rfl
  | ok reserved =>
    obtain ⟨payloadStart, start, capacity, payloadLen⟩ := reserved
    simp only [publishReserved, publishReservedStores]
    by_cases large : payloadLen > capacity
    · rw [if_pos large, if_pos large]
      rfl
    · rw [if_neg large, if_neg large]
      rfl

/-- The stores of a publication that succeeds. -/
def slotStores (start : Nat) (sequence : UInt64) (payload : Bytes) : List Store :=
  [⟨start + slotHeaderSize, payload⟩,
    ⟨start + payloadLenOffset, ofLe 4 (UInt32.ofNat payload.length).toNat⟩,
    ⟨start + publishedSequenceOffset, ofLe 8 sequence.toNat⟩]

/-- A publication fails and stores nothing, or it stores its slot. -/
theorem BoundRegion.publishStores_cases {bound : BoundRegion t} {region : RegionLayout t}
    {size : Nat} {routes : List AcknowledgementRoute}
    (layout : bound.layout = region.validated size routes) (bytes : Bytes) (slot : UInt32)
    (sequence : UInt64) (acknowledgement : Option AcknowledgementObservation) (payload : Bytes) :
    (∃ stop, bound.publishStores bytes slot sequence acknowledgement payload =
      (.error stop, [])) ∨
    (slot < region.header.slotCount ∧ payload.length ≤ region.header.payloadCapacity.toNat ∧
      bound.publishStores bytes slot sequence acknowledgement payload =
        (.ok (), slotStores (region.header.slotStart slot.toNat) sequence payload)) := by
  unfold publishStores
  split
  · exact .inl ⟨_, rfl⟩
  · rename_i payloadStart start capacity payloadLen reserved
    obtain ⟨valid, fit, -, -, rfl, rfl, rfl, rfl, within⟩ := reservePublish_eq_ok layout reserved
    refine .inr ⟨valid, fit, ?_⟩
    have small : ¬ UInt32.ofNat payload.length > region.header.payloadCapacity :=
      UInt32.not_lt.mpr within
    simp only [publishReservedStores, small, if_false]
    rfl

/-! ### What a publication leaves -/

/-- The mapping `after` differs from `bytes` only in the sequence, the length and the payload of one
    slot, which hold what was published. -/
structure PublishedOnly (layout : ValidatedRegionLayout t) (slot : UInt32) (sequence : UInt64)
    (payload bytes after : Bytes) (record range : Nat × Nat) : Prop where
  length : after.length = bytes.length
  storedSequence : loadU64 after (record.1 + publishedSequenceOffset) = sequence
  storedLen : (loadU32 after (record.1 + payloadLenOffset)).toNat = payload.length
  storedPayload : after.extract range.1 range.2 = payload
  others : ∀ i, ¬ (record.1 + publishedSequenceOffset ≤ i ∧
      i < record.1 + publishedSequenceOffset + 8) →
    ¬ (record.1 + payloadLenOffset ≤ i ∧ i < record.1 + payloadLenOffset + 4) →
    ¬ (range.1 ≤ i ∧ i < range.1 + payload.length) → after[i]? = bytes[i]?
  records : ∀ other, other ≠ .slot slot → ∀ span, layout.recordRange other = .ok span →
    after.extract span.1 span.2 = bytes.extract span.1 span.2
  padding : after.drop layout.header.totalSize.toNat = bytes.drop layout.header.totalSize.toNat

/-- The last of the stores is the one of the sequence: the stores before it leave the sequence as it
    was, and every other byte as it will be. -/
structure SequenceLast (bytes after : Bytes) (stores : List Store) (record : Nat × Nat)
    (sequence : UInt64) (earlier : List Store) : Prop where
  stores : stores = earlier ++ [⟨record.1 + publishedSequenceOffset, ofLe 8 sequence.toNat⟩]
  unpublished : ∀ i, record.1 + publishedSequenceOffset ≤ i →
    i < record.1 + publishedSequenceOffset + 8 →
    (∀ store ∈ earlier, ¬ store.Touches i) ∧ (Store.applyAll bytes earlier)[i]? = bytes[i]?
  complete : ∀ i, ¬ (record.1 + publishedSequenceOffset ≤ i ∧
      i < record.1 + publishedSequenceOffset + 8) →
    (Store.applyAll bytes earlier)[i]? = after[i]?

open RegionLayout

section Publication

variable {region : RegionLayout t} {bytes payload : Bytes} {slot : UInt32} (sequence : UInt64)
  (fits : region.header.totalSize.toNat ≤ bytes.length) (valid : slot < region.header.slotCount)
  (fit : payload.length ≤ region.header.payloadCapacity.toNat)

include fits valid fit

open Store

theorem slotStores_fit : ∀ store ∈ slotStores (region.header.slotStart slot.toNat) sequence payload,
    store.Fits bytes := by
  have inside := region.canonical.payload_fits fits (UInt32.lt_iff_toNat_lt.mp valid) fit
  intro store member
  simp only [slotStores, mem_cons, not_mem_nil, or_false] at member
  rw [slotHeaderSize] at inside
  rcases member with rfl | rfl | rfl
  · exact inside
  · simp only [Fits, length_ofLe, payloadLenOffset]
    omega
  · simp only [Fits, length_ofLe, publishedSequenceOffset]
    omega

theorem publishedOnly_slotStores (size : Nat) (routes : List AcknowledgementRoute) :
    PublishedOnly (region.validated size routes) slot sequence payload bytes
      (applyAll bytes (slotStores (region.header.slotStart slot.toNat) sequence payload))
      (region.slotSpan slot.toNat)
      (region.header.slotStart slot.toNat + slotHeaderSize,
        region.header.slotStart slot.toNat + slotHeaderSize + payload.length) := by
  have canonical := region.canonical
  have hslot := UInt32.lt_iff_toNat_lt.mp valid
  have small : payload.length < 2 ^ 32 := lt_of_le_of_lt fit region.header.payloadCapacity.toNat_lt
  have others : ∀ i, ¬ (region.header.slotStart slot.toNat + publishedSequenceOffset ≤ i ∧
      i < region.header.slotStart slot.toNat + publishedSequenceOffset + 8) →
      ¬ (region.header.slotStart slot.toNat + payloadLenOffset ≤ i ∧
        i < region.header.slotStart slot.toNat + payloadLenOffset + 4) →
      ¬ (region.header.slotStart slot.toNat + slotHeaderSize ≤ i ∧
        i < region.header.slotStart slot.toNat + slotHeaderSize + payload.length) →
      (applyAll bytes
        (slotStores (region.header.slotStart slot.toNat) sequence payload))[i]? = bytes[i]? := by
    intro i notSequence notLength notPayload
    refine getElem?_applyAll (slotStores_fit sequence fits valid fit) ?_
    intro store member
    simp only [slotStores, mem_cons, not_mem_nil, or_false] at member
    rcases member with rfl | rfl | rfl
    · exact notPayload
    · simpa only [Touches, length_ofLe] using notLength
    · simpa only [Touches, length_ofLe] using notSequence
  refine
    { length := canonical.length_publishedBytes fits hslot fit sequence
      storedSequence := canonical.sequenceOf_publishedBytes fits hslot fit sequence
      storedLen := ?_
      storedPayload := canonical.payloadOf_publishedBytes fits hslot fit sequence
      others := others
      records := ?_
      padding := ?_ }
  · refine (congrArg UInt32.toNat
      (canonical.payloadLenOf_publishedBytes fits hslot fit sequence)).trans ?_
    exact UInt32.toNat_ofNat_of_lt' small
  · intro other different span found
    obtain ⟨given, rfl⟩ := (region.recordRange_eq_ok _ _).mp found
    have apart := region.recordSpan_disjoint given (b := .slot slot) valid different
    refine canonical.extract_publishedBytes fits hslot fit sequence ?_
    simp only [recordSpan, slotSpan] at apart ⊢
    omega
  · refine ext_getElem? fun i => ?_
    rw [getElem?_drop, getElem?_drop]
    have slotEnd := canonical.slotEnd_le hslot
    have payloadEnd := canonical.payloadEnd_le fit slot.toNat
    have stride := canonical.stride_ge
    rw [slotHeaderSize] at stride payloadEnd
    refine others _ ?_ ?_ ?_
    · simp only [header_validated, publishedSequenceOffset]
      omega
    · simp only [header_validated, payloadLenOffset]
      omega
    · simp only [header_validated, slotHeaderSize]
      omega

theorem sequenceLast_slotStores :
    SequenceLast bytes
      (applyAll bytes (slotStores (region.header.slotStart slot.toNat) sequence payload))
      (slotStores (region.header.slotStart slot.toNat) sequence payload)
      (region.slotSpan slot.toNat) sequence
      [⟨region.header.slotStart slot.toNat + slotHeaderSize, payload⟩,
        ⟨region.header.slotStart slot.toNat + payloadLenOffset,
          ofLe 4 (UInt32.ofNat payload.length).toNat⟩] := by
  have stores := slotStores_fit sequence fits valid fit
  have earlier : ∀ store ∈ [(⟨region.header.slotStart slot.toNat + slotHeaderSize, payload⟩ :
      Store), ⟨region.header.slotStart slot.toNat + payloadLenOffset,
        ofLe 4 (UInt32.ofNat payload.length).toNat⟩], store.Fits bytes := by
    intro store member
    refine stores store (mem_append_left [_] member)
  refine ⟨rfl, ?_, ?_⟩
  · intro i low high
    simp only [slotSpan, publishedSequenceOffset] at low high
    have untouched : ∀ store ∈ [(⟨region.header.slotStart slot.toNat + slotHeaderSize, payload⟩ :
        Store), ⟨region.header.slotStart slot.toNat + payloadLenOffset,
          ofLe 4 (UInt32.ofNat payload.length).toNat⟩], ¬ store.Touches i := by
      intro store member
      simp only [mem_cons, not_mem_nil, or_false] at member
      rcases member with rfl | rfl
      · simp only [Touches, slotHeaderSize]
        omega
      · simp only [Touches, length_ofLe, payloadLenOffset]
        omega
    exact ⟨untouched, getElem?_applyAll earlier untouched⟩
  · intro i outside
    refine (getElem?_apply ?_ ?_).symm
    · unfold Fits
      rw [length_applyAll earlier]
      exact stores _ (mem_append_right [_, _] mem_cons_self)
    · simpa only [Touches, length_ofLe, slotSpan] using outside

end Publication

/-- A publication that fails stores nothing and leaves every byte. One that succeeds leaves every
    byte but the sequence, the length and the payload of its slot, which are what was published,
    and stores the sequence last. -/
theorem publish_touches_only_its_slot {initial bytes : Bytes} {expected : ValidationExpectations}
    {described topology : RegionSetLayout t} {layout : ValidatedRegionLayout t}
    {bound : BoundRegion t} {base : Nat}
    (validated : ValidatedRegionLayout.validate initial expected described = .ok layout)
    (binds : BoundRegion.new base bytes.length layout topology = .ok bound) (slot : UInt32)
    (sequence : UInt64) (acknowledgement : Option AcknowledgementObservation) (payload : Bytes) :
    let result := (bound.publish bytes slot sequence acknowledgement payload).1
    let after := (bound.publish bytes slot sequence acknowledgement payload).2
    let stores := (bound.publishStores bytes slot sequence acknowledgement payload).2
    result = (bound.publishStores bytes slot sequence acknowledgement payload).1 ∧
    after = Store.applyAll bytes stores ∧
    (∀ stop, result = .error stop → stores = [] ∧ after = bytes) ∧
    (result = .ok () → ∃ record range earlier, layout.slotRange slot = .ok record ∧
      layout.slotPayloadRange slot (UInt32.ofNat payload.length) = .ok range ∧
      PublishedOnly layout slot sequence payload bytes after record range ∧
      SequenceLast bytes after stores record sequence earlier) := by
  obtain ⟨region, -, -, fits, -, -, rfl⟩ := validate_eq_ok.mp validated
  obtain ⟨size, shape⟩ := BoundRegion.new_eq_ok binds
  have fits : region.header.totalSize.toNat ≤ bytes.length := by
    rw [size]
    exact fits
  intro result after stores
  have split := bound.publish_eq_stores bytes slot sequence acknowledgement payload
  have sameResult : result = (bound.publishStores bytes slot sequence acknowledgement payload).1 :=
    congrArg Prod.fst split
  have sameAfter : after = Store.applyAll bytes stores := congrArg Prod.snd split
  refine ⟨sameResult, sameAfter, ?_⟩
  rcases bound.publishStores_cases shape bytes slot sequence acknowledgement payload with
    ⟨stop, failed⟩ | ⟨valid, fit, done⟩
  · have none : stores = [] := congrArg Prod.snd failed
    refine ⟨fun _ _ => ⟨none, by rw [sameAfter, none]; rfl⟩, ?_⟩
    rw [sameResult, failed]
    intro impossible
    cases impossible
  · have all : stores = slotStores (region.header.slotStart slot.toNat) sequence payload :=
      congrArg Prod.snd done
    have small : payload.length < 2 ^ 32 :=
      lt_of_le_of_lt fit region.header.payloadCapacity.toNat_lt
    have word : (UInt32.ofNat payload.length).toNat = payload.length :=
      UInt32.toNat_ofNat_of_lt' small
    have within : UInt32.ofNat payload.length ≤ region.header.payloadCapacity := by
      rw [UInt32.le_iff_toNat_le, word]
      exact fit
    have record : (region.validated initial.length described.routes).slotRange slot =
        .ok (region.slotSpan slot.toNat) := by
      rw [region.slotRange_validated, if_pos valid]
    have range : (region.validated initial.length described.routes).slotPayloadRange slot
        (UInt32.ofNat payload.length) = .ok (region.header.slotStart slot.toNat + slotHeaderSize,
          region.header.slotStart slot.toNat + slotHeaderSize + payload.length) := by
      rw [region.slotPayloadRange_validated, if_pos within, if_pos valid, word]
    have only := publishedOnly_slotStores sequence fits valid fit initial.length described.routes
    have last := sequenceLast_slotStores sequence fits valid fit
    rw [← all, ← sameAfter] at only last
    refine ⟨?_, fun _ => ⟨_, _, _, record, range, only, last⟩⟩
    rw [sameResult, done]
    intro stop impossible
    cases impossible

/-- The first publication of the sample's slot 0. -/
theorem publish_touches_only_its_slot_sample :
    ∃ (layout : ValidatedRegionLayout .w64) (record range : Nat × Nat) (earlier : List Store),
      (Sample.requestRegion.publish (Sample.image Sample.requests) 0 1 none [1, 2, 3]).1 =
        .ok () ∧
      PublishedOnly layout 0 1 [1, 2, 3] (Sample.image Sample.requests)
        (Sample.requestRegion.publish (Sample.image Sample.requests) 0 1 none [1, 2, 3]).2
        record range ∧
      SequenceLast (Sample.image Sample.requests)
        (Sample.requestRegion.publish (Sample.image Sample.requests) 0 1 none [1, 2, 3]).2
        (Sample.requestRegion.publishStores (Sample.image Sample.requests) 0 1 none [1, 2, 3]).2
        record 1 earlier := by
  have bound : Sample.bind Sample.requests = .ok Sample.requestRegion := eq_ok_get _
  simp only [Sample.bind, bind_eq_ok, mapError_eq_ok] at bound
  obtain ⟨layout, validated, binds⟩ := bound
  have fresh : Sample.composition.start.memory Sample.requests = Sample.image Sample.requests := by
    simp only [Composition.start, Sample.composition]
  have done := Sample.calls.1
  rw [fresh] at done
  obtain ⟨-, -, -, published⟩ := publish_touches_only_its_slot validated binds 0 1 none [1, 2, 3]
  obtain ⟨record, range, earlier, -, -, only, last⟩ := published done
  exact ⟨layout, record, range, earlier, done, only, last⟩

end NativeIpc.Core
