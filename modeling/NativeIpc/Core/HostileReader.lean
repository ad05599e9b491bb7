import NativeIpc.Core.Ring
import NativeIpc.Lib.Program

/-!
# Reading a slot under a hostile writer

`ReaderRegion` as the loads it makes, after `native-ipc-core/src/mapping.rs` and
`native-ipc-core/src/slot.rs`. The writer may change the shared memory between any two loads,
so every load is a call that is answered anew: two loads of one field need not agree. When the
memory stays as it is these operations are the ones of `Core.Slot`.
-/

namespace NativeIpc.Core

open NativeIpc.Lib Bytes Run Op.Returns List
open Op (wp_bind wp_forM_keeps wp_get wp_keeps_bind wp_mapError wp_mono wp_ofRun wp_perform
  wp_within)
open Op (Computes Returns)

/-! ### Loads -/

/-- A load of shared memory, at its offset in the mapping. -/
inductive Load where
  | u64 (offset : Nat)
  | u32 (offset : Nat)
  | u8 (offset : Nat)
  deriving DecidableEq, Repr

namespace Load

/-- What a load returns. -/
abbrev Value : Load → Type
  | u64 _ => UInt64
  | u32 _ => UInt32
  | u8 _ => UInt8

/-- The bytes a load reads. -/
def span : Load → Nat × Nat
  | u64 offset => (offset, offset + 8)
  | u32 offset => (offset, offset + 4)
  | u8 offset => (offset, offset + 1)

/-- The load reads only bytes of a range. -/
def Within (load : Load) (range : Nat × Nat) : Prop :=
  range.1 ≤ load.span.1 ∧ load.span.2 ≤ range.2

/-- The loads of a memory that nobody writes. -/
def ofMemory (memory : Bytes) : (load : Load) → Value load
  | u64 offset => loadU64 memory offset
  | u32 offset => loadU32 memory offset
  | u8 offset => memory.getD offset 0

end Load

/-- A load and the value it returned. -/
abbrev Loaded : Type := Answer Load Load.Value

/-- An operation that loads shared memory, over local storage `σ`. -/
abbrev Reading (σ ε α : Type) : Type := Op Load Load.Value σ ε α

variable {start : Nat} {u : Unit} {binding : SlotBinding} {expectedSequence : UInt64}
    {observation : SlotObservation} {region : BoundRegion t} {index : UInt32} {destination : Bytes}
    {log : List Loaded} {range : Nat × Nat} {routes : List AcknowledgementRoute}

open Load RegionLayout

namespace Hostile

variable {σ ε : Type} {t : Target}

/-! ### The reader -/

/-- slot.rs:718-728. -/
def validateBoundGeneration (start : Nat) (expected : UInt64) : Reading σ SlotError Unit := do
  Op.ofRun (rejectIf (expected = 0) .zeroGeneration)
  let actual ← Op.perform (.u64 start)
  Op.ofRun (rejectIf (actual ≠ expected) (.staleGeneration expected actual))

/-- `ReaderSlot::observe` (slot.rs:290-314). -/
def observe (start : Nat) (binding : SlotBinding) (expectedSequence : UInt64) :
    Reading σ SlotError SlotObservation := do
  Op.ofRun (validateSequenceSlot binding expectedSequence)
  let sequence ← Op.perform (.u64 (start + publishedSequenceOffset))
  Op.ofRun (rejectIf (sequence ≠ expectedSequence) (.staleSequence expectedSequence sequence))
  validateBoundGeneration start binding.generation
  let payloadLen ← Op.perform (.u32 (start + payloadLenOffset))
  Op.ofRun (rejectIf (payloadLen > binding.payloadCapacity)
    (.payloadTooLarge payloadLen binding.payloadCapacity))
  pure { role := binding.role, slotIndex := binding.slotIndex,
         generation := binding.generation, sequence, payloadLen }

/-- `ReaderSlot::recheck` (slot.rs:321-350). -/
def recheck (start : Nat) (binding : SlotBinding) (observation : SlotObservation) :
    Reading σ SlotError Unit := do
  Op.ofRun (rejectIf (observation.role ≠ binding.role) .wrongObservationRole)
  Op.ofRun (rejectIf (observation.generation ≠ binding.generation)
    (.staleGeneration binding.generation observation.generation))
  let sequence ← Op.perform (.u64 (start + publishedSequenceOffset))
  Op.ofRun (rejectIf (sequence ≠ observation.sequence)
    (.staleSequence observation.sequence sequence))
  validateBoundGeneration start observation.generation
  let payloadLen ← Op.perform (.u32 (start + payloadLenOffset))
  Op.ofRun (rejectIf (payloadLen ≠ observation.payloadLen)
    (.changedPayloadLength observation.payloadLen payloadLen))

/-- What `ReaderRegion::slot` does before it loads (mapping.rs:159-166): the record of the
    slot and its binding. -/
def slotRecord (region : BoundRegion t) (slot : UInt32) : Run BindingError (Nat × SlotBinding) := do
  let binding ← (region.layout.readerSlotBinding slot).mapError .layout
  let range ← (region.layout.slotRange slot).mapError .layout
  let start ← region.record range
  pure (start, binding)

/-- `ReaderRegion::slot` (mapping.rs:158-170) with `ReaderSlot::bind` (slot.rs:278-287). -/
def slot (region : BoundRegion t) (slot : UInt32) : Reading σ BindingError (Nat × SlotBinding) := do
  let (start, binding) ← Op.ofRun (slotRecord region slot)
  Op.mapError .slot (validateBoundGeneration start binding.generation)
  pure (start, binding)

/-- `self.slot(slot)?.observe(expected_sequence)?`. -/
def observeSlot (region : BoundRegion t) (index : UInt32) (expectedSequence : UInt64) :
    Reading σ BindingError SlotObservation := do
  let bound ← slot region index
  Op.mapError .slot (observe bound.1 bound.2 expectedSequence)

/-- `self.slot(slot)?.recheck(observation)?`. -/
def recheckSlot (region : BoundRegion t) (index : UInt32) (observation : SlotObservation) :
    Reading σ BindingError Unit := do
  let bound ← slot region index
  Op.mapError .slot (recheck bound.1 bound.2 observation)

/-- mapping.rs:116-125, to the start of the local buffer. -/
def volatileCopy (source len : Nat) : Reading Bytes ε Unit :=
  (List.range len).forM fun index => do
    let byte ← Op.perform (.u8 (source + index))
    Op.modify fun destination => destination.set index byte

/-- The vector that `copy_payload` fills (mapping.rs:181-196): its bytes are zero until they are
    written. -/
def copyOwned (source len : Nat) : Reading Unit ε Bytes :=
  Op.within (List.replicate len 0) (fun _ => ()) do
    volatileCopy source len
    Op.get

/-- `ReaderRegion::copy_payload` (mapping.rs:176-199). `reserves` says for which sizes
    `try_reserve_exact` succeeds. -/
def copyPayload (reserves : Nat → Bool) (region : BoundRegion t) (index : UInt32)
    (expectedSequence : UInt64) : Reading Unit BindingError Bytes := do
  let observation ← observeSlot region index expectedSequence
  let range ← Op.ofRun
    ((region.layout.slotPayloadRange index observation.payloadLen).mapError .layout)
  Op.ofRun (rejectIf (¬ reserves (range.2 - range.1)) .allocationFailed)
  let owned ← copyOwned range.1 (range.2 - range.1)
  recheckSlot region index observation
  pure owned

/-- What `copy_payload_into` does with an observation (mapping.rs:214-233). -/
def copyObservedInto (region : BoundRegion t) (index : UInt32) (observation : SlotObservation) :
    Reading Bytes BindingError Nat := do
  let range ← Op.ofRun
    ((region.layout.slotPayloadRange index observation.payloadLen).mapError .layout)
  let destination ← Op.get
  Op.ofRun (rejectIf (destination.length < range.2 - range.1)
    (.destinationTooSmall (range.2 - range.1) destination.length))
  volatileCopy range.1 (range.2 - range.1)
  recheckSlot region index observation
  pure (range.2 - range.1)

/-- `ReaderRegion::copy_payload_into` (mapping.rs:207-234), over the caller's destination. -/
def copyPayloadInto (region : BoundRegion t) (index : UInt32) (expectedSequence : UInt64) :
    Reading Bytes BindingError Nat := do
  let observation ← observeSlot region index expectedSequence
  copyObservedInto region index observation

/-! ### What was loaded -/

/-- The loads that observe or recheck the record at `start`. -/
def checkLoads (start : Nat) (sequence generation : UInt64) (length : UInt32) : List Loaded :=
  [⟨.u64 (start + publishedSequenceOffset), sequence⟩, ⟨.u64 start, generation⟩,
    ⟨.u32 (start + payloadLenOffset), length⟩]

/-- The values of the loads that bind a slot and then observe or recheck it. -/
structure MetadataValues where
  boundGeneration : UInt64
  sequence : UInt64
  generation : UInt64
  length : UInt32

/-- Those loads, for the record at `start`. -/
def MetadataValues.loads (values : MetadataValues) (start : Nat) : List Loaded :=
  ⟨.u64 start, values.boundGeneration⟩ ::
    checkLoads start values.sequence values.generation values.length

/-- The loads that copy a payload from `source` on. -/
def payloadLoads (source : Nat) (payload : Bytes) : List Loaded :=
  payload.mapIdx fun index byte => ⟨.u8 (source + index), byte⟩

theorem payloadLoads_cons (source : Nat) (byte : UInt8) (payload : Bytes) :
    payloadLoads source (byte :: payload) =
      ⟨.u8 source, byte⟩ :: payloadLoads (source + 1) payload := by
  simp only [payloadLoads, mapIdx_cons, Nat.add_zero]
  congr 2
  funext index byte
  rw [Nat.add_assoc, Nat.add_comm 1]

/-- The length that was loaded first. -/
def lengthLoaded (log : List Loaded) : Option UInt32 :=
  log.findSome? fun
    | ⟨.u32 _, length⟩ => some length
    | _ => none

/-! ### The runs that succeed -/

open MetadataValues

section Success

variable {s s' : σ} {log : List Loaded}
  {expected : UInt64}

theorem validateBoundGeneration_ok :
    Returns (validateBoundGeneration start expected) s log (.ok u) s' ↔
      expected ≠ 0 ∧ log = [⟨.u64 start, expected⟩] ∧ s' = s := by
  simp only [validateBoundGeneration, ofRun_bind_ok_iff, perform_bind_iff,
    ofRun_iff, rejectIf_eq_ok, exists_const]
  constructor
  · rintro ⟨nonzero, actual, rest, rfl, rfl, same, rfl⟩
    have equal := not_not.mp (rejectIf_eq_ok.mp same.symm)
    subst equal
    exact ⟨nonzero, rfl, rfl⟩
  · rintro ⟨nonzero, rfl, rfl⟩
    exact ⟨nonzero, expected, [], rfl, rfl, (rejectIf_eq_ok.mpr (not_not.mpr rfl)).symm, rfl⟩

theorem validateBoundGeneration_bind_ok {α : Type} {f : Unit → Reading σ SlotError α} {a : α} :
    Returns (validateBoundGeneration start expected >>= f) s log (.ok a) s' ↔
      expected ≠ 0 ∧ ∃ rest, log = ⟨.u64 start, expected⟩ :: rest ∧
        Returns (f ()) s rest (.ok a) s' := by
  simp only [bind_ok_iff, validateBoundGeneration_ok]
  constructor
  · rintro ⟨⟨⟩, _, _, rest, rfl, ⟨nonzero, rfl, rfl⟩, runs⟩
    exact ⟨nonzero, rest, rfl, runs⟩
  · rintro ⟨nonzero, rest, rfl, runs⟩
    exact ⟨(), s, _, rest, rfl, ⟨nonzero, rfl, rfl⟩, runs⟩

/-- The observation of a slot in which `sequence` was found with a length. -/
def observed (binding : SlotBinding) (sequence : UInt64) (length : UInt32) : SlotObservation where
  role := binding.role
  slotIndex := binding.slotIndex
  generation := binding.generation
  sequence := sequence
  payloadLen := length

theorem observe_ok :
    Returns (observe start binding expectedSequence) s log (.ok observation) s' ↔
      ∃ length, validateSequenceSlot binding expectedSequence = .ok () ∧
        binding.generation ≠ 0 ∧ length ≤ binding.payloadCapacity ∧
        observation = observed binding expectedSequence length ∧
        log = checkLoads start expectedSequence binding.generation length ∧ s' = s := by
  simp only [observe, ofRun_bind_ok_iff, perform_bind_iff,
    validateBoundGeneration_bind_ok, pure_iff, rejectIf_eq_ok, exists_const, not_not,
    gt_iff_lt, UInt32.not_lt]
  constructor
  · rintro ⟨⟨⟩, valid, sequence, rest, rfl, rfl, nonzero, rest, rfl, length, rest, rfl, fits, rfl,
      same, rfl⟩
    exact ⟨length, valid, nonzero, fits, Except.ok.inj same, rfl, rfl⟩
  · rintro ⟨length, valid, nonzero, fits, rfl, rfl, rfl⟩
    exact ⟨(), valid, expectedSequence, _, rfl, rfl, nonzero, _, rfl, length, [], rfl, fits, rfl,
      rfl, rfl⟩

theorem recheck_ok :
    Returns (recheck start binding observation) s log (.ok u) s' ↔
      observation.role = binding.role ∧ observation.generation = binding.generation ∧
        observation.generation ≠ 0 ∧
        log = checkLoads start observation.sequence observation.generation
          observation.payloadLen ∧ s' = s := by
  simp only [recheck, ofRun_bind_ok_iff, perform_bind_iff,
    validateBoundGeneration_bind_ok, ofRun_iff, rejectIf_eq_ok, exists_const, not_not]
  constructor
  · rintro ⟨role, generation, sequence, rest, rfl, rfl, nonzero, rest, rfl, length, rest, rfl, rfl,
      same, rfl⟩
    have equal := not_not.mp (rejectIf_eq_ok.mp same.symm)
    subst equal
    exact ⟨role, generation, nonzero, rfl, rfl⟩
  · rintro ⟨role, generation, nonzero, rfl, rfl⟩
    exact ⟨role, generation, observation.sequence, _, rfl, rfl, nonzero, _, rfl,
      observation.payloadLen, [], rfl, rfl, (rejectIf_eq_ok.mpr (not_not.mpr rfl)).symm, rfl⟩

theorem slot_ok :
    Returns (slot region index) s log (.ok (start, binding)) s' ↔
      slotRecord region index = .ok (start, binding) ∧ binding.generation ≠ 0 ∧
        log = [⟨.u64 start, binding.generation⟩] ∧ s' = s := by
  simp only [slot, ofRun_bind_ok_iff]
  simp only [bind_ok_iff, mapError_ok_iff, validateBoundGeneration_ok, pure_iff]
  constructor
  · rintro ⟨⟨_, _⟩, found, ⟨⟩, _, before, after, rfl, ⟨nonzero, rfl, rfl⟩, rfl, same, rfl⟩
    cases same
    exact ⟨found, nonzero, rfl, rfl⟩
  · rintro ⟨found, nonzero, rfl, rfl⟩
    exact ⟨_, found, (), s', _, _, rfl, ⟨nonzero, rfl, rfl⟩, rfl, rfl, rfl⟩

theorem observeSlot_ok :
    Returns (observeSlot region index expectedSequence) s log (.ok observation) s' ↔
      ∃ start binding length, slotRecord region index = .ok (start, binding) ∧
        validateSequenceSlot binding expectedSequence = .ok () ∧ binding.generation ≠ 0 ∧
        length ≤ binding.payloadCapacity ∧
        observation = observed binding expectedSequence length ∧
        log = loads
          ⟨binding.generation, expectedSequence, binding.generation, length⟩ start ∧ s' = s := by
  simp only [observeSlot, bind_ok_iff, mapError_ok_iff]
  constructor
  · rintro ⟨⟨start, binding⟩, _, _, _, rfl, bound, checked⟩
    obtain ⟨record, -, rfl, rfl⟩ := slot_ok.mp bound
    obtain ⟨length, sequence, nonzero, fits, rfl, rfl, rfl⟩ := observe_ok.mp checked
    exact ⟨start, binding, length, record, sequence, nonzero, fits, rfl, rfl, rfl⟩
  · rintro ⟨start, binding, length, record, sequence, nonzero, fits, rfl, rfl, rfl⟩
    exact ⟨(start, binding), s', _, _, rfl, slot_ok.mpr ⟨record, nonzero, rfl, rfl⟩,
      observe_ok.mpr ⟨length, sequence, nonzero, fits, rfl, rfl, rfl⟩⟩

theorem recheckSlot_ok :
    Returns (recheckSlot region index observation) s log (.ok u) s' ↔
      ∃ start binding, slotRecord region index = .ok (start, binding) ∧
        observation.role = binding.role ∧ observation.generation = binding.generation ∧
        observation.generation ≠ 0 ∧
        log = loads ⟨binding.generation, observation.sequence,
          observation.generation, observation.payloadLen⟩ start ∧ s' = s := by
  simp only [recheckSlot, bind_ok_iff, mapError_ok_iff]
  constructor
  · rintro ⟨⟨start, binding⟩, _, _, _, rfl, bound, checked⟩
    obtain ⟨record, -, rfl, rfl⟩ := slot_ok.mp bound
    obtain ⟨role, generation, nonzero, rfl, rfl⟩ := recheck_ok.mp checked
    exact ⟨start, binding, record, role, generation, nonzero, rfl, rfl⟩
  · rintro ⟨start, binding, record, role, generation, nonzero, rfl, rfl⟩
    exact ⟨(start, binding), s', _, _, rfl, slot_ok.mpr ⟨record, generation ▸ nonzero, rfl, rfl⟩,
      recheck_ok.mpr ⟨role, generation, nonzero, rfl, rfl⟩⟩

end Success

/-- A copy of `len` bytes writes what it loads over the first `len` bytes of the buffer. -/
theorem volatileCopy_ok {source len : Nat} {after : Bytes} (fits : len ≤ destination.length) :
    Returns (volatileCopy source len : Reading Bytes ε Unit) destination log (.ok u) after ↔
      ∃ payload : Bytes, payload.length = len ∧ log = payloadLoads source payload ∧
        after = destination.overwrite 0 payload := by
  -- the turns that are left start at any index, with the bytes before it already written
  suffices general : ∀ (count index : Nat) (destination : Bytes) (log : List Loaded),
      index + count ≤ destination.length →
      (Returns ((range' index count).forM (fun index => do
          let byte ← Op.perform (.u8 (source + index))
          Op.modify fun destination => destination.set index byte) : Reading Bytes ε Unit)
        destination log (.ok u) after ↔
      ∃ payload : Bytes, payload.length = count ∧ log = payloadLoads (source + index) payload ∧
        after = destination.overwrite index payload) by
    have all := general len 0 destination log (by omega)
    rwa [← range_eq_range'] at all
  intro count
  induction count with
  | zero =>
    intro index destination log inside
    refine pure_iff.trans ?_
    constructor
    · rintro ⟨rfl, -, rfl⟩
      refine ⟨[], rfl, rfl, ?_⟩
      simp [overwrite]
    · rintro ⟨payload, empty, rfl, rfl⟩
      obtain rfl := length_eq_zero_iff.mp empty
      refine ⟨rfl, rfl, ?_⟩
      simp [overwrite]
  | succ count ih =>
    intro index destination log inside
    have low : index < destination.length := by omega
    have left : ∀ byte : UInt8, index + 1 + count ≤ (set destination index byte).length := by
      intro byte
      rw [length_set]
      omega
    rw [range'_succ]
    change Returns (_ >>= fun _ => List.forM _ _) destination log (.ok u) after ↔ _
    constructor
    · intro runs
      obtain ⟨_, mid, first, rest, rfl, turn, others⟩ := bind_ok runs
      obtain ⟨byte, _, rfl, wrote⟩ := of_perform_bind turn
      obtain ⟨rfl, rfl⟩ := of_modify wrote
      obtain ⟨payload, rfl, rfl, rfl⟩ := (ih _ _ _ (left byte)).mp others
      refine ⟨byte :: payload, rfl, ?_, overwrite_set low byte payload⟩
      rw [payloadLoads_cons]
      rfl
    · rintro ⟨payload, size, rfl, final⟩
      obtain ⟨byte, payload, rfl⟩ := exists_cons_of_length_eq_add_one size
      rw [← overwrite_set low byte payload] at final
      rw [payloadLoads_cons]
      have turn : Returns (Op.perform (.u8 (source + index)) >>= fun byte =>
          Op.modify fun destination => destination.set index byte : Reading Bytes ε Unit)
          destination [⟨.u8 (source + index), byte⟩] (.ok ()) (destination.set index byte) :=
        perform_bind_iff.mpr ⟨byte, [], rfl, .refl _⟩
      exact turn.bind ((ih _ _ _ (left byte)).mpr ⟨payload, Nat.succ.inj size, rfl, final⟩)

/-- A new vector that is written over in whole. -/
theorem overwrite_replicate {len : Nat} {bytes : Bytes} (size : bytes.length = len) :
    overwrite (replicate len 0) 0 bytes = bytes := by
  simp [overwrite, size]

theorem copyOwned_ok {source len : Nat} {owned : Bytes} {u' : Unit} :
    Returns (copyOwned source len : Reading Unit ε Bytes) u log (.ok owned) u' ↔
      owned.length = len ∧ log = payloadLoads source owned := by
  constructor
  · intro runs
    obtain ⟨inner, runs, -⟩ := of_within runs
    obtain ⟨_, written, copied, none, rfl, copy, read⟩ := bind_ok runs
    obtain ⟨bytes, size, rfl, rfl⟩ := (volatileCopy_ok (by simp)).mp copy
    obtain ⟨rfl, same⟩ := Proc.Runs.of_ret read
    cases same
    rw [overwrite_replicate size, append_nil]
    exact ⟨size, rfl⟩
  · rintro ⟨size, rfl⟩
    have copy : Returns (volatileCopy source len : Reading Bytes ε Unit)
        (replicate len 0) (payloadLoads source owned) (.ok ()) owned :=
      (volatileCopy_ok (by simp)).mpr ⟨owned, size, rfl, (overwrite_replicate size).symm⟩
    have filled : Returns (volatileCopy source len >>= fun _ => Op.get : Reading Bytes ε Bytes)
        (replicate len 0) (payloadLoads source owned ++ []) (.ok owned) owned :=
      copy.bind (.get owned)
    rw [append_nil] at filled
    exact filled.within

/-! ### The two copies -/

/-- `payload` was copied from slot `index`: the record was loaded with the same values before and
    after. -/
structure Copied (region : BoundRegion t) (index : UInt32) (expectedSequence : UInt64)
    (start : Nat) (binding : SlotBinding) (length : UInt32) (range : Nat × Nat) (payload : Bytes)
    (log : List Loaded) : Prop where
  record : slotRecord region index = .ok (start, binding)
  sequence : validateSequenceSlot binding expectedSequence = .ok ()
  generation : binding.generation ≠ 0
  fits : length ≤ binding.payloadCapacity
  payloadRange : region.layout.slotPayloadRange index length = .ok range
  size : payload.length = range.2 - range.1
  loads : log =
    MetadataValues.loads ⟨binding.generation, expectedSequence, binding.generation, length⟩ start ++
      (payloadLoads range.1 payload ++
        MetadataValues.loads ⟨binding.generation, expectedSequence, binding.generation, length⟩
          start)

section Copies

variable {region : BoundRegion t} {index : UInt32} {expectedSequence : UInt64} {log : List Loaded}

/-- A copy succeeds exactly on the loads of a payload between two equal loads of the record, and
    then it is that payload. -/
theorem copyPayload_ok {reserves : Nat → Bool} {payload : Bytes} {u' : Unit} :
    Returns (copyPayload reserves region index expectedSequence) u log (.ok payload) u' ↔
      ∃ start binding length range,
        Copied region index expectedSequence start binding length range payload log ∧
          reserves (range.2 - range.1) = true := by
  constructor
  · intro runs
    unfold copyPayload at runs
    obtain ⟨observation, _, first, rest, rfl, hobserve, afterObserve⟩ := bind_ok runs
    obtain ⟨start, binding, length, record, sequence, nonzero, fits, rfl, rfl, -⟩ :=
      observeSlot_ok.mp hobserve
    obtain ⟨range, hrange, afterRange⟩ := ofRun_bind_ok afterObserve
    obtain ⟨_, reserved, afterReserve⟩ := ofRun_bind_ok afterRange
    obtain ⟨owned, _, copy, last, rfl, hcopy, afterCopy⟩ := bind_ok afterReserve
    obtain ⟨size, rfl⟩ := copyOwned_ok.mp hcopy
    obtain ⟨_, _, again, none, rfl, hrecheck, done⟩ := bind_ok afterCopy
    obtain ⟨_, _, record', -, -, -, rfl, -⟩ := recheckSlot_ok.mp hrecheck
    rw [record] at record'
    cases record'
    obtain ⟨rfl, same, -⟩ := of_pure done
    cases same
    rw [append_nil]
    exact ⟨start, binding, length, range, ⟨record, sequence, nonzero, fits,
      mapError_eq_ok.mp hrange, size, rfl⟩, not_not.mp (rejectIf_eq_ok.mp reserved)⟩
  · rintro ⟨start, binding, length, range, copied, reserved⟩
    obtain ⟨record, sequence, nonzero, fits, hrange, size, rfl⟩ := copied
    refine (observeSlot_ok.mpr
      ⟨start, binding, length, record, sequence, nonzero, fits, rfl, rfl, rfl⟩).bind ?_
    refine (ofRun_bind (mapError_eq_ok.mpr hrange)).mpr ?_
    refine (ofRun_bind (rejectIf_eq_ok (u := ()).mpr (not_not.mpr reserved))).mpr ?_
    have copy : Returns (copyOwned range.1 (range.2 - range.1) : Reading Unit BindingError Bytes)
        u (payloadLoads range.1 payload) (.ok payload) u := copyOwned_ok.mpr ⟨size, rfl⟩
    refine copy.bind ?_
    rw [← append_nil (loads _ _)]
    refine (recheckSlot_ok (u := ()).mpr
      ⟨start, binding, record, rfl, rfl, nonzero, rfl, rfl⟩).bind ?_
    exact .pure payload ()

/-- The same for a copy into a destination, whose first bytes it writes. -/
theorem copyPayloadInto_ok {after : Bytes} {copied : Nat} :
    Returns (copyPayloadInto region index expectedSequence) destination log (.ok copied) after ↔
      ∃ start binding length range payload,
        Copied region index expectedSequence start binding length range payload log ∧
          copied = payload.length ∧ payload.length ≤ destination.length ∧
          after = destination.overwrite 0 payload := by
  constructor
  · intro runs
    unfold copyPayloadInto at runs
    obtain ⟨observation, _, first, rest, rfl, hobserve, afterObserve⟩ := bind_ok runs
    obtain ⟨start, binding, length, record, sequence, nonzero, fits, rfl, rfl, rfl⟩ :=
      observeSlot_ok.mp hobserve
    unfold copyObservedInto at afterObserve
    obtain ⟨range, hrange, afterRange⟩ := ofRun_bind_ok afterObserve
    obtain ⟨_, room, afterRoom⟩ := ofRun_bind_ok (of_get_bind afterRange)
    have room := Nat.le_of_not_lt (rejectIf_eq_ok.mp room)
    obtain ⟨_, _, copy, last, rfl, hcopy, afterCopy⟩ := bind_ok afterRoom
    obtain ⟨payload, size, rfl, rfl⟩ := (volatileCopy_ok room).mp hcopy
    obtain ⟨_, _, again, none, rfl, hrecheck, done⟩ := bind_ok afterCopy
    obtain ⟨_, _, record', -, -, -, rfl, rfl⟩ := recheckSlot_ok.mp hrecheck
    rw [record] at record'
    cases record'
    obtain ⟨rfl, same, rfl⟩ := of_pure done
    cases same
    rw [append_nil]
    exact ⟨start, binding, length, range, payload, ⟨record, sequence, nonzero, fits,
      mapError_eq_ok.mp hrange, size, rfl⟩, size.symm, size ▸ room, rfl⟩
  · rintro ⟨start, binding, length, range, payload, copy, rfl, room, rfl⟩
    obtain ⟨record, sequence, nonzero, fits, hrange, size, rfl⟩ := copy
    rw [size] at room ⊢
    refine (observeSlot_ok.mpr
      ⟨start, binding, length, record, sequence, nonzero, fits, rfl, rfl, rfl⟩).bind ?_
    refine (ofRun_bind (mapError_eq_ok.mpr hrange)).mpr ?_
    refine (Returns.get destination).bind ?_
    refine (ofRun_bind (rejectIf_eq_ok (u := ()).mpr (Nat.not_lt.mpr room))).mpr ?_
    refine ((volatileCopy_ok (u := ()) room).mpr ⟨payload, size, rfl, rfl⟩).bind ?_
    rw [← append_nil (loads _ _)]
    refine (recheckSlot_ok (u := ()).mpr
      ⟨start, binding, record, rfl, rfl, nonzero, rfl, rfl⟩).bind ?_
    exact .pure _ _

end Copies

/-! ### Where the loads are, and what is left alone -/

section Bounds

variable (P : Load → Prop) {history : List Loaded} {s : σ}

/-- The loads of a record. -/
structure RecordLoads (start : Nat) : Prop where
  generation : P (.u64 start)
  sequence : P (.u64 (start + publishedSequenceOffset))
  length : P (.u32 (start + payloadLenOffset))

variable {P}

/-- The operation loads only what `P` allows and leaves its storage as it is. -/
abbrev LoadsOnly (P : Load → Prop) (history : List Loaded) (s : σ) (x : Reading σ ε α) : Prop :=
  Op.wp (fun _ load => P load) (fun _ _ s' => s' = s) history s x

theorem wp_validateBoundGeneration {expected : UInt64} (inside : P (.u64 start)) :
    LoadsOnly P history s (validateBoundGeneration start expected) := by
  unfold validateBoundGeneration
  refine wp_keeps_bind rfl ?_
  rintro _ h _ rfl
  exact wp_keeps_bind ⟨inside, fun _ => rfl⟩ fun _ _ _ same => same

theorem wp_observe (inside : RecordLoads P start) :
    LoadsOnly P history s (observe start binding expectedSequence) := by
  unfold observe
  refine wp_keeps_bind rfl ?_
  rintro _ h _ rfl
  refine wp_keeps_bind ⟨inside.sequence, fun _ => rfl⟩ ?_
  rintro sequence h _ rfl
  refine wp_keeps_bind rfl ?_
  rintro _ h _ rfl
  refine wp_keeps_bind (wp_validateBoundGeneration inside.generation) ?_
  rintro _ h _ rfl
  refine wp_keeps_bind ⟨inside.length, fun _ => rfl⟩ ?_
  rintro length h _ rfl
  exact wp_keeps_bind rfl fun _ _ _ same => same

theorem wp_recheck (inside : RecordLoads P start) :
    LoadsOnly P history s (recheck start binding observation) := by
  unfold recheck
  refine wp_keeps_bind rfl ?_
  rintro _ h _ rfl
  refine wp_keeps_bind rfl ?_
  rintro _ h _ rfl
  refine wp_keeps_bind ⟨inside.sequence, fun _ => rfl⟩ ?_
  rintro sequence h _ rfl
  refine wp_keeps_bind rfl ?_
  rintro _ h _ rfl
  refine wp_keeps_bind (wp_validateBoundGeneration inside.generation) ?_
  rintro _ h _ rfl
  exact wp_keeps_bind ⟨inside.length, fun _ => rfl⟩ fun _ _ _ same => same

variable {region : BoundRegion t} {index : UInt32}
  (inside : ∀ bound, slotRecord region index = .ok bound → RecordLoads P bound.1)

include inside

theorem wp_slot :
    Op.wp (fun _ load => P load)
      (fun _ result s' => s' = s ∧ ∀ bound, result = .ok bound → RecordLoads P bound.1)
      history s (slot region index) := by
  unfold slot
  rw [wp_bind, wp_ofRun]
  split
  · rename_i bound found
    dsimp only
    rw [wp_bind, wp_mapError]
    refine wp_mono ?_ (wp_validateBoundGeneration (inside bound found).generation)
    rintro h result _ rfl
    cases result with
    | ok u => exact ⟨rfl, by rintro _ ⟨⟩; exact inside bound found⟩
    | error stop => cases stop <;> exact ⟨rfl, by rintro _ ⟨⟩⟩
  · exact ⟨rfl, by rintro _ ⟨⟩⟩

theorem wp_observeSlot : LoadsOnly P history s (observeSlot region index expectedSequence) := by
  unfold LoadsOnly observeSlot
  rw [wp_bind]
  refine wp_mono ?_ (wp_slot inside)
  rintro h result _ ⟨rfl, bound⟩
  split
  · rw [wp_mapError]
    exact wp_observe (bound _ rfl)
  · rfl

theorem wp_recheckSlot : LoadsOnly P history s (recheckSlot region index observation) := by
  unfold LoadsOnly recheckSlot
  rw [wp_bind]
  refine wp_mono ?_ (wp_slot inside)
  rintro h result _ ⟨rfl, bound⟩
  split
  · rw [wp_mapError]
    exact wp_recheck (bound _ rfl)
  · rfl

end Bounds

/-- Nothing of a buffer has changed from `len` on. -/
def KeepsFrom (len : Nat) (before after : Bytes) : Prop :=
  after.length = before.length ∧ ∀ i, len ≤ i → after[i]? = before[i]?

theorem wp_volatileCopy {P : Load → Prop} {source len : Nat}
    {history : List Loaded} (inside : ∀ i < len, P (.u8 (source + i))) :
    Op.wp (fun _ load => P load) (fun _ _ after => KeepsFrom len destination after) history
      destination (volatileCopy source len : Reading Bytes ε Unit) := by
  refine wp_forM_keeps ⟨rfl, fun _ _ => rfl⟩ ?_
  intro index member h after kept
  have low : index < len := mem_range.mp member
  rw [wp_bind, wp_perform]
  refine ⟨inside index low, fun byte => ⟨?_, ?_⟩⟩
  · rw [length_set]
    exact kept.1
  · intro i high
    rw [getElem?_set_ne (by omega)]
    exact kept.2 i high

variable {length : UInt32} {bound : BoundRegion t}

theorem slotPayloadRange_eq_ok {layout : ValidatedRegionLayout t} {slot : UInt32}
    (found : layout.slotPayloadRange slot length = .ok range) :
    ∃ record, layout.slotRange slot = .ok record ∧ length ≤ layout.header.payloadCapacity ∧
      range.1 = record.1 + slotHeaderSize ∧ range.2 = range.1 + length.toNat ∧
      range.2 ≤ record.2 := by
  simp only [ValidatedRegionLayout.slotPayloadRange, bind_eq_ok, rejectIf_eq_ok, exists_const,
    okOr_eq_ok, checkedAdd_eq_some, pure_eq_ok, gt_iff_lt, UInt32.not_lt, Nat.not_lt] at found
  obtain ⟨fits, record, given, _, ⟨-, rfl⟩, _, ⟨-, rfl⟩, inside, rfl⟩ := found
  exact ⟨record, given, fits, rfl, rfl, inside⟩

theorem slotRecord_eq_ok (found : slotRecord region index = .ok (start, binding)) :
    ∃ record, region.layout.slotRange index = .ok record ∧ start = record.1 ∧
      binding.generation = region.layout.header.generation ∧
      binding.payloadCapacity = region.layout.header.payloadCapacity := by
  simp only [slotRecord, ValidatedRegionLayout.readerSlotBinding, bind_eq_ok, mapError_eq_ok,
    pure_eq_ok, Prod.mk.injEq] at found
  obtain ⟨_, ⟨_, -, rfl⟩, record, given, _, placed, rfl, rfl⟩ := found
  exact ⟨record, given, BoundRegion.record_eq_ok placed, rfl, rfl⟩

section Confined

variable {region : BoundRegion t} {index : UInt32} {P : Load → Prop}

section

variable (record : ∀ bound, slotRecord region index = .ok bound → RecordLoads P bound.1)
  (payload : ∀ length range, region.layout.slotPayloadRange index length = .ok range →
    ∀ i < range.2 - range.1, P (.u8 (range.1 + i)))

include record payload

theorem wp_copyObservedInto {history : List Loaded} :
    Op.wp (fun _ load => P load)
      (fun _ _ after => KeepsFrom observation.payloadLen.toNat destination after) history
      destination (copyObservedInto region index observation) := by
  have same : KeepsFrom observation.payloadLen.toNat destination destination :=
    ⟨rfl, fun _ _ => rfl⟩
  unfold copyObservedInto
  rw [wp_bind, wp_ofRun]
  split
  · rename_i range found
    have found := mapError_eq_ok.mp found
    obtain ⟨_, -, -, -, size, -⟩ := slotPayloadRange_eq_ok found
    have size : range.2 - range.1 = observation.payloadLen.toNat := by omega
    rw [wp_bind, wp_get]
    dsimp only
    rw [wp_bind, wp_ofRun]
    split
    · rw [wp_bind]
      refine wp_mono ?_ (wp_volatileCopy (payload _ range found))
      intro h result after kept
      rw [size] at kept
      split
      · rw [wp_bind]
        refine wp_mono ?_ (wp_recheckSlot record)
        rintro h result _ rfl
        split
        · exact kept
        · exact kept
      · exact kept
    · exact same
  · exact same

theorem wp_copyPayloadInto :
    Op.wp (fun _ load => P load) (fun _ _ _ => True) [] destination
      (copyPayloadInto region index expectedSequence) := by
  unfold copyPayloadInto
  rw [wp_bind]
  refine wp_mono ?_ (wp_observeSlot record)
  rintro h result _ rfl
  split
  · exact wp_mono (fun _ _ _ _ => trivial) (wp_copyObservedInto record payload)
  · trivial

theorem wp_copyPayload {reserves : Nat → Bool} :
    Op.wp (fun _ load => P load) (fun _ _ _ => True) [] ()
      (copyPayload reserves region index expectedSequence) := by
  unfold copyPayload
  rw [wp_bind]
  refine wp_mono ?_ (wp_observeSlot record)
  rintro h result _ rfl
  split
  · rw [wp_bind, wp_ofRun]
    split
    · rename_i range found
      rw [wp_bind, wp_ofRun]
      split
      · rw [wp_bind, copyOwned, wp_within, wp_bind]
        refine wp_mono ?_ (wp_volatileCopy (payload _ range (mapError_eq_ok.mp found)))
        intro h result after _
        split
        · rw [wp_get]
          dsimp only
          rw [wp_bind]
          refine wp_mono ?_ (wp_recheckSlot record)
          intro h result after _
          split
          · trivial
          · trivial
        · trivial
      · trivial
    · trivial
  · trivial

end

/-- However a copy into a destination ends, it leaves the bytes past the length it loaded. -/
theorem copyPayloadInto_keeps {after : Bytes} {result : Run BindingError Nat}
    (runs : Returns (copyPayloadInto region index expectedSequence) destination log result after) :
    KeepsFrom ((lengthLoaded log).elim 0 UInt32.toNat) destination after := by
  have free : ∀ bound, slotRecord region index = .ok bound →
      RecordLoads (fun _ => True) bound.1 := fun _ _ => ⟨trivial, trivial, trivial⟩
  rcases of_bind runs with ⟨observation, _, first, rest, rfl, hobserve, next⟩ |
    ⟨stop, rfl, hobserve⟩
  · obtain ⟨start, binding, length, record, sequence, nonzero, fits, rfl, rfl, rfl⟩ :=
      observeSlot_ok.mp hobserve
    have loaded : lengthLoaded (loads
        ⟨binding.generation, expectedSequence, binding.generation, length⟩ start ++ rest) =
        some length := rfl
    rw [loaded]
    exact next.satisfies (wp_copyObservedInto free fun _ _ _ _ _ => trivial)
  · have same := hobserve.satisfies (wp_observeSlot free)
    rw [same]
    exact ⟨rfl, fun _ _ => rfl⟩

end Confined

/-! ### A memory that nobody writes -/

section Memory

variable {memory : Bytes}

theorem computes_validateBoundGeneration {expected : UInt64} :
    Computes (ofMemory memory)
      (validateBoundGeneration start expected : Reading σ SlotError Unit)
      (Core.validateBoundGeneration memory start expected) :=
  (Computes.ofRun _).bind fun _ => Computes.perform_bind (Computes.ofRun _)

theorem computes_observe :
    Computes (ofMemory memory)
      (observe start binding expectedSequence : Reading σ SlotError SlotObservation)
      (Core.observeSlot memory start binding expectedSequence) := by
  refine (Computes.ofRun _).bind fun _ => Computes.perform_bind ?_
  refine (Computes.ofRun _).bind fun _ => ?_
  refine computes_validateBoundGeneration.bind fun _ => Computes.perform_bind ?_
  exact (Computes.ofRun _).bind fun _ => Computes.pure _

theorem computes_recheck :
    Computes (ofMemory memory) (recheck start binding observation : Reading σ SlotError Unit)
      (Core.recheckSlot memory start binding observation) := by
  refine (Computes.ofRun _).bind fun _ => (Computes.ofRun _).bind fun _ => ?_
  refine Computes.perform_bind ((Computes.ofRun _).bind fun _ => ?_)
  exact computes_validateBoundGeneration.bind fun _ => Computes.perform_bind (Computes.ofRun _)

theorem computes_slot :
    Computes (ofMemory memory) (slot region index : Reading σ BindingError (Nat × SlotBinding))
      (region.readerSlot memory index) := by
  have same : region.readerSlot memory index = (slotRecord region index >>= fun bound =>
      (Core.validateBoundGeneration memory bound.1 bound.2.generation).mapError .slot >>=
        fun _ => pure bound) := by
    unfold BoundRegion.readerSlot slotRecord
    simp only [bind_assoc, pure_bind]
  rw [same]
  refine (Computes.ofRun _).bind fun bound => ?_
  exact computes_validateBoundGeneration.mapError.bind fun _ => Computes.pure _

theorem computes_observeSlot :
    Computes (ofMemory memory)
      (observeSlot region index expectedSequence : Reading σ BindingError SlotObservation)
      (region.observe memory index expectedSequence) :=
  computes_slot.bind fun _ => computes_observe.mapError

theorem computes_recheckSlot :
    Computes (ofMemory memory) (recheckSlot region index observation : Reading σ BindingError Unit)
      (region.recheck memory index observation) :=
  computes_slot.bind fun _ => computes_recheck.mapError

/-- A copy from a memory that nobody writes is the part of it. -/
theorem answeredBy_volatileCopy {source len : Nat}
    (inside : source + len ≤ memory.length) (fits : len ≤ destination.length) :
    ((volatileCopy source len : Reading Bytes ε Unit) destination).answeredBy
      (ofMemory memory) =
      (.ok (), destination.overwrite 0 (memory.extract source (source + len))) := by
  suffices general : ∀ (count index : Nat) (destination : Bytes),
      source + index + count ≤ memory.length → index + count ≤ destination.length →
      (((range' index count).forM (fun index => do
          let byte ← Op.perform (.u8 (source + index))
          Op.modify fun destination => destination.set index byte) : Reading Bytes ε Unit)
        destination).answeredBy (ofMemory memory) =
      (.ok (), destination.overwrite index
        (memory.extract (source + index) (source + index + count))) by
    have all := general len 0 destination inside (by omega)
    rwa [← range_eq_range'] at all
  intro count
  induction count with
  | zero =>
    intro index destination _ _
    change (Except.ok (), destination) = _
    simp [overwrite]
  | succ count ih =>
    intro index destination inside room
    have low : index < destination.length := by omega
    have first : memory.extract (source + index) (source + index + (count + 1)) =
        memory.getD (source + index) 0 ::
          memory.extract (source + (index + 1)) (source + (index + 1) + count) := by
      rw [extract_eq_take_drop, extract_eq_take_drop, Nat.add_sub_cancel_left,
        Nat.add_sub_cancel_left, drop_eq_getElem_cons (by omega), take_succ_cons,
        getD_eq_getElem _ _ (by omega), Nat.add_assoc]
    rw [range'_succ, first, ← overwrite_set low]
    refine ih (index + 1) (destination.set index _) (by omega) ?_
    rw [length_set]
    omega

theorem computes_copyOwned {source len : Nat} (inside : source + len ≤ memory.length) :
    Computes (ofMemory memory) (copyOwned source len : Reading Unit ε Bytes)
      (.ok (memory.extract source (source + len))) := by
  intro s
  have copied : ((volatileCopy source len : Reading Bytes ε Unit)
      (replicate len 0)).answeredBy (ofMemory memory) =
      (.ok (), overwrite (replicate len 0) 0 (memory.extract source (source + len))) :=
    answeredBy_volatileCopy inside (by simp)
  have size : (memory.extract source (source + len)).length = len := by
    rw [length_extract_of_le inside, Nat.add_sub_cancel_left]
  unfold copyOwned Op.within
  refine (Proc.answeredBy_bind _ _ _).trans ?_
  have read : (((volatileCopy source len : Reading Bytes ε Unit) >>= fun _ => Op.get)
      (replicate len 0)).answeredBy (ofMemory memory) =
      (.ok (memory.extract source (source + len)), memory.extract source (source + len)) := by
    refine (Proc.answeredBy_bind _ _ _).trans ?_
    rw [copied, overwrite_replicate size]
    rfl
  rw [read]
  rfl

/-- When nobody writes the memory, the reader copies what `Core.Slot` says it does. -/
theorem computes_copyPayload
    (inside : ∀ length range, region.layout.slotPayloadRange index length = .ok range →
      range.2 ≤ memory.length) :
    Computes (ofMemory memory)
      (copyPayload (fun _ => true) region index expectedSequence)
      (region.copyPayload memory index expectedSequence) := by
  refine computes_observeSlot.bind fun observation => ?_
  refine Computes.ofRun_bind fun range found => ?_
  have found := mapError_eq_ok.mp found
  obtain ⟨_, -, -, -, stop, -⟩ := slotPayloadRange_eq_ok found
  have room := inside _ _ found
  have size : range.1 + (range.2 - range.1) = range.2 := by omega
  have copied : Computes (ofMemory memory)
      (copyOwned range.1 (range.2 - range.1) : Reading Unit BindingError Bytes)
      (.ok (memory.extract range.1 (range.1 + (range.2 - range.1)))) :=
    computes_copyOwned (by omega)
  rw [size] at copied
  have rest : Computes (ofMemory memory) (copyOwned range.1 (range.2 - range.1) >>= fun owned =>
        recheckSlot region index observation >>= fun _ => pure owned :
        Reading Unit BindingError Bytes)
      (.ok (memory.extract range.1 range.2) >>= fun owned =>
        region.recheck memory index observation >>= fun _ => pure owned) :=
    copied.bind fun owned => computes_recheckSlot.bind fun _ => Computes.pure owned
  exact fun s => rest s

end Memory

/-! ### The guarantees of the reader -/

/-- The load reads bytes of the slot's record or of its payload only. -/
def InSlot (layout : ValidatedRegionLayout t) (index : UInt32) (load : Load) : Prop :=
  (∃ record, layout.slotRange index = .ok record ∧
    load.Within (record.1, record.1 + slotHeaderSize)) ∨
  ∃ range, layout.slotPayloadRange index layout.header.payloadCapacity = .ok range ∧
    load.Within range

/-- What a reader that returned `payload` has loaded: the record, the payload byte by byte and the
    record again. Both times the sequence was the expected one, the generation the layout's, and
    the length the same. -/
structure Accepted (layout : ValidatedRegionLayout t) (index : UInt32) (expectedSequence : UInt64)
    (payload : Bytes) (log : List Loaded) (record range : Nat × Nat)
    (before after : MetadataValues) : Prop where
  recordRange : layout.slotRange index = .ok record
  payloadRange : layout.slotPayloadRange index before.length = .ok range
  loads : log = before.loads record.1 ++ (payloadLoads range.1 payload ++ after.loads record.1)
  sequences : before.sequence = expectedSequence ∧ after.sequence = expectedSequence
  generations : before.boundGeneration = layout.header.generation ∧
    before.generation = layout.header.generation ∧
    after.boundGeneration = layout.header.generation ∧
    after.generation = layout.header.generation
  lengths : before.length = after.length ∧ before.length ≤ layout.header.payloadCapacity
  size : payload.length = before.length.toNat

theorem Copied.accepted {payload : Bytes}
    (copied : Copied region index expectedSequence start binding length range payload log) :
    ∃ record range before after, Accepted region.layout index expectedSequence payload log record
      range before after := by
  obtain ⟨record, found, rfl, generation, capacity⟩ := slotRecord_eq_ok copied.record
  obtain ⟨_, -, -, -, stop, -⟩ := slotPayloadRange_eq_ok copied.payloadRange
  have fits := copied.fits
  rw [capacity] at fits
  have size : payload.length = length.toNat := by
    rw [copied.size]
    omega
  exact ⟨record, range, _, _, ⟨found, copied.payloadRange, copied.loads, ⟨rfl, rfl⟩,
    ⟨generation, generation, generation, generation⟩, ⟨rfl, fits⟩, size⟩⟩

theorem recordLoads_inSlot {bound : Nat × SlotBinding}
    (found : slotRecord region index = .ok bound) :
    RecordLoads (InSlot region.layout index) bound.1 := by
  obtain ⟨record, given, same, -⟩ := slotRecord_eq_ok found
  rw [same]
  refine ⟨.inl ⟨record, given, ?_⟩, .inl ⟨record, given, ?_⟩, .inl ⟨record, given, ?_⟩⟩
  · simp [Load.Within, Load.span, slotHeaderSize]
  · simp [Load.Within, Load.span, slotHeaderSize, publishedSequenceOffset]
  · simp [Load.Within, Load.span, slotHeaderSize, payloadLenOffset]

theorem payload_inSlot {region : RegionLayout t} {size : Nat}
    (layout : bound.layout = region.validated size routes)
    (found : bound.layout.slotPayloadRange index length = .ok range) {i : Nat}
    (low : i < range.2 - range.1) : InSlot bound.layout index (.u8 (range.1 + i)) := by
  obtain ⟨record, given, fits, start, stop, -⟩ := slotPayloadRange_eq_ok found
  obtain ⟨valid, rfl⟩ := BoundRegion.slotRange_eq_ok layout given
  have fits := UInt32.le_iff_toNat_le.mp fits
  rw [layout, header_validated] at fits
  have whole : bound.layout.slotPayloadRange index bound.layout.header.payloadCapacity =
      .ok (region.header.slotStart index.toNat + slotHeaderSize,
        region.header.slotStart index.toNat + slotHeaderSize +
          region.header.payloadCapacity.toNat) := by
    rw [layout, region.slotPayloadRange_validated, header_validated,
      if_pos (UInt32.le_refl _), if_pos valid]
  simp only [slotSpan] at start
  refine .inr ⟨_, whole, ?_⟩
  simp only [Load.Within, Load.span]
  omega

/-- Whatever its loads return, the reader loads only the slot, returns a payload only between two
    loads of the expected record, copies the same into a vector and into a destination, and leaves
    the destination past the length it loaded. -/
theorem reader_withstands_hostile_writer {initial : Bytes} {expected : ValidationExpectations}
    {described topology : RegionSetLayout t} {layout : ValidatedRegionLayout t}
    {bound : BoundRegion t} {base mappingLen : Nat}
    (validated : ValidatedRegionLayout.validate initial expected described = .ok layout)
    (binds : BoundRegion.new base mappingLen layout topology = .ok bound)
    (slot : UInt32) (expectedSequence : UInt64) :
    (∀ reserves log next,
      Proc.Runs (copyPayload reserves bound slot expectedSequence ()) log next →
      ∀ loaded ∈ log, InSlot layout slot loaded.1) ∧
    (∀ destination log next,
      Proc.Runs (copyPayloadInto bound slot expectedSequence destination) log next →
      ∀ loaded ∈ log, InSlot layout slot loaded.1) ∧
    (∀ reserves log payload,
      Op.Returns (copyPayload reserves bound slot expectedSequence) () log (.ok payload) () →
      ∃ record range before after,
        Accepted layout slot expectedSequence payload log record range before after) ∧
    (∀ destination log copied after,
      Op.Returns (copyPayloadInto bound slot expectedSequence) destination log (.ok copied) after →
      ∃ record range before later, copied ≤ after.length ∧
        Accepted layout slot expectedSequence (after.take copied) log record range before later) ∧
    (∀ (reserves : Nat → Bool) log (payload destination : Bytes), (∀ len, reserves len = true) →
      payload.length ≤ destination.length →
      (Op.Returns (copyPayload reserves bound slot expectedSequence) () log (.ok payload) () ↔
        ∃ after, Op.Returns (copyPayloadInto bound slot expectedSequence) destination log
          (.ok payload.length) after ∧ payload <+: after)) ∧
    ∀ destination log result after,
      Op.Returns (copyPayloadInto bound slot expectedSequence) destination log result after →
      KeepsFrom ((lengthLoaded log).elim 0 UInt32.toNat) destination after := by
  obtain ⟨region, -, -, -, -, -, shape⟩ := validate_eq_ok.mp validated
  obtain ⟨-, rfl⟩ := BoundRegion.new_eq_ok binds
  have record : ∀ found, slotRecord bound slot = .ok found →
      RecordLoads (InSlot bound.layout slot) found.1 := fun _ => recordLoads_inSlot
  have payload : ∀ length range, bound.layout.slotPayloadRange slot length = .ok range →
      ∀ i < range.2 - range.1, InSlot bound.layout slot (.u8 (range.1 + i)) :=
    fun _ _ found _ low => payload_inSlot shape found low
  refine ⟨?_, ?_, ?_, ?_, ?_, ?_⟩
  · intro reserves log next runs loaded member
    obtain ⟨before, after, rfl⟩ := List.append_of_mem member
    exact runs.guarded (wp_copyPayload record payload)
  · intro destination log next runs loaded member
    obtain ⟨before, after, rfl⟩ := List.append_of_mem member
    exact runs.guarded (wp_copyPayloadInto record payload)
  · intro reserves log payload runs
    obtain ⟨_, _, _, _, copied, -⟩ := copyPayload_ok.mp runs
    exact copied.accepted
  · intro destination log copied after runs
    obtain ⟨_, _, _, _, payload, copied, rfl, room, rfl⟩ := copyPayloadInto_ok.mp runs
    obtain ⟨record, range, before, later, accepted⟩ := copied.accepted
    refine ⟨record, range, before, later, ?_, ?_⟩
    · rw [length_overwrite (by omega)]
      exact room
    · simpa [overwrite] using accepted
  · intro reserves log payload destination always room
    rw [copyPayload_ok]
    simp only [copyPayloadInto_ok]
    constructor
    · rintro ⟨start, binding, length, range, copied, -⟩
      refine ⟨_, ⟨start, binding, length, range, payload, copied, rfl, room, rfl⟩, ?_⟩
      simp [overwrite]
    · rintro ⟨_, ⟨start, binding, length, range, other, copied, same, -, rfl⟩, starts⟩
      have equal : payload = other := by
        refine List.IsPrefix.eq_of_length ?_ same
        exact List.prefix_of_prefix_length_le starts (by simp [overwrite]) (Nat.le_of_eq same)
      subst equal
      exact ⟨start, binding, length, range, copied, always _⟩
  · intro destination log result after runs
    exact copyPayloadInto_keeps runs

/-- A payload range ends inside a mapping of the region. -/
theorem payloadRange_inside {region : RegionLayout t} {size : Nat}
    (layout : bound.layout = region.validated size routes) {memory : Bytes}
    (whole : bound.layout.header.totalSize.toNat ≤ memory.length)
    (found : bound.layout.slotPayloadRange index length = .ok range) : range.2 ≤ memory.length := by
  obtain ⟨record, given, -, -, -, inside⟩ := slotPayloadRange_eq_ok found
  obtain ⟨valid, rfl⟩ := BoundRegion.slotRange_eq_ok layout given
  rw [layout, header_validated] at whole
  have slotEnd := region.canonical.slotEnd_le (UInt32.lt_iff_toNat_lt.mp valid)
  simp only [slotSpan] at inside
  omega

/-- The sample's first payload, read from the memory it was published in. -/
theorem reader_withstands_hostile_writer_sample :
    ∃ (layout : ValidatedRegionLayout .w64) (log : List Loaded) (record range : Nat × Nat)
      (before after : MetadataValues),
      Op.Returns (copyPayload (fun _ => true) Sample.requestRegion 0 1) () log (.ok [1, 2, 3]) () ∧
      Accepted layout 0 1 [1, 2, 3] log record range before after := by
  have bound : Sample.bind Sample.requests = .ok Sample.requestRegion := eq_ok_get _
  simp only [Sample.bind, bind_eq_ok, mapError_eq_ok] at bound
  obtain ⟨layout, validated, binds⟩ := bound
  obtain ⟨-, -, -, copies, -⟩ := Sample.calls
  obtain ⟨region, -, -, -, -, -, shape⟩ := validate_eq_ok.mp validated
  have whole : Sample.requestRegion.layout.header.totalSize.toNat ≤
      (Sample.observed.memory Sample.requests).length := by
    decide +kernel
  obtain ⟨-, same⟩ := BoundRegion.new_eq_ok binds
  have computes : Computes (Load.ofMemory (Sample.observed.memory Sample.requests))
      (copyPayload (fun _ => true) Sample.requestRegion 0 1)
      (Sample.requestRegion.copyPayload (Sample.observed.memory Sample.requests) 0 1) :=
    computes_copyPayload fun _ _ found => payloadRange_inside (same.trans shape) whole found
  rw [copies] at computes
  obtain ⟨log, runs⟩ := computes.returns ()
  obtain ⟨-, -, accepts, -⟩ := reader_withstands_hostile_writer validated binds 0 1
  obtain ⟨record, range, before, after, accepted⟩ := accepts _ log _ runs
  exact ⟨layout, log, record, range, before, after, runs, accepted⟩

end Hostile

end NativeIpc.Core
