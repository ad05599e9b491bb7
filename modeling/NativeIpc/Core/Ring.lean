import NativeIpc.Core.SlotMemory
import NativeIpc.Lib.Trace

/-!
# The slot ring protocol

All regions of a composed topology, each written by its one writer, under any
interleaving of publications, copies, observations, rechecks and
acknowledgements. Callers keep every observation they were given and may
supply any of them again at any time, also those they kept from other
generations. The history of a slot is the list of its publications, and the
invariant ties the words of the slot record to the last of them.
-/

namespace NativeIpc.Core

open NativeIpc.Lib Bytes Run List BoundRegion
open Function

variable {t : Target}

/-! ### One slot and its publications -/

/-- The record of a slot agrees with the publications made in it, oldest first:
    their sequences are `slot + 1`, `slot + 1 + count`, …, and the words hold the
    last one. -/
structure SlotHolds (header : RegionHeader) (bytes : Bytes) (slot : Nat)
    (publications : List (UInt64 × Bytes)) : Prop where
  sequences : publications.map (·.1.toNat) =
    (List.range publications.length).map fun k => slot + 1 + k * header.slotCount.toNat
  current : header.sequenceOf bytes slot = (publications.getLast?.map Prod.fst).getD 0
  payload : ∀ last, publications.getLast? = some last →
    header.payloadLenOf bytes slot = UInt32.ofNat last.2.length ∧
      last.2.length ≤ header.payloadCapacity.toNat ∧
      header.payloadOf bytes slot last.2.length = last.2

variable {sequence : UInt64} {route : AcknowledgementRoute} {payload bytes : Bytes}
    {owner role : RoleId} {bound : BoundRegion t} {slot : UInt32}

open BoundRegion RegionHeader

namespace SlotHolds

variable {header : RegionHeader} {bytes : Bytes} {slot : Nat}
  {publications : List (UInt64 × Bytes)}

section

variable (holds : SlotHolds header bytes slot publications)
include holds

/-- The `k`-th publication of a slot has the `k`-th sequence of the slot. -/
theorem sequence_at {k : Nat}
    {publication : UInt64 × Bytes} (hk : publications[k]? = some publication) :
    publication.1.toNat = slot + 1 + k * header.slotCount.toNat := by
  obtain ⟨hlt, rfl⟩ := List.getElem?_eq_some_iff.mp hk
  have h := congrArg (·[k]?) holds.sequences
  simpa [hlt] using h

/-- The last sequence determines how many publications there were. -/
theorem last_toNat (hlast : publications.getLast?.map Prod.fst = some sequence) :
    sequence.toNat = slot + 1 + (publications.length - 1) * header.slotCount.toNat := by
  obtain ⟨last, hsome, rfl⟩ := Option.map_eq_some_iff.mp hlast
  exact holds.sequence_at (by rw [← hsome, getLast?_eq_getElem?])

theorem getLast?_of_current (nonempty : publications ≠ []) :
    publications.getLast?.map Prod.fst = some (header.sequenceOf bytes slot) := by
  rw [holds.current, getLast?_eq_some_getLast nonempty]
  rfl

theorem current_toNat (nonempty : publications ≠ []) :
    (header.sequenceOf bytes slot).toNat =
      slot + 1 + (publications.length - 1) * header.slotCount.toNat :=
  holds.last_toNat (holds.getLast?_of_current nonempty)

theorem current_eq_zero_iff : header.sequenceOf bytes slot = 0 ↔ publications = [] := by
  constructor
  · intro hzero
    by_contra nonempty
    have h := holds.current_toNat nonempty
    rw [hzero, UInt64.toNat_zero] at h
    omega
  · rintro rfl
    exact holds.current

end

variable {bytes' : Bytes}

/-- Writes outside the record do not matter. -/
theorem of_record_unchanged {t : Target} (canonical : header.Canonical t)
    (holds : SlotHolds header bytes slot publications) (same : ∀ a b, header.slotStart slot ≤ a →
      b ≤ header.slotStart slot + header.slotStride.toNat →
        bytes'.extract a b = bytes.extract a b) : SlotHolds header bytes' slot publications := by
  have hstride := canonical.stride_ge
  rw [slotHeaderSize] at hstride
  have hsequence : header.sequenceOf bytes' slot = header.sequenceOf bytes slot := by
    rw [sequenceOf, loadU64, publishedSequenceOffset, same _ _ (by omega) (by omega)]
    rfl
  have hlen : header.payloadLenOf bytes' slot = header.payloadLenOf bytes slot := by
    rw [payloadLenOf, loadU32, payloadLenOffset, same _ _ (by omega) (by omega)]
    rfl
  refine ⟨holds.sequences, hsequence.trans holds.current, ?_⟩
  intro last hlast
  obtain ⟨hlen', hcapacity, hpayload⟩ := holds.payload last hlast
  refine ⟨hlen.trans hlen', hcapacity, ?_⟩
  have hend := canonical.payloadEnd_le hcapacity slot
  rw [payloadOf, same _ _ (by omega) hend]
  exact hpayload

/-- An allowed publication extends the history of its slot. -/
theorem publish {region : RegionLayout t} {index : UInt32}
    {acknowledgement : Option AcknowledgementObservation}
    (holds : SlotHolds region.header bytes index.toNat publications)
    (fits : region.header.totalSize.toNat ≤ bytes.length)
    (hslot : index.toNat < region.header.slotCount.toNat)
    (hpayload : payload.length ≤ region.header.payloadCapacity.toNat)
    (may : MayPublish region route bytes index sequence acknowledgement) :
    SlotHolds region.header
      (publishedBytes region.header bytes index.toNat sequence payload) index.toNat
      (publications ++ [(sequence, payload)]) := by
  have canonical := region.canonical
  have hnext : sequence.toNat =
      index.toNat + 1 + publications.length * region.header.slotCount.toNat := by
    rcases may with ⟨hzero, hfirst⟩ | ⟨hcurrent, hreuse, -⟩
    · rw [holds.current_eq_zero_iff.mp hzero, hfirst]
      simp
    · have nonempty : publications ≠ [] := fun h => hcurrent (holds.current_eq_zero_iff.mpr h)
      have hpos : 0 < publications.length := length_pos_iff.mpr nonempty
      obtain ⟨n, hn⟩ : ∃ n, publications.length = n + 1 := ⟨publications.length - 1, by omega⟩
      rw [hreuse, holds.current_toNat nonempty, hn, Nat.add_sub_cancel, Nat.succ_mul]
      omega
  refine ⟨?_, ?_, ?_⟩
  · rw [map_append, holds.sequences, length_append, length_singleton, range_succ, map_append]
    simp [hnext]
  · rw [canonical.sequenceOf_publishedBytes fits hslot hpayload, getLast?_concat]
    rfl
  · intro last hlast
    rw [getLast?_concat] at hlast
    cases hlast
    exact ⟨canonical.payloadLenOf_publishedBytes fits hslot hpayload sequence, hpayload,
      canonical.payloadOf_publishedBytes fits hslot hpayload sequence⟩

section

variable (holds : SlotHolds header bytes slot publications)
include holds

/-- What a copy returns is the payload of the publication with that sequence. -/
theorem payloadOf_eq
    (hpos : 0 < sequence.toNat) (hsequence : header.sequenceOf bytes slot = sequence) :
    (sequence, header.payloadOf bytes slot (header.payloadLenOf bytes slot).toNat) ∈
      publications := by
  have nonempty : publications ≠ [] := by
    intro hnil
    rw [holds.current_eq_zero_iff.mpr hnil] at hsequence
    rw [← hsequence, UInt64.toNat_zero] at hpos
    omega
  have hlast := getLast?_eq_some_getLast nonempty
  obtain ⟨hlen, hcapacity, hpayload⟩ := holds.payload _ hlast
  have hcurrent := holds.current
  rw [hlast, hsequence] at hcurrent
  have hfits : (publications.getLast nonempty).2.length < 2 ^ 32 :=
    Nat.lt_of_le_of_lt hcapacity header.payloadCapacity.toNat_lt
  rw [hlen, UInt32.toNat_ofNat_of_lt' hfits, hpayload, hcurrent]
  exact getLast_mem nonempty

/-- A sequence belongs to one slot and one round. -/
theorem eq_of_last {slot' : Nat} {publications' : List (UInt64 × Bytes)}
    (holds' : SlotHolds header bytes' slot' publications')
    (hslot : slot < header.slotCount.toNat) (hslot' : slot' < header.slotCount.toNat)
    (hlast : publications.getLast?.map Prod.fst = some sequence)
    (hlast' : publications'.getLast?.map Prod.fst = some sequence) :
    slot = slot' ∧ publications.length = publications'.length := by
  have hfirst := holds.last_toNat hlast
  have hsecond := holds'.last_toNat hlast'
  have hsum : slot + (publications.length - 1) * header.slotCount.toNat =
      slot' + (publications'.length - 1) * header.slotCount.toNat := by omega
  have hsame : slot = slot' := by
    have hmod := congrArg (· % header.slotCount.toNat) hsum
    simpa only [Nat.add_mul_mod_self_right, Nat.mod_eq_of_lt hslot, Nat.mod_eq_of_lt hslot']
      using hmod
  have hround : publications.length - 1 = publications'.length - 1 :=
    Nat.eq_of_mul_eq_mul_right (by omega) (by omega : _ * header.slotCount.toNat = _)
  obtain ⟨last, hsome, -⟩ := Option.map_eq_some_iff.mp hlast
  obtain ⟨last', hsome', -⟩ := Option.map_eq_some_iff.mp hlast'
  have hpos := length_pos_of_mem (mem_of_getLast? hsome)
  have hpos' := length_pos_of_mem (mem_of_getLast? hsome')
  exact ⟨hsame, by omega⟩

/-- A sequence is published at most once. -/
theorem eq_of_mem (hcount : 0 < header.slotCount.toNat) {a b : Bytes}
    (ha : (sequence, a) ∈ publications) (hb : (sequence, b) ∈ publications) : a = b := by
  obtain ⟨i, hi⟩ := mem_iff_getElem?.mp ha
  obtain ⟨j, hj⟩ := mem_iff_getElem?.mp hb
  have hij : i * header.slotCount.toNat = j * header.slotCount.toNat := by
    have hfirst : sequence.toNat = _ := holds.sequence_at hi
    have hsecond : sequence.toNat = _ := holds.sequence_at hj
    omega
  obtain rfl := Nat.eq_of_mul_eq_mul_right hcount hij
  cases hi.symm.trans hj
  rfl

end

end SlotHolds

/-! ### The system -/

/-- A region of the topology has this generation. -/
def RegionSetLayout.HasGeneration (topology : RegionSetLayout t) (generation : UInt64) : Prop :=
  ∃ region ∈ topology.regions, region.header.generation = generation

/-- A composed topology with the mapping of each role as it was validated, and any
    observations of other generations that callers still hold. -/
structure Composition (t : Target) where
  topology : RegionSetLayout t
  initial : RoleId → Bytes
  expected : RoleId → ValidationExpectations
  expected_role : ∀ role, (expected role).role = role
  retained : List SlotObservation
  retainedAcknowledgements : List AcknowledgementObservation
  retained_stale : ∀ observation ∈ retained, ¬ topology.HasGeneration observation.generation
  retainedAcknowledgements_stale : ∀ observation ∈ retainedAcknowledgements,
    ¬ topology.HasGeneration observation.generation

/-- `bound` is a region of the composition: its layout is the validated one and
    the mapping has the validated size. -/
structure Composition.Binds (c : Composition t) (role : RoleId) (bound : BoundRegion t) : Prop where
  validated : ValidatedRegionLayout.validate (c.initial role) (c.expected role) c.topology =
    .ok bound.layout
  topology : bound.topology = c.topology

/-- The shared mappings and the observations that callers hold. -/
structure World where
  memory : RoleId → Bytes
  slotObservations : List SlotObservation
  acknowledgementObservations : List AcknowledgementObservation

/-- The world after a write to one mapping. -/
def World.write (world : World) (role : RoleId) (bytes : Bytes) : World :=
  { world with memory := Function.update world.memory role bytes }

open World

theorem World.write_self (world : World) (role : RoleId) :
    world.write role (world.memory role) = world := by
  simp [write]

/-- A completed call and its result. -/
inductive Event where
  | published (role : RoleId) (slot : UInt32) (sequence : UInt64) (payload : Bytes)
  | copied (role : RoleId) (slot : UInt32) (sequence : UInt64) (payload : Bytes)
  | observed (role : RoleId) (slot : UInt32) (observation : SlotObservation)
  | rechecked (role : RoleId) (slot : UInt32) (observation : SlotObservation)
  | acknowledged (owner target : RoleId) (slot : UInt32) (observation : SlotObservation)
  | cellObserved (owner target : RoleId) (slot : UInt32)
      (observation : AcknowledgementObservation)
  | failed (role : RoleId)

/-- One atomic call by the region's writer or by a reader. -/
inductive Composition.Step (c : Composition t) : World → Event → World → Prop
  | publish {world : World} {role : RoleId} {bound : BoundRegion t} {slot : UInt32}
      {sequence : UInt64} {acknowledgement : Option AcknowledgementObservation}
      {payload bytes : Bytes} (binds : c.Binds role bound)
      (held : ∀ observation, acknowledgement = some observation →
        observation ∈ world.acknowledgementObservations)
      (call : bound.publish (world.memory role) slot sequence acknowledgement payload =
        (.ok (), bytes)) :
      c.Step world (.published role slot sequence payload) (world.write role bytes)
  | publishFailed {world : World} {role : RoleId} {bound : BoundRegion t} {slot : UInt32}
      {sequence : UInt64} {acknowledgement : Option AcknowledgementObservation}
      {payload bytes : Bytes} {stop : Stop BindingError} (binds : c.Binds role bound)
      (call : bound.publish (world.memory role) slot sequence acknowledgement payload =
        (.error stop, bytes)) :
      c.Step world (.failed role) (world.write role bytes)
  | copyPayload {world : World} {role : RoleId} {bound : BoundRegion t} {slot : UInt32}
      {sequence : UInt64} {payload : Bytes} (binds : c.Binds role bound)
      (call : bound.copyPayload (world.memory role) slot sequence = .ok payload) :
      c.Step world (.copied role slot sequence payload) world
  | observe {world : World} {role : RoleId} {bound : BoundRegion t} {slot : UInt32}
      {sequence : UInt64} {observation : SlotObservation} (binds : c.Binds role bound)
      (call : bound.observe (world.memory role) slot sequence = .ok observation) :
      c.Step world (.observed role slot observation)
        { world with slotObservations := observation :: world.slotObservations }
  | recheck {world : World} {role : RoleId} {bound : BoundRegion t} {slot : UInt32}
      {observation : SlotObservation} (binds : c.Binds role bound)
      (held : observation ∈ world.slotObservations)
      (call : bound.recheck (world.memory role) slot observation = .ok ()) :
      c.Step world (.rechecked role slot observation) world
  | acknowledge {world : World} {owner target : RoleId} {bound : BoundRegion t} {slot : UInt32}
      {observation : SlotObservation} {bytes : Bytes} (binds : c.Binds owner bound)
      (held : observation ∈ world.slotObservations)
      (call : bound.acknowledge (world.memory owner) target slot observation = (.ok (), bytes)) :
      c.Step world (.acknowledged owner target slot observation) (world.write owner bytes)
  | acknowledgeFailed {world : World} {owner target : RoleId} {bound : BoundRegion t}
      {slot : UInt32} {observation : SlotObservation} {bytes : Bytes}
      {stop : Stop AcknowledgeError} (binds : c.Binds owner bound)
      (held : observation ∈ world.slotObservations)
      (call : bound.acknowledge (world.memory owner) target slot observation =
        (.error stop, bytes)) :
      c.Step world (.failed owner) (world.write owner bytes)
  | observeAcknowledgement {world : World} {owner target : RoleId} {bound : BoundRegion t}
      {slot : UInt32} {observation : AcknowledgementObservation} (binds : c.Binds owner bound)
      (call : bound.observeAcknowledgement (world.memory owner) target slot = .ok observation) :
      c.Step world (.cellObserved owner target slot observation)
        { world with
          acknowledgementObservations := observation :: world.acknowledgementObservations }
  | readFailed {world : World} (role : RoleId) : c.Step world (.failed role) world

/-- The quiescent mappings, before any call. -/
def Composition.start (c : Composition t) : World :=
  ⟨c.initial, c.retained, c.retainedAcknowledgements⟩

/-- The events of a run of the composition. -/
abbrev Composition.Runs (c : Composition t) : List Event → World → Prop := Trace c.Step c.start

/-- The publications in one slot, oldest first. -/
def publications (role : RoleId) (slot : Nat) (events : List Event) : List (UInt64 × Bytes) :=
  events.filterMap fun
    | .published role' slot' sequence payload =>
      if role' = role ∧ slot'.toNat = slot then some (sequence, payload) else none
    | _ => none

/-- At some point of the run the acknowledgement cell held exactly this value. -/
def Composition.CellHeld (c : Composition t) (events : List Event) (owner : RoleId)
    (cell : UInt32) (value : UInt64) : Prop :=
  ∃ earlier later world, events = earlier ++ later ∧ c.Runs earlier world ∧
    cellOf (world.memory owner) cell.toNat = value

theorem publications_append (role : RoleId) (slot : Nat) (a b : List Event) :
    publications role slot (a ++ b) = publications role slot a ++ publications role slot b :=
  filterMap_append

variable {c : Composition t}

theorem Composition.CellHeld.append {events : List Event}
    {cell : UInt32} {value : UInt64} (held : c.CellHeld events owner cell value)
    (more : List Event) : c.CellHeld (events ++ more) owner cell value := by
  obtain ⟨earlier, later, world, rfl, runs, hvalue⟩ := held
  exact ⟨earlier, later ++ more, world, append_assoc _ _ _, runs, hvalue⟩

/-- A bound region is a region of the topology with its initial image. -/
theorem Composition.Binds.region (binds : c.Binds role bound) :
    ∃ region : RegionLayout t, region.role = role ∧
      bound.layout = region.validated (c.initial role).length c.topology.routes ∧
      region.header.totalSize.toNat ≤ (c.initial role).length ∧
      region.header.Initial (c.initial role) := by
  obtain ⟨region, found, -, fits, -, initial, hlayout⟩ := validate_eq_ok.mp binds.validated
  rw [c.expected_role] at found
  exact ⟨region, findRegion_role found, hlayout, fits, initial⟩

theorem Composition.Binds.hasGeneration (binds : c.Binds role bound) :
    c.topology.HasGeneration bound.layout.header.generation := by
  obtain ⟨region, found, -, -, -, -, hlayout⟩ := validate_eq_ok.mp binds.validated
  exact ⟨region, mem_of_find?_eq_some found, by rw [hlayout]; rfl⟩

theorem Composition.Binds.layout_unique
    {a b : BoundRegion t} (ha : c.Binds role a) (hb : c.Binds role b) : a.layout = b.layout :=
  Except.ok.inj (ha.validated.symm.trans hb.validated)

/-! ### The invariant -/

/-- What holds after every run; the observations of other generations say nothing. -/
structure Composition.Invariant (c : Composition t) (events : List Event) (world : World) :
    Prop where
  sizes : ∀ role bound, c.Binds role bound →
    (world.memory role).length = (c.initial role).length
  slots : ∀ role bound, c.Binds role bound → ∀ slot < bound.layout.header.slotCount.toNat,
    SlotHolds bound.layout.header (world.memory role) slot (publications role slot events)
  observations : ∀ observation ∈ world.slotObservations,
    c.topology.HasGeneration observation.generation → ∃ earlier later,
    events = earlier ++ .observed observation.role observation.slotIndex observation :: later ∧
      (publications observation.role observation.slotIndex.toNat earlier).getLast?.map Prod.fst =
        some observation.sequence
  acknowledgements : ∀ observation ∈ world.acknowledgementObservations,
    c.topology.HasGeneration observation.generation →
    c.CellHeld events observation.owner observation.cellIndex observation.sequence ∧
      ∃ bound, c.Binds observation.owner bound ∧
        observation.cellIndex < bound.layout.header.acknowledgementCount
  cells : ∀ owner bound, c.Binds owner bound →
    ∀ cell < bound.layout.header.acknowledgementCount.toNat,
      cellOf (world.memory owner) cell = 0 ∨
        ∃ observation ∈ world.slotObservations,
          c.topology.HasGeneration observation.generation ∧
          observation.sequence = cellOf (world.memory owner) cell ∧
          ∃ route, c.topology.acknowledgementRoute observation.role observation.slotIndex =
            some route ∧ route.owner = owner ∧ route.cellIndex.toNat = cell

namespace Composition

variable {c : Composition t} {events : List Event} {world : World}
  {region : RegionLayout t}

/-- The words of an unpublished slot are zero. -/
theorem slotHolds_initial (fits : region.header.totalSize.toNat ≤ bytes.length)
    (initial : region.header.Initial bytes) {slot : Nat}
    (hslot : slot < region.header.slotCount.toNat) : SlotHolds region.header bytes slot [] := by
  refine ⟨rfl, ?_, by simp⟩
  have canonical := region.canonical
  obtain ⟨-, -, -, slots⟩ := (canonical.initial_iff fits).mp initial
  have hstride := canonical.stride_ge
  refine loadU64_eq_zero ?_
  intro inner hinner
  have hword := slots slot hslot (16 + inner) (by rw [slotHeaderSize]; omega)
  rw [imageAt, canonical.imageUpto_slot _ (by rw [slotHeaderSize] at hstride; omega),
    if_neg (by omega)] at hword
  rw [publishedSequenceOffset, Nat.add_assoc, hword]

theorem cell_initial (fits : region.header.totalSize.toNat ≤ bytes.length)
    (initial : region.header.Initial bytes) {cell : Nat}
    (hcell : cell < region.header.acknowledgementCount.toNat) : cellOf bytes cell = 0 := by
  have canonical := region.canonical
  obtain ⟨-, cells, -, -⟩ := (canonical.initial_iff fits).mp initial
  have htotal := canonical.totalSize_eq
  have hslots := canonical.slotsOffset_eq
  rw [all_zero_extract _ (by omega)] at cells
  rw [acknowledgementCellSize] at hslots
  refine loadU64_eq_zero ?_
  intro inner hinner
  rw [cellStart, acknowledgementCellSize, cells _ (by omega) (by omega)]

theorem invariant_start (c : Composition t) : c.Invariant [] c.start := by
  refine ⟨fun _ _ _ => rfl, ?_, fun observation held fresh =>
    (c.retained_stale observation held fresh).elim, fun observation held fresh =>
    (c.retainedAcknowledgements_stale observation held fresh).elim, ?_⟩
  · intro role bound binds slot hslot
    obtain ⟨region, -, hlayout, fits, initial⟩ := binds.region
    rw [hlayout] at hslot ⊢
    exact slotHolds_initial fits initial hslot
  · intro owner bound binds cell hcell
    obtain ⟨region, -, hlayout, fits, initial⟩ := binds.region
    rw [hlayout] at hcell
    exact .inl (cell_initial fits initial hcell)

/-! ### Steps keep the invariant -/

/-- An observation stays where it was made when the history grows. -/
theorem Invariant.observations_append (inv : c.Invariant events world) (more : List Event)
    {observation : SlotObservation} (held : observation ∈ world.slotObservations)
    (fresh : c.topology.HasGeneration observation.generation) :
    ∃ earlier later, events ++ more =
        earlier ++ .observed observation.role observation.slotIndex observation :: later ∧
      (publications observation.role observation.slotIndex.toNat earlier).getLast?.map Prod.fst =
        some observation.sequence := by
  obtain ⟨earlier, later, rfl, hlast⟩ := inv.observations observation held fresh
  exact ⟨earlier, later ++ more, by simp, hlast⟩

variable {observation : AcknowledgementObservation}

theorem Invariant.acknowledgements_append (inv : c.Invariant events world) (more : List Event)
    (held : observation ∈ world.acknowledgementObservations)
    (fresh : c.topology.HasGeneration observation.generation) :
    c.CellHeld (events ++ more) observation.owner observation.cellIndex observation.sequence ∧
      ∃ bound, c.Binds observation.owner bound ∧
        observation.cellIndex < bound.layout.header.acknowledgementCount :=
  (inv.acknowledgements observation held fresh).imp_left fun h => h.append more

/-- A call that publishes nothing and changes nothing. -/
theorem Invariant.quiet (inv : c.Invariant events world) (event : Event)
    (quiet : ∀ role slot, publications role slot [event] = []) :
    c.Invariant (events ++ [event]) world := by
  refine ⟨inv.sizes, ?_, fun _ held => inv.observations_append [event] held,
    fun _ held => inv.acknowledgements_append [event] held, inv.cells⟩
  intro role bound binds slot hslot
  rw [publications_append, quiet, append_nil]
  exact inv.slots role bound binds slot hslot

/-- The new slot observation was made on the slot's last publication. -/
theorem Invariant.observe (inv : c.Invariant events world) {observation : SlotObservation}
    (binds : c.Binds role bound)
    (call : bound.observe (world.memory role) slot sequence = .ok observation) :
    c.Invariant (events ++ [.observed role slot observation])
      { world with slotObservations := observation :: world.slotObservations } := by
  obtain ⟨region, rfl, hlayout, -, -⟩ := binds.region
  obtain ⟨hslot, hrole, hindex, -, hsequence, hpos, hcurrent, -⟩ :=
    observe_eq_ok hlayout call
  have next := inv.quiet (.observed region.role slot observation) fun _ _ => rfl
  refine ⟨next.sizes, next.slots, ?_, next.acknowledgements, ?_⟩
  · intro other held fresh
    rcases mem_cons.mp held with rfl | held
    · have holds := inv.slots _ bound binds slot.toNat (by
        rw [hlayout]
        exact UInt32.lt_iff_toNat_lt.mp hslot)
      rw [hlayout, region.header_validated] at holds
      have nonempty : publications region.role slot.toNat events ≠ [] := by
        intro hnil
        rw [← hcurrent, holds.current_eq_zero_iff.mpr hnil, UInt64.toNat_zero] at hpos
        omega
      refine ⟨events, [], by rw [hrole, hindex], ?_⟩
      rw [hrole, hindex, hsequence, ← hcurrent]
      exact holds.getLast?_of_current nonempty
    · exact next.observations other held fresh
  · intro owner bound' binds' cell hcell
    rcases next.cells owner bound' binds' cell hcell with hzero | ⟨other, held, hvalue⟩
    · exact .inl hzero
    · exact .inr ⟨other, mem_cons_of_mem _ held, hvalue⟩

variable {target : RoleId}

/-- The new acknowledgement observation is what the cell holds now. -/
theorem Invariant.observeAcknowledgement (runs : c.Runs events world)
    (inv : c.Invariant events world) (binds : c.Binds owner bound)
    (call : bound.observeAcknowledgement (world.memory owner) target slot = .ok observation) :
    c.Invariant (events ++ [.cellObserved owner target slot observation])
      { world with
        acknowledgementObservations := observation :: world.acknowledgementObservations } := by
  obtain ⟨region, rfl, hlayout, -, -⟩ := binds.region
  obtain ⟨howner, hcell, hsequence⟩ := observeAcknowledgement_eq_ok hlayout call
  have next := inv.quiet (.cellObserved region.role target slot observation) fun _ _ => rfl
  refine ⟨next.sizes, next.slots, next.observations, ?_, next.cells⟩
  intro other held fresh
  rcases mem_cons.mp held with rfl | held
  · refine ⟨⟨events, _, world, rfl, runs, by rw [howner, hsequence]⟩, bound, ?_, ?_⟩
    · rw [howner]
      exact binds
    · rw [hlayout]
      exact hcell
  · exact next.acknowledgements other held fresh

/-- After a write to one mapping, by a call that publishes nothing elsewhere, only what is said of
    its role has to be shown again. -/
theorem Invariant.of_write (inv : c.Invariant events world) (binds : c.Binds role bound)
    (more : List Event) (quiet : ∀ other slot, other ≠ role → publications other slot more = [])
    (size : bytes.length = (world.memory role).length)
    (slots : ∀ slot < bound.layout.header.slotCount.toNat,
      SlotHolds bound.layout.header (world.memory role) slot (publications role slot events) →
        SlotHolds bound.layout.header bytes slot (publications role slot (events ++ more)))
    (cells : ∀ cell < bound.layout.header.acknowledgementCount.toNat,
      cellOf bytes cell = cellOf (world.memory role) cell ∨
        ∃ observation ∈ world.slotObservations,
          c.topology.HasGeneration observation.generation ∧
          observation.sequence = cellOf bytes cell ∧
          ∃ route, c.topology.acknowledgementRoute observation.role observation.slotIndex =
            some route ∧ route.owner = role ∧ route.cellIndex.toNat = cell) :
    c.Invariant (events ++ more) (world.write role bytes) := by
  refine ⟨?_, ?_, fun _ held => inv.observations_append more held,
    fun _ held => inv.acknowledgements_append more held, ?_⟩
  · intro other bound' binds'
    by_cases same : other = role
    · subst same
      simpa only [write, update_self] using size.trans (inv.sizes _ _ binds')
    · simpa only [write, update_of_ne same] using inv.sizes _ _ binds'
  · intro other bound' binds' slot hslot
    by_cases same : other = role
    · subst same
      rw [binds'.layout_unique binds] at hslot ⊢
      simpa only [write, update_self] using slots slot hslot (inv.slots _ _ binds slot hslot)
    · rw [publications_append, quiet _ _ same, append_nil]
      simpa only [write, update_of_ne same] using inv.slots _ _ binds' slot hslot
  · intro other bound' binds' cell hcell
    by_cases same : other = role
    · subst same
      simp only [write, update_self]
      rw [binds'.layout_unique binds] at hcell
      rcases cells cell hcell with kept | stored
      · rw [kept]
        exact inv.cells _ _ binds cell hcell
      · exact .inr stored
    · simpa only [write, update_of_ne same] using inv.cells _ _ binds' cell hcell

/-- Storing a held observation's sequence in the cell of its route. -/
theorem Invariant.storeCell (inv : c.Invariant events world) {observation : SlotObservation}
    (binds : c.Binds owner bound) (held : observation ∈ world.slotObservations)
    (fresh : c.topology.HasGeneration observation.generation)
    (hroute : c.topology.acknowledgementRoute observation.role observation.slotIndex = some route)
    (howner : route.owner = owner)
    (hcell : route.cellIndex < bound.layout.header.acknowledgementCount) :
    c.Invariant events (world.write owner
      (storeU64 (world.memory owner) (cellStart route.cellIndex.toNat) observation.sequence)) := by
  obtain ⟨region, -, hlayout, fits, -⟩ := binds.region
  have canonical := region.canonical
  have hlen := inv.sizes owner bound binds
  rw [hlayout] at hcell
  have hend := region.cellEnd_le hcell
  have htotal := canonical.totalSize_eq
  have hsize : acknowledgementCellSize = 64 := rfl
  have hfit : cellStart route.cellIndex.toNat + (ofLe 8 observation.sequence.toNat).length ≤
      (world.memory owner).length := by
    rw [length_ofLe]
    omega
  rw [← append_nil events]
  refine inv.of_write binds [] (fun _ _ _ => rfl) (length_overwrite hfit) ?_ ?_
  · intro slot hslot holds
    rw [append_nil]
    refine holds.of_record_unchanged bound.layout.canonical ?_
    intro a b ha hb
    refine extract_overwrite_of_disjoint hfit ?_
    rw [hlayout, region.header_validated, slotStart] at ha
    rw [length_ofLe]
    omega
  · intro cell _
    by_cases hsame : cell = route.cellIndex.toNat
    · subst hsame
      refine .inr ⟨observation, held, fresh, ?_, route, hroute, howner, rfl⟩
      exact (loadU64_storeU64 _ (by rw [length_ofLe] at hfit; exact hfit)).symm
    · refine .inl (loadU64_overwrite hfit ?_)
      rw [length_ofLe]
      rcases Nat.lt_or_gt_of_ne hsame with h | h
      · have := RegionLayout.cellSpan_disjoint h
        omega
      · have := RegionLayout.cellSpan_disjoint h
        omega

/-- An acknowledgement either writes nothing or the cell of its observation. -/
theorem Invariant.acknowledge (inv : c.Invariant events world) {observation : SlotObservation}
    (binds : c.Binds owner bound) (held : observation ∈ world.slotObservations)
    (call : (bound.acknowledge (world.memory owner) target slot observation).2 = bytes) :
    c.Invariant events (world.write owner bytes) := by
  obtain ⟨region, rfl, hlayout, -, -⟩ := binds.region
  rcases acknowledge_cases hlayout (world.memory region.role) target slot observation
    with same | ⟨route, hroute, howner, hcell, rfl, rfl, hgeneration, stored⟩
  · rw [← call, same, write_self]
    exact inv
  · rw [← call, stored]
    rw [binds.topology] at hroute
    have fresh := binds.hasGeneration
    rw [hlayout, region.header_validated, ← hgeneration] at fresh
    exact inv.storeCell binds held fresh hroute howner (by rw [hlayout]; exact hcell)

/-- A publication writes no cell. -/
theorem cellOf_publishedBytes {slot cell : Nat}
    (fits : region.header.totalSize.toNat ≤ bytes.length)
    (hslot : slot < region.header.slotCount.toNat)
    (hpayload : payload.length ≤ region.header.payloadCapacity.toNat) (sequence : UInt64)
    (hcell : cell < region.header.acknowledgementCount.toNat) :
    cellOf (publishedBytes region.header bytes slot sequence payload) cell =
      cellOf bytes cell := by
  have hslots := region.canonical.slotsOffset_eq
  rw [acknowledgementCellSize] at hslots
  rw [cellOf, loadU64, region.canonical.extract_publishedBytes fits hslot hpayload]
  · rfl
  · left
    rw [cellStart, acknowledgementCellSize, slotStart]
    omega

/-- A publication writes no other slot. -/
theorem slotHolds_publishedBytes_of_ne {slot other : Nat} {history : List (UInt64 × Bytes)}
    (fits : region.header.totalSize.toNat ≤ bytes.length)
    (hslot : slot < region.header.slotCount.toNat)
    (hpayload : payload.length ≤ region.header.payloadCapacity.toNat) (sequence : UInt64)
    (hne : other ≠ slot) (holds : SlotHolds region.header bytes other history) :
    SlotHolds region.header
      (publishedBytes region.header bytes slot sequence payload) other history := by
  refine holds.of_record_unchanged region.canonical ?_
  intro a b ha hb
  refine region.canonical.extract_publishedBytes fits hslot hpayload sequence ?_
  rcases Nat.lt_or_gt_of_ne hne with h | h
  · have hend := region.header.slotStart_add_stride_le h
    exact .inl (by omega)
  · have hend := region.header.slotStart_add_stride_le h
    exact .inr (by omega)

theorem publications_singleton (role : RoleId) (slot : Nat) (role' : RoleId) (slot' : UInt32)
    (sequence : UInt64) (payload : Bytes) :
    publications role slot [.published role' slot' sequence payload] =
      if role' = role ∧ slot'.toNat = slot then [(sequence, payload)] else [] := by
  by_cases h : role' = role ∧ slot'.toNat = slot
  · simp [publications, h]
  · simp [publications, h]

/-- An allowed publication is appended to the history of its slot. -/
theorem Invariant.publish (inv : c.Invariant events world)
    {acknowledgement : Option AcknowledgementObservation} (binds : c.Binds role bound)
    (hlayout : bound.layout = region.validated (c.initial role).length c.topology.routes)
    (fits : region.header.totalSize.toNat ≤ (c.initial role).length)
    (hslot : slot < region.header.slotCount)
    (hpayload : payload.length ≤ region.header.payloadCapacity.toNat)
    (may : MayPublish region route (world.memory role) slot sequence acknowledgement) :
    c.Invariant (events ++ [.published role slot sequence payload]) (world.write role
      (publishedBytes region.header (world.memory role) slot.toNat sequence
        payload)) := by
  rw [← inv.sizes role bound binds] at fits
  have hlt := UInt32.lt_iff_toNat_lt.mp hslot
  refine inv.of_write binds _ ?_ (region.canonical.length_publishedBytes fits hlt hpayload _) ?_ ?_
  · intro other slot' hrole
    rw [publications_singleton, if_neg fun h => hrole h.1.symm]
  · intro slot' _ holds
    rw [publications_append, publications_singleton]
    rw [hlayout] at holds ⊢
    by_cases hsame : slot' = slot.toNat
    · subst hsame
      rw [if_pos ⟨rfl, rfl⟩]
      exact holds.publish fits hlt hpayload may
    · rw [if_neg fun h => hsame h.2.symm, append_nil]
      exact slotHolds_publishedBytes_of_ne fits hlt hpayload sequence hsame holds
  · intro cell hcell
    rw [hlayout] at hcell
    exact .inl (cellOf_publishedBytes fits hlt hpayload sequence hcell)

/-- Every call keeps the invariant. -/
theorem Invariant.step (runs : c.Runs events world) (inv : c.Invariant events world) {event : Event}
    {next : World} (step : c.Step world event next) : c.Invariant (events ++ [event]) next := by
  cases step with
  | @publish role bound slot sequence acknowledgement payload bytes binds held call =>
    obtain ⟨region, rfl, hlayout, fits, -⟩ := binds.region
    rcases publish_cases hlayout (world.memory region.role) slot sequence
      acknowledgement payload with ⟨stop, failed⟩ | ⟨hslot, hpayload, -, ⟨route, -, may⟩, done⟩
    · cases failed.symm.trans call
    · cases done.symm.trans call
      exact inv.publish binds hlayout fits hslot hpayload may
  | @publishFailed role bound slot sequence acknowledgement payload bytes stop binds call =>
    obtain ⟨region, rfl, hlayout, -, -⟩ := binds.region
    rcases publish_cases hlayout (world.memory region.role) slot sequence
      acknowledgement payload with ⟨stop', failed⟩ | ⟨-, -, -, -, done⟩
    · cases failed.symm.trans call
      rw [write_self]
      exact inv.quiet _ fun _ _ => rfl
    · cases done.symm.trans call
  | copyPayload binds call => exact inv.quiet _ fun _ _ => rfl
  | observe binds call => exact inv.observe binds call
  | recheck binds held call => exact inv.quiet _ fun _ _ => rfl
  | @acknowledge owner target bound slot observation bytes binds held call =>
    exact (inv.acknowledge binds held (congrArg Prod.snd call)).quiet _ fun _ _ => rfl
  | @acknowledgeFailed owner target bound slot observation bytes stop binds held call =>
    exact (inv.acknowledge binds held (congrArg Prod.snd call)).quiet _ fun _ _ => rfl
  | observeAcknowledgement binds call => exact inv.observeAcknowledgement runs binds call
  | readFailed role => exact inv.quiet _ fun _ _ => rfl

/-- The invariant holds after every run. -/
theorem Runs.invariant (runs : c.Runs events world) : c.Invariant events world :=
  Trace.invariant c.invariant_start (fun _ _ _ _ before inv last => inv.step before last) runs

/-! ### What holds of every run -/

/-- A nonzero cell was filled from an observation of the slot routed to it. -/
theorem CellHeld.observed {cell : UInt32} {value : UInt64}
    (held : c.CellHeld events owner cell value) (binds : c.Binds owner bound)
    (hcell : cell < bound.layout.header.acknowledgementCount) (nonzero : value ≠ 0)
    (hroute : c.topology.acknowledgementRoute role slot = some route) (howner : route.owner = owner)
    (hindex : route.cellIndex = cell) :
    ∃ observation, .observed role slot observation ∈ events ∧ observation.sequence = value := by
  obtain ⟨earlier, later, world, rfl, runs, rfl⟩ := held
  rcases (Runs.invariant runs).cells owner bound binds cell.toNat (UInt32.lt_iff_toNat_lt.mp hcell)
    with hzero | ⟨observation, hheld, fresh, hvalue, other, hother, howner', hindex'⟩
  · exact absurd hzero nonzero
  · obtain ⟨hmem, htarget, hslot⟩ := c.topology.acknowledgementRoute_eq_some.mp hroute
    obtain ⟨hmem', htarget', hslot'⟩ := c.topology.acknowledgementRoute_eq_some.mp hother
    obtain rfl : route = other := c.topology.eq_of_cell hmem hmem' (by
      rw [AcknowledgementRoute.cell, AcknowledgementRoute.cell, howner, howner', hindex, hindex'])
    obtain ⟨before, after, rfl, -⟩ := (Runs.invariant runs).observations observation hheld fresh
    refine ⟨observation, ?_, hvalue⟩
    rw [← htarget, ← hslot, htarget', hslot']
    simp

variable {role : RoleId} {bound : BoundRegion t} {slot : UInt32}

theorem Runs.slotHolds (runs : c.Runs events world) (binds : c.Binds role bound)
    (hslot : slot < bound.layout.header.slotCount) :
    SlotHolds bound.layout.header (world.memory role) slot.toNat
      (publications role slot.toNat events) :=
  (Runs.invariant runs).slots role bound binds slot.toNat (UInt32.lt_iff_toNat_lt.mp hslot)

/-- A sequence of a later round is published only after the cell of the slot held
    the sequence before it, which a reader had observed in that slot. -/
theorem Runs.published_after_acknowledged {earlier later : List Event} {k : Nat}
    (runs : c.Runs (earlier ++ .published role slot sequence payload :: later) world)
    (binds : c.Binds role bound)
    (round : sequence.toNat = slot.toNat + 1 + (k + 1) * bound.layout.header.slotCount.toNat) :
    ∃ route value, c.topology.acknowledgementRoute role slot = some route ∧
      value.toNat = slot.toNat + 1 + k * bound.layout.header.slotCount.toNat ∧
      c.CellHeld earlier route.owner route.cellIndex value ∧
      ∃ observation, .observed role slot observation ∈ earlier ∧ observation.sequence = value := by
  obtain ⟨mid, next, before, step, -⟩ := Trace.at_event runs
  cases step with
  | @publish _ bound' _ _ acknowledgement _ bytes binds' held call =>
    obtain ⟨region, rfl, hlayout, -, -⟩ := binds'.region
    rw [binds.layout_unique binds', hlayout, region.header_validated] at round ⊢
    have hcount : 0 < region.header.slotCount.toNat := region.canonical.slotCount_pos
    rcases publish_cases hlayout (mid.memory region.role) slot sequence
      acknowledgement payload with ⟨stop, failed⟩ | ⟨hslot, -, -, ⟨route, hroute, may⟩, -⟩
    · cases failed.symm.trans call
    rw [binds'.topology] at hroute
    rcases may with ⟨-, hfirst⟩ | ⟨hcurrent, hreuse, observation, hsome, howner, hcell,
      hgeneration, hvalue⟩
    · have := Nat.mul_le_mul_left (k + 1) hcount
      omega
    · have fresh := binds'.hasGeneration
      rw [hlayout, region.header_validated, ← hgeneration] at fresh
      obtain ⟨hheld, bound'', binds'', hindex⟩ :=
        (Runs.invariant before).acknowledgements observation (held observation hsome) fresh
      rw [howner, hcell, hvalue] at hheld
      rw [howner] at binds''
      rw [hcell] at hindex
      refine ⟨route, _, hroute, ?_, hheld, hheld.observed binds'' hindex hcurrent hroute rfl rfl⟩
      rw [Nat.succ_mul] at round
      omega

/-- A copy returns the payload of the one publication with that sequence. -/
theorem Runs.copied_published {earlier later : List Event}
    (runs : c.Runs (earlier ++ .copied role slot sequence payload :: later) world)
    (binds : c.Binds role bound) (hslot : slot < bound.layout.header.slotCount) :
    (sequence, payload) ∈ publications role slot.toNat earlier ∧
      ∀ other, (sequence, other) ∈ publications role slot.toNat
        (earlier ++ .copied role slot sequence payload :: later) → other = payload := by
  obtain ⟨mid, next, before, step, -⟩ := Trace.at_event runs
  cases step with
  | @copyPayload _ bound' _ _ _ binds' call =>
    obtain ⟨region, rfl, hlayout, -, -⟩ := binds'.region
    obtain ⟨-, hpos, hsequence, rfl⟩ := copyPayload_eq_ok hlayout call
    have hsame : bound.layout = _ := (binds.layout_unique binds').trans hlayout
    have holds := Runs.slotHolds before binds hslot
    rw [hsame] at holds
    have hmem := holds.payloadOf_eq hpos hsequence
    refine ⟨hmem, ?_⟩
    intro other hother
    have whole := Runs.slotHolds runs binds hslot
    rw [hsame] at whole
    refine whole.eq_of_mem region.canonical.slotCount_pos hother ?_
    rw [publications_append]
    exact mem_append_left _ hmem

/-- A recheck succeeds only for an observation of this slot with no publication
    in the slot since. -/
theorem Runs.rechecked_observed {earlier later : List Event} {observation : SlotObservation}
    (runs : c.Runs (earlier ++ .rechecked role slot observation :: later) world) :
    ∃ before after, earlier = before ++ .observed role slot observation :: after ∧
      publications role slot.toNat after = [] := by
  obtain ⟨mid, next, sofar, step, -⟩ := Trace.at_event runs
  cases step with
  | @recheck _ bound _ _ binds held call =>
    obtain ⟨region, rfl, hlayout, -, -⟩ := binds.region
    obtain ⟨hslot, hrole, hgeneration, hsequence, -⟩ := recheck_eq_ok hlayout call
    have fresh := binds.hasGeneration
    rw [hlayout, region.header_validated, ← hgeneration] at fresh
    obtain ⟨before, after, rfl, hlast⟩ :=
      (Runs.invariant sofar).observations observation held fresh
    obtain ⟨mid', next', runs', step', -⟩ := Trace.at_event sofar
    -- where the observation was made fixes the slot it can belong to
    obtain ⟨bound', binds', hslot'⟩ : ∃ bound' : BoundRegion t, c.Binds observation.role bound' ∧
          observation.slotIndex < bound'.layout.header.slotCount := by
      cases step' with
      | @observe _ bound' _ sequence _ binds' call' =>
        obtain ⟨region', -, hlayout', -, -⟩ := binds'.region
        refine ⟨bound', binds', ?_⟩
        rw [hlayout']
        exact (observe_eq_ok hlayout' call').1
    rw [hrole] at binds' hlast sofar ⊢
    have hslotBound : slot < bound.layout.header.slotCount := by
      rw [hlayout]
      exact hslot
    rw [binds'.layout_unique binds] at hslot'
    have observed := Runs.slotHolds runs' binds hslot'
    have now := Runs.slotHolds sofar binds hslotBound
    have nonempty : publications region.role slot.toNat
        (before ++ .observed region.role observation.slotIndex observation :: after) ≠ [] := by
      intro hnil
      have hzero := now.current_eq_zero_iff.mpr hnil
      have hpos := observed.last_toNat hlast
      rw [hlayout, region.header_validated] at hzero
      rw [← hsequence, hzero, UInt64.toNat_zero] at hpos
      omega
    have hcurrent := now.getLast?_of_current nonempty
    rw [hlayout, region.header_validated, hsequence] at hcurrent
    obtain ⟨hsame, hlength⟩ := observed.eq_of_last now (UInt32.lt_iff_toNat_lt.mp hslot')
      (UInt32.lt_iff_toNat_lt.mp hslotBound) hlast hcurrent
    obtain rfl := UInt32.toNat_inj.mp hsame
    refine ⟨before, after, rfl, ?_⟩
    rw [publications_append, length_append, Nat.left_eq_add] at hlength
    exact length_eq_zero_iff.mp hlength

/-- The slot ring protocol, after every run, for every slot of a bound region
    with `count` slots. The sequences published in the slot are an initial segment
    of `slot + 1`, `slot + 1 + count`, …. The sequence of a later round is
    published only after the slot's acknowledgement cell held the one before it,
    which a reader had observed there. A copy returns exactly the payload that was
    published under its sequence. A recheck succeeds only for an observation that
    was made on this slot, with no publication in it since. -/
theorem slot_ring_protocol (runs : c.Runs events world) (binds : c.Binds role bound)
    (hslot : slot < bound.layout.header.slotCount) :
    let count := bound.layout.header.slotCount.toNat
    let published := publications role slot.toNat events
    published.map (·.1.toNat) =
        (List.range published.length).map (fun k => slot.toNat + 1 + k * count) ∧
      (∀ earlier later sequence payload k,
        events = earlier ++ .published role slot sequence payload :: later →
        sequence.toNat = slot.toNat + 1 + (k + 1) * count →
          ∃ route value, c.topology.acknowledgementRoute role slot = some route ∧
            value.toNat = slot.toNat + 1 + k * count ∧
            c.CellHeld earlier route.owner route.cellIndex value ∧
            ∃ observation, .observed role slot observation ∈ earlier ∧
              observation.sequence = value) ∧
      (∀ earlier later sequence payload,
        events = earlier ++ .copied role slot sequence payload :: later →
          (sequence, payload) ∈ publications role slot.toNat earlier ∧
            ∀ other, (sequence, other) ∈ published → other = payload) ∧
      ∀ earlier later observation,
        events = earlier ++ .rechecked role slot observation :: later →
          ∃ before after, earlier = before ++ .observed role slot observation :: after ∧
            publications role slot.toNat after = [] := by
  refine ⟨(Runs.slotHolds runs binds hslot).sequences, ?_, ?_, ?_⟩
  · rintro earlier later sequence payload k rfl round
    exact Runs.published_after_acknowledged runs binds round
  · rintro earlier later sequence payload rfl
    exact Runs.copied_published runs binds hslot
  · rintro earlier later observation rfl
    exact Runs.rechecked_observed runs

end Composition

/-! ### A sample run -/

namespace Sample

def topology : RegionSetLayout .w64 :=
  (RegionSetLayout.calculate .w64 schemaId 5 specs routes limits).toOption.get rfl

/-- The freshly encoded mapping of a role. -/
def image (role : RoleId) : Bytes :=
  match topology.region role with
  | some region =>
    (region.encodeInto (List.replicate region.header.totalSize.toNat 0)).toOption.getD []
  | none => []

def observation : SlotObservation := ⟨requests, 0, 5, 1, 3⟩

/-- An observation of the generation before. -/
def stale : SlotObservation := { observation with generation := 4 }

def composition : Composition .w64 where
  topology := topology
  initial := image
  expected role := ⟨schemaId, 5, role, if role = requests then .initiator else .responder, 4096⟩
  expected_role _ := rfl
  retained := [stale]
  retainedAcknowledgements := []
  retained_stale := by
    simp only [mem_singleton, forall_eq, RegionSetLayout.HasGeneration]
    decide +kernel
  retainedAcknowledgements_stale := by simp

def bind (role : RoleId) : Run BindingError (BoundRegion .w64) := do
  let layout ← (ValidatedRegionLayout.validate (image role) (composition.expected role)
    topology).mapError .layout
  BoundRegion.new 0 (image role).length layout topology

theorem binds_of_bind {bound : BoundRegion .w64} (h : bind role = .ok bound) :
    composition.Binds role bound := by
  simp only [bind, bind_eq_ok, mapError_eq_ok, new] at h
  obtain ⟨layout, hlayout, hnew⟩ := h
  split at hnew
  · cases hnew
  · split at hnew
    · cases hnew
      exact ⟨hlayout, rfl⟩
    · cases hnew

def requestRegion : BoundRegion .w64 := (bind requests).toOption.get (by decide +kernel)

def replyRegion : BoundRegion .w64 := (bind replies).toOption.get (by decide +kernel)

theorem requests_bound : composition.Binds requests requestRegion :=
  binds_of_bind (eq_ok_get _)

theorem replies_bound : composition.Binds replies replyRegion := binds_of_bind (eq_ok_get _)

/-- Sequence 1 is published in slot 0. -/
def filled : World :=
  composition.start.write requests
    (requestRegion.publish (composition.start.memory requests) 0 1 none [1, 2, 3]).2

def observed : World := { filled with slotObservations := [observation, stale] }

/-- The reader acknowledges it in cell 1 of its own region. -/
def acknowledged : World :=
  observed.write replies
    (replyRegion.acknowledge (observed.memory replies) requests 0 observation).2

def acknowledgement : AcknowledgementObservation := ⟨replies, requests, 5, 0, 1, 1⟩

def released : World := { acknowledged with acknowledgementObservations := [acknowledgement] }

/-- Sequence 3 replaces it. -/
def refilled : World :=
  released.write requests
    (requestRegion.publish (released.memory requests) 0 3 (some acknowledgement) [9]).2

def beforeReuse : List Event :=
  [.published requests 0 1 [1, 2, 3], .observed requests 0 observation,
    .rechecked requests 0 observation, .copied requests 0 1 [1, 2, 3], .failed replies,
    .acknowledged replies requests 0 observation,
    .cellObserved replies requests 0 acknowledgement]

def events : List Event :=
  beforeReuse ++ [.published requests 0 3 [9], .copied requests 0 3 [9]]

theorem calls :
    (requestRegion.publish (composition.start.memory requests) 0 1 none [1, 2, 3]).1 = .ok () ∧
    requestRegion.observe (filled.memory requests) 0 1 = .ok observation ∧
    requestRegion.recheck (observed.memory requests) 0 observation = .ok () ∧
    requestRegion.copyPayload (observed.memory requests) 0 1 = .ok [1, 2, 3] ∧
    (replyRegion.acknowledge (observed.memory replies) requests 0 observation).1 = .ok () ∧
    replyRegion.observeAcknowledgement (acknowledged.memory replies) requests 0 =
      .ok acknowledgement ∧
    (requestRegion.publish (released.memory requests) 0 3 (some acknowledgement) [9]).1 =
      .ok () ∧
    requestRegion.copyPayload (refilled.memory requests) 0 3 = .ok [9] ∧
    replyRegion.acknowledge (observed.memory replies) requests 0 stale =
      (fail (.acknowledgement .staleGeneration), observed.memory replies) ∧
    0 < requestRegion.layout.header.slotCount ∧
    requestRegion.layout.header.slotCount.toNat = 2 := by
  decide +kernel

theorem call_eq {ε : Type} {call : Run ε Unit × Bytes} (h : call.1 = .ok ()) :
    call = (.ok (), call.2) := by
  rw [← h]

theorem runs_events : composition.Runs events refilled := by
  obtain ⟨publish, observe, recheck, copy, acknowledge, cell, republish, recopy, refused,
    -, -⟩ := calls
  have step : composition.Runs _ filled :=
    Trace.nil.snoc (.publish requests_bound (by simp) (call_eq publish))
  have step := step.snoc (.observe requests_bound observe)
  have step := step.snoc (.recheck requests_bound mem_cons_self recheck)
  have step : composition.Runs _ observed := step.snoc (.copyPayload requests_bound copy)
  have step := step.snoc (.acknowledgeFailed replies_bound
    (mem_cons_of_mem _ (mem_singleton_self stale)) refused)
  rw [write_self] at step
  have step : composition.Runs _ acknowledged :=
    step.snoc (.acknowledge replies_bound mem_cons_self (call_eq acknowledge))
  have step := step.snoc (.observeAcknowledgement replies_bound cell)
  have step : composition.Runs _ refilled := step.snoc (.publish requests_bound
    (by rintro _ ⟨⟩; exact mem_singleton_self _) (call_eq republish))
  exact step.snoc (.copyPayload requests_bound recopy)

end Sample

/-- In the sample run slot 0 is filled twice, the second time after its cell held 1; the
    acknowledgement of an observation of another generation is refused. -/
theorem slot_ring_protocol_sample :
    Sample.composition.Runs Sample.events Sample.refilled ∧
      publications Sample.requests 0 Sample.events = [(1, [1, 2, 3]), (3, [9])] ∧
      ∃ route value, Sample.topology.acknowledgementRoute Sample.requests 0 = some route ∧
        value.toNat = 1 ∧
        Sample.composition.CellHeld Sample.beforeReuse route.owner route.cellIndex value := by
  obtain ⟨-, -, -, -, -, -, -, -, -, hslot, hcount⟩ := Sample.calls
  have general := Composition.slot_ring_protocol Sample.runs_events Sample.requests_bound hslot
  simp only [hcount] at general
  obtain ⟨route, value, hroute, hvalue, held, -⟩ :=
    general.2.1 Sample.beforeReuse [.copied Sample.requests 0 3 [9]] 3 [9] 0 rfl (by decide)
  exact ⟨Sample.runs_events, by decide, route, value, hroute, by simpa using hvalue, held⟩

end NativeIpc.Core
