import NativeIpc.Session.BatchExchange
import NativeIpc.Session.Runs

/-!
# Agreement about a batch

The coordinator's builder, its manifest and its prepared objects, and the
receiver's expectation and imports, name the same regions in the same order.
-/

namespace NativeIpc.Session

open NativeIpc.Lib Bytes Run List Op.Returns
open Op (Returns)
open Activation (activateLinuxRegions settles_activateLinuxRegions leasesOf)

variable {t : Target} {page : Nat} {deadline : Deadline} {log : Log Call Reply}

/-! ### The order of a batch -/

/-- What a batch says of a region to the receiver. -/
def PreparedRegion.named (region : PreparedRegion) : ExpectedRegion :=
  ⟨region.id, region.writer, region.logicalLen⟩

open RegionId

namespace TransferBatch

variable (batch : TransferBatch)

/-- The ids of the regions, in canonical order. -/
def order : List RegionId := batch.canonical.map PreparedRegion.id

theorem order_perm : batch.order.Perm (batch.regions.map PreparedRegion.id) :=
  (sortBy_perm _ batch.regions).map _

theorem increasing_canonical : (batch.canonical.map fun region => region.id.key).Pairwise (· < ·) :=
  increasing_sortBy batch.ids_nodup

theorem increasing_order : (batch.order.map key).Pairwise (· < ·) := by
  rw [order, map_map]
  exact batch.increasing_canonical

/-- A list of distinct ids in increasing order is the order of every batch with these ids. -/
theorem eq_order {ids : List RegionId} {batch : TransferBatch}
    (increasing : (ids.map key).Pairwise (· < ·))
    (perm : ids.Perm (batch.regions.map PreparedRegion.id)) : ids = batch.order :=
  eq_of_mem_iff increasing batch.increasing_order fun _ =>
    (perm.trans batch.order_perm.symm).mem_iff

end TransferBatch

variable {expected : ExpectedBatch} {profile : NativeAuthorityProfile} {manifest : TransferManifest}
    {liveness : LivenessState} {σ : Type} {limits : SessionLimits}
    {prepared : ExpectedMixedDirectionBatch} {backend : Backend}

theorem ExpectedBatch.tryFromRegions_ok {given : List ExpectedRegion}
    (accepted : tryFromRegions given = .ok expected) : expected.regions.Perm given := by
  unfold tryFromRegions at accepted
  split at accepted
  · cases accepted
  · split at accepted
    · cases accepted
    · split at accepted
      · cases accepted
      · split at accepted
        · cases accepted
        · cases accepted
          exact sortBy_perm _ given

/-- The entries of a batch's manifest are its regions in canonical order. -/
theorem TransferBatch.manifest_entries {batch : TransferBatch} {nonce : FixedBytes 32}
    {parentPid childPid : UInt32} {transferId : UInt64} (accepted : (batch.manifestEntries.bind
      (TransferManifest.newWithAuthority nonce parentPid childPid transferId profile)) =
        some manifest) :
    manifest.entries = numberEntries (batch.canonical.map PreparedRegion.entry) ∧
      manifest.authorityProfile = profile := by
  rw [batch.manifestEntries_eq, Option.bind_some] at accepted
  obtain ⟨-, -, -, -, authority, entries⟩ :=
    TransferManifest.newWithAuthority_eq_some.mp accepted
  have sorted : batch.canonical.map PreparedRegion.entry =
      sortByRegionId (batch.regions.map PreparedRegion.entry) :=
    map_sortBy PreparedRegion.entry
      (fun region => show region.id.value.toNat = region.id.key from rfl) batch.regions
  rw [sorted]
  exact ⟨entries, authority⟩

/-! ### Matching -/

/-- What `matches_manifest` compares of an entry, its place apart. -/
structure EntryShape where
  regionId : BitVec 128
  writer : UInt32
  access : PeerAccess
  logicalLen : UInt64
  mappedLen : UInt64

def ManifestEntry.shape (entry : ManifestEntry) : EntryShape :=
  ⟨entry.regionId, entry.writer, entry.access, entry.logicalLen, entry.mappedLen⟩

def ExpectedEntry.shape (entry : ExpectedEntry) : EntryShape :=
  ⟨entry.id.value, entry.writer.code, entry.writer.access, entry.logicalLen, entry.mappedLen⟩

open ManifestEntry

namespace ExpectedMixedDirectionBatch

theorem matchesEntry_iff {entry : ExpectedEntry} {received : ManifestEntry} {ordinal : Nat} :
    matchesEntry entry received ordinal = true ↔
      received.shape = entry.shape ∧ received.ordinal.toNat = ordinal := by
  simp [matchesEntry, shape, ExpectedEntry.shape, and_assoc]

/-- The place of each entry of a manifest is the one it stands at. -/
theorem ordinal_getElem (manifest : TransferManifest) {i : Nat} (h : i < manifest.entries.length) :
    manifest.entries[i].ordinal.toNat = i := by
  have ordinal := congrArg (fun list => list[i]?) manifest.ordinals
  have bound := manifest.length_le
  have small : i < 2 ^ 16 := by
    unfold maxTransferEntries at bound
    omega
  simp only [getElem?_map, getElem?_eq_getElem h, getElem?_range h,
    Option.map_some, Option.some.injEq] at ordinal
  rw [ordinal]
  exact UInt16.toNat_ofNat_of_lt' small

variable {expected : ExpectedMixedDirectionBatch}

/-- A manifest matches when its entries are those of the expectation, at every place. -/
theorem matchesManifest_iff :
    expected.matchesManifest manifest = true ↔
      manifest.entries.map shape = expected.entries.map ExpectedEntry.shape ∧
        manifest.totalLogical = expected.totalLogical ∧
        manifest.totalMapped = expected.totalMapped := by
  simp only [matchesManifest, Bool.and_eq_true, decide_eq_true_eq, all_eq_true]
  constructor
  · rintro ⟨⟨⟨lengths, logical⟩, mapped⟩, each⟩
    refine ⟨ext_getElem (by simpa using lengths) ?_, logical, mapped⟩
    intro i hi hi'
    rw [length_map] at hi hi'
    have member : ((expected.entries[i], manifest.entries[i]), i) ∈
        (expected.entries.zip manifest.entries).zipIdx := by
      rw [mem_zipIdx_iff_getElem?, getElem?_zip_eq_some]
      exact ⟨getElem?_eq_getElem hi', getElem?_eq_getElem hi⟩
    simpa using (matchesEntry_iff.mp (each _ member)).1
  · rintro ⟨shapes, logical, mapped⟩
    have lengths : manifest.entries.length = expected.entries.length := by
      simpa using congrArg length shapes
    refine ⟨⟨⟨lengths, logical⟩, mapped⟩, ?_⟩
    rintro ⟨⟨entry, received⟩, i⟩ member
    rw [mem_zipIdx_iff_getElem?, getElem?_zip_eq_some] at member
    dsimp only at member ⊢
    obtain ⟨at_entry, at_received⟩ := member
    obtain ⟨hi, rfl⟩ := List.getElem?_eq_some_iff.mp at_received
    obtain ⟨hi', rfl⟩ := List.getElem?_eq_some_iff.mp at_entry
    have same := congrArg (fun list => list[i]?) shapes
    simp only [getElem?_map, getElem?_eq_getElem hi, getElem?_eq_getElem hi',
      Option.map_some, Option.some.injEq] at same
    exact matchesEntry_iff.mpr ⟨same, ordinal_getElem manifest hi⟩

theorem ids_of_matches (matching : expected.matchesManifest manifest = true) :
    manifest.entries.map regionId =
      expected.entries.map fun entry => entry.id.value := by
  have ids := congrArg (map EntryShape.regionId) (matchesManifest_iff.mp matching).1
  rwa [map_map, map_map] at ids

end ExpectedMixedDirectionBatch

/-! ### Activation -/

variable {specs : List ActiveRegionSpec} {order : List RegionId}

/-- The specs name the regions in this increasing order, and their activation gives the reservation
    at each place to the region at that place. -/
def ActivatesInOrder (order : List RegionId) (specs : List ActiveRegionSpec) : Prop :=
  specs.map ActiveRegionSpec.id = order ∧ (order.map key).Pairwise (· < ·) ∧
    ∀ reservations failureAt owners c c' set,
      activateLinuxRegions specs reservations failureAt owners c = .ret (.ok set, c') →
        reservations.length = order.length ∧
        (set.regions.map fun pair => (pair.1, pair.2.region.lease)) = order.zip reservations

theorem activatesInOrder (increasing : (order.map key).Pairwise (· < ·))
    (ids : specs.map ActiveRegionSpec.id = order) : ActivatesInOrder order specs := by
  subst ids
  refine ⟨rfl, increasing, ?_⟩
  intro reservations failureAt owners c c' set activated
  obtain ⟨result, _, runs, settled⟩ :=
    (settles_activateLinuxRegions specs reservations failureAt owners c).returns
  cases activated.symm.trans runs
  obtain ⟨-, complete⟩ := settled
  have named : set.regions.map Prod.fst = specs.map ActiveRegionSpec.id := by
    have pairs := congrArg (map Prod.fst) complete.ids
    rwa [map_map, map_map] at pairs
  refine ⟨by rw [length_map, complete.reserved], ?_⟩
  rw [← named, ← complete.leased, leasesOf, zip_map']

/-- The coordinator's side of a batch keeps to the order of its regions, from the descriptors it
    sends to the specs it activates, before and after final sealing. -/
def CoordinatorInOrder (t : Target) (batch : TransferBatch) (prepared : MixedDirectionBatch)
    (log : Log Call Reply) : Prop :=
  prepared.capabilities.length = batch.order.length ∧
    batch.order.zip prepared.capabilities = log.filterMap preparedObject ∧
    prepared.manifestEntries = batch.canonical.map PreparedRegion.entry ∧
    prepared.reservationLengths = batch.reservationLengths ∧
    ∀ {σ τ : Type} {s s' : σ} {sealing : Log Call Reply} {active : MixedDirectionBatch},
      active = prepared ∨
        Op.Returns (LinuxMixedDirectionBatch.sealAfterImport prepared) s sealing (.ok active) s' →
      active.capabilities = prepared.capabilities ∧
        ∀ {s s' : τ} {activating : Log Call Reply} {specs : List ActiveRegionSpec},
          Op.Returns (LinuxMixedDirectionBatch.activationSpecs t active) s activating (.ok specs) s' →
            ActivatesInOrder batch.order specs

theorem LinuxMixedDirectionBatch.coordinatorInOrder {s s' : σ} {batch : TransferBatch}
    {prepared : MixedDirectionBatch}
    (returned : Returns (prepare batch profile deadline) s log (.ok prepared) s') :
    CoordinatorInOrder t batch prepared log := by
  obtain ⟨regions, bindings, -⟩ := prepare_ok returned
  have ids : (prepared.entries.map fun entry => entry.region.id) = batch.order := by
    rw [TransferBatch.order, ← regions, map_map]
    rfl
  have entries : prepared.manifestEntries = batch.canonical.map PreparedRegion.entry := by
    rw [MixedDirectionBatch.manifestEntries, ← regions, map_map]
    rfl
  refine ⟨?_, ?_, entries, ?_, ?_⟩
  · rw [← ids, MixedDirectionBatch.capabilities, length_map, length_map]
  · rw [← ids, ← bindings, MixedDirectionBatch.capabilities, zip_map']
    rfl
  · rw [MixedDirectionBatch.reservationLengths, entries, TransferBatch.reservationLengths_eq,
      map_map]
    rfl
  · intro σ τ s s' sealing active reached
    have parts : active.entries.map PreparedEntry.sealedPart =
        prepared.entries.map PreparedEntry.sealedPart := by
      rcases reached with rfl | sealed
      · rfl
      · exact sealAfterImport_ok sealed
    refine ⟨?_, ?_⟩
    · have objects := congrArg (map Prod.snd) parts
      rw [map_map, map_map] at objects
      exact objects
    · intro s s' activating specs activated
      have sealedIds := congrArg (map fun part => part.1.id) parts
      rw [map_map, map_map] at sealedIds
      exact activatesInOrder batch.increasing_order
        ((PreparedEntry.specs_ids (activationSpecs_ok activated)).trans (sealedIds.trans ids))

/-- The receiver's side of a batch keeps to an order of regions, from its reservations to the
    objects it imports, the views it maps of them and the specs it activates, whatever manifest it
    imports. -/
def ReceiverInOrder (t : Target) (order : List RegionId) (expected : ExpectedMixedDirectionBatch) :
    Prop :=
  expected.reservationLengths.length = order.length ∧
    order.zip expected.reservationLengths =
      expected.entries.map (fun entry => (entry.id, entry.mappedLen)) ∧
    ∀ {σ τ : Type} {s s' : σ} {importing : Log Call Reply} {manifest : TransferManifest}
      {rights : List Nat} {imported : ImportedMixedDirectionBatch},
      Op.Returns (LinuxExpectedMixedDirectionBatch.importBatch t true expected manifest rights) s
        importing (.ok imported) s' →
      rights.length = order.length ∧
        manifest.entries.map ManifestEntry.regionId = order.map RegionId.value ∧
        imported.entries.map (fun entry => (entry.manifest.regionId, entry.object)) =
          (order.map RegionId.value).zip rights ∧
        importing.filterMap mappedView = imported.entries.map ImportedEntry.mapped ∧
        ∀ {s s' : τ} {deadline : Deadline} {activating : Log Call Reply}
          {specs : List ActiveRegionSpec},
          Op.Returns (LinuxImportedMixedDirectionBatch.activationSpecs t imported deadline) s
            activating (.ok specs) s' → ActivatesInOrder order specs

open ExpectedMixedDirectionBatch

theorem LinuxExpectedMixedDirectionBatch.receiverInOrder {s s' : σ}
    (increasing : (order.map key).Pairwise (· < ·))
    (ids : expected.regions.map ExpectedRegion.id = order)
    (returned : Returns (prepare t expected limits deadline) s log (.ok prepared) s') :
    ReceiverInOrder t order prepared := by
  have entries : prepared.entries.map ExpectedEntry.id = order := by
    rw [← ids, ← (prepare_ok returned).1, map_map]
    rfl
  refine ⟨?_, ?_, ?_⟩
  · rw [← entries, reservationLengths, length_map, length_map]
  · rw [← entries, reservationLengths, zip_map']
  · intro σ τ s s' importing manifest rights imported returned
    obtain ⟨matching, manifests, objects, views⟩ := importBatch_ok returned
    have named : manifest.entries.map regionId = order.map value := by
      rw [ids_of_matches matching, ← entries, map_map]
      rfl
    have importedIds : (imported.entries.map fun entry => entry.manifest.regionId) =
        order.map value := by
      rw [← named, ← manifests, map_map]
      rfl
    refine ⟨?_, named, ?_, views, ?_⟩
    · have lengths := congrArg length importedIds
      rw [length_map, length_map] at lengths
      rw [← lengths, ← objects, length_map]
    · rw [← importedIds, ← objects, zip_map']
    · intro s s' deadline activating specs activated
      have values := (ImportedEntry.specs_ids
        (LinuxImportedMixedDirectionBatch.activationSpecs_ok activated)).trans importedIds
      refine activatesInOrder increasing ?_
      have keys := congrArg (map BitVec.toNat) values
      rw [map_map, map_map] at keys
      have injective : Function.Injective key := fun _ _ => key_inj.mp
      apply map_injective_iff.mpr injective
      rw [map_map]
      exact keys

namespace Pair

/-- A region written by the coordinator. -/
def first : PreparedRegion := Sample.region

/-- A region written by the receiver. -/
def second : PreparedRegion where
  id := ⟨2, by decide⟩
  writer := .receiver
  logicalLen := 5000
  mappedLen := 8192
  incarnation := .filled 16 2
  guardRequested := .bestEffort
  logicalLen_ne_zero := by decide
  logicalLen_le := by decide
  incarnation_ne_zero := by decide

theorem opens : (newTransferBatch .default).toOption.isSome := by decide +kernel

def start : TransferBatch := (newTransferBatch .default).toOption.get opens

theorem start_eq : newTransferBatch .default = .ok start := eq_ok_get opens

/-- The regions added in the order opposite to that of their ids. -/
def batch : TransferBatch := start.addAll [second, first]

theorem expects : (ExpectedBatch.tryFromRegions [first.named, second.named]).toOption.isSome := by
  decide +kernel

theorem builds : (batch.manifestEntries.bind (TransferManifest.newWithAuthority Sample.nonce 1 2 1
    .linuxMdweV1)).isSome := by
  decide +kernel

/-- Pages of 4096 bytes, and an object for each region. -/
def memory : (c : Call) → Reply c
  | .native .pageSize => .ok 4096
  | .native (.prepareRegion id _ _) => .ok (10 + id.key)
  | .native (.validateObject object _ _) => .ok object
  | c => Sample.calm c

def preparing : Proc Call Reply (Run MemoryError MixedDirectionBatch × Unit) :=
  LinuxMixedDirectionBatch.prepare batch .linuxMdweV1 Sample.deadline ()

theorem prepares : (preparing.answeredBy memory).1.toOption.isSome := by decide +kernel

def made : MixedDirectionBatch := (preparing.answeredBy memory).1.toOption.get prepares

def awaiting : Proc Call Reply (Run MemoryError ExpectedMixedDirectionBatch × Unit) :=
  LinuxExpectedMixedDirectionBatch.prepare .w64 (Option.get _ expects) .default Sample.deadline ()

theorem awaits : (awaiting.answeredBy memory).1.toOption.isSome := by decide +kernel

/-- The receiver imports the objects of the coordinator in the order of their regions. -/
def importing : Proc Call Reply (Run MemoryError ImportedMixedDirectionBatch × Unit) :=
  LinuxExpectedMixedDirectionBatch.importBatch .w64 true (Option.get _ awaits)
    (Option.get _ builds) made.capabilities ()

theorem imports : (importing.answeredBy memory).1.toOption.isSome := by decide +kernel

def imported : ImportedMixedDirectionBatch :=
  (importing.answeredBy memory).1.toOption.get imports

end Pair

/-- Both endpoints of a batch follow the one order of its region ids: the reservations, the
    manifest, the coordinator's preparation and the receiver's. -/
theorem one_region_order {t : Target} {batch : TransferBatch} {given : List ExpectedRegion}
    {expected : ExpectedBatch} (accepted : ExpectedBatch.tryFromRegions given = .ok expected)
    (same : (given.map ExpectedRegion.id).Perm (batch.regions.map PreparedRegion.id)) :
    (batch.order.map RegionId.key).Pairwise (· < ·) ∧
    batch.order.Perm (batch.regions.map PreparedRegion.id) ∧
    batch.order.zip batch.reservationLengths =
      batch.canonical.map (fun region => (region.id, region.mappedLen)) ∧
    (∀ nonce parentPid childPid transferId profile manifest,
      batch.manifestEntries.bind (TransferManifest.newWithAuthority nonce parentPid childPid
        transferId profile) = some manifest →
      manifest.entries.map ManifestEntry.regionId = batch.order.map RegionId.value) ∧
    (∀ {σ : Type} {s s' : σ} {log : Log Call Reply} {profile : NativeAuthorityProfile}
      {deadline : Deadline} {prepared : MixedDirectionBatch},
      Op.Returns (LinuxMixedDirectionBatch.prepare batch profile deadline) s log (.ok prepared) s' →
        CoordinatorInOrder t batch prepared log) ∧
    (∀ {σ : Type} {s s' : σ} {log : Log Call Reply} {limits : SessionLimits}
      {deadline : Deadline} {prepared : ExpectedMixedDirectionBatch},
      Op.Returns (LinuxExpectedMixedDirectionBatch.prepare t expected limits deadline) s log
        (.ok prepared) s' →
        ReceiverInOrder t batch.order prepared) := by
  refine ⟨batch.increasing_order, batch.order_perm, ?_, ?_, ?_, ?_⟩
  · rw [TransferBatch.reservationLengths_eq, TransferBatch.order, zip_map']
  · intro nonce parentPid childPid transferId profile manifest built
    rw [(TransferBatch.manifest_entries built).1, map_numberEntries _ fun _ _ => rfl,
      TransferBatch.order, map_map, map_map]
    rfl
  · intro σ s s' log profile deadline prepared returned
    exact LinuxMixedDirectionBatch.coordinatorInOrder returned
  · intro σ s s' log limits deadline prepared returned
    have ids : expected.regions.map ExpectedRegion.id = batch.order := by
      apply TransferBatch.eq_order
      · rw [map_map]
        exact expected.increasing
      · exact ((ExpectedBatch.tryFromRegions_ok accepted).map _).trans same
    exact LinuxExpectedMixedDirectionBatch.receiverInOrder batch.increasing_order ids returned

theorem one_region_order_pair :
    Pair.batch.order.map RegionId.key = [1, 2] ∧ Pair.made.capabilities = [11, 12] ∧
      Pair.batch.order.zip Pair.made.capabilities =
        (Pair.preparing.logBy Pair.memory).filterMap preparedObject ∧
      Pair.imported.entries.map (fun entry => (entry.manifest.regionId, entry.object)) =
        (Pair.batch.order.map RegionId.value).zip Pair.made.capabilities ∧
      Pair.imported.entries.map ImportedEntry.mapped = [(11, 4096, false), (12, 8192, true)] ∧
      (Pair.importing.logBy Pair.memory).filterMap mappedView =
        Pair.imported.entries.map ImportedEntry.mapped := by
  have same : ([Pair.first.named, Pair.second.named].map ExpectedRegion.id).Perm
      (Pair.batch.regions.map PreparedRegion.id) := by
    decide +kernel
  obtain ⟨-, -, -, -, coordinator, receiver⟩ :=
    one_region_order (t := .w64) (eq_ok_get Pair.expects) same
  obtain ⟨-, sent, -⟩ :=
    coordinator (Proc.runs_logBy_of_fst Pair.memory (eq_ok_get Pair.prepares))
  obtain ⟨-, -, imports⟩ := receiver (Proc.runs_logBy_of_fst Pair.memory (eq_ok_get Pair.awaits))
  obtain ⟨-, -, named, views, -⟩ :=
    imports (τ := Unit) (Proc.runs_logBy_of_fst Pair.memory (eq_ok_get Pair.imports))
  exact ⟨by decide +kernel, by decide +kernel, sent, named, by decide +kernel, views⟩

/-! ### Expectations under one page size -/

/-- Every answered page size is this one. -/
def AnswersPageSize (page : Nat) (log : Log Call Reply) : Prop :=
  ∀ value, (⟨.native .pageSize, .ok value⟩ : Answer Call Reply) ∈ log → value = page

theorem AnswersPageSize.of_append {before after : Log Call Reply}
    (answers : AnswersPageSize page (before ++ after)) :
    AnswersPageSize page before ∧ AnswersPageSize page after :=
  ⟨fun value member => answers value (mem_append_left _ member),
    fun value member => answers value (mem_append_right _ member)⟩

theorem AnswersPageSize.of_cons {answer : Answer Call Reply} {rest : Log Call Reply}
    (answers : AnswersPageSize page (answer :: rest)) : AnswersPageSize page rest :=
  fun value member => answers value (mem_cons_of_mem _ member)

theorem nativePageSize_bind_ok {α : Type} {s s' : σ} {f : Nat → MemoryEffect σ α} {a : α}
    (returned : Returns (nativePageSize backend >>= f) s log (.ok a) s') :
    ∃ value rest, log = ⟨.native .pageSize, .ok value⟩ :: rest ∧
      Returns (f value) s rest (.ok a) s' := by
  obtain ⟨_, s₁, _, after, rfl, asked, rest⟩ := bind_ok returned
  obtain ⟨value, tail, rfl, branch⟩ := native_bind_ok asked
  split at branch
  · obtain ⟨rfl, same, rfl⟩ := of_pure branch
    cases same
    exact ⟨_, after, rfl, rest⟩
  · obtain ⟨-, failed, -⟩ := of_ofRun branch
    cases failed

/-- The entries collected for the first regions of an expectation. -/
structure Collected (t : Target) (page : Nat) (regions : List ExpectedRegion)
    (sofar : List ExpectedEntry × UInt64) : Prop where
  regions : sofar.1.map ExpectedEntry.region = regions
  total : sofar.2.toNat = (sofar.1.map fun entry => entry.mappedLen.toNat).sum
  aligned : ∀ entry ∈ sofar.1, pageAlign t page entry.logicalLen.toNat = some entry.mappedLen

theorem Collected.nil : Collected t page [] ([], 0) :=
  ⟨rfl, rfl, nofun⟩

theorem Collected.snoc {regions : List ExpectedRegion} {region : ExpectedRegion}
    {sofar : List ExpectedEntry × UInt64} {mappedLen total : UInt64}
    (collected : Collected t page regions sofar)
    (aligned : pageAlign t page region.logicalLen.toNat = some mappedLen)
    (summed : checkedAddU64 sofar.2 mappedLen = some total) :
    Collected t page (regions ++ [region])
      (sofar.1 ++ [⟨region.id, region.writer, region.logicalLen, mappedLen⟩], total) := by
  refine ⟨?_, ?_, ?_⟩
  · simp [collected.regions, ExpectedEntry.region]
  · have sum := checkedAddU64_eq_some.mp summed
    simp [← sum, collected.total]
  · intro entry member
    rcases mem_append.mp member with member | member
    · exact collected.aligned entry member
    · cases mem_singleton.mp member
      exact aligned

/-- What the constructors of the three backends make of an expectation when every page has this
    size. -/
structure Expects (t : Target) (page : Nat) (expected : ExpectedBatch)
    (prepared : ExpectedMixedDirectionBatch) : Prop where
  collected : Collected t page expected.regions (prepared.entries, prepared.totalMapped)
  totalLogical : prepared.totalLogical = expected.totalLogical

theorem LinuxExpectedMixedDirectionBatch.prepare_expects {s s' : σ}
    (answers : AnswersPageSize page log)
    (returned : Returns (prepare t expected limits deadline) s log (.ok prepared) s') :
    Expects t page expected prepared := by
  obtain ⟨_, _, rfl, checking⟩ := checkDeadline_bind_ok returned
  obtain ⟨_, -, looping⟩ := ofRun_bind_ok checking
  obtain ⟨sofar, s₁, _, _, rfl, looped, ended⟩ := bind_ok looping
  obtain ⟨-, same, -⟩ := of_pure ended
  cases same
  refine ⟨?_, rfl⟩
  refine foldlM_ok_log
    (fun regions sofar log => AnswersPageSize page log → Collected t page regions sofar)
    looped (fun _ => .nil) ?_ answers.of_cons.of_append.1
  intro regions region sofar earlier s log sofar' s' holds turned answers
  obtain ⟨before, turn⟩ := answers.of_append
  obtain ⟨_, _, rfl, entering⟩ := checkDeadline_bind_ok turned
  obtain ⟨_, -, nonzero⟩ := ofRun_bind_ok entering
  obtain ⟨_, -, paging⟩ := ofRun_bind_ok nonzero
  obtain ⟨value, _, rfl, aligning⟩ := nativePageSize_bind_ok paging
  obtain rfl := turn value (by simp)
  obtain ⟨mappedLen, aligned, summing⟩ := ofRun_bind_ok aligning
  obtain ⟨total, summed, bounding⟩ := ofRun_bind_ok summing
  obtain ⟨_, -, adding⟩ := ofRun_bind_ok bounding
  obtain ⟨-, same, -⟩ := of_pure adding
  cases same
  exact (holds before).snoc (okOr_eq_ok.mp aligned) (okOr_eq_ok.mp summed)

namespace MacExpectedMixedDirectionBatch

theorem addEntry_ok {regions : List ExpectedRegion} {region : ExpectedRegion}
    {sofar sofar' : List ExpectedEntry × UInt64} {mappedLen : UInt64}
    (collected : Collected t page regions sofar)
    (aligned : pageAlign t page region.logicalLen.toNat = some mappedLen)
    (added : addEntry sofar region mappedLen = .ok sofar') :
    Collected t page (regions ++ [region]) sofar' := by
  obtain ⟨total, summed, built⟩ := bind_eq_ok.mp added
  cases built
  exact collected.snoc aligned (okOr_eq_ok.mp summed)

theorem finish_ok {entries : List ExpectedEntry} {totalMapped : UInt64}
    (collected : Collected t page expected.regions (entries, totalMapped))
    (finished : finish expected limits deadline entries totalMapped = .ok prepared) :
    Expects t page expected prepared := by
  obtain ⟨_, -, built⟩ := bind_eq_ok.mp finished
  cases built
  exact ⟨collected, rfl⟩

theorem new_expects {s s' : σ} (answers : AnswersPageSize page log)
    (returned : Returns (new t expected limits deadline) s log (.ok prepared) s') :
    Expects t page expected prepared := by
  obtain ⟨_, s₁, _, _, rfl, -, paging⟩ := bind_ok returned
  obtain ⟨value, _, rfl, looping⟩ := nativePageSize_bind_ok paging
  obtain rfl := answers value (by simp)
  obtain ⟨sofar, s₂, _, _, rfl, looped, ended⟩ := bind_ok looping
  obtain ⟨-, finished, -⟩ := of_ofRun ended
  refine finish_ok ?_ finished.symm
  refine foldlM_ok (fun regions sofar => Collected t value regions sofar) looped .nil ?_
  intro regions region sofar s log sofar' s' holds turned
  obtain ⟨_, -, aligning⟩ := ofRun_bind_ok turned
  obtain ⟨mappedLen, aligned, adding⟩ := ofRun_bind_ok aligning
  obtain ⟨-, added, -⟩ := of_ofRun adding
  exact addEntry_ok holds (okOr_eq_ok.mp aligned) added.symm

end MacExpectedMixedDirectionBatch

open MacExpectedMixedDirectionBatch

theorem WindowsExpectedMixedDirectionBatch.new_expects {s s' : σ}
    (answers : AnswersPageSize page log)
    (returned : Returns (new t expected limits deadline) s log (.ok prepared) s') :
    Expects t page expected prepared := by
  obtain ⟨_, s₁, _, _, rfl, -, looping⟩ := bind_ok returned
  obtain ⟨sofar, s₂, _, _, rfl, looped, ended⟩ := bind_ok looping
  obtain ⟨-, finished, -⟩ := of_ofRun ended
  refine finish_ok ?_ finished.symm
  refine foldlM_ok_log
    (fun regions sofar log => AnswersPageSize page log → Collected t page regions sofar)
    looped (fun _ => .nil) ?_ answers.of_append.2.of_append.1
  intro regions region sofar earlier s log sofar' s' holds turned answers
  obtain ⟨before, turn⟩ := answers.of_append
  obtain ⟨_, -, nonzero⟩ := ofRun_bind_ok turned
  obtain ⟨_, -, paging⟩ := ofRun_bind_ok nonzero
  obtain ⟨value, _, rfl, powering⟩ := native_bind_ok paging
  obtain rfl := turn value (by simp)
  obtain ⟨_, -, aligning⟩ := ofRun_bind_ok powering
  obtain ⟨mappedLen, aligned, adding⟩ := ofRun_bind_ok aligning
  obtain ⟨-, added, -⟩ := of_ofRun adding
  exact addEntry_ok (holds before) (okOr_eq_ok.mp aligned) added.symm

theorem Backend.expectBatch_expects {s s' : σ} (answers : AnswersPageSize page log)
    (returned : Returns (backend.expectBatch t expected limits deadline) s log (.ok prepared) s') :
    Expects t page expected prepared := by
  cases backend with
  | linux => exact LinuxExpectedMixedDirectionBatch.prepare_expects answers returned
  | macos => exact new_expects answers returned
  | windows => exact WindowsExpectedMixedDirectionBatch.new_expects answers returned

/-! ### Builder, manifest and expectation -/

theorem WriterEndpoint.code_inj {writer writer' : WriterEndpoint} :
    writer.code = writer'.code ↔ writer = writer' := by
  cases writer <;> cases writer' <;> decide

/-- The shape of an expected region when every page has this size. -/
def ExpectedRegion.shape (t : Target) (page : Nat) (region : ExpectedRegion) : EntryShape :=
  ⟨region.id.value, region.writer.code, region.writer.access, region.logicalLen,
    (pageAlign t page region.logicalLen.toNat).getD 0⟩

theorem ExpectedRegion.shape_injective : Function.Injective (ExpectedRegion.shape t page) := by
  rintro ⟨id, writer, logicalLen⟩ ⟨id', writer', logicalLen'⟩ same
  simp only [shape, EntryShape.mk.injEq] at same
  obtain ⟨ids, writers, -, lengths, -⟩ := same
  have sameId : id = id' := key_inj.mp (congrArg BitVec.toNat ids)
  rw [sameId, WriterEndpoint.code_inj.mp writers, lengths]

theorem Expects.shapes (expects : Expects t page expected prepared) :
    prepared.entries.map ExpectedEntry.shape =
      expected.regions.map (ExpectedRegion.shape t page) := by
  rw [← expects.collected.regions, map_map]
  apply map_congr_left
  intro entry member
  have aligned := expects.collected.aligned entry member
  simp [ExpectedEntry.shape, ExpectedRegion.shape, ExpectedEntry.region, aligned]

/-- A batch of regions that were allocated with pages of this size. -/
def TransferBatch.Paged (t : Target) (page : Nat) (batch : TransferBatch) : Prop :=
  ∀ region ∈ batch.regions, pageAlign t page region.logicalLen.toNat = some region.mappedLen

instance (batch : TransferBatch) : Decidable (batch.Paged t page) :=
  inferInstanceAs (Decidable (∀ region ∈ batch.regions, _))

theorem TransferBatch.Paged.shapes {batch : TransferBatch} (paged : batch.Paged t page) :
    (numberEntries (batch.canonical.map PreparedRegion.entry)).map shape =
      (batch.canonical.map PreparedRegion.named).map (ExpectedRegion.shape t page) := by
  rw [map_numberEntries _ fun _ _ => rfl, map_map, map_map]
  apply map_congr_left
  intro region member
  have aligned := paged region (mem_sortBy.mp member)
  simp [shape, ExpectedRegion.shape, PreparedRegion.named, PreparedRegion.entry, aligned]

/-- Naming the same regions in canonical order is naming the same set of regions. -/
theorem TransferBatch.named_eq_iff {batch : TransferBatch} :
    batch.canonical.map PreparedRegion.named = expected.regions ↔
      ∀ region, region ∈ expected.regions ↔ region ∈ batch.regions.map PreparedRegion.named := by
  have members (region : ExpectedRegion) : region ∈ batch.canonical.map PreparedRegion.named ↔
        region ∈ batch.regions.map PreparedRegion.named :=
    ((sortBy_perm _ batch.regions).map _).mem_iff
  constructor
  · intro same region
    rw [← same, members]
  · intro same
    refine eq_of_mem_iff ?_ expected.increasing fun region => (members region).trans (same region).symm
    rw [map_map]
    exact batch.increasing_canonical

theorem matchesManifest_iff_named {batch : TransferBatch}
    (entries : manifest.entries = numberEntries (batch.canonical.map PreparedRegion.entry))
    (paged : batch.Paged t page) (expects : Expects t page expected prepared) :
    prepared.matchesManifest manifest = true ↔
      ∀ region, region ∈ expected.regions ↔ region ∈ batch.regions.map PreparedRegion.named := by
  rw [← TransferBatch.named_eq_iff, matchesManifest_iff, entries, paged.shapes, expects.shapes,
    (map_injective_iff.mpr ExpectedRegion.shape_injective).eq_iff]
  refine ⟨And.left, fun same => ⟨same, ?_, ?_⟩⟩
  · rw [← UInt64.toNat_inj, manifest.totalLogical_eq, entries, logicalSum,
      map_numberEntries _ fun _ _ => rfl, expects.totalLogical, expected.totalLogical_eq, ← same,
      map_map, map_map]
    rfl
  · have shapes := paged.shapes
    rw [same, ← expects.shapes] at shapes
    have lengths := congrArg (map fun shape => shape.mappedLen.toNat) shapes
    rw [map_map, map_map] at lengths
    rw [← UInt64.toNat_inj, manifest.totalMapped_eq, entries, expects.collected.total, mappedSum]
    exact congrArg sum lengths

theorem Backend.matchesManifest_eq (authority : manifest.authorityProfile = backend.profile) :
    backend.matchesManifest prepared manifest = prepared.matchesManifest manifest := by
  cases backend <;>
    simp_all [matchesManifest, profile, LinuxExpectedMixedDirectionBatch.matchesManifest,
      MacExpectedMixedDirectionBatch.matchesManifest,
      WindowsExpectedMixedDirectionBatch.matchesManifest]

namespace TransferBatch

variable {batch : TransferBatch}

/-- The manifest constructor accepts the entries of every nonempty batch. -/
theorem newWithAuthority_isSome {nonce : FixedBytes 32} {parentPid childPid : UInt32}
    {transferId : UInt64} (profile : NativeAuthorityProfile) (nonempty : batch.regions ≠ [])
    (distinct : (batch.regions.map PreparedRegion.incarnation).Nodup)
    (nonce_ne : nonce ≠ FixedBytes.zero 32) (parentPid_ne : parentPid ≠ 0)
    (childPid_ne : childPid ≠ 0) (transferId_ne : transferId ≠ 0)
    (transferId_max : transferId ≠ 0xFFFFFFFFFFFFFFFF) :
    ∃ manifest, batch.manifestEntries.bind (TransferManifest.newWithAuthority nonce parentPid
      childPid transferId profile) = some manifest := by
  rw [batch.manifestEntries_eq, Option.bind_some, ← Option.isSome_iff_exists]
  apply TransferManifest.newWithAuthority_isSome
  · rintro (h | h | h | h | h | h | h)
    · exact nonce_ne h
    · exact parentPid_ne h
    · exact childPid_ne h
    · exact transferId_ne h
    · exact transferId_max h
    · exact nonempty (map_eq_nil_iff.mp h)
    · have bound := batch.length_le
      have entries := batch.maxRegions_le
      rw [length_map] at h
      omega
  · intro entry member
    obtain ⟨region, -, rfl⟩ := mem_map.mp member
    obtain ⟨spec, -, same⟩ := region.nativeSpec_entry
    rw [← same]
    exact not_malformed_fromNative spec _
  · rw [logicalSum, map_map]
    exact batch.totalLogical_eq ▸ batch.totalLogical.toNat_lt
  · rw [mappedSum, map_map]
    exact batch.totalMapped_eq ▸ batch.totalMapped.toNat_lt
  · rw [map_map]
    exact batch.ids_nodup
  · rw [map_map]
    exact distinct

/-- The manifest of a batch is within the bounds of the batch. -/
theorem fitsLimits
    (entries : manifest.entries = numberEntries (batch.canonical.map PreparedRegion.entry))
    (maxRegions : batch.maxRegions = limits.maxRegionsPerBatch.toNat)
    (maxRegionBytes : batch.maxRegionBytes = limits.maxRegionBytes)
    (maxBatchBytes : batch.maxBatchBytes = limits.maxBatchBytes) :
    manifest.fitsLimits limits = true := by
  have perm := sortBy_perm (fun region : PreparedRegion => region.id.key) batch.regions
  have logical : manifest.totalLogical = batch.totalLogical := by
    rw [← UInt64.toNat_inj, manifest.totalLogical_eq, entries, logicalSum,
      map_numberEntries _ fun _ _ => rfl, map_map, batch.totalLogical_eq]
    exact (perm.map fun region => region.logicalLen.toNat).sum_eq
  have mapped : manifest.totalMapped = batch.totalMapped := by
    rw [← UInt64.toNat_inj, manifest.totalMapped_eq, entries, mappedSum,
      map_numberEntries _ fun _ _ => rfl, map_map, batch.totalMapped_eq]
    exact (perm.map fun region => region.mappedLen.toNat).sum_eq
  have lengths : manifest.entries.map logicalLen =
      batch.canonical.map PreparedRegion.logicalLen := by
    rw [entries, map_numberEntries _ fun _ _ => rfl, map_map]
    rfl
  have count : manifest.entries.length = batch.regions.length := by
    rw [entries, length_numberEntries, length_map]
    exact perm.length_eq
  simp only [TransferManifest.fitsLimits, Bool.and_eq_true, decide_eq_true_eq, all_eq_true]
  refine ⟨⟨⟨?_, ?_⟩, ?_⟩, ?_⟩
  · rw [count, ← maxRegions]
    exact batch.length_le
  · rw [logical, ← maxBatchBytes]
    exact batch.totalLogical_le
  · rw [mapped, ← maxBatchBytes]
    exact batch.totalMapped_le
  · intro entry member
    have listed : entry.logicalLen ∈ batch.canonical.map PreparedRegion.logicalLen := by
      rw [← lengths]
      exact mem_map_of_mem member
    obtain ⟨region, held, same⟩ := mem_map.mp listed
    rw [← same, ← maxRegionBytes]
    exact batch.region_le region (mem_sortBy.mp held)

/-- A new batch is empty and has the bounds of the limits. -/
theorem new_ok {start : TransferBatch} (opened : newTransferBatch limits = .ok start) :
    start.regions = [] ∧ start.maxRegions = limits.maxRegionsPerBatch.toNat ∧
      start.maxRegionBytes = limits.maxRegionBytes ∧ start.maxBatchBytes = limits.maxBatchBytes := by
  unfold newTransferBatch new at opened
  split at opened
  · cases opened
  · split at opened
    · cases opened
    · cases opened
      exact ⟨rfl, rfl, rfl, rfl⟩

end TransferBatch

/-- A builder holds distinct ids and exact totals and a refused region changes nothing. Its manifest
    is built, fits the limits, and matches exactly the expectations that name its regions. -/
theorem builder_agrees {limits : SessionLimits} {start : TransferBatch}
    (opened : newTransferBatch limits = .ok start) (added : List PreparedRegion) :
    ((start.addAll added).regions.map PreparedRegion.id).Nodup ∧
    (start.addAll added).totalLogical.toNat =
      ((start.addAll added).regions.map fun region => region.logicalLen.toNat).sum ∧
    (start.addAll added).totalMapped.toNat =
      ((start.addAll added).regions.map fun region => region.mappedLen.toNat).sum ∧
    (∀ region, ((start.addAll added).add region).1 ≠ .ok () →
      ((start.addAll added).add region).2 = start.addAll added) ∧
    ((added.map PreparedRegion.incarnation).Nodup → (start.addAll added).regions ≠ [] →
      ∀ nonce parentPid childPid transferId profile, nonce ≠ FixedBytes.zero 32 → parentPid ≠ 0 →
        childPid ≠ 0 → transferId ≠ 0 → transferId ≠ 0xFFFFFFFFFFFFFFFF →
        ∃ manifest,
          (start.addAll added).manifestEntries.bind (TransferManifest.newWithAuthority nonce
            parentPid childPid transferId profile) = some manifest ∧
          manifest.fitsLimits limits = true ∧
          ∀ {t : Target} {page : Nat} {backend : Backend} {σ : Type} {s s' : σ}
            {log : Log Call Reply} {deadline : Deadline} {expected : ExpectedBatch}
            {prepared : ExpectedMixedDirectionBatch},
            profile = backend.profile → (start.addAll added).Paged t page →
            AnswersPageSize page log →
            Op.Returns (backend.expectBatch t expected limits deadline) s log (.ok prepared) s' →
            (backend.matchesManifest prepared manifest = true ↔
              ∀ region, region ∈ expected.regions ↔
                region ∈ (start.addAll added).regions.map PreparedRegion.named)) := by
  obtain ⟨empty, maxRegions, maxRegionBytes, maxBatchBytes⟩ := TransferBatch.new_ok opened
  obtain ⟨held, sameRegions, sameRegionBytes, sameBatchBytes⟩ := start.addAll_spec added
  rw [empty, nil_append] at held
  refine ⟨?_, (start.addAll added).totalLogical_eq, (start.addAll added).totalMapped_eq, ?_, ?_⟩
  · have keys := (start.addAll added).ids_nodup
    refine List.Nodup.of_map RegionId.key ?_
    rw [map_map]
    exact keys
  · intro region failed
    rcases (start.addAll added).add_cases region with ⟨-, same⟩ | ⟨ok, -⟩
    · exact same
    · exact absurd ok failed
  · intro distinct nonempty nonce parentPid childPid transferId profile nonce_ne parentPid_ne
      childPid_ne transferId_ne transferId_max
    obtain ⟨manifest, built⟩ := TransferBatch.newWithAuthority_isSome profile nonempty
      (distinct.sublist (held.map _)) nonce_ne parentPid_ne childPid_ne transferId_ne transferId_max
    obtain ⟨entries, authority⟩ := TransferBatch.manifest_entries built
    refine ⟨manifest, built, ?_, ?_⟩
    · exact TransferBatch.fitsLimits entries (sameRegions.trans maxRegions)
        (sameRegionBytes.trans maxRegionBytes) (sameBatchBytes.trans maxBatchBytes)
    · intro t page backend σ s s' log deadline expected prepared profiled paged answers returned
      rw [Backend.matchesManifest_eq (authority.trans profiled)]
      exact matchesManifest_iff_named entries paged (Backend.expectBatch_expects answers returned)

theorem builder_agrees_pair :
    Pair.batch.regions.map PreparedRegion.id = [Pair.second.id, Pair.first.id] ∧
      Pair.batch.Paged .w64 4096 ∧
      ∃ manifest, Pair.batch.manifestEntries.bind (TransferManifest.newWithAuthority
          ⟨List.replicate 32 1, rfl⟩ 1 2 1 .linuxMdweV1) = some manifest ∧
        manifest.fitsLimits .default = true := by
  obtain ⟨-, -, -, -, accepted⟩ := builder_agrees Pair.start_eq [Pair.second, Pair.first]
  obtain ⟨manifest, built, fits, -⟩ := accepted (by decide +kernel) (by decide +kernel)
    ⟨List.replicate 32 1, rfl⟩ 1 2 1 .linuxMdweV1 (by decide) (by decide) (by decide) (by decide)
    (by decide)
  exact ⟨by decide +kernel, by decide +kernel, manifest, built, fits⟩

end NativeIpc.Session
