import NativeIpc.Session.Liveness
import NativeIpc.Session.Manifest

/-!
# Region batches

The coordinator's transfer batch, the receiver's expected batch and the keyed set
of active regions (`crates/native-ipc/src/batch.rs`), over the regions of
`crates/native-ipc/src/region.rs`. Lengths of type `usize` are kept as `u64`: no
target has a wider `usize`, so none of the conversions here fails.
-/

namespace NativeIpc.Session

open NativeIpc.Lib Bytes Run List

/-! ### Regions -/

/-- region.rs:11, with what `RegionId::new` checks. -/
structure RegionId where
  value : BitVec 128
  ne_zero : value ≠ 0
  deriving DecidableEq

/-- The order of region ids is the order of their values. -/
def RegionId.key (id : RegionId) : Nat := id.value.toNat

theorem RegionId.key_inj {id id' : RegionId} : id.key = id'.key ↔ id = id' := by
  rw [key, key, BitVec.toNat_inj]
  cases id
  cases id'
  simp

/-- region.rs:27-32. -/
inductive WriterEndpoint where
  | coordinator
  | receiver
  deriving DecidableEq, Repr

/-- region.rs:55-64. -/
inductive GuardPolicy where
  | bestEffort
  | require
  | disable
  deriving DecidableEq, Repr

/-- `permissions.writer() as u32`, memory.rs:99-104 with region.rs:180-183. -/
def WriterEndpoint.code : WriterEndpoint → UInt32
  | .coordinator => 0
  | .receiver => 1

/-- The peer's access to a region with this writer, batch.rs:222-225. -/
def WriterEndpoint.access : WriterEndpoint → PeerAccess
  | .coordinator => .readOnly
  | .receiver => .soleWriter

/-- `PreparedRegion` with its `NativeShareRequest`, region.rs:207 and memory.rs:558-566. The
    allocation refuses a length of zero and rounds it up, and the minted incarnation is nonzero. -/
structure PreparedRegion where
  id : RegionId
  writer : WriterEndpoint
  logicalLen : UInt64
  mappedLen : UInt64
  incarnation : FixedBytes 16
  guardRequested : GuardPolicy
  logicalLen_ne_zero : logicalLen ≠ 0
  logicalLen_le : logicalLen ≤ mappedLen
  incarnation_ne_zero : incarnation ≠ FixedBytes.zero 16

namespace PreparedRegion

variable (region : PreparedRegion)

/-- memory.rs:598-606. -/
def nativeSpec : Option NativeRegionSpec :=
  NativeRegionSpec.new region.id.value region.incarnation region.writer.code region.logicalLen
    region.mappedLen

/-- The manifest entry of a region before it has an ordinal. -/
def entry : ManifestEntry where
  regionId := region.id.value
  incarnation := region.incarnation
  writer := region.writer.code
  access := region.writer.access
  logicalLen := region.logicalLen
  mappedLen := region.mappedLen
  ordinal := 0
  flags := requiredEntryFlags

/-- A prepared region always has a native description, which gives its entry. -/
theorem nativeSpec_entry :
    ∃ spec, region.nativeSpec = some spec ∧
      ManifestEntry.fromNative spec region.writer.access = region.entry := by
  have haccepted : ¬ (region.id.value = 0 ∨ region.incarnation = FixedBytes.zero 16 ∨
      region.logicalLen = 0 ∨ region.mappedLen < region.logicalLen) := by
    rintro (h | h | h | h)
    · exact region.id.ne_zero h
    · exact region.incarnation_ne_zero h
    · exact region.logicalLen_ne_zero h
    · exact UInt64.not_lt.mpr region.logicalLen_le h
  exact ⟨_, dif_neg haccepted, rfl⟩

end PreparedRegion

/-- batch.rs:11-30. -/
inductive BatchError where
  | invalidLimits
  | empty
  | tooManyRegions
  | duplicateRegionId (id : RegionId)
  | batchBytesExceeded
  | invalidRegionLength
  | unknownRegion (id : RegionId)
  | wrongDirection (id : RegionId)
  | commitMismatch
  deriving DecidableEq

/-! ### Transfer batches -/

/-- batch.rs:41-48, with what `new` and `add` establish. -/
structure TransferBatch where
  regions : List PreparedRegion
  maxRegions : Nat
  maxRegionBytes : UInt64
  maxBatchBytes : UInt64
  totalLogical : UInt64
  totalMapped : UInt64
  length_le : regions.length ≤ maxRegions
  maxRegions_le : maxRegions ≤ maxTransferEntries
  ids_nodup : (regions.map fun region => region.id.key).Nodup
  region_le : ∀ region ∈ regions, region.logicalLen ≤ maxRegionBytes
  totalLogical_eq : totalLogical.toNat = (regions.map fun region => region.logicalLen.toNat).sum
  totalMapped_eq : totalMapped.toNat = (regions.map fun region => region.mappedLen.toNat).sum
  totalLogical_le : totalLogical ≤ maxBatchBytes
  totalMapped_le : totalMapped ≤ maxBatchBytes

namespace TransferBatch

/-- batch.rs:140-160. -/
def new (maxRegions : UInt16) (maxRegionBytes maxBatchBytes : UInt64) :
    Run BatchError TransferBatch :=
  if h : maxRegions = 0 ∨ 16 < maxRegions.toNat then fail .tooManyRegions
  else if maxRegionBytes = 0 ∨ maxBatchBytes = 0 then fail .invalidLimits
  else
    .ok {
      regions := []
      maxRegions := maxRegions.toNat
      maxRegionBytes
      maxBatchBytes
      totalLogical := 0
      totalMapped := 0
      length_le := Nat.zero_le _
      maxRegions_le := Nat.not_lt.mp fun hlt => h (.inr hlt)
      ids_nodup := List.nodup_nil
      region_le := fun _ hmem => nomatch hmem
      totalLogical_eq := rfl
      totalMapped_eq := rfl
      totalLogical_le := UInt64.le_iff_toNat_le.mpr (Nat.zero_le _)
      totalMapped_le := UInt64.le_iff_toNat_le.mpr (Nat.zero_le _) }

variable (batch : TransferBatch)

/-- batch.rs:163-193. -/
def add (region : PreparedRegion) : Run BatchError Unit × TransferBatch :=
  if hfull : batch.regions.length = batch.maxRegions then (fail .tooManyRegions, batch)
  else if hdup : batch.regions.any fun existing => existing.id = region.id then
    (fail (.duplicateRegionId region.id), batch)
  else if hregion : batch.maxRegionBytes < region.logicalLen then
    (fail .invalidRegionLength, batch)
  else
    match hlogical : checkedAddU64 batch.totalLogical region.logicalLen,
        hmapped : checkedAddU64 batch.totalMapped region.mappedLen with
    | some totalLogical, some totalMapped =>
      if hbytes : batch.maxBatchBytes < totalLogical ∨ batch.maxBatchBytes < totalMapped then
        (fail .batchBytesExceeded, batch)
      else
        (.ok (), { batch with
          regions := batch.regions ++ [region]
          totalLogical
          totalMapped
          length_le := by
            have := batch.length_le
            rw [List.length_append, List.length_singleton]
            omega
          ids_nodup := by
            rw [List.map_append, List.nodup_append]
            refine ⟨batch.ids_nodup, List.nodup_singleton _, ?_⟩
            intro key hkey key' hkey' heq
            obtain ⟨existing, hmem, rfl⟩ := List.mem_map.mp hkey
            rw [List.map_singleton, List.mem_singleton] at hkey'
            apply hdup
            rw [List.any_eq_true]
            exact ⟨existing, hmem, decide_eq_true (RegionId.key_inj.mp (heq.trans hkey'))⟩
          region_le := by
            intro member hmem
            rcases List.mem_append.mp hmem with hmem | hmem
            · exact batch.region_le member hmem
            · rw [List.mem_singleton.mp hmem]
              exact UInt64.not_lt.mp hregion
          totalLogical_eq := by
            rw [← checkedAddU64_eq_some.mp hlogical, batch.totalLogical_eq]
            simp
          totalMapped_eq := by
            rw [← checkedAddU64_eq_some.mp hmapped, batch.totalMapped_eq]
            simp
          totalLogical_le := UInt64.not_lt.mp fun hlt => hbytes (.inl hlt)
          totalMapped_le := UInt64.not_lt.mp fun hlt => hbytes (.inr hlt) })
    | _, _ => (fail .batchBytesExceeded, batch)

/-- batch.rs:205-218. -/
def reservationLengths : List UInt64 :=
  (sortBy (fun pair => pair.1.key)
    (batch.regions.map fun region => (region.id, region.mappedLen))).map Prod.snd

/-- batch.rs:220-234. -/
def manifestEntries : Option (List ManifestEntry) :=
  batch.regions.mapM fun region =>
    region.nativeSpec.map fun spec => ManifestEntry.fromNative spec region.writer.access

theorem manifestEntries_eq :
    batch.manifestEntries = some (batch.regions.map PreparedRegion.entry) := by
  rw [manifestEntries]
  induction batch.regions with
  | nil => rfl
  | cons region rest ih =>
    obtain ⟨spec, hspec, hentry⟩ := region.nativeSpec_entry
    simp [mapM_cons, hspec, hentry, ih]

/-- The canonical order of the regions, by their ids. -/
def canonical : List PreparedRegion :=
  sortBy (fun region => region.id.key) batch.regions

theorem reservationLengths_eq :
    batch.reservationLengths = batch.canonical.map PreparedRegion.mappedLen := by
  have hsort : batch.canonical.map (fun region => (region.id, region.mappedLen)) =
      sortBy (fun pair => pair.1.key)
        (batch.regions.map fun region => (region.id, region.mappedLen)) :=
    map_sortBy (fun region : PreparedRegion => (region.id, region.mappedLen))
      (fun region => show region.id.key = region.id.key from rfl) batch.regions
  rw [reservationLengths, ← hsort, map_map]
  rfl

/-- A failed `add` leaves the batch as it was; a successful one appends the region. -/
theorem add_cases (region : PreparedRegion) :
    ((batch.add region).1 ≠ .ok () ∧ (batch.add region).2 = batch) ∨
      ((batch.add region).1 = .ok () ∧ (batch.add region).2.regions = batch.regions ++ [region] ∧
        (batch.add region).2.maxRegions = batch.maxRegions ∧
        (batch.add region).2.maxRegionBytes = batch.maxRegionBytes ∧
        (batch.add region).2.maxBatchBytes = batch.maxBatchBytes) := by
  unfold add
  split
  · exact .inl ⟨nofun, rfl⟩
  · split
    · exact .inl ⟨nofun, rfl⟩
    · split
      · exact .inl ⟨nofun, rfl⟩
      · split
        · split
          · exact .inl ⟨nofun, rfl⟩
          · exact .inr ⟨rfl, rfl, rfl, rfl, rfl⟩
        · exact .inl ⟨nofun, rfl⟩

/-- The batch after one `add` for each of the regions, whether or not it is accepted. -/
def addAll (regions : List PreparedRegion) : TransferBatch :=
  regions.foldl (fun batch region => (batch.add region).2) batch

/-- The batch holds some of the added regions, in their order, under the bounds it had. -/
theorem addAll_spec (regions : List PreparedRegion) :
    (batch.addAll regions).regions.Sublist (batch.regions ++ regions) ∧
      (batch.addAll regions).maxRegions = batch.maxRegions ∧
      (batch.addAll regions).maxRegionBytes = batch.maxRegionBytes ∧
      (batch.addAll regions).maxBatchBytes = batch.maxBatchBytes := by
  induction regions generalizing batch with
  | nil => simp [addAll]
  | cons region rest ih =>
    have step : batch.addAll (region :: rest) = (batch.add region).2.addAll rest := rfl
    obtain ⟨held, bounds⟩ := ih (batch.add region).2
    rw [step]
    rcases batch.add_cases region with ⟨-, same⟩ | ⟨-, appended, maxRegions, maxRegionBytes,
      maxBatchBytes⟩
    · rw [same] at held bounds ⊢
      exact ⟨held.trans ((sublist_cons_self region rest).append_left _), bounds⟩
    · rw [maxRegions, maxRegionBytes, maxBatchBytes] at bounds
      rw [appended, append_assoc] at held
      exact ⟨held, bounds⟩

end TransferBatch

/-- session.rs:2217-2224. -/
def newTransferBatch (limits : SessionLimits) : Run BatchError TransferBatch :=
  TransferBatch.new limits.maxRegionsPerBatch limits.maxRegionBytes limits.maxBatchBytes

/-! ### Expected batches -/

/-- batch.rs:52-56. -/
structure ExpectedRegion where
  id : RegionId
  writer : WriterEndpoint
  logicalLen : UInt64
  deriving DecidableEq

/-- The turn of the length loop of `try_from_regions`, batch.rs:106-114. -/
def ExpectedRegion.addLength (total : UInt64) (region : ExpectedRegion) :
    Run BatchError UInt64 := do
  rejectIf (region.logicalLen = 0) .invalidRegionLength
  okOr (checkedAddU64 total region.logicalLen) .batchBytesExceeded

theorem ExpectedRegion.foldlM_addLength {regions : List ExpectedRegion} {start total : UInt64} :
    regions.foldlM addLength start = .ok total ↔
      (∀ region ∈ regions, region.logicalLen ≠ 0) ∧
        start.toNat + (regions.map fun region => region.logicalLen.toNat).sum = total.toNat := by
  induction regions generalizing start with
  | nil => simp [pure_eq_ok, UInt64.toNat_inj]
  | cons region rest ih =>
    have hregion {mid : UInt64} : addLength start region = .ok mid ↔
        region.logicalLen ≠ 0 ∧ start.toNat + region.logicalLen.toNat = mid.toNat := by
      simp [addLength, bind_eq_ok, rejectIf_eq_ok, okOr_eq_ok, checkedAddU64_eq_some]
    rw [foldlM_cons, bind_eq_ok, forall_mem_cons, map_cons, sum_cons]
    constructor
    · rintro ⟨mid, hmid, hrest⟩
      obtain ⟨nonzero, hsum⟩ := hregion.mp hmid
      obtain ⟨others, hsum'⟩ := ih.mp hrest
      exact ⟨⟨nonzero, others⟩, by omega⟩
    · rintro ⟨⟨nonzero, others⟩, hsum⟩
      have htotal := total.toNat_lt
      have hmid : (UInt64.ofNat (start.toNat + region.logicalLen.toNat)).toNat =
          start.toNat + region.logicalLen.toNat :=
        UInt64.toNat_ofNat_of_lt' (by change _ < 2 ^ 64; omega)
      exact ⟨.ofNat _, hregion.mpr ⟨nonzero, hmid.symm⟩, ih.mpr ⟨others, by rw [hmid]; omega⟩⟩

/-- batch.rs:60-63, with what `try_from_regions` establishes. -/
structure ExpectedBatch where
  regions : List ExpectedRegion
  totalLogical : UInt64
  regions_ne_nil : regions ≠ []
  length_le : regions.length ≤ maxTransferEntries
  increasing : (regions.map fun region => region.id.key).Pairwise (· < ·)
  nonzero : ∀ region ∈ regions, region.logicalLen ≠ 0
  totalLogical_eq : totalLogical.toNat = (regions.map fun region => region.logicalLen.toNat).sum

/-- batch.rs:93-121. -/
def ExpectedBatch.tryFromRegions (regions : List ExpectedRegion) : Run BatchError ExpectedBatch :=
  if hempty : regions = [] then fail .empty
  else if hmany : 16 < regions.length then fail .tooManyRegions
  else
    match hdup : equalNeighbour (fun region => region.id.key)
        (sortBy (fun region => region.id.key) regions) with
    | some duplicate => fail (.duplicateRegionId duplicate.id)
    | none =>
      match htotal : (sortBy (fun region => region.id.key) regions).foldlM
          ExpectedRegion.addLength 0 with
      | .error stop => .error stop
      | .ok totalLogical =>
        .ok {
          regions := sortBy (fun region => region.id.key) regions
          totalLogical
          regions_ne_nil := by
            intro hnil
            apply hempty
            rw [← List.length_eq_zero_iff, ← length_sortBy (fun region => region.id.key), hnil]
            rfl
          length_le := by
            rw [length_sortBy]
            exact Nat.not_lt.mp hmany
          increasing := (equalNeighbour_eq_none (sortBy_sorted _ regions)).mp hdup
          nonzero := (ExpectedRegion.foldlM_addLength.mp htotal).1
          totalLogical_eq := by
            rw [← (ExpectedRegion.foldlM_addLength.mp htotal).2]
            exact Nat.zero_add _ }

/-! ### Active regions -/

/-- batch.rs:283-286. -/
inductive LocalRegionAuthority where
  | reader
  | writer
  deriving DecidableEq, Repr

end NativeIpc.Session
