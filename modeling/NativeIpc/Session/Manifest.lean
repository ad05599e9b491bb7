import Mathlib.Algebra.BigOperators.Group.List.Basic
import NativeIpc.Lib.Sorting
import NativeIpc.Session.Limits

/-!
# Transfer manifests and phase frames

The fixed-size frames of a transfer (`crates/native-ipc/src/protocol.rs`): a
manifest of at most sixteen entries, its encoding under the magic of a phase,
and the frames derived from a capability frame.
Lines are those of `protocol.rs`.
-/

namespace NativeIpc.Session

open NativeIpc.Lib Bytes List

/-! ### Constants -/

def controlVersion : UInt32 := 1

def maxTransferEntries : Nat := 16

def entryLen : Nat := 64

def controlFrameLen : Nat := 96 + maxTransferEntries * entryLen

/-- The magic of a frame: `NIPC`, three letters for the phase, and `1`. -/
def phaseMagic (a b c : Char) : FixedBytes 8 :=
  ⟨[78, 73, 80, 67, .ofNat a.toNat, .ofNat b.toNat, .ofNat c.toNat, 49], rfl⟩

def capabilityMagic : FixedBytes 8 := phaseMagic 'C' 'A' 'P'

def coordinatorCapacityReadyMagic : FixedBytes 8 := phaseMagic 'C' 'P' 'R'

def coordinatorCapacityRejectMagic : FixedBytes 8 := phaseMagic 'C' 'P' 'J'

def coordinatorPreparationFailedMagic : FixedBytes 8 := phaseMagic 'C' 'P' 'F'

def receiverCapacityReadyMagic : FixedBytes 8 := phaseMagic 'R' 'P' 'R'

def receiverCapacityRejectMagic : FixedBytes 8 := phaseMagic 'R' 'P' 'J'

def importedMagic : FixedBytes 8 := phaseMagic 'I' 'M' 'P'

def sealedMagic : FixedBytes 8 := phaseMagic 'S' 'E' 'A'

def readyMagic : FixedBytes 8 := phaseMagic 'R' 'D' 'Y'

def commitMagic : FixedBytes 8 := phaseMagic 'C' 'M' 'T'

def manifestFlagCanonical : UInt32 := 1

def requiredEntryFlags : UInt16 := 1 ||| 2

/-! ### Entries -/

/-- Lines 86-89. -/
inductive PeerAccess where
  | readOnly
  | soleWriter
  deriving DecidableEq, Repr

/-- The discriminant of `PeerAccess`. -/
def PeerAccess.toNat : PeerAccess → Nat
  | .readOnly => 1
  | .soleWriter => 2

/-- The discriminant of `NativeAuthorityProfile`, lines 50-75. -/
def NativeAuthorityProfile.toNat : NativeAuthorityProfile → Nat
  | .legacy => 0
  | .linuxMdweV1 => 1
  | .macMachV1 => 2
  | .windowsSectionsV1 => 3

/-- Lines 93-99, with what `NativeRegionSpec::new` checks. -/
structure NativeRegionSpec where
  regionId : BitVec 128
  incarnation : FixedBytes 16
  writer : UInt32
  logicalLen : UInt64
  mappedLen : UInt64
  regionId_ne_zero : regionId ≠ 0
  incarnation_ne_zero : incarnation ≠ FixedBytes.zero 16
  logicalLen_ne_zero : logicalLen ≠ 0
  logicalLen_le : logicalLen ≤ mappedLen

/-- Lines 102-122. -/
def NativeRegionSpec.new (regionId : BitVec 128) (incarnation : FixedBytes 16) (writer : UInt32)
    (logicalLen mappedLen : UInt64) : Option NativeRegionSpec :=
  if h : regionId = 0 ∨ incarnation = FixedBytes.zero 16 ∨ logicalLen = 0 ∨
      mappedLen < logicalLen then
    none
  else
    some {
      regionId
      incarnation
      writer
      logicalLen
      mappedLen
      regionId_ne_zero := fun hid => h (.inl hid)
      incarnation_ne_zero := fun hzero => h (.inr (.inl hzero))
      logicalLen_ne_zero := fun hzero => h (.inr (.inr (.inl hzero)))
      logicalLen_le := UInt64.not_lt.mp fun hlt => h (.inr (.inr (.inr hlt))) }

/-- Lines 126-135. -/
structure ManifestEntry where
  regionId : BitVec 128
  incarnation : FixedBytes 16
  writer : UInt32
  access : PeerAccess
  logicalLen : UInt64
  mappedLen : UInt64
  ordinal : UInt16
  flags : UInt16
  deriving DecidableEq, Repr

namespace ManifestEntry

/-- Lines 138-149. -/
def fromNative (spec : NativeRegionSpec) (access : PeerAccess) : ManifestEntry where
  regionId := spec.regionId
  incarnation := spec.incarnation
  writer := spec.writer
  access := access
  logicalLen := spec.logicalLen
  mappedLen := spec.mappedLen
  ordinal := 0
  flags := requiredEntryFlags

/-- What the manifest constructor rejects in one entry, lines 462-466. -/
def Malformed (entry : ManifestEntry) : Prop :=
  entry.regionId = 0 ∨ entry.incarnation = FixedBytes.zero 16 ∨ entry.logicalLen = 0 ∨
    entry.mappedLen < entry.logicalLen ∨ entry.flags ≠ requiredEntryFlags

instance (entry : ManifestEntry) : Decidable entry.Malformed :=
  inferInstanceAs (Decidable (_ ∨ _))

theorem not_malformed_fromNative (spec : NativeRegionSpec) (access : PeerAccess) :
    ¬ (fromNative spec access).Malformed := by
  rintro (h | h | h | h | h)
  · exact spec.regionId_ne_zero h
  · exact spec.incarnation_ne_zero h
  · exact spec.logicalLen_ne_zero h
  · exact UInt64.not_lt.mpr spec.logicalLen_le h
  · exact h rfl

end ManifestEntry

/-! ### Manifests -/

variable (entries : List ManifestEntry)

/-- The sum of the entries' logical lengths. -/
def logicalSum : Nat :=
  (entries.map fun entry => entry.logicalLen.toNat).sum

/-- The sum of the entries' mapped lengths. -/
def mappedSum : Nat :=
  (entries.map fun entry => entry.mappedLen.toNat).sum

/-- Lines 153-162, with what its only constructor establishes. -/
@[ext] structure TransferManifest where
  nonce : FixedBytes 32
  parentPid : UInt32
  childPid : UInt32
  transferId : UInt64
  authorityProfile : NativeAuthorityProfile
  totalLogical : UInt64
  totalMapped : UInt64
  entries : List ManifestEntry
  nonce_ne_zero : nonce ≠ FixedBytes.zero 32
  parentPid_ne_zero : parentPid ≠ 0
  childPid_ne_zero : childPid ≠ 0
  transferId_ne_zero : transferId ≠ 0
  transferId_ne_max : transferId ≠ 0xFFFFFFFFFFFFFFFF
  entries_ne_nil : entries ≠ []
  length_le : entries.length ≤ maxTransferEntries
  wellFormed : ∀ entry ∈ entries, ¬ entry.Malformed
  totalLogical_eq : totalLogical.toNat = logicalSum entries
  totalMapped_eq : totalMapped.toNat = mappedSum entries
  increasing : (entries.map fun entry => entry.regionId.toNat).Pairwise (· < ·)
  incarnations_nodup : (entries.map ManifestEntry.incarnation).Nodup
  ordinals : entries.map ManifestEntry.ordinal = (List.range entries.length).map UInt16.ofNat

instance : DecidableEq TransferManifest := fun m n =>
  decidable_of_iff (m.nonce = n.nonce ∧ m.parentPid = n.parentPid ∧ m.childPid = n.childPid ∧
    m.transferId = n.transferId ∧ m.authorityProfile = n.authorityProfile ∧
    m.totalLogical = n.totalLogical ∧ m.totalMapped = n.totalMapped ∧ m.entries = n.entries)
    TransferManifest.ext_iff.symm

/-- The checks and sums of the first loop of `new_with_authority`, lines 459-472. -/
def addTotals (totals : UInt64 × UInt64) (entry : ManifestEntry) : Option (UInt64 × UInt64) :=
  if entry.Malformed then none
  else do
    let totalLogical ← checkedAddU64 totals.1 entry.logicalLen
    let totalMapped ← checkedAddU64 totals.2 entry.mappedLen
    some (totalLogical, totalMapped)

/-- `entries.sort_unstable_by_key(|entry| entry.region_id)`. -/
def sortByRegionId : List ManifestEntry :=
  sortBy (fun entry => entry.regionId.toNat) entries

/-- `entries.windows(2).any(|pair| pair[0].region_id == pair[1].region_id)`. -/
def hasAdjacentIds : Bool :=
  (equalNeighbour (fun entry => entry.regionId.toNat) entries).isSome

/-- The loop over later entries with the same incarnation, lines 480-487. -/
def hasRepeatedIncarnation : List ManifestEntry → Bool
  | [] => false
  | left :: rest =>
    rest.any (fun right => right.incarnation = left.incarnation) || hasRepeatedIncarnation rest

/-- The assignment of ordinals, lines 488-490. -/
def numberEntries : List ManifestEntry :=
  entries.zipIdx.map fun (entry, ordinal) => { entry with ordinal := UInt16.ofNat ordinal }

/-! ### What the checks of the constructor mean -/

variable {entries} {m : TransferManifest}
    {authorityProfile : NativeAuthorityProfile}

theorem foldlM_addTotals {start totals : UInt64 × UInt64} :
    entries.foldlM addTotals start = some totals ↔
      (∀ entry ∈ entries, ¬ entry.Malformed) ∧
        start.1.toNat + logicalSum entries = totals.1.toNat ∧
        start.2.toNat + mappedSum entries = totals.2.toNat := by
  induction entries generalizing start with
  | nil => simp [logicalSum, mappedSum, Prod.ext_iff, UInt64.toNat_inj]
  | cons entry entries ih =>
    have hsplit : (entry :: entries).foldlM addTotals start = some totals ↔
        ∃ mid, addTotals start entry = some mid ∧ entries.foldlM addTotals mid = some totals := by
      rw [foldlM_cons, Option.bind_eq_bind, Option.bind_eq_some_iff]
    have hentry {mid : UInt64 × UInt64} : addTotals start entry = some mid ↔
        ¬ entry.Malformed ∧ start.1.toNat + entry.logicalLen.toNat = mid.1.toNat ∧
          start.2.toNat + entry.mappedLen.toNat = mid.2.toNat := by
      unfold addTotals
      split
      · simp [*]
      · simp [*, Option.bind_eq_some_iff, checkedAddU64_eq_some, Prod.ext_iff]
    have hlogical : logicalSum (entry :: entries) =
        entry.logicalLen.toNat + logicalSum entries := rfl
    have hmapped : mappedSum (entry :: entries) = entry.mappedLen.toNat + mappedSum entries := rfl
    rw [hsplit, hlogical, hmapped, forall_mem_cons]
    constructor
    · rintro ⟨mid, hmid, hrest⟩
      obtain ⟨good, hl, hm⟩ := hentry.mp hmid
      obtain ⟨others, hl', hm'⟩ := ih.mp hrest
      exact ⟨⟨good, others⟩, by omega, by omega⟩
    · rintro ⟨⟨good, others⟩, hl, hm⟩
      have hl64 := totals.1.toNat_lt
      have hm64 := totals.2.toNat_lt
      have hmid₁ : (UInt64.ofNat (start.1.toNat + entry.logicalLen.toNat)).toNat =
          start.1.toNat + entry.logicalLen.toNat :=
        UInt64.toNat_ofNat_of_lt' (by change _ < 2 ^ 64; omega)
      have hmid₂ : (UInt64.ofNat (start.2.toNat + entry.mappedLen.toNat)).toNat =
          start.2.toNat + entry.mappedLen.toNat :=
        UInt64.toNat_ofNat_of_lt' (by change _ < 2 ^ 64; omega)
      exact ⟨(.ofNat _, .ofNat _), hentry.mpr ⟨good, hmid₁.symm, hmid₂.symm⟩,
        ih.mpr ⟨others, by simp only [hmid₁]; omega, by simp only [hmid₂]; omega⟩⟩

theorem hasAdjacentIds_sortByRegionId :
    hasAdjacentIds (sortByRegionId entries) = false ↔
      ((sortByRegionId entries).map fun entry => entry.regionId.toNat).Pairwise (· < ·) := by
  rw [hasAdjacentIds, Option.isSome_eq_false_iff, Option.isNone_iff_eq_none]
  exact equalNeighbour_eq_none (sortBy_sorted _ entries)

open ManifestEntry

theorem hasRepeatedIncarnation_eq_false :
    hasRepeatedIncarnation entries = false ↔ (entries.map incarnation).Nodup := by
  induction entries with
  | nil => simp [hasRepeatedIncarnation]
  | cons left rest ih =>
    rw [hasRepeatedIncarnation, Bool.or_eq_false_iff, ih, map_cons, nodup_cons]
    simp

theorem sortByRegionId_perm : (sortByRegionId entries).Perm entries :=
  sortBy_perm _ _

theorem map_numberEntries {α : Type} (f : ManifestEntry → α)
    (stable : ∀ entry ordinal, f { entry with ordinal := ordinal } = f entry) :
    (numberEntries entries).map f = entries.map f := by
  rw [numberEntries, map_map]
  have hf : f ∘ (fun pair : ManifestEntry × Nat =>
      { pair.1 with ordinal := UInt16.ofNat pair.2 }) = f ∘ Prod.fst := by
    funext pair
    exact stable _ _
  rw [hf, ← map_map, zipIdx_map_fst]

theorem length_numberEntries : (numberEntries entries).length = entries.length := by
  simp [numberEntries]

theorem ordinals_numberEntries :
    (numberEntries entries).map ordinal =
      (List.range entries.length).map UInt16.ofNat := by
  rw [numberEntries, map_map]
  have hf : ordinal ∘ (fun pair : ManifestEntry × Nat =>
      { pair.1 with ordinal := UInt16.ofNat pair.2 }) = UInt16.ofNat ∘ Prod.snd := rfl
  rw [hf, ← map_map, zipIdx_map_snd, range_eq_range']

theorem wellFormed_numberEntries (h : ∀ entry ∈ entries, ¬ entry.Malformed) :
    ∀ entry ∈ numberEntries entries, ¬ entry.Malformed := by
  intro entry hentry
  rw [numberEntries, mem_map] at hentry
  obtain ⟨pair, hpair, rfl⟩ := hentry
  exact h pair.1 (fst_mem_of_mem_zipIdx hpair)

/-- Entries that carry their ordinals already stay as they are. -/
theorem numberEntries_eq_self
    (ordinals : entries.map ordinal = (List.range entries.length).map UInt16.ofNat) :
    numberEntries entries = entries := by
  apply ext_getElem length_numberEntries
  intro i hi hi'
  have hordinal : entries[i].ordinal = UInt16.ofNat i := by
    have h := congrArg (fun list => list[i]?) ordinals
    simpa [getElem?_eq_getElem hi', hi'] using h
  simp [numberEntries, ← hordinal]

/-- The sums, ids and incarnations do not depend on the order or on the ordinals. -/
theorem logicalSum_canonical :
    logicalSum (numberEntries (sortByRegionId entries)) = logicalSum entries := by
  rw [logicalSum, map_numberEntries _ fun _ _ => rfl]
  exact (sortByRegionId_perm.map _).sum_eq

theorem mappedSum_canonical :
    mappedSum (numberEntries (sortByRegionId entries)) = mappedSum entries := by
  rw [mappedSum, map_numberEntries _ fun _ _ => rfl]
  exact (sortByRegionId_perm.map _).sum_eq

theorem length_canonical : (numberEntries (sortByRegionId entries)).length = entries.length :=
  length_numberEntries.trans sortByRegionId_perm.length_eq

namespace TransferManifest

/-- What `new_with_authority` rejects before it looks at the entries, lines 449-455. -/
def BadHead (nonce : FixedBytes 32) (parentPid childPid : UInt32) (transferId : UInt64)
    (entries : List ManifestEntry) : Prop :=
  nonce = FixedBytes.zero 32 ∨ parentPid = 0 ∨ childPid = 0 ∨ transferId = 0 ∨
    transferId = 0xFFFFFFFFFFFFFFFF ∨ entries = [] ∨ maxTransferEntries < entries.length

instance (nonce : FixedBytes 32) (parentPid childPid : UInt32) (transferId : UInt64)
    (entries : List ManifestEntry) :
    Decidable (BadHead nonce parentPid childPid transferId entries) :=
  inferInstanceAs (Decidable (_ ∨ _))

/-- Lines 441-501. -/
def newWithAuthority (nonce : FixedBytes 32) (parentPid childPid : UInt32) (transferId : UInt64)
    (authorityProfile : NativeAuthorityProfile) (entries : List ManifestEntry) :
    Option TransferManifest :=
  if hhead : BadHead nonce parentPid childPid transferId entries then none
  else
    match htotals : entries.foldlM addTotals (0, 0) with
    | none => none
    | some totals =>
      if hids : hasAdjacentIds (sortByRegionId entries) then none
      else if hrepeated : hasRepeatedIncarnation (sortByRegionId entries) then none
      else
        some {
          nonce
          parentPid
          childPid
          transferId
          authorityProfile
          totalLogical := totals.1
          totalMapped := totals.2
          entries := numberEntries (sortByRegionId entries)
          nonce_ne_zero := fun h => hhead (.inl h)
          parentPid_ne_zero := fun h => hhead (.inr (.inl h))
          childPid_ne_zero := fun h => hhead (.inr (.inr (.inl h)))
          transferId_ne_zero := fun h => hhead (.inr (.inr (.inr (.inl h))))
          transferId_ne_max := fun h => hhead (.inr (.inr (.inr (.inr (.inl h)))))
          entries_ne_nil := by
            intro h
            have hnil : entries = [] := by
              rw [← List.length_eq_zero_iff, ← length_canonical, h, List.length_nil]
            exact hhead (.inr (.inr (.inr (.inr (.inr (.inl hnil))))))
          length_le := by
            rw [length_canonical]
            exact Nat.not_lt.mp fun h => hhead (.inr (.inr (.inr (.inr (.inr (.inr h))))))
          wellFormed := wellFormed_numberEntries fun entry hentry =>
            (foldlM_addTotals.mp htotals).1 entry (sortByRegionId_perm.mem_iff.mp hentry)
          totalLogical_eq := by
            rw [logicalSum_canonical, ← (foldlM_addTotals.mp htotals).2.1]
            exact Nat.zero_add _
          totalMapped_eq := by
            rw [mappedSum_canonical, ← (foldlM_addTotals.mp htotals).2.2]
            exact Nat.zero_add _
          increasing := by
            rw [map_numberEntries _ fun _ _ => rfl]
            exact hasAdjacentIds_sortByRegionId.mp (Bool.eq_false_of_not_eq_true hids)
          incarnations_nodup := by
            rw [map_numberEntries _ fun _ _ => rfl]
            exact hasRepeatedIncarnation_eq_false.mp (Bool.eq_false_of_not_eq_true hrepeated)
          ordinals := by rw [ordinals_numberEntries, length_numberEntries] }

/-- A manifest is determined by its head and its entries. -/
theorem eq_of_data {n : TransferManifest} (nonce : m.nonce = n.nonce)
    (parentPid : m.parentPid = n.parentPid) (childPid : m.childPid = n.childPid)
    (transferId : m.transferId = n.transferId)
    (authorityProfile : m.authorityProfile = n.authorityProfile) (entries : m.entries = n.entries) :
    m = n := by
  have logical : m.totalLogical = n.totalLogical := by
    rw [← UInt64.toNat_inj, m.totalLogical_eq, n.totalLogical_eq, entries]
  have mapped : m.totalMapped = n.totalMapped := by
    rw [← UInt64.toNat_inj, m.totalMapped_eq, n.totalMapped_eq, entries]
  exact TransferManifest.ext nonce parentPid childPid transferId authorityProfile logical mapped
    entries

section Canonical

variable {m : TransferManifest} {entries : List ManifestEntry}
  (canonical : m.entries = numberEntries (sortByRegionId entries))
include canonical

/-- Entries whose canonical form a manifest holds pass the checks of the constructor. -/
theorem not_badHead : ¬ BadHead m.nonce m.parentPid m.childPid m.transferId entries := by
  have hlen : m.entries.length = entries.length := by rw [canonical, length_canonical]
  rintro (h | h | h | h | h | h | h)
  · exact m.nonce_ne_zero h
  · exact m.parentPid_ne_zero h
  · exact m.childPid_ne_zero h
  · exact m.transferId_ne_zero h
  · exact m.transferId_ne_max h
  · rw [h] at hlen
    exact m.entries_ne_nil (length_eq_zero_iff.mp hlen)
  · exact Nat.not_lt.mpr (hlen ▸ m.length_le) h

theorem addTotals_eq : entries.foldlM addTotals (0, 0) = some (m.totalLogical, m.totalMapped) := by
  rw [foldlM_addTotals, m.totalLogical_eq, m.totalMapped_eq, canonical, logicalSum_canonical,
    mappedSum_canonical]
  refine ⟨?_, Nat.zero_add _, Nat.zero_add _⟩
  intro entry hentry hbad
  obtain ⟨i, hi⟩ := mem_iff_getElem?.mp (sortByRegionId_perm.mem_iff.mpr hentry)
  have hmem : { entry with ordinal := UInt16.ofNat i } ∈ m.entries := by
    rw [canonical, numberEntries, mem_map]
    exact ⟨(entry, i), mem_zipIdx_iff_getElem?.mpr hi, rfl⟩
  exact m.wellFormed _ hmem hbad

theorem hasAdjacentIds_eq : hasAdjacentIds (sortByRegionId entries) = false := by
  have h := m.increasing
  rw [canonical, map_numberEntries _ fun _ _ => rfl] at h
  exact hasAdjacentIds_sortByRegionId.mpr h

theorem hasRepeatedIncarnation_eq : hasRepeatedIncarnation (sortByRegionId entries) = false := by
  have h := m.incarnations_nodup
  rw [canonical, map_numberEntries _ fun _ _ => rfl] at h
  exact hasRepeatedIncarnation_eq_false.mpr h

end Canonical

variable {nonce : FixedBytes 32} {transferId : UInt64}

/-- The constructor returns the manifest with the given head and the entries in order. -/
theorem newWithAuthority_eq_some {parentPid childPid : UInt32} :
    newWithAuthority nonce parentPid childPid transferId authorityProfile entries = some m ↔
      m.nonce = nonce ∧ m.parentPid = parentPid ∧ m.childPid = childPid ∧
        m.transferId = transferId ∧ m.authorityProfile = authorityProfile ∧
        m.entries = numberEntries (sortByRegionId entries) := by
  constructor
  · intro h
    unfold newWithAuthority at h
    split at h
    · cases h
    · split at h
      · cases h
      · split at h
        · cases h
        · split at h
          · cases h
          · cases h
            exact ⟨rfl, rfl, rfl, rfl, rfl, rfl⟩
  · rintro ⟨rfl, rfl, rfl, rfl, rfl, hentries⟩
    have htotals := addTotals_eq hentries
    rw [newWithAuthority, dif_neg (not_badHead hentries)]
    split
    · rename_i hnone
      rw [hnone] at htotals
      cases htotals
    · rw [dif_neg (by rw [hasAdjacentIds_eq hentries]; exact nofun),
        dif_neg (by rw [hasRepeatedIncarnation_eq hentries]; exact nofun)]
      exact congrArg some (eq_of_data rfl rfl rfl rfl rfl hentries.symm)

/-- The constructor accepts every list of well-formed entries that are distinct and whose sums fit
    a word. -/
theorem newWithAuthority_isSome {parentPid childPid : UInt32}
    (head : ¬ BadHead nonce parentPid childPid transferId entries)
    (wellFormed : ∀ entry ∈ entries, ¬ entry.Malformed)
    (logical : logicalSum entries < 2 ^ 64) (mapped : mappedSum entries < 2 ^ 64)
    (ids : (entries.map fun entry => entry.regionId.toNat).Nodup)
    (incarnations : (entries.map incarnation).Nodup) :
    (newWithAuthority nonce parentPid childPid transferId authorityProfile entries).isSome := by
  have totals : entries.foldlM addTotals (0, 0) =
      some (.ofNat (logicalSum entries), .ofNat (mappedSum entries)) := by
    rw [foldlM_addTotals, UInt64.toNat_ofNat_of_lt' logical, UInt64.toNat_ofNat_of_lt' mapped]
    exact ⟨wellFormed, Nat.zero_add _, Nat.zero_add _⟩
  have distinctIds : hasAdjacentIds (sortByRegionId entries) = false :=
    hasAdjacentIds_sortByRegionId.mpr (increasing_sortBy ids)
  have distinctIncarnations : hasRepeatedIncarnation (sortByRegionId entries) = false :=
    hasRepeatedIncarnation_eq_false.mpr
      ((sortByRegionId_perm.map incarnation).nodup_iff.mpr incarnations)
  rw [newWithAuthority, dif_neg head]
  split
  · rename_i none_eq
    rw [none_eq] at totals
    cases totals
  · rw [dif_neg (by rw [distinctIds]; exact nofun),
      dif_neg (by rw [distinctIncarnations]; exact nofun)]
    rfl

/-- A manifest is what the constructor makes of its own head and entries. -/
theorem newWithAuthority_self (m : TransferManifest) :
    newWithAuthority m.nonce m.parentPid m.childPid m.transferId m.authorityProfile m.entries =
      some m := by
  rw [newWithAuthority_eq_some, sortByRegionId, sortBy_eq_self m.increasing,
    numberEntries_eq_self m.ordinals]
  exact ⟨rfl, rfl, rfl, rfl, rfl, rfl⟩

section Order

variable {nonce : FixedBytes 32} {parentPid childPid : UInt32} {transferId : UInt64}
  {authorityProfile : NativeAuthorityProfile} {entries entries' : List ManifestEntry}

/-- The ids of accepted entries are distinct. -/
theorem ids_nodup_of_accepted
    (h : newWithAuthority nonce parentPid childPid transferId authorityProfile entries = some m) :
    (entries.map fun entry => entry.regionId.toNat).Nodup := by
  obtain ⟨-, -, -, -, -, canonical⟩ := newWithAuthority_eq_some.mp h
  have increasing := m.increasing
  rw [canonical, map_numberEntries _ fun _ _ => rfl] at increasing
  have nodup := increasing.imp fun hlt => Nat.ne_of_lt hlt
  exact (sortByRegionId_perm.map _).nodup_iff.mp nodup

theorem newWithAuthority_eq_some_of_perm (perm : entries.Perm entries')
    (h : newWithAuthority nonce parentPid childPid transferId authorityProfile entries = some m) :
    newWithAuthority nonce parentPid childPid transferId authorityProfile entries' = some m := by
  have hsort : sortByRegionId entries = sortByRegionId entries' :=
    sortBy_eq_of_perm perm (ids_nodup_of_accepted h)
  rw [newWithAuthority_eq_some] at h ⊢
  rwa [← hsort]

/-- The order in which the entries are given does not matter, not even for the overflow of the
    running totals. -/
theorem newWithAuthority_of_perm (perm : entries.Perm entries') :
    newWithAuthority nonce parentPid childPid transferId authorityProfile entries =
      newWithAuthority nonce parentPid childPid transferId authorityProfile entries' := by
  apply Option.ext
  intro m
  constructor
  · exact newWithAuthority_eq_some_of_perm perm
  · exact newWithAuthority_eq_some_of_perm perm.symm

end Order

/-! ### Encoding -/

variable (frame : Bytes)

/-- The bytes of one entry, lines 519-529: its fields from `start` on. -/
def writeEntry (start : Nat) (entry : ManifestEntry) : Bytes :=
  let frame := frame.overwrite start (ofLe 16 entry.regionId.toNat)
  let frame := frame.overwrite (start + 16) entry.incarnation.list
  let frame := frame.overwrite (start + 32) (ofLe 8 entry.logicalLen.toNat)
  let frame := frame.overwrite (start + 40) (ofLe 8 entry.mappedLen.toNat)
  let frame := frame.overwrite (start + 48) (ofLe 4 entry.writer.toNat)
  let frame := frame.overwrite (start + 52) (ofLe 4 entry.access.toNat)
  let frame := frame.overwrite (start + 56) (ofLe 2 entry.ordinal.toNat)
  frame.overwrite (start + 58) (ofLe 2 entry.flags.toNat)

/-- The head of `encode`, lines 504-518. -/
def writeHead (m : TransferManifest) (magic : FixedBytes 8) (frame : Bytes) : Bytes :=
  let frame := frame.overwrite 0 magic.list
  let frame := frame.overwrite 8 (ofLe 4 controlVersion.toNat)
  let frame := frame.overwrite 12 (ofLe 4 m.entries.length)
  let frame := frame.overwrite 16 m.nonce.list
  let frame := frame.overwrite 48 (ofLe 4 m.parentPid.toNat)
  let frame := frame.overwrite 52 (ofLe 4 m.childPid.toNat)
  let frame := frame.overwrite 56 (ofLe 8 m.transferId.toNat)
  let frameKind := toLe (magic.list.extract 4 8)
  let frame := frame.overwrite 64 (ofLe 4 frameKind)
  let frame := frame.overwrite 68 (ofLe 4 manifestFlagCanonical.toNat)
  let frame := frame.overwrite 72 (ofLe 4 controlFrameLen)
  let frame := frame.overwrite 76 (ofLe 4 m.authorityProfile.toNat)
  let frame := frame.overwrite 80 (ofLe 8 m.totalLogical.toNat)
  frame.overwrite 88 (ofLe 8 m.totalMapped.toNat)

/-- Lines 503-531. -/
def encode (m : TransferManifest) (magic : FixedBytes 8) : Bytes :=
  m.entries.zipIdx.foldl
    (fun frame (entry, index) => writeEntry frame (96 + index * entryLen) entry)
    (m.writeHead magic (List.replicate controlFrameLen 0))

/-! ### Decoding -/

/-- `from_le_bytes(frame[start..start + width])`. -/
def readLe (start width : Nat) : Nat :=
  toLe (frame.extract start (start + width))

/-- `frame[start..start + n].try_into()`. -/
def readFixed (n : Nat) (frame : Bytes) (start : Nat) : Option (FixedBytes n) :=
  if h : (frame.extract start (start + n)).length = n then some ⟨_, h⟩ else none

/-- The authority profile of a frame, lines 386-392. -/
def readProfile : Option NativeAuthorityProfile :=
  match readLe frame 76 4 with
  | 0 => some .legacy
  | 1 => some .linuxMdweV1
  | 2 => some .macMachV1
  | 3 => some .windowsSectionsV1
  | _ => none

/-- The access of an entry, lines 396-400. -/
def readAccess (start : Nat) : Option PeerAccess :=
  match readLe frame (start + 52) 4 with
  | 1 => some .readOnly
  | 2 => some .soleWriter
  | _ => none

/-- One turn of the entry loop, lines 394-411. -/
def decodeEntry (index : Nat) : Option ManifestEntry := do
  let start := 96 + index * entryLen
  let access ← readAccess frame start
  let incarnation ← readFixed 16 frame (start + 16)
  some {
    regionId := .ofNat 128 (readLe frame start 16)
    incarnation
    logicalLen := .ofNat (readLe frame (start + 32) 8)
    mappedLen := .ofNat (readLe frame (start + 40) 8)
    writer := .ofNat (readLe frame (start + 48) 4)
    access
    ordinal := .ofNat (readLe frame (start + 56) 2)
    flags := .ofNat (readLe frame (start + 58) 2) }

/-- Lines 375-421. -/
def decode (magic : FixedBytes 8) (frame : Bytes) : Option TransferManifest :=
  if frame.length ≠ controlFrameLen ∨ frame.extract 0 8 ≠ magic.list ∨
      readLe frame 8 4 ≠ controlVersion.toNat then
    none
  else
    let count := readLe frame 12 4
    if ¬ (1 ≤ count ∧ count ≤ maxTransferEntries) then none
    else do
      let authorityProfile ← readProfile frame
      let entries ← (List.range count).mapM (decodeEntry frame)
      let nonce ← readFixed 32 frame 16
      let m ← newWithAuthority nonce (.ofNat (readLe frame 48 4)) (.ofNat (readLe frame 52 4))
        (.ofNat (readLe frame 56 8)) authorityProfile entries
      if m.encode magic = frame then some m else none

/-- Lines 533-541. -/
def fitsLimits (m : TransferManifest) (limits : SessionLimits) : Bool :=
  m.entries.length ≤ limits.maxRegionsPerBatch.toNat && m.totalLogical ≤ limits.maxBatchBytes &&
    m.totalMapped ≤ limits.maxBatchBytes &&
    m.entries.all fun entry => entry.logicalLen ≤ limits.maxRegionBytes

end TransferManifest

/-! ### Phase frames -/

/-- Lines 172-175. -/
structure CapabilityFrame where
  bytes : Bytes
  capabilityCount : Nat
  deriving DecidableEq, Repr

/-- Lines 183-186. -/
inductive PreparationFrameKind where
  | imported
  | sealed
  deriving DecidableEq, Repr

/-- Lines 201-204. -/
inductive CompletionFrameKind where
  | ready
  | commit
  deriving DecidableEq, Repr

/-- Lines 221-225. -/
inductive CoordinatorCapacityStatus where
  | ready
  | activeLimit
  | preparationFailed
  deriving DecidableEq, Repr

/-- The magic each status is sent under, lines 256-260. -/
def CoordinatorCapacityStatus.magic : CoordinatorCapacityStatus → FixedBytes 8
  | .ready => coordinatorCapacityReadyMagic
  | .activeLimit => coordinatorCapacityRejectMagic
  | .preparationFailed => coordinatorPreparationFailedMagic

/-- The magic of a preparation frame, lines 303-306. -/
def PreparationFrameKind.magic : PreparationFrameKind → FixedBytes 8
  | .imported => importedMagic
  | .sealed => sealedMagic

/-- The magic of a completion frame, lines 313-316. -/
def CompletionFrameKind.magic : CompletionFrameKind → FixedBytes 8
  | .ready => readyMagic
  | .commit => commitMagic

namespace CapabilityFrame

/-- Lines 232-237. -/
def fromManifest (m : TransferManifest) : CapabilityFrame :=
  { bytes := m.encode capabilityMagic, capabilityCount := m.entries.length }

/-- Lines 247-250. -/
def decode (bytes : Bytes) : Option (CapabilityFrame × TransferManifest) := do
  let m ← TransferManifest.decode capabilityMagic bytes
  some (fromManifest m, m)

variable (frame : CapabilityFrame)

/-- Lines 326-332. -/
def phaseFrameBytes (magic : FixedBytes 8) : Bytes :=
  (frame.bytes.overwrite 0 magic.list).overwrite 64 (magic.list.extract 4 8)

/-- Lines 252-261. -/
def coordinatorCapacityFrame (status : CoordinatorCapacityStatus) : Bytes :=
  frame.phaseFrameBytes status.magic

/-- Lines 263-269. -/
def receiverCapacityFrame (ready : Bool) : Bytes :=
  frame.phaseFrameBytes (if ready then receiverCapacityReadyMagic else receiverCapacityRejectMagic)

/-- Lines 301-308. -/
def preparationFrame (kind : PreparationFrameKind) : Bytes :=
  frame.phaseFrameBytes kind.magic

/-- Lines 311-318. -/
def completionFrame (kind : CompletionFrameKind) : Bytes :=
  frame.phaseFrameBytes kind.magic

/-- One attempt of `decode_coordinator_capacity`. -/
def decodeStatus (bytes : Bytes) (status : CoordinatorCapacityStatus) :
    Option (CapabilityFrame × TransferManifest × CoordinatorCapacityStatus) := do
  let m ← TransferManifest.decode status.magic bytes
  some (fromManifest m, m, status)

/-- Lines 277-299: the first status that decodes. -/
def decodeCoordinatorCapacity (bytes : Bytes) :
    Option (CapabilityFrame × TransferManifest × CoordinatorCapacityStatus) :=
  [CoordinatorCapacityStatus.ready, .activeLimit, .preparationFailed].findSome?
    (decodeStatus bytes)

end CapabilityFrame

end NativeIpc.Session
