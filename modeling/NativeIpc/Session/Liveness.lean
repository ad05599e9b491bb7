import NativeIpc.Session.Limits

/-!
# The lease ledger and active mappings

The resources an accepted session charges for active mappings
(`crates/native-ipc/src/liveness.rs`) and the checked accesses through a
mapping that holds a lease (`crates/native-ipc/src/active.rs`). Leases are
charged and released by one owner at a time here; each atomic operation of the
source is one assignment.
-/

namespace NativeIpc.Session

open NativeIpc.Lib Bytes Run List

/-- liveness.rs:35-39. -/
inductive LivenessState where
  | active
  | poisoned
  | closed
  deriving DecidableEq, Repr

/-- liveness.rs:43-47. Its consistency field follows from the counters. -/
structure ActiveLeaseFacts where
  regions : UInt32
  bytes : UInt64
  deriving DecidableEq, Repr

/-- liveness.rs:81-88. -/
inductive ResourceError where
  | invalidLimits
  | poisoned
  | closed
  | activeLimit
  | mappedLengthMismatch (reserved actual : UInt64)
  | activeLeases (facts : ActiveLeaseFacts)
  deriving DecidableEq, Repr

/-- `ResourceOwner` with its `SharedResources`, liveness.rs:12-25. -/
structure ResourceOwner where
  state : LivenessState
  activeRegions : UInt32
  activeBytes : UInt64
  maximumRegions : UInt32
  maximumBytes : UInt64
  deriving DecidableEq, Repr

/-- `LeaseReservation` and `RegionLease`: the bytes that dropping it gives back. -/
structure LeaseReservation where
  bytes : UInt64
  deriving DecidableEq, Repr

variable {owner : ResourceOwner} {lengths : List UInt64}

namespace ResourceOwner

/-- liveness.rs:91-107. -/
def new (t : Target) (limits : SessionLimits) : Run ResourceError ResourceOwner := do
  let limits ← (limits.validate t).mapError fun _ => .invalidLimits
  pure {
    state := .active
    activeRegions := 0
    activeBytes := 0
    maximumRegions := limits.maxActiveRegions
    maximumBytes := limits.maxActiveBytes }

section

variable (owner : ResourceOwner)

/-- liveness.rs:213-219. -/
def ensureActive : Run ResourceError Unit :=
  match owner.state with
  | .active => .ok ()
  | .poisoned => fail .poisoned
  | .closed => fail .closed

/-- The two counters after one region of `bytes` is charged. -/
def charge (bytes : UInt64) : ResourceOwner :=
  { owner with
    activeRegions := owner.activeRegions + 1, activeBytes := owner.activeBytes + bytes }

/-- `RegionLease::drop`, liveness.rs:239-254. -/
def release (lease : LeaseReservation) : ResourceOwner :=
  { owner with
    activeRegions := owner.activeRegions - 1, activeBytes := owner.activeBytes - lease.bytes }

/-- The leases of a dropped vector, released in order. -/
def releaseAll (leases : List LeaseReservation) : ResourceOwner :=
  leases.foldl release owner

/-- liveness.rs:109-151. -/
def reserve (bytes : UInt64) : Run ResourceError LeaseReservation × ResourceOwner :=
  if bytes = 0 ∨ owner.maximumBytes < bytes then
    (fail .activeLimit, owner)
  else
    match owner.ensureActive with
    | .error stop => (.error stop, owner)
    | .ok () =>
      if owner.maximumRegions ≤ owner.activeRegions then
        (fail .activeLimit, owner)
      else if owner.activeBytes.toNat + bytes.toNat < 2 ^ 64 ∧
          owner.activeBytes + bytes ≤ owner.maximumBytes then
        -- The source checks the state once more after charging both counters.
        match (owner.charge bytes).ensureActive with
        | .error stop => (.error stop, (owner.charge bytes).release ⟨bytes⟩)
        | .ok () => (.ok ⟨bytes⟩, owner.charge bytes)
      else
        (fail .activeLimit, owner)

/-- liveness.rs:153-160. -/
def poison : ResourceOwner :=
  match owner.state with
  | .active => { owner with state := .poisoned }
  | _ => owner

/-- liveness.rs:187-199. -/
def activeLeaseFacts : ActiveLeaseFacts :=
  { regions := owner.activeRegions, bytes := owner.activeBytes }

/-- liveness.rs:162-181. -/
def tryClose : Run ResourceError Unit × ResourceOwner :=
  let facts := owner.activeLeaseFacts
  if facts.regions ≠ 0 ∨ facts.bytes ≠ 0 then
    (fail (.activeLeases facts), owner)
  else if owner.state = .closed then
    (fail .closed, owner)
  else
    (.ok (), { owner with state := .closed })

/-- accepted_control.rs:615-624. An error drops what was reserved. -/
def reserveMappedLengths (mappedLengths : List UInt64) :
    Run ResourceError (List LeaseReservation) × ResourceOwner :=
  go [] owner mappedLengths
where
  go (reservations : List LeaseReservation) (owner : ResourceOwner) :
      List UInt64 → Run ResourceError (List LeaseReservation) × ResourceOwner
    | [] => (.ok reservations, owner)
    | mappedLen :: rest =>
      match owner.reserve mappedLen with
      | (.ok lease, owner) => go (reservations ++ [lease]) owner rest
      | (.error stop, owner) => (.error stop, owner.releaseAll reservations)

/-! ### What a reservation charges -/

theorem release_charge (bytes : UInt64) : (owner.charge bytes).release ⟨bytes⟩ = owner := by
  simp [charge, release]

/-- A reservation charges exactly its bytes, and a refused one charges nothing. -/
theorem reserve_cases (bytes : UInt64) :
    owner.reserve bytes = (.ok ⟨bytes⟩, owner.charge bytes) ∨
      ∃ error, owner.reserve bytes = (fail error, owner) := by
  unfold reserve
  split
  · exact .inr ⟨.activeLimit, rfl⟩
  · cases hstate : owner.state with
    | active =>
      have hactive : owner.ensureActive = .ok () := by rw [ensureActive, hstate]
      have hcharged : (owner.charge bytes).ensureActive = .ok () := hactive
      rw [hactive, hcharged]
      dsimp only
      split
      · exact .inr ⟨.activeLimit, rfl⟩
      · split
        · exact .inl rfl
        · exact .inr ⟨.activeLimit, rfl⟩
    | poisoned => exact .inr ⟨.poisoned, by rw [ensureActive, hstate]; rfl⟩
    | closed => exact .inr ⟨.closed, by rw [ensureActive, hstate]; rfl⟩

/-- The ledger after all of `lengths` are charged. -/
def chargeAll (lengths : List UInt64) : ResourceOwner :=
  lengths.foldl charge owner

/-- Dropping the leases of a vector undoes its charges, in whatever order. -/
theorem releaseAll_chargeAll (lengths : List UInt64) :
    (owner.chargeAll lengths).releaseAll (lengths.map LeaseReservation.mk) = owner := by
  have hswap (owner : ResourceOwner) (bytes : UInt64) (lengths : List UInt64) :
      (owner.charge bytes).chargeAll lengths = (owner.chargeAll lengths).charge bytes := by
    induction lengths generalizing owner with
    | nil => rfl
    | cons length lengths ih =>
      have hcomm : (owner.charge bytes).charge length = (owner.charge length).charge bytes := by
        simp [charge, UInt64.add_assoc, UInt64.add_comm bytes]
      change ((owner.charge bytes).charge length).chargeAll lengths = _
      rw [hcomm]
      exact ih _
  induction lengths generalizing owner with
  | nil => rfl
  | cons bytes lengths ih =>
    change (((owner.charge bytes).chargeAll lengths).release ⟨bytes⟩).releaseAll _ = owner
    rw [hswap, release_charge]
    exact ih owner

end

theorem reserveMappedLengths_go_cases (reserved lengths : List UInt64) (owner : ResourceOwner) :
    reserveMappedLengths.go (reserved.map LeaseReservation.mk) (owner.chargeAll reserved) lengths =
        (.ok ((reserved ++ lengths).map LeaseReservation.mk), owner.chargeAll (reserved ++ lengths))
      ∨ ∃ error, reserveMappedLengths.go (reserved.map LeaseReservation.mk)
          (owner.chargeAll reserved) lengths = (fail error, owner) := by
  induction lengths generalizing reserved with
  | nil => exact .inl (by rw [append_nil]; rfl)
  | cons bytes lengths ih =>
    rcases reserve_cases (owner.chargeAll reserved) bytes with hok | ⟨error, herror⟩
    · have hcharge : (owner.chargeAll reserved).charge bytes =
          owner.chargeAll (reserved ++ [bytes]) := by
        simp [chargeAll]
      have hnext := ih (reserved ++ [bytes])
      rw [append_assoc, singleton_append, map_append] at hnext
      rw [reserveMappedLengths.go, hok, hcharge]
      exact hnext
    · refine .inr ⟨error, ?_⟩
      rw [reserveMappedLengths.go, herror]
      exact congrArg _ (releaseAll_chargeAll owner reserved)

/-- All lengths are charged, or none. -/
theorem reserveMappedLengths_cases (owner : ResourceOwner) (lengths : List UInt64) :
    owner.reserveMappedLengths lengths =
        (.ok (lengths.map LeaseReservation.mk), owner.chargeAll lengths) ∨
      ∃ error, owner.reserveMappedLengths lengths = (fail error, owner) :=
  reserveMappedLengths_go_cases [] lengths owner

/-- Some more lengths, none of them zero, still fit below both maxima. -/
structure Fits (owner : ResourceOwner) (lengths : List UInt64) : Prop where
  nonzero : ∀ bytes ∈ lengths, bytes ≠ 0
  regions : owner.activeRegions.toNat + lengths.length ≤ owner.maximumRegions.toNat
  bytes : owner.activeBytes.toNat + (lengths.map UInt64.toNat).sum ≤ owner.maximumBytes.toNat

variable {bytes : UInt64}

theorem Fits.charged (fits : owner.Fits (bytes :: lengths)) :
    (owner.charge bytes).activeRegions.toNat = owner.activeRegions.toNat + 1 ∧
      (owner.charge bytes).activeBytes.toNat = owner.activeBytes.toNat + bytes.toNat := by
  have regions := fits.regions
  have total := fits.bytes
  have regionsBound := owner.maximumRegions.toNat_lt
  have bytesBound := owner.maximumBytes.toNat_lt
  rw [length_cons] at regions
  rw [map_cons, sum_cons] at total
  constructor
  · change (owner.activeRegions + 1).toNat = _
    rw [UInt32.toNat_add]
    exact Nat.mod_eq_of_lt (by change owner.activeRegions.toNat + 1 < 2 ^ 32; omega)
  · change (owner.activeBytes + bytes).toNat = _
    rw [UInt64.toNat_add]
    exact Nat.mod_eq_of_lt (by omega)

/-- An active ledger charges a length exactly when it fits. -/
theorem reserve_of_active (active : owner.state = .active) (bytes : UInt64) :
    owner.Fits [bytes] ∧ owner.reserve bytes = (.ok ⟨bytes⟩, owner.charge bytes) ∨
      ¬ owner.Fits [bytes] ∧ owner.reserve bytes = (fail .activeLimit, owner) := by
  have checked : owner.ensureActive = .ok () := by rw [ensureActive, active]
  have checkedAgain : (owner.charge bytes).ensureActive = .ok () := checked
  unfold reserve
  split
  · rename_i refused
    refine .inr ⟨?_, rfl⟩
    rintro ⟨nonzero, -, total⟩
    rcases refused with zero | large
    · exact nonzero bytes (mem_singleton.mpr rfl) zero
    · rw [UInt64.lt_iff_toNat_lt] at large
      simp only [map_cons, map_nil, sum_cons, sum_nil] at total
      omega
  · rename_i accepted
    rw [not_or] at accepted
    rw [checked, checkedAgain]
    dsimp only
    split
    · rename_i full
      refine .inr ⟨?_, rfl⟩
      rintro ⟨-, regions, -⟩
      rw [UInt32.le_iff_toNat_le] at full
      simp only [length_singleton] at regions
      omega
    · rename_i room
      rw [UInt32.le_iff_toNat_le] at room
      split
      · rename_i below
        refine .inl ⟨⟨?_, ?_, ?_⟩, rfl⟩
        · intro other member
          rw [mem_singleton.mp member]
          exact accepted.1
        · rw [length_singleton]
          omega
        · have sum := UInt64.le_iff_toNat_le.mp below.2
          rw [UInt64.toNat_add, Nat.mod_eq_of_lt below.1] at sum
          simpa using sum
      · rename_i above
        refine .inr ⟨?_, rfl⟩
        rintro ⟨-, -, total⟩
        apply above
        have bound := owner.maximumBytes.toNat_lt
        simp only [map_cons, map_nil, sum_cons, sum_nil, Nat.add_zero] at total
        have small : owner.activeBytes.toNat + bytes.toNat < 2 ^ 64 := by omega
        refine ⟨small, ?_⟩
        rw [UInt64.le_iff_toNat_le, UInt64.toNat_add, Nat.mod_eq_of_lt small]
        exact total

theorem Fits.head (fits : owner.Fits (bytes :: lengths)) : owner.Fits [bytes] := by
  have regions := fits.regions
  have total := fits.bytes
  rw [length_cons] at regions
  rw [map_cons, sum_cons] at total
  refine ⟨?_, ?_, ?_⟩
  · intro other member
    rw [mem_singleton.mp member]
    exact fits.nonzero bytes mem_cons_self
  · rw [length_singleton]
    omega
  · simp only [map_cons, map_nil, sum_cons, sum_nil]
    omega

theorem fits_cons_iff (first : owner.Fits [bytes]) :
    owner.Fits (bytes :: lengths) ↔ (owner.charge bytes).Fits lengths := by
  obtain ⟨regions, total⟩ := first.charged
  constructor
  · intro fits
    refine ⟨fun other member => fits.nonzero other (mem_cons_of_mem _ member), ?_, ?_⟩
    · have bound := fits.regions
      rw [length_cons] at bound
      change _ ≤ owner.maximumRegions.toNat
      omega
    · have bound := fits.bytes
      rw [map_cons, sum_cons] at bound
      change _ ≤ owner.maximumBytes.toNat
      omega
  · intro fits
    refine ⟨?_, ?_, ?_⟩
    · intro other member
      rcases mem_cons.mp member with rfl | member
      · exact first.nonzero other (mem_singleton.mpr rfl)
      · exact fits.nonzero other member
    · have bound : _ ≤ owner.maximumRegions.toNat := fits.regions
      rw [length_cons]
      omega
    · have bound : _ ≤ owner.maximumBytes.toNat := fits.bytes
      rw [map_cons, sum_cons]
      omega

theorem reserveMappedLengths_go_of_active (active : owner.state = .active)
    (within : owner.Fits []) (reserved : List LeaseReservation) (lengths : List UInt64) :
    (∃ leases, (reserveMappedLengths.go reserved owner lengths).1 = .ok leases) ↔
      owner.Fits lengths := by
  induction lengths generalizing owner reserved with
  | nil => exact ⟨fun _ => within, fun _ => ⟨reserved, rfl⟩⟩
  | cons bytes lengths ih =>
    rcases reserve_of_active active bytes with ⟨fits, charged⟩ | ⟨refused, same⟩
    · have rest := @ih (owner.charge bytes) active ((fits_cons_iff fits).mp fits)
        (reserved ++ [⟨bytes⟩])
      rw [reserveMappedLengths.go, charged, fits_cons_iff fits]
      exact rest
    · rw [reserveMappedLengths.go, same]
      constructor
      · rintro ⟨leases, ok⟩
        cases ok
      · intro fits
        exact absurd fits.head refused

/-- On an active ledger within its maxima a batch is reserved exactly when all of it fits. -/
theorem reserveMappedLengths_eq_ok (active : owner.state = .active)
    (within : owner.Fits []) (lengths : List UInt64) :
    (∃ leases, (owner.reserveMappedLengths lengths).1 = .ok leases) ↔ owner.Fits lengths :=
  reserveMappedLengths_go_of_active active within [] lengths

section

variable (owner : ResourceOwner)

theorem chargeAll_state (lengths : List UInt64) :
    (owner.chargeAll lengths).state = owner.state := by
  induction lengths generalizing owner with
  | nil => rfl
  | cons bytes lengths ih => exact ih (owner.charge bytes)

theorem releaseAll_state (leases : List LeaseReservation) :
    (owner.releaseAll leases).state = owner.state := by
  induction leases generalizing owner with
  | nil => rfl
  | cons lease leases ih => exact ih (owner.release lease)

theorem reserveMappedLengths_state (lengths : List UInt64) :
    (owner.reserveMappedLengths lengths).2.state = owner.state := by
  rcases owner.reserveMappedLengths_cases lengths with h | ⟨error, h⟩
  · rw [h]
    exact owner.chargeAll_state lengths
  · rw [h]

theorem tryClose_state_ne_active (inactive : owner.state ≠ .active) :
    owner.tryClose.2.state ≠ .active := by
  unfold tryClose
  dsimp only
  split
  · exact inactive
  · split
    · exact inactive
    · exact nofun

theorem poison_state_ne_active : owner.poison.state ≠ .active := by
  unfold poison
  split
  · exact nofun
  · assumption

end

end ResourceOwner

/-- active.rs:582-602. -/
def LeaseReservation.complete (reservation : LeaseReservation) (liveness : LivenessState)
    (actualMappedLen : UInt64) : Run ResourceError LeaseReservation := do
  rejectIf (reservation.bytes ≠ actualMappedLen)
    (.mappedLengthMismatch reservation.bytes actualMappedLen)
  match liveness with
  | .active => pure reservation
  | .poisoned => fail .poisoned
  | .closed => fail .closed

/-! ### Accesses through an active mapping -/

/-- active.rs:20-27. -/
inductive AccessError where
  | outOfBounds
  | invalidRange
  | sessionInactive
  deriving DecidableEq, Repr

/-- What `ActiveReader` and `ActiveWriter` hold, active.rs:129-133 and 301-306, with what
    `from_owner` checks: the mapped bytes, the visible length, the page size and the lease. -/
structure ActiveMapping where
  bytes : Bytes
  logicalLen : Nat
  pageSize : Nat
  lease : LeaseReservation
  logicalLen_pos : 0 < logicalLen
  logicalLen_le : logicalLen ≤ bytes.length
  pageSize_pos : 0 < pageSize

/-- active.rs:161-168 and 309-316, for a mapping with a lease. -/
def ensureActive : LivenessState → Run AccessError Unit
  | .active => .ok ()
  | .poisoned | .closed => fail .sessionInactive

/-- active.rs:605-611. -/
def checkedEnd (t : Target) (offset length limit : Nat) : Run AccessError Nat := do
  let stop ← okOr (checkedAdd t.bits offset length) .outOfBounds
  rejectIf (limit < stop) .outOfBounds
  pure stop

/-- active.rs:613-619. -/
def validateRange (t : Target) (start stop limit : Nat) : Run AccessError Unit := do
  rejectIf (stop < start) .invalidRange
  let _ ← checkedEnd t start (stop - start) limit
  pure ()

/-- `external_touch_read` and `external_touch_write`, by the offset they are called on. -/
inductive Touch where
  | read (offset : Nat)
  | write (offset : Nat)
  deriving DecidableEq, Repr

/-- active.rs:39-44. -/
structure PrefaultResult where
  requestedBytes : Nat
  pagesTouched : Nat
  deriving DecidableEq, Repr

/-- The touches that were made and what is returned after them. -/
abbrev Touching (α : Type) : Type := List Touch × Run AccessError α

/-- The loops over the pages, active.rs:638-652 and 439-452, with the number of pages that were
    touched before. A loop that has used up its turns has not returned. -/
def touchPages (t : Target) (touch : Nat → Touch) (pageSize stop : Nat) :
    Nat → Nat → Nat → Touching Nat
  | 0, _, _ => ([], Run.fault)
  | turns + 1, touches, offset =>
    let next : Run AccessError Nat := do
      let nextPage ← okOr (checkedAdd t.bits (offset / pageSize) 1) .outOfBounds
      okOr (checkedMul t.bits nextPage pageSize) .outOfBounds
    match next with
    | .error stop => ([touch offset], .error stop)
    | .ok next =>
      if stop ≤ next then ([touch offset], .ok (touches + 1))
      else
        let rest := touchPages t touch pageSize stop turns (touches + 1) next
        (touch offset :: rest.1, rest.2)

/-- active.rs:621-657. -/
def prefaultRead (t : Target) (turns pageSize logicalLen start stop : Nat) :
    Touching PrefaultResult :=
  match validateRange t start stop logicalLen with
  | .error error => ([], .error error)
  | .ok () =>
    if stop - start = 0 then ([], .ok ⟨0, 0⟩)
    else
      let loop := touchPages t .read pageSize stop turns 0 start
      (loop.1, loop.2.map fun touches => ⟨stop - start, touches⟩)

namespace ActiveMapping

variable (t : Target)

section

variable (liveness : LivenessState)

/-- `ActiveReader::read_into`, active.rs:249-262. -/
def readInto (mapping : ActiveMapping) (offset length : Nat) : Run AccessError Bytes := do
  ensureActive liveness
  let stop ← checkedEnd t offset length mapping.logicalLen
  pure (mapping.bytes.extract offset stop)

/-- `ActiveReader::prefault`, active.rs:265-273. -/
def prefaultReader (t : Target) (turns : Nat) (liveness : LivenessState)
    (mapping : ActiveMapping) (start stop : Nat) : Touching PrefaultResult :=
  match ensureActive liveness with
  | .error error => ([], .error error)
  | .ok () => prefaultRead t turns mapping.pageSize mapping.logicalLen start stop

/-- `ActiveWriter::prefault`, active.rs:427-455. -/
def prefaultWriter (t : Target) (turns : Nat) (liveness : LivenessState)
    (mapping : ActiveMapping) (start stop : Nat) : Touching PrefaultResult :=
  match ensureActive liveness with
  | .error error => ([], .error error)
  | .ok () =>
    match prefaultRead t turns mapping.pageSize mapping.logicalLen start stop with
    | (reads, .error error) => (reads, .error error)
    | (reads, .ok result) =>
      if start < stop then
        let loop := touchPages t .write mapping.pageSize stop turns 0 start
        (reads ++ loop.1, loop.2.map fun _ => result)
      else (reads, .ok result)

/-- `as_ptr` and `as_mut_ptr`, active.rs:287-290, 464-467 and 478-481. -/
def asPtr : Run AccessError Unit :=
  ensureActive liveness

/-- `ActiveWriter::write_from`, active.rs:394-407: the bytes afterwards. -/
def writeFrom (mapping : ActiveMapping)
    (offset : Nat) (source : Bytes) : Run AccessError Bytes := do
  ensureActive liveness
  let _ ← checkedEnd t offset source.length mapping.logicalLen
  pure (mapping.bytes.overwrite offset source)

/-- `ActiveWriter::fill`, active.rs:410-424: the bytes afterwards. -/
def fill (mapping : ActiveMapping) (start stop : Nat) (value : UInt8) : Run AccessError Bytes := do
  ensureActive liveness
  validateRange t start stop mapping.logicalLen
  pure (mapping.bytes.overwrite start (List.replicate (stop - start) value))

end

/-- Every access is refused with `SessionInactive`, and nothing is touched. -/
structure Refused (t : Target) (liveness : LivenessState) (mapping : ActiveMapping) : Prop where
  readInto (offset length : Nat) :
    mapping.readInto t liveness offset length = fail .sessionInactive
  prefaultReader (turns start stop : Nat) :
    mapping.prefaultReader t turns liveness start stop = ([], fail .sessionInactive)
  prefaultWriter (turns start stop : Nat) :
    mapping.prefaultWriter t turns liveness start stop = ([], fail .sessionInactive)
  asPtr : asPtr liveness = fail .sessionInactive
  writeFrom (offset : Nat) (source : Bytes) :
    mapping.writeFrom t liveness offset source = fail .sessionInactive
  fill (start stop : Nat) (value : UInt8) :
    mapping.fill t liveness start stop value = fail .sessionInactive

theorem refused_of_not_active {liveness : LivenessState} (h : liveness ≠ .active)
    (mapping : ActiveMapping) : mapping.Refused t liveness := by
  have hinactive : ensureActive liveness = fail .sessionInactive := by
    cases liveness with
    | active => exact absurd rfl h
    | poisoned => rfl
    | closed => rfl
  constructor
  case asPtr => exact hinactive
  all_goals
    intros
    simp only [ActiveMapping.readInto, ActiveMapping.prefaultReader,
      ActiveMapping.prefaultWriter, ActiveMapping.writeFrom, ActiveMapping.fill, hinactive]
    rfl

end ActiveMapping

end NativeIpc.Session
