import NativeIpc.Session.Liveness
import NativeIpc.Lib.Trace

/-!
# The lease ledger between threads

The ledger of `crates/native-ipc/src/liveness.rs` one atomic operation at a
time. One thread owns it and reserves, poisons, closes and asks for the facts;
a lease may be dropped by any thread in between. The two counters are changed
by separate operations, the bytes last when a lease is made and first when one
is dropped.
-/

namespace NativeIpc.Session

open NativeIpc.Lib Run List
open Option (some)

/-- liveness.rs:51-56. -/
inductive LeaseFactsConsistency where
  | exact
  | approximateDuringConcurrentDrop
  deriving DecidableEq, Repr

/-- The consistency that `active_lease_facts` reports, liveness.rs:193-197. -/
def ActiveLeaseFacts.consistency (facts : ActiveLeaseFacts) : LeaseFactsConsistency :=
  if facts.regions = 0 ∧ facts.bytes = 0 then .exact else .approximateDuringConcurrentDrop

/-! ### The machine -/

/-- The operations of the owner. -/
inductive OwnerCall where
  | reserve (bytes : UInt64)
  | poison
  | tryClose
  | activeLeaseFacts
  | drop
  deriving DecidableEq, Repr

/-- The atomic operation that the owner does next. A `fetch_update` is a load and
    compare-exchanges of the value that was seen last. -/
inductive OwnerPoint where
  | idle
  | gone
  | reserveState (bytes : UInt64)
  | loadRegions (bytes : UInt64)
  | swapRegions (bytes : UInt64) (seen : UInt32)
  | loadBytes (bytes : UInt64)
  | swapBytes (bytes seen : UInt64)
  | undoRegion
  | recheckState (bytes : UInt64)
  | undoBytes (bytes : UInt64) (stop : Stop ResourceError)
  | undoCharge (stop : Stop ResourceError)
  | swapPoison (dropping : Bool)
  | factsRegions (closing : Bool)
  | factsBytes (closing : Bool) (regions : UInt32)
  | closeState
  | swapClosed (current : LivenessState)
  deriving DecidableEq, Repr

/-- What a step shows: the start of a call, its result, or half of the drop of a lease. -/
inductive LedgerEvent where
  | called (call : OwnerCall)
  | internal
  | reserved (result : Run ResourceError LeaseReservation)
  | poisoned
  | closed (result : Run ResourceError Unit)
  | facts (facts : ActiveLeaseFacts)
  | dropped
  | leaseBytes (lease : LeaseReservation)
  | leaseRegion (lease : LeaseReservation)

/-- The facts that a step reports to the caller. -/
def LedgerEvent.reported : LedgerEvent → Option ActiveLeaseFacts
  | .facts report => some report
  | .closed (.error (.error (.activeLeases report))) => some report
  | _ => none

/-- The shared counters, the owner, the leases that are live and those whose drop has given back
    its bytes and not yet its region. -/
structure Ledger where
  shared : ResourceOwner
  owner : OwnerPoint
  leases : List LeaseReservation
  dropping : List LeaseReservation

variable {l l' : Ledger} {point : OwnerPoint} {event : LedgerEvent} {shared : ResourceOwner}
    {bytes : UInt64} {result : Run ResourceError LeaseReservation}

open ResourceOwner

namespace Ledger

/-- A ledger with no lease. -/
def start (shared : ResourceOwner) : Ledger := ⟨shared, .idle, [], []⟩

variable (l)

/-- The owner goes on at `point`. -/
def goTo (point : OwnerPoint) : LedgerEvent × Ledger :=
  (.internal, { l with owner := point })

/-- The call returns. -/
def finish (event : LedgerEvent) : LedgerEvent × Ledger :=
  (event, { l with owner := .idle })

/-- The start of a call, up to its first atomic operation. -/
def call : OwnerCall → LedgerEvent × Ledger
  | .reserve bytes =>
    if bytes = 0 ∨ l.shared.maximumBytes < bytes then l.finish (.reserved (fail .activeLimit))
    else (.called (.reserve bytes), { l with owner := .reserveState bytes })
  | .poison => (.called .poison, { l with owner := .swapPoison false })
  | .tryClose => (.called .tryClose, { l with owner := .factsRegions true })
  | .activeLeaseFacts => (.called .activeLeaseFacts, { l with owner := .factsRegions false })
  | .drop => (.called .drop, { l with owner := .swapPoison true })

/-- The closure of the first `fetch_update` of `reserve`, liveness.rs:116-118. -/
def offerRegion (bytes : UInt64) (seen : UInt32) : LedgerEvent × Ledger :=
  if seen < l.shared.maximumRegions then l.goTo (.swapRegions bytes seen)
  else l.finish (.reserved (fail .activeLimit))

/-- The closure of the second `fetch_update` of `reserve`, liveness.rs:123-127. -/
def offerBytes (bytes seen : UInt64) : LedgerEvent × Ledger :=
  if seen.toNat + bytes.toNat < 2 ^ 64 ∧ seen + bytes ≤ l.shared.maximumBytes then
    l.goTo (.swapBytes bytes seen)
  else l.goTo .undoRegion

/-- The next atomic operation of the owner. A `compare_exchange_weak` may also fail for no
    reason. -/
def advance (spurious : Bool) : Option (LedgerEvent × Ledger) :=
  match l.owner with
  | .idle | .gone => none
  | .reserveState bytes =>
    match l.shared.ensureActive with
    | .ok () => some (l.goTo (.loadRegions bytes))
    | .error stop => some (l.finish (.reserved (.error stop)))
  | .loadRegions bytes => some (l.offerRegion bytes l.shared.activeRegions)
  | .swapRegions bytes seen =>
    if spurious = true ∨ l.shared.activeRegions ≠ seen then
      some (l.offerRegion bytes l.shared.activeRegions)
    else
      some (.internal,
        { l with shared := { l.shared with activeRegions := seen + 1 }, owner := .loadBytes bytes })
  | .loadBytes bytes => some (l.offerBytes bytes l.shared.activeBytes)
  | .swapBytes bytes seen =>
    if spurious = true ∨ l.shared.activeBytes ≠ seen then
      some (l.offerBytes bytes l.shared.activeBytes)
    else
      some (.internal,
        { l with
          shared := { l.shared with activeBytes := seen + bytes }
          owner := .recheckState bytes })
  | .undoRegion =>
    some (.reserved (fail .activeLimit),
      { l with
        shared := { l.shared with activeRegions := l.shared.activeRegions - 1 }
        owner := .idle })
  | .recheckState bytes =>
    match l.shared.ensureActive with
    | .ok () =>
      some (.reserved (.ok ⟨bytes⟩), { l with owner := .idle, leases := l.leases ++ [⟨bytes⟩] })
    | .error stop => some (l.goTo (.undoBytes bytes stop))
  | .undoBytes bytes stop =>
    some (.internal,
      { l with
        shared := { l.shared with activeBytes := l.shared.activeBytes - bytes }
        owner := .undoCharge stop })
  | .undoCharge stop =>
    some (.reserved (.error stop),
      { l with
        shared := { l.shared with activeRegions := l.shared.activeRegions - 1 }
        owner := .idle })
  | .swapPoison dropping =>
    if dropping then some (.dropped, { l with shared := l.shared.poison, owner := .gone })
    else some (.poisoned, { l with shared := l.shared.poison, owner := .idle })
  | .factsRegions closing => some (l.goTo (.factsBytes closing l.shared.activeRegions))
  | .factsBytes closing regions =>
    let facts : ActiveLeaseFacts := { regions, bytes := l.shared.activeBytes }
    if closing then
      if facts.regions ≠ 0 ∨ facts.bytes ≠ 0 then
        some (l.finish (.closed (fail (.activeLeases facts))))
      else
        some (l.goTo .closeState)
    else
      some (l.finish (.facts facts))
  | .closeState =>
    if l.shared.state = .closed then some (l.finish (.closed (fail .closed)))
    else some (l.goTo (.swapClosed l.shared.state))
  | .swapClosed current =>
    if l.shared.state = current then
      some (.closed (.ok ()), { l with shared := { l.shared with state := .closed }, owner := .idle })
    else
      some (l.goTo .closeState)

variable {l}

/-- The first operation of `RegionLease::drop`, liveness.rs:241-244. -/
def giveBackBytes (l : Ledger) (lease : LeaseReservation) : ResourceOwner :=
  { l.shared with activeBytes := l.shared.activeBytes - lease.bytes }

/-- The second operation of `RegionLease::drop`, liveness.rs:246. -/
def giveBackRegion (l : Ledger) : ResourceOwner :=
  { l.shared with activeRegions := l.shared.activeRegions - 1 }

/-- One step of some thread: the owner starts a call or goes on with one, or a lease is dropped. -/
inductive Step : Ledger → LedgerEvent → Ledger → Prop
  | call {l : Ledger} (call : OwnerCall) (idle : l.owner = .idle) :
      Step l (l.call call).1 (l.call call).2
  | owner {l l' : Ledger} {event : LedgerEvent} (spurious : Bool)
      (advanced : l.advance spurious = some (event, l')) : Step l event l'
  | leaseBytes {l : Ledger} (before after : List LeaseReservation) (lease : LeaseReservation)
      (live : l.leases = before ++ lease :: after) :
      Step l (.leaseBytes lease)
        { l with
          shared := l.giveBackBytes lease
          leases := before ++ after
          dropping := lease :: l.dropping }
  | leaseRegion {l : Ledger} (before after : List LeaseReservation) (lease : LeaseReservation)
      (half : l.dropping = before ++ lease :: after) :
      Step l (.leaseRegion lease)
        { l with shared := l.giveBackRegion, dropping := before ++ after }

/-! ### What every state satisfies -/

/-- No lease is live or half dropped. -/
def Empty (l : Ledger) : Prop := l.leases = [] ∧ l.dropping = []

/-- The bytes of some leases. -/
def totalBytes (leases : List LeaseReservation) : Nat :=
  (leases.map fun lease => lease.bytes.toNat).sum

/-- The regions that a reservation under way has charged. -/
def chargedRegions : OwnerPoint → Nat
  | .loadBytes _ | .swapBytes _ _ | .undoRegion | .recheckState _ | .undoBytes _ _
  | .undoCharge _ => 1
  | _ => 0

/-- The bytes that a reservation under way has charged. -/
def chargedBytes : OwnerPoint → Nat
  | .recheckState bytes | .undoBytes bytes _ => bytes.toNat
  | _ => 0

@[simp] theorem chargedRegions_recheckState (bytes : UInt64) :
    chargedRegions (.recheckState bytes) = 1 := rfl

@[simp] theorem chargedRegions_undoRegion : chargedRegions .undoRegion = 1 := rfl

@[simp] theorem chargedRegions_undoCharge (stop) : chargedRegions (.undoCharge stop) = 1 := rfl

@[simp] theorem chargedRegions_factsRegions (closing) :
    chargedRegions (.factsRegions closing) = 0 := rfl

/-- What the owner knows at a point: nobody else changes the state, or makes a lease. -/
def Knows (l : Ledger) : OwnerPoint → Prop
  | .loadRegions _ | .loadBytes _ | .undoRegion | .recheckState _ => l.shared.state = .active
  | .swapRegions _ seen => l.shared.state = .active ∧ seen < l.shared.maximumRegions
  | .swapBytes bytes seen =>
    l.shared.state = .active ∧ seen.toNat + bytes.toNat < 2 ^ 64 ∧
      seen + bytes ≤ l.shared.maximumBytes
  | .factsBytes _ regions => regions = 0 → l.Empty
  | .closeState | .swapClosed _ => l.Empty
  | _ => True

/-- The counters are what the leases and the reservation under way charge. -/
structure Sound (l : Ledger) : Prop where
  regions : l.shared.activeRegions.toNat =
    l.leases.length + l.dropping.length + chargedRegions l.owner
  bytes : l.shared.activeBytes.toNat = totalBytes l.leases + chargedBytes l.owner
  regions_le : l.shared.activeRegions.toNat ≤ l.shared.maximumRegions.toNat
  bytes_le : l.shared.activeBytes.toNat ≤ l.shared.maximumBytes.toNat
  knows : l.Knows l.owner
  closed : l.shared.state = .closed → l.Empty

/-- What stays as it is, or stays over. -/
structure Kept (l l' : Ledger) : Prop where
  sound : l'.Sound
  maximumRegions : l'.shared.maximumRegions = l.shared.maximumRegions
  maximumBytes : l'.shared.maximumBytes = l.shared.maximumBytes
  closed : l.shared.state = .closed → l'.shared.state = .closed
  inactive : l.shared.state ≠ .active → l'.shared.state ≠ .active

/-- What one step leaves and shows. -/
structure Moved (l : Ledger) (event : LedgerEvent) (l' : Ledger) : Prop extends Kept l l' where
  reserved : ∀ lease, event = .reserved (.ok lease) → l.shared.state = .active
  exact : ∀ facts, event.reported = some facts → facts.consistency = .exact → l.Empty

@[simp] theorem totalBytes_nil : totalBytes [] = 0 := rfl

@[simp] theorem totalBytes_cons (lease : LeaseReservation) (leases : List LeaseReservation) :
    totalBytes (lease :: leases) = lease.bytes.toNat + totalBytes leases := rfl

@[simp] theorem totalBytes_append (before after : List LeaseReservation) :
    totalBytes (before ++ after) = totalBytes before + totalBytes after := by
  simp [totalBytes]

/-- A step of the owner that changes nothing but its point, and the same charges stand there. -/
theorem Sound.goTo (sound : l.Sound) (regions : chargedRegions point = chargedRegions l.owner)
    (bytes : chargedBytes point = chargedBytes l.owner) (knows : l.Knows point)
    (reserved : ∀ lease, event ≠ .reserved (.ok lease))
    (exact : ∀ facts, event.reported = some facts → facts.consistency = .exact → l.Empty) :
    l.Moved event { l with owner := point } where
  sound :=
    { regions := by rw [regions]; exact sound.regions
      bytes := by rw [bytes]; exact sound.bytes
      regions_le := sound.regions_le
      bytes_le := sound.bytes_le
      knows := by cases point <;> exact knows
      closed := sound.closed }
  maximumRegions := rfl
  maximumBytes := rfl
  closed := id
  inactive := id
  reserved lease isReserved := absurd isReserved (reserved lease)
  exact := exact

theorem Sound.call (sound : l.Sound) (idle : l.owner = .idle) (call : OwnerCall) :
    l.Moved (l.call call).1 (l.call call).2 := by
  have regions : 0 = chargedRegions l.owner := by rw [idle]; rfl
  have bytes : 0 = chargedBytes l.owner := by rw [idle]; rfl
  cases call with
  | reserve amount =>
    simp only [Ledger.call]
    split
    · exact sound.goTo regions bytes trivial nofun nofun
    · exact sound.goTo regions bytes trivial nofun nofun
  | poison => exact sound.goTo regions bytes trivial nofun nofun
  | tryClose => exact sound.goTo regions bytes trivial nofun nofun
  | activeLeaseFacts => exact sound.goTo regions bytes trivial nofun nofun
  | drop => exact sound.goTo regions bytes trivial nofun nofun

theorem Sound.offerRegion (sound : l.Sound) {seen : UInt32}
    (offered : l.offerRegion bytes seen = (event, l')) (regions : 0 = chargedRegions l.owner)
    (charged : 0 = chargedBytes l.owner) (active : l.shared.state = .active) :
    l.Moved event l' := by
  unfold Ledger.offerRegion at offered
  split at offered
  · rename_i below
    cases offered
    exact sound.goTo regions charged ⟨active, below⟩ nofun nofun
  · cases offered
    exact sound.goTo regions charged trivial nofun nofun

theorem Sound.offerBytes (sound : l.Sound) {seen : UInt64}
    (offered : l.offerBytes bytes seen = (event, l')) (regions : 1 = chargedRegions l.owner)
    (charged : 0 = chargedBytes l.owner) (active : l.shared.state = .active) :
    l.Moved event l' := by
  unfold Ledger.offerBytes at offered
  split at offered
  · rename_i fits
    cases offered
    exact sound.goTo regions charged ⟨active, fits⟩ nofun nofun
  · cases offered
    exact sound.goTo regions charged active nofun nofun

theorem ensureActive_eq_ok {u : Unit}
    (h : shared.ensureActive = .ok u) : shared.state = .active := by
  unfold ResourceOwner.ensureActive at h
  split at h
  · assumption
  · cases h
  · cases h

theorem ensureActive_of_active (active : shared.state = .active) :
    shared.ensureActive = .ok () := by
  rw [ResourceOwner.ensureActive, active]

theorem zero_of_exact {facts : ActiveLeaseFacts} (exact : facts.consistency = .exact) :
    facts.regions = 0 ∧ facts.bytes = 0 := by
  unfold ActiveLeaseFacts.consistency at exact
  split at exact
  · assumption
  · cases exact

/-- One region is charged. -/
theorem Sound.chargeRegion (sound : l.Sound) {seen : UInt32}
    (point : l.owner = .swapRegions bytes seen) (same : l.shared.activeRegions = seen) :
    l.Moved .internal
      { l with
        shared := { l.shared with activeRegions := seen + 1 }, owner := .loadBytes bytes } := by
  have knows := sound.knows
  have regions := sound.regions
  have total := sound.bytes
  rw [point] at knows regions total
  obtain ⟨active, below⟩ := knows
  have bounded := l.shared.maximumRegions.toNat_lt
  rw [UInt32.lt_iff_toNat_lt] at below
  have next : (seen + 1).toNat = seen.toNat + 1 := by
    rw [UInt32.toNat_add]
    exact Nat.mod_eq_of_lt (by change seen.toNat + 1 < 2 ^ 32; omega)
  rw [same] at regions
  refine ⟨⟨⟨?_, total, ?_, sound.bytes_le, active, sound.closed⟩, rfl, rfl, id, id⟩, nofun, nofun⟩
  · change (seen + 1).toNat = l.leases.length + l.dropping.length + 1
    rw [next, regions]
    rfl
  · change (seen + 1).toNat ≤ l.shared.maximumRegions.toNat
    omega

/-- The bytes of the region are charged. -/
theorem Sound.chargeBytes (sound : l.Sound) {seen : UInt64}
    (point : l.owner = .swapBytes bytes seen) (same : l.shared.activeBytes = seen) :
    l.Moved .internal
      { l with
        shared := { l.shared with activeBytes := seen + bytes }
        owner := .recheckState bytes } := by
  have knows := sound.knows
  have regions := sound.regions
  have total := sound.bytes
  rw [point] at knows regions total
  obtain ⟨active, fits, below⟩ := knows
  have sum : (seen + bytes).toNat = seen.toNat + bytes.toNat := by
    rw [UInt64.toNat_add]
    exact Nat.mod_eq_of_lt fits
  rw [same] at total
  refine ⟨⟨⟨regions, ?_, sound.regions_le, UInt64.le_iff_toNat_le.mp below, active, sound.closed⟩,
    rfl, rfl, id, id⟩, nofun, nofun⟩
  change (seen + bytes).toNat = totalBytes l.leases + bytes.toNat
  rw [sum, total]
  rfl

/-- The owner gives a region back that it has charged. -/
theorem Sound.returnRegion (sound : l.Sound)
    (regions : chargedRegions l.owner = 1) (bytes : chargedBytes l.owner = 0)
    (reserved : ∀ lease, event ≠ .reserved (.ok lease)) (quiet : ∀ facts, event.reported ≠ some facts) :
    l.Moved event
      { l with
        shared := { l.shared with activeRegions := l.shared.activeRegions - 1 }
        owner := .idle } := by
  have charged := sound.regions
  have total := sound.bytes
  rw [regions] at charged
  rw [bytes] at total
  have previous : (l.shared.activeRegions - 1).toNat = l.shared.activeRegions.toNat - 1 :=
    UInt32.toNat_sub_of_le _ _ (UInt32.le_iff_toNat_le.mpr (by change 1 ≤ _; omega))
  have limit := sound.regions_le
  refine ⟨⟨⟨?_, total, ?_, sound.bytes_le, trivial, sound.closed⟩, rfl, rfl, id, id⟩,
    fun lease same => absurd same (reserved lease), fun facts same => absurd same (quiet facts)⟩
  · change (l.shared.activeRegions - 1).toNat = l.leases.length + l.dropping.length + 0
    omega
  · change (l.shared.activeRegions - 1).toNat ≤ l.shared.maximumRegions.toNat
    omega

theorem Sound.poison (sound : l.Sound)
    (regions : chargedRegions point = chargedRegions l.owner)
    (bytes : chargedBytes point = chargedBytes l.owner) (knows : ∀ l : Ledger, l.Knows point)
    (reserved : ∀ lease, event ≠ .reserved (.ok lease)) (quiet : ∀ facts, event.reported ≠ some facts) :
    l.Moved event { l with shared := l.shared.poison, owner := point } := by
  have counters : l.shared.poison.activeRegions = l.shared.activeRegions ∧
      l.shared.poison.activeBytes = l.shared.activeBytes ∧
      l.shared.poison.maximumRegions = l.shared.maximumRegions ∧
      l.shared.poison.maximumBytes = l.shared.maximumBytes := by
    unfold ResourceOwner.poison
    split <;> exact ⟨rfl, rfl, rfl, rfl⟩
  have closed : l.shared.poison.state = .closed ↔ l.shared.state = .closed := by
    unfold ResourceOwner.poison
    split
    · rename_i active
      simp [active]
    · rfl
  obtain ⟨sameRegions, sameBytes, sameMaximumRegions, sameMaximumBytes⟩ := counters
  refine ⟨⟨⟨?_, ?_, ?_, ?_, knows _, fun isClosed => sound.closed (closed.mp isClosed)⟩,
    sameMaximumRegions, sameMaximumBytes, closed.mpr, fun _ => l.shared.poison_state_ne_active⟩,
    fun lease same => absurd same (reserved lease), fun facts same => absurd same (quiet facts)⟩
  · rw [sameRegions, regions]
    exact sound.regions
  · rw [sameBytes, bytes]
    exact sound.bytes
  · rw [sameRegions, sameMaximumRegions]
    exact sound.regions_le
  · rw [sameBytes, sameMaximumBytes]
    exact sound.bytes_le

variable {lease : LeaseReservation}

/-- Every atomic operation of the owner keeps the books. -/
theorem Sound.advance {spurious : Bool} (sound : l.Sound)
    (advanced : l.advance spurious = some (event, l')) : l.Moved event l' := by
  obtain ⟨shared, point, leases, dropping⟩ := l
  have knows := sound.knows
  have regions := sound.regions
  have total := sound.bytes
  have limit := sound.bytes_le
  dsimp only at regions total limit
  unfold Ledger.advance at advanced
  cases point with
  | idle => cases advanced
  | gone => cases advanced
  | reserveState bytes =>
    dsimp only at advanced
    split at advanced
    · rename_i active
      cases advanced
      exact sound.goTo rfl rfl (ensureActive_eq_ok active) nofun nofun
    · cases advanced
      exact sound.goTo rfl rfl trivial nofun nofun
  | loadRegions bytes => exact sound.offerRegion (some.inj advanced) rfl rfl knows
  | swapRegions bytes seen =>
    dsimp only at advanced
    split at advanced
    · exact sound.offerRegion (some.inj advanced) rfl rfl knows.1
    · rename_i unchanged
      cases advanced
      rw [not_or, not_not] at unchanged
      exact sound.chargeRegion rfl unchanged.2
  | loadBytes bytes => exact sound.offerBytes (some.inj advanced) rfl rfl knows
  | swapBytes bytes seen =>
    dsimp only at advanced
    split at advanced
    · exact sound.offerBytes (some.inj advanced) rfl rfl knows.1
    · rename_i unchanged
      cases advanced
      rw [not_or, not_not] at unchanged
      exact sound.chargeBytes rfl unchanged.2
  | undoRegion =>
    dsimp only at advanced
    cases advanced
    exact sound.returnRegion rfl rfl nofun nofun
  | recheckState bytes =>
    dsimp only at advanced
    split at advanced
    · rename_i active
      cases advanced
      refine ⟨⟨⟨?_, ?_, sound.regions_le, sound.bytes_le, trivial, ?_⟩, rfl, rfl, id, id⟩,
        fun _ _ => ensureActive_eq_ok active, nofun⟩
      · rw [chargedRegions_recheckState] at regions
        change shared.activeRegions.toNat = (leases ++ [_]).length + dropping.length + 0
        rw [length_append, length_singleton]
        omega
      · simp only [totalBytes_append, totalBytes_cons, totalBytes_nil, chargedBytes] at total ⊢
        omega
      · intro closed
        rw [ensureActive_eq_ok active] at closed
        cases closed
    · cases advanced
      exact sound.goTo rfl rfl trivial nofun nofun
  | undoBytes bytes stop =>
    dsimp only at advanced
    cases advanced
    simp only [chargedBytes] at total
    have previous : (shared.activeBytes - bytes).toNat = totalBytes leases := by
      rw [UInt64.toNat_sub_of_le _ _ (UInt64.le_iff_toNat_le.mpr (by omega))]
      omega
    refine ⟨⟨⟨regions, previous, sound.regions_le, ?_, trivial, sound.closed⟩, rfl, rfl, id, id⟩,
      nofun, nofun⟩
    change (shared.activeBytes - bytes).toNat ≤ shared.maximumBytes.toNat
    omega
  | undoCharge stop =>
    dsimp only at advanced
    cases advanced
    exact sound.returnRegion rfl rfl nofun nofun
  | swapPoison dropping =>
    dsimp only at advanced
    split at advanced
    · cases advanced
      exact sound.poison rfl rfl (fun _ => trivial) nofun nofun
    · cases advanced
      exact sound.poison rfl rfl (fun _ => trivial) nofun nofun
  | factsRegions closing =>
    dsimp only at advanced
    cases advanced
    refine sound.goTo rfl rfl ?_ nofun nofun
    -- The region of a lease is given back last, so none is left half dropped either.
    intro none
    rw [none] at regions
    rw [chargedRegions_factsRegions, UInt32.toNat_zero] at regions
    exact ⟨length_eq_zero_iff.mp (by dsimp only; omega),
      length_eq_zero_iff.mp (by dsimp only; omega)⟩
  | factsBytes closing regions =>
    dsimp only at advanced
    split at advanced
    · split at advanced
      · rename_i nonzero
        cases advanced
        refine sound.goTo rfl rfl trivial nofun ?_
        rintro facts reported consistent
        cases reported
        obtain ⟨noRegions, noBytes⟩ := zero_of_exact consistent
        exact (nonzero.elim (· noRegions) (· noBytes)).elim
      · rename_i zero
        cases advanced
        rw [not_or, not_not, not_not] at zero
        exact sound.goTo rfl rfl (knows zero.1) nofun nofun
    · cases advanced
      refine sound.goTo rfl rfl trivial nofun ?_
      rintro facts reported consistent
      cases reported
      exact knows (zero_of_exact consistent).1
  | closeState =>
    dsimp only at advanced
    split at advanced
    · cases advanced
      exact sound.goTo rfl rfl trivial nofun nofun
    · cases advanced
      exact sound.goTo rfl rfl knows nofun nofun
  | swapClosed current =>
    dsimp only at advanced
    split at advanced
    · cases advanced
      exact ⟨⟨⟨regions, total, sound.regions_le, sound.bytes_le, trivial, fun _ => knows⟩, rfl, rfl,
        fun _ => rfl, fun _ => nofun⟩, nofun, nofun⟩
    · cases advanced
      exact sound.goTo rfl rfl knows nofun nofun

/-- While there is a lease, what the owner knows does not depend on the leases. -/
theorem Knows.of_not_empty (knows : l.Knows point)
    (notEmpty : ¬ l.Empty) (state : l'.shared.state = l.shared.state)
    (maximumRegions : l'.shared.maximumRegions = l.shared.maximumRegions)
    (maximumBytes : l'.shared.maximumBytes = l.shared.maximumBytes) : l'.Knows point := by
  cases point with
  | factsBytes closing regions => exact fun none => absurd (knows none) notEmpty
  | closeState => exact absurd knows notEmpty
  | swapClosed current => exact absurd knows notEmpty
  | swapRegions bytes seen =>
    unfold Knows at knows ⊢
    rwa [state, maximumRegions]
  | swapBytes bytes seen =>
    unfold Knows at knows ⊢
    rwa [state, maximumBytes]
  | loadRegions bytes => exact state.trans knows
  | loadBytes bytes => exact state.trans knows
  | undoRegion => exact state.trans knows
  | recheckState bytes => exact state.trans knows
  | _ => trivial

/-- The first half of a drop gives the bytes of the lease back. -/
theorem Sound.leaseBytes (sound : l.Sound) {before after : List LeaseReservation}
    (live : l.leases = before ++ lease :: after) :
    l.Moved (.leaseBytes lease)
      { l with
        shared := l.giveBackBytes lease
        leases := before ++ after
        dropping := lease :: l.dropping } := by
  have regions := sound.regions
  have total := sound.bytes
  have limit := sound.bytes_le
  have notEmpty : ¬ l.Empty := by
    intro empty
    rw [Empty, live] at empty
    simp at empty
  simp only [live, length_append, length_cons, totalBytes_append, totalBytes_cons] at regions total
  have previous : (l.shared.activeBytes - lease.bytes).toNat =
      l.shared.activeBytes.toNat - lease.bytes.toNat :=
    UInt64.toNat_sub_of_le _ _ (UInt64.le_iff_toNat_le.mpr (by omega))
  refine ⟨⟨⟨?_, ?_, sound.regions_le, ?_, ?_, ?_⟩, rfl, rfl, id, id⟩, nofun, nofun⟩
  · simp only [length_append, length_cons]
    change l.shared.activeRegions.toNat = _
    omega
  · simp only [totalBytes_append]
    change (l.shared.activeBytes - lease.bytes).toNat = _
    omega
  · change (l.shared.activeBytes - lease.bytes).toNat ≤ l.shared.maximumBytes.toNat
    omega
  · exact Knows.of_not_empty sound.knows notEmpty rfl rfl rfl
  · exact fun closed => absurd (sound.closed closed) notEmpty

/-- The second half of a drop gives its region back. -/
theorem Sound.leaseRegion (sound : l.Sound) {before after : List LeaseReservation}
    (half : l.dropping = before ++ lease :: after) :
    l.Moved (.leaseRegion lease)
      { l with shared := l.giveBackRegion, dropping := before ++ after } := by
  have regions := sound.regions
  have limit := sound.regions_le
  have notEmpty : ¬ l.Empty := by
    intro empty
    rw [Empty, half] at empty
    simp at empty
  simp only [half, length_append, length_cons] at regions
  have previous : (l.shared.activeRegions - 1).toNat = l.shared.activeRegions.toNat - 1 :=
    UInt32.toNat_sub_of_le _ _ (UInt32.le_iff_toNat_le.mpr (by change 1 ≤ _; omega))
  refine ⟨⟨⟨?_, sound.bytes, ?_, sound.bytes_le, ?_, ?_⟩, rfl, rfl, id, id⟩, nofun, nofun⟩
  · simp only [length_append]
    change (l.shared.activeRegions - 1).toNat = _
    omega
  · change (l.shared.activeRegions - 1).toNat ≤ l.shared.maximumRegions.toNat
    omega
  · exact Knows.of_not_empty sound.knows notEmpty rfl rfl rfl
  · exact fun closed => absurd (sound.closed closed) notEmpty

theorem Sound.step (sound : l.Sound) (step : Step l event l') : l.Moved event l' := by
  cases step with
  | call call idle => exact sound.call idle call
  | owner spurious advanced => exact sound.advance advanced
  | leaseBytes before after lease live => exact sound.leaseBytes live
  | leaseRegion before after lease half => exact sound.leaseRegion half

theorem sound_start {t : Target} {limits : SessionLimits}
    (created : new t limits = .ok shared) : (start shared).Sound := by
  obtain ⟨_, -, returned⟩ := bind_eq_ok.mp created
  cases pure_eq_ok.mp returned
  exact ⟨rfl, rfl, Nat.zero_le _, Nat.zero_le _, trivial, fun _ => ⟨rfl, rfl⟩⟩

/-- What a run from a sound ledger leaves. -/
structure Followed (l : Ledger) (events : List LedgerEvent) (l' : Ledger) : Prop
    extends Kept l l' where
  reserved : l.shared.state ≠ .active → ∀ lease, LedgerEvent.reserved (.ok lease) ∉ events

theorem Sound.run {events : List LedgerEvent} (sound : l.Sound)
    (trace : Trace Step l events l') : l.Followed events l' := by
  induction trace with
  | nil => exact ⟨⟨sound, rfl, rfl, id, id⟩, fun _ _ => not_mem_nil⟩
  | @snoc events mid next event before last ih =>
    have moved := ih.sound.step last
    refine ⟨⟨moved.sound, moved.maximumRegions.trans ih.maximumRegions,
      moved.maximumBytes.trans ih.maximumBytes, moved.closed ∘ ih.closed,
      moved.inactive ∘ ih.inactive⟩, ?_⟩
    intro inactive lease member
    rcases mem_append.mp member with earlier | isLast
    · exact ih.reserved inactive lease earlier
    · exact ih.inactive inactive (moved.reserved lease (mem_singleton.mp isLast).symm)

/-! ### The owner alone -/

/-- A step of the owner while no other thread does anything. -/
def Alone (l : Ledger) (event : LedgerEvent) (l' : Ledger) : Prop :=
  ∃ spurious, l.advance spurious = some (event, l')

/-- The charge of a region without its bytes. -/
def withRegion (shared : ResourceOwner) : ResourceOwner :=
  { shared with activeRegions := shared.activeRegions + 1 }

/-- Where an uninterrupted reservation from `shared` can be. -/
def Reserving (shared : ResourceOwner) (bytes : UInt64) (l : Ledger) : Prop :=
  match l.owner with
  | .reserveState amount => amount = bytes ∧ l.shared = shared
  | .loadRegions amount => amount = bytes ∧ l.shared = shared ∧ shared.state = .active
  | .swapRegions amount seen =>
    amount = bytes ∧ l.shared = shared ∧ shared.state = .active ∧
      seen = shared.activeRegions ∧ seen < shared.maximumRegions
  | .loadBytes amount =>
    amount = bytes ∧ l.shared = withRegion shared ∧ shared.state = .active ∧
      shared.activeRegions < shared.maximumRegions
  | .swapBytes amount seen =>
    amount = bytes ∧ l.shared = withRegion shared ∧ shared.state = .active ∧
      shared.activeRegions < shared.maximumRegions ∧ seen = shared.activeBytes ∧
      seen.toNat + bytes.toNat < 2 ^ 64 ∧ seen + bytes ≤ shared.maximumBytes
  | .undoRegion =>
    l.shared = withRegion shared ∧ shared.state = .active ∧
      shared.activeRegions < shared.maximumRegions ∧
      ¬ (shared.activeBytes.toNat + bytes.toNat < 2 ^ 64 ∧
        shared.activeBytes + bytes ≤ shared.maximumBytes)
  | .recheckState amount =>
    amount = bytes ∧ l.shared = shared.charge bytes ∧ shared.state = .active ∧
      shared.activeRegions < shared.maximumRegions ∧
      shared.activeBytes.toNat + bytes.toNat < 2 ^ 64 ∧
      shared.activeBytes + bytes ≤ shared.maximumBytes
  | _ => False

/-- The step returns what `reserve` returns and leaves what `reserve` leaves. -/
structure Returned (shared : ResourceOwner) (bytes : UInt64) (l : Ledger) (event : LedgerEvent)
    (l' : Ledger) : Prop where
  event_eq : event = .reserved (shared.reserve bytes).1
  shared_eq : l'.shared = (shared.reserve bytes).2
  leases_eq : l'.leases = l.leases ++ (shared.reserve bytes).1.toOption.toList
  dropping_eq : l'.dropping = l.dropping
  idle : l'.owner = .idle

theorem Returned.of_refused {stop : Stop ResourceError}
    (refused : shared.reserve bytes = (.error stop, shared)) (counters : l'.shared = shared)
    (leases : l'.leases = l.leases) (dropping : l'.dropping = l.dropping)
    (idle : l'.owner = .idle) : Returned shared bytes l (.reserved (.error stop)) l' := by
  refine ⟨?_, ?_, ?_, dropping, idle⟩
  · rw [refused]
  · rw [refused]
    exact counters
  · rw [refused, leases]
    exact (append_nil _).symm

/-- A reservation goes on, or it ends as `reserve` does. -/
theorem Reserving.offerRegion (accepted : ¬ (bytes = 0 ∨ shared.maximumBytes < bytes))
    (same : l.shared = shared) (active : shared.state = .active)
    (offered : l.offerRegion bytes shared.activeRegions = (event, l')) :
    event = .internal ∧ Reserving shared bytes l' ∧ l'.leases = l.leases ∧
        l'.dropping = l.dropping ∨
      Returned shared bytes l event l' := by
  unfold Ledger.offerRegion at offered
  rw [same] at offered
  split at offered
  · rename_i below
    cases offered
    exact .inl ⟨rfl, ⟨rfl, same, active, rfl, below⟩, rfl, rfl⟩
  · rename_i full
    cases offered
    refine .inr (.of_refused ?_ same rfl rfl rfl)
    rw [reserve, if_neg accepted, ensureActive_of_active active]
    exact if_pos (UInt32.not_lt.mp full)

theorem Reserving.offerBytes (same : l.shared = withRegion shared) (active : shared.state = .active)
    (below : shared.activeRegions < shared.maximumRegions)
    (offered : l.offerBytes bytes shared.activeBytes = (event, l')) :
    event = .internal ∧ Reserving shared bytes l' ∧ l'.leases = l.leases ∧
      l'.dropping = l.dropping := by
  unfold Ledger.offerBytes at offered
  rw [same] at offered
  split at offered
  · rename_i fits
    cases offered
    exact ⟨rfl, ⟨rfl, same, active, below, rfl, fits⟩, rfl, rfl⟩
  · rename_i large
    cases offered
    exact ⟨rfl, ⟨same, active, below, large⟩, rfl, rfl⟩

/-- What one step of an uninterrupted reservation does. -/
theorem Reserving.step (accepted : ¬ (bytes = 0 ∨ shared.maximumBytes < bytes))
    (reserving : Reserving shared bytes l) (alone : Alone l event l') :
    event = .internal ∧ Reserving shared bytes l' ∧ l'.leases = l.leases ∧
        l'.dropping = l.dropping ∨
      Returned shared bytes l event l' := by
  obtain ⟨spurious, advanced⟩ := alone
  obtain ⟨current, point, leases, dropping⟩ := l
  unfold Ledger.advance at advanced
  cases point with
  | reserveState amount =>
    obtain ⟨rfl, rfl⟩ := reserving
    dsimp only at advanced
    split at advanced
    · rename_i active
      cases advanced
      exact .inl ⟨rfl, ⟨rfl, rfl, ensureActive_eq_ok active⟩, rfl, rfl⟩
    · rename_i stop inactive
      cases advanced
      refine .inr (.of_refused ?_ rfl rfl rfl rfl)
      rw [reserve, if_neg accepted, inactive]
  | loadRegions amount =>
    obtain ⟨rfl, rfl, active⟩ := reserving
    exact Reserving.offerRegion accepted rfl active (some.inj advanced)
  | swapRegions amount seen =>
    dsimp only [Reserving] at advanced reserving
    obtain ⟨rfl, rfl, active, rfl, below⟩ := reserving
    split at advanced
    · exact Reserving.offerRegion accepted rfl active (some.inj advanced)
    · cases advanced
      exact .inl ⟨rfl, ⟨rfl, rfl, active, below⟩, rfl, rfl⟩
  | loadBytes amount =>
    dsimp only [Reserving] at advanced reserving
    obtain ⟨rfl, rfl, active, below⟩ := reserving
    exact .inl (Reserving.offerBytes rfl active below (some.inj advanced))
  | swapBytes amount seen =>
    dsimp only [Reserving] at advanced reserving
    obtain ⟨rfl, rfl, active, below, rfl, fits, total⟩ := reserving
    split at advanced
    · exact .inl (Reserving.offerBytes rfl active below (some.inj advanced))
    · cases advanced
      exact .inl ⟨rfl, ⟨rfl, rfl, active, below, fits, total⟩, rfl, rfl⟩
  | undoRegion =>
    dsimp only [Reserving] at advanced reserving
    obtain ⟨rfl, active, below, large⟩ := reserving
    cases advanced
    refine .inr (.of_refused ?_ (by simp [withRegion]) rfl rfl rfl)
    rw [reserve, if_neg accepted, ensureActive_of_active active]
    dsimp only
    rw [if_neg (UInt32.not_le.mpr below), if_neg large]
    rfl
  | recheckState amount =>
    dsimp only [Reserving] at advanced reserving
    obtain ⟨rfl, rfl, active, below, fits, total⟩ := reserving
    have checkedAgain : (shared.charge amount).ensureActive = .ok () :=
      ensureActive_of_active active
    rw [checkedAgain] at advanced
    cases advanced
    have charged : shared.reserve amount = (.ok ⟨amount⟩, shared.charge amount) := by
      rw [reserve, if_neg accepted, ensureActive_of_active active, checkedAgain]
      dsimp only
      rw [if_neg (UInt32.not_le.mpr below), if_pos ⟨fits, total⟩]
    refine .inr ⟨?_, ?_, ?_, rfl, rfl⟩
    · rw [charged]
    · rw [charged]
    · rw [charged]
      rfl
  | _ => exact reserving.elim

/-- How many operations an undisturbed reservation has left at most. -/
def remaining : OwnerPoint → Nat
  | .reserveState _ => 6
  | .loadRegions _ => 5
  | .swapRegions _ _ => 4
  | .loadBytes _ => 3
  | .swapBytes _ _ => 2
  | .undoRegion | .recheckState _ => 1
  | _ => 0

/-- `reserve` by the owner alone: its call and its operations up to the one that returns. -/
def ReservesAlone (l : Ledger) (bytes : UInt64) (result : Run ResourceError LeaseReservation)
    (l' : Ledger) : Prop :=
  l.call (.reserve bytes) = (.reserved result, l') ∨
    ∃ events mid, (l.call (.reserve bytes)).1 = .called (.reserve bytes) ∧
      Trace Alone (l.call (.reserve bytes)).2 events mid ∧ Alone mid (.reserved result) l'

/-- A reservation is refused before its first atomic operation, as by `reserve`, or starts. -/
theorem call_reserve (l : Ledger) (bytes : UInt64) :
    l.call (.reserve bytes) = l.finish (.reserved (fail .activeLimit)) ∧
        l.shared.reserve bytes = (fail .activeLimit, l.shared) ∨
      ¬ (bytes = 0 ∨ l.shared.maximumBytes < bytes) ∧ l.call (.reserve bytes) =
        (.called (.reserve bytes), { l with owner := .reserveState bytes }) := by
  by_cases refused : bytes = 0 ∨ l.shared.maximumBytes < bytes
  · exact .inl ⟨if_pos refused, if_pos refused⟩
  · exact .inr ⟨refused, if_neg refused⟩

/-- Whatever fails for no reason in between, an undisturbed reservation is `reserve`. -/
theorem ReservesAlone.returned (reserves : l.ReservesAlone bytes result l') :
    Returned l.shared bytes l (.reserved result) l' := by
  rcases l.call_reserve bytes with ⟨called, reserved⟩ | ⟨refused, called⟩
  · rcases reserves with returned | ⟨events, mid, isCall, -⟩
    · rw [called] at returned
      cases returned
      exact .of_refused reserved rfl rfl rfl rfl
    · rw [called] at isCall
      cases isCall
  · rcases reserves with returned | ⟨events, mid, -, trace, last⟩
    · rw [called] at returned
      cases returned
    · rw [called] at trace
      -- Before it has returned the reservation is at one of its points, and after that it is idle.
      have along : mid.owner = .idle ∨
          Reserving l.shared bytes mid ∧ mid.leases = l.leases ∧ mid.dropping = l.dropping := by
        clear last
        induction trace with
        | nil => exact .inr ⟨⟨rfl, rfl⟩, rfl, rfl⟩
        | snoc before step ih =>
          rcases ih with ended | ⟨reserving, leases, dropping⟩
          · obtain ⟨spurious, advanced⟩ := step
            simp [Ledger.advance, ended] at advanced
          · rcases reserving.step refused step with ⟨-, going, leases', dropping'⟩ | returned
            · exact .inr ⟨going, leases'.trans leases, dropping'.trans dropping⟩
            · exact .inl returned.idle
      rcases along with ended | ⟨reserving, leases, dropping⟩
      · obtain ⟨spurious, advanced⟩ := last
        simp [Ledger.advance, ended] at advanced
      · rcases reserving.step refused last with ⟨going, -⟩ | returned
        · cases going
        · exact ⟨returned.event_eq, returned.shared_eq, by rw [returned.leases_eq, leases],
            returned.dropping_eq.trans dropping, returned.idle⟩

theorem Reserving.progress (reserving : Reserving shared bytes l) :
    ∃ event l', l.advance false = some (event, l') ∧ remaining l'.owner < remaining l.owner := by
  obtain ⟨current, point, leases, dropping⟩ := l
  unfold Ledger.advance
  cases point with
  | reserveState amount =>
    dsimp only
    split
    · exact ⟨_, _, rfl, Nat.lt_add_one 5⟩
    · exact ⟨_, _, rfl, Nat.succ_pos 5⟩
  | loadRegions amount =>
    dsimp only [Ledger.offerRegion]
    split
    · exact ⟨_, _, rfl, Nat.lt_add_one 4⟩
    · exact ⟨_, _, rfl, Nat.succ_pos 4⟩
  | swapRegions amount seen =>
    obtain ⟨-, same, -, rfl, -⟩ := reserving
    simp only [show current = shared from same, Bool.false_eq_true, ne_eq, not_true_eq_false,
      or_self, if_false]
    exact ⟨_, _, rfl, Nat.lt_add_one 3⟩
  | loadBytes amount =>
    dsimp only [Ledger.offerBytes]
    split
    · exact ⟨_, _, rfl, Nat.lt_add_one 2⟩
    · exact ⟨_, _, rfl, Nat.lt_of_sub_pos Nat.two_pos⟩
  | swapBytes amount seen =>
    obtain ⟨-, same, -, -, rfl, -⟩ := reserving
    simp only [show current = _ from same, withRegion, Bool.false_eq_true, ne_eq,
      not_true_eq_false, or_self, if_false]
    exact ⟨_, _, rfl, Nat.lt_add_one 1⟩
  | undoRegion => exact ⟨_, _, rfl, Nat.one_pos⟩
  | recheckState amount =>
    dsimp only [Reserving] at reserving
    obtain ⟨rfl, rfl, active, -⟩ := reserving
    have checked : (shared.charge amount).ensureActive = .ok () := ensureActive_of_active active
    rw [checked]
    exact ⟨_, _, rfl, Nat.one_pos⟩
  | _ => exact reserving.elim

theorem Reserving.returns
    (accepted : ¬ (bytes = 0 ∨ shared.maximumBytes < bytes)) (reserving : Reserving shared bytes l) :
    ∃ events mid l', Trace Alone l events mid ∧
      Alone mid (.reserved (shared.reserve bytes).1) l' := by
  induction rank : remaining l.owner using Nat.strongRecOn generalizing l with
  | ind rank ih =>
    obtain ⟨event, next, advanced, smaller⟩ := reserving.progress
    rcases reserving.step accepted ⟨false, advanced⟩ with ⟨-, going, -⟩ | returned
    · obtain ⟨events, mid, l', trace, last⟩ := ih _ (by omega) going rfl
      exact ⟨_, mid, l', (Trace.nil.snoc ⟨false, advanced⟩).append trace, last⟩
    · rw [returned.event_eq] at advanced
      exact ⟨[], l, next, .nil, false, advanced⟩

/-- The owner alone always gets an answer. -/
theorem exists_reservesAlone (l : Ledger) (bytes : UInt64) :
    ∃ l', l.ReservesAlone bytes (l.shared.reserve bytes).1 l' := by
  rcases l.call_reserve bytes with ⟨called, reserved⟩ | ⟨refused, called⟩
  · exact ⟨_, .inl (by rw [called, reserved]; rfl)⟩
  · have reserving : Reserving l.shared bytes { l with owner := .reserveState bytes } := ⟨rfl, rfl⟩
    obtain ⟨events, mid, l', trace, last⟩ := reserving.returns refused
    exact ⟨l', .inr ⟨events, mid, by rw [called], by rw [called]; exact trace, last⟩⟩

/-- Both halves of the drops of some leases, one lease after the other. -/
inductive DropsAlone : List LeaseReservation → Ledger → Ledger → Prop
  | nil (l : Ledger) : DropsAlone [] l l
  | cons {l l' : Ledger} {lease : LeaseReservation} {rest before after : List LeaseReservation}
      (live : l.leases = before ++ lease :: after)
      (later : DropsAlone rest
        { l with shared := l.shared.release lease, leases := before ++ after } l') :
      DropsAlone (lease :: rest) l l'

theorem DropsAlone.shared_eq {leases : List LeaseReservation}
    (drops : DropsAlone leases l l') : l'.shared = l.shared.releaseAll leases := by
  induction drops with
  | nil l => rfl
  | cons live later ih => exact ih

theorem exists_dropsAlone (base leases : List LeaseReservation)
    (live : l.leases = base ++ leases) : ∃ l', DropsAlone leases l l' := by
  induction leases generalizing l with
  | nil => exact ⟨l, .nil l⟩
  | cons lease rest ih =>
    obtain ⟨l', later⟩ := @ih
      { l with shared := l.shared.release lease, leases := base ++ rest } rfl
    exact ⟨l', .cons live later⟩

/-- `reserve_mapped_lengths`, accepted_control.rs:615-624, by the owner alone, with what it has
    reserved so far: a refusal drops that. -/
inductive BatchAlone : Ledger → List LeaseReservation → List UInt64 →
    Run ResourceError (List LeaseReservation) → Ledger → Prop
  | done (l : Ledger) (reserved : List LeaseReservation) :
      BatchAlone l reserved [] (.ok reserved) l
  | reserved {l mid l' : Ledger} {bytes : UInt64} {lease : LeaseReservation}
      {reserved : List LeaseReservation} {rest : List UInt64}
      {result : Run ResourceError (List LeaseReservation)}
      (first : l.ReservesAlone bytes (.ok lease) mid)
      (later : BatchAlone mid (reserved ++ [lease]) rest result l') :
      BatchAlone l reserved (bytes :: rest) result l'
  | refused {l mid l' : Ledger} {bytes : UInt64} {stop : Stop ResourceError}
      {reserved : List LeaseReservation} {rest : List UInt64}
      (first : l.ReservesAlone bytes (.error stop) mid) (drops : DropsAlone reserved mid l') :
      BatchAlone l reserved (bytes :: rest) (.error stop) l'

theorem reserve_eq_of_returned (returned : Returned l.shared bytes l (.reserved result) l') :
    l.shared.reserve bytes = (result, l'.shared) := by
  have same := returned.event_eq
  rw [LedgerEvent.reserved.injEq] at same
  rw [returned.shared_eq, same]

/-- An undisturbed batch is `reserve_mapped_lengths` of the sequential ledger. -/
theorem BatchAlone.eq {reserved : List LeaseReservation} {lengths : List UInt64}
    {result : Run ResourceError (List LeaseReservation)}
    (batch : BatchAlone l reserved lengths result l') :
    reserveMappedLengths.go reserved l.shared lengths = (result, l'.shared) := by
  induction batch with
  | done l reserved => rfl
  | reserved first later ih =>
    rw [reserveMappedLengths.go, reserve_eq_of_returned first.returned]
    exact ih
  | refused first drops =>
    rw [reserveMappedLengths.go, reserve_eq_of_returned first.returned, drops.shared_eq]

theorem exists_batchAlone (base reserved : List LeaseReservation) (lengths : List UInt64)
    (live : l.leases = base ++ reserved) :
    ∃ result l', BatchAlone l reserved lengths result l' := by
  induction lengths generalizing l reserved with
  | nil => exact ⟨_, l, .done l reserved⟩
  | cons bytes rest ih =>
    obtain ⟨mid, first⟩ := l.exists_reservesAlone bytes
    have leases := first.returned.leases_eq
    cases outcome : (l.shared.reserve bytes).1 with
    | ok lease =>
      rw [outcome] at first leases
      have grown : mid.leases = base ++ (reserved ++ [lease]) := by
        rw [leases, live]
        simp [Except.toOption]
      obtain ⟨result, l', later⟩ := ih _ grown
      exact ⟨result, l', .reserved first later⟩
    | error stop =>
      rw [outcome] at first leases
      have kept : mid.leases = base ++ reserved := by
        rw [leases, live]
        simp [Except.toOption]
      obtain ⟨l', drops⟩ := exists_dropsAlone base reserved kept
      exact ⟨_, l', .refused first drops⟩

/-! ### The ledger as a whole -/

/-- No operation of any thread is under way. -/
def Quiescent (l : Ledger) : Prop := (l.owner = .idle ∨ l.owner = .gone) ∧ l.dropping = []

/-- Whatever the next operation of any thread subtracts from a counter is there. -/
structure Covered (l : Ledger) : Prop where
  leaseBytes : ∀ lease ∈ l.leases, lease.bytes ≤ l.shared.activeBytes
  leaseRegion : l.dropping ≠ [] → 1 ≤ l.shared.activeRegions
  undoRegion : l.owner = .undoRegion → 1 ≤ l.shared.activeRegions
  undoBytes : ∀ bytes stop, l.owner = .undoBytes bytes stop → bytes ≤ l.shared.activeBytes
  undoCharge : ∀ stop, l.owner = .undoCharge stop → 1 ≤ l.shared.activeRegions

theorem Sound.covered (sound : l.Sound) : l.Covered := by
  have regions := sound.regions
  have total := sound.bytes
  have charged (positive : 0 < l.shared.activeRegions.toNat) : 1 ≤ l.shared.activeRegions :=
    UInt32.le_iff_toNat_le.mpr positive
  constructor
  · intro lease live
    obtain ⟨before, after, split⟩ := append_of_mem live
    rw [split, totalBytes_append, totalBytes_cons] at total
    exact UInt64.le_iff_toNat_le.mpr (by omega)
  · intro half
    have positive := length_pos_iff.mpr half
    exact charged (by omega)
  · intro point
    rw [point, chargedRegions_undoRegion] at regions
    exact charged (by omega)
  · intro bytes stop point
    rw [point, chargedBytes] at total
    exact UInt64.le_iff_toNat_le.mpr (by omega)
  · intro stop point
    rw [point, chargedRegions_undoCharge] at regions
    exact charged (by omega)

theorem Sound.quiescent (sound : l.Sound) (quiescent : l.Quiescent) :
    l.shared.activeRegions.toNat = l.leases.length ∧
      l.shared.activeBytes.toNat = totalBytes l.leases := by
  have regions := sound.regions
  have total := sound.bytes
  obtain ⟨point, settled⟩ := quiescent
  have free : chargedRegions l.owner = 0 ∧ chargedBytes l.owner = 0 := by
    rcases point with point | point
    · rw [point]
      exact ⟨rfl, rfl⟩
    · rw [point]
      exact ⟨rfl, rfl⟩
  rw [settled, free.1] at regions
  rw [free.2] at total
  exact ⟨regions, total⟩

/-- In every state that the threads can reach the counters stay within the limits and never
    underflow, and at rest they are what the live leases charge; facts are exact only when nothing
    is charged; a closed ledger stays closed and empty, and a poisoned one is never active again.
    A batch that the owner reserves alone is reserved exactly when all of it fits, and a refused
    one leaves the counters as they were. -/
theorem lease_ledger {t : Target} {limits : SessionLimits} {shared : ResourceOwner}
    (created : ResourceOwner.new t limits = .ok shared) {events : List LedgerEvent} {l : Ledger}
    (trace : Trace Step (start shared) events l) :
    (l.shared.activeRegions ≤ limits.maxActiveRegions ∧
      l.shared.activeBytes ≤ limits.maxActiveBytes ∧ l.Covered) ∧
    (l.Quiescent → l.shared.activeRegions.toNat = l.leases.length ∧
      l.shared.activeBytes.toNat = totalBytes l.leases) ∧
    (∀ event facts l', Step l event l' → event.reported = some facts →
      facts.consistency = .exact → l.Empty) ∧
    (l.shared.state = .closed → l.Empty ∧ ∀ later l', Trace Step l later l' →
      l'.shared.state = .closed ∧ l'.Empty ∧ ∀ lease, LedgerEvent.reserved (.ok lease) ∉ later) ∧
    (l.shared.state = .poisoned → ∀ later l', Trace Step l later l' →
      l'.shared.state ≠ .active) ∧
    (l.Quiescent → l.shared.state = .active → ∀ lengths,
      (∃ result l', BatchAlone l [] lengths result l') ∧
      ∀ result l', BatchAlone l [] lengths result l' →
        ((∃ leases, result = .ok leases) ↔ l.shared.Fits lengths) ∧
        ∀ stop, result = .error stop →
          l'.shared.activeRegions = l.shared.activeRegions ∧
            l'.shared.activeBytes = l.shared.activeBytes) := by
  have followed := (sound_start created).run trace
  have sound := followed.sound
  obtain ⟨accepted, validated, returned⟩ := bind_eq_ok.mp created
  cases pure_eq_ok.mp returned
  have same : accepted = limits := by
    have valid := mapError_eq_ok.mp validated
    exact (SessionLimits.validate_eq_ok.mp valid).2
  subst same
  have maximumRegions : l.shared.maximumRegions = accepted.maxActiveRegions :=
    followed.maximumRegions
  have maximumBytes : l.shared.maximumBytes = accepted.maxActiveBytes := followed.maximumBytes
  refine ⟨⟨?_, ?_, sound.covered⟩, sound.quiescent, ?_, ?_, ?_, ?_⟩
  · rw [← maximumRegions]
    exact UInt32.le_iff_toNat_le.mpr sound.regions_le
  · rw [← maximumBytes]
    exact UInt64.le_iff_toNat_le.mpr sound.bytes_le
  · intro event facts l' step reported exact
    exact (sound.step step).exact facts reported exact
  · intro closed
    refine ⟨sound.closed closed, ?_⟩
    intro later l' rest
    have after := sound.run rest
    have inactive : l.shared.state ≠ .active := by rw [closed]; nofun
    exact ⟨after.closed closed, after.sound.closed (after.closed closed), after.reserved inactive⟩
  · intro poisoned later l' rest
    exact (sound.run rest).inactive (by rw [poisoned]; nofun)
  · intro quiescent active lengths
    refine ⟨exists_batchAlone l.leases [] lengths (List.append_nil _).symm, ?_⟩
    intro result l' batch
    have within : l.shared.Fits [] := ⟨nofun, sound.regions_le, sound.bytes_le⟩
    have run : l.shared.reserveMappedLengths lengths = (result, l'.shared) := batch.eq
    refine ⟨?_, ?_⟩
    · rw [← ResourceOwner.reserveMappedLengths_eq_ok active within, run]
    · rintro stop rfl
      rcases l.shared.reserveMappedLengths_cases lengths with reserved | ⟨error, refused⟩
      · rw [reserved] at run
        cases run
      · rw [refused] at run
        rw [← (Prod.mk.inj run).2]
        exact ⟨rfl, rfl⟩

namespace Sample

/-- The counters of a new session with the default limits. -/
def counters : ResourceOwner where
  state := .active
  activeRegions := 0
  activeBytes := 0
  maximumRegions := SessionLimits.default.maxActiveRegions
  maximumBytes := SessionLimits.default.maxActiveBytes

/-- The ledger with one lease whose drop has given back its bytes. -/
def halfDropped : Ledger where
  shared := { counters with activeRegions := 1 }
  owner := .idle
  leases := []
  dropping := [⟨4096⟩]

theorem trace_halfDropped :
    Trace Step (start counters)
      [.called (.reserve 4096), .internal, .internal, .internal, .internal, .internal,
        .reserved (.ok ⟨4096⟩), .leaseBytes ⟨4096⟩] halfDropped :=
  (((((((Trace.nil.snoc (.call (.reserve 4096) rfl)).snoc (.owner false rfl)).snoc
    (.owner false rfl)).snoc (.owner false rfl)).snoc (.owner false rfl)).snoc
    (.owner false rfl)).snoc (.owner false rfl)).snoc (.leaseBytes [] [] ⟨4096⟩ rfl)

end Sample

/-- While a lease is half dropped its region is charged still, and the facts are not exact. -/
theorem lease_ledger_half_dropped :
    ResourceOwner.new .w64 .default = .ok Sample.counters ∧
      Sample.halfDropped.shared.activeRegions = 1 ∧
      Sample.halfDropped.shared.activeRegions ≤ SessionLimits.default.maxActiveRegions ∧
      ∀ event facts l', Step Sample.halfDropped event l' → event.reported = some facts →
        facts.consistency ≠ .exact := by
  have created : ResourceOwner.new .w64 .default = .ok Sample.counters := by decide
  obtain ⟨⟨regions, -⟩, -, facts, -⟩ := lease_ledger created Sample.trace_halfDropped
  refine ⟨created, rfl, regions, ?_⟩
  intro event report l' step reported exact
  exact absurd (facts event report l' step reported exact).2 (List.cons_ne_nil _ _)

end Ledger

end NativeIpc.Session
