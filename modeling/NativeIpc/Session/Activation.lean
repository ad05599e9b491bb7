import NativeIpc.Session.Dispatcher

/-!
# Activation, with what every early return drops

`activate_linux_regions` of `backend/accepted_control.rs` with the values it owns: the mappings and
the lease reservations that it was given, the regions it has made of them so far, and what its
iterators still hold. A value that goes out of scope is dropped where it does, a mapping is unmapped
and a lease gives its charge back. Below it the set that an activation returns, with its takes.
-/

namespace NativeIpc.Session.Activation

open NativeIpc.Lib Run List
open Prod (fst snd)

/-! ### Owners and regions -/

/-- A `Box<dyn ActiveReadOwner>` or `Box<dyn ActiveWriteOwner>`: one local mapping. -/
structure MappingOwner where
  base : Nat
  len : Nat
  pageSize : Nat
  guardInstalled : Bool
  deriving DecidableEq, Repr

/-- `LinuxActiveRegionOwner`, linux_vnext/memory.rs:145-154, and its copies. -/
inductive ActiveRegionOwner where
  | reader (spec : ActiveRegionSpec) (owner : MappingOwner)
  | writer (spec : ActiveRegionSpec) (owner : MappingOwner)
  deriving DecidableEq

namespace ActiveRegionOwner

/-- linux_vnext/memory.rs:2218-2222. -/
def spec : ActiveRegionOwner → ActiveRegionSpec
  | reader spec _ => spec
  | writer spec _ => spec

def mapping : ActiveRegionOwner → MappingOwner
  | reader _ owner => owner
  | writer _ owner => owner

def authority : ActiveRegionOwner → LocalRegionAuthority
  | reader _ _ => .reader
  | writer _ _ => .writer

end ActiveRegionOwner

/-- `ActiveReader`, active.rs:129-133, and `ActiveWriter`, 301-306, on a leased owner. -/
structure ActiveRegion where
  owner : MappingOwner
  lease : LeaseReservation
  logicalLen : Nat
  guardRequested : GuardPolicy
  deriving DecidableEq

/-- batch.rs:276-279. -/
inductive CommittedRegion where
  | reader (region : ActiveRegion)
  | writer (region : ActiveRegion)
  deriving DecidableEq

namespace CommittedRegion

def authority : CommittedRegion → LocalRegionAuthority
  | reader _ => .reader
  | writer _ => .writer

def region : CommittedRegion → ActiveRegion
  | reader region => region
  | writer region => region

end CommittedRegion

/-- active.rs:154-158. -/
inductive ActivationError where
  | access (error : AccessError)
  | resource (error : ResourceError)
  | mappingLengthOverflow
  deriving DecidableEq, Repr

/-- `LinuxActivationError`, `MacActivationError` and `WindowsActivationError`. -/
inductive RegionActivationError where
  | wrongSession
  | memory (error : MemoryError)
  | active (error : ActivationError)
  | batch (error : BatchError)
  deriving DecidableEq

/-! ### Drops -/

/-- What the activation changes outside of its own variables: the dispatcher with its ledger, and
    the mappings that have been unmapped. -/
structure Custody where
  dispatcher : Dispatcher
  unmapped : List MappingOwner

namespace Custody

variable (c : Custody)

def dropOwner (owner : MappingOwner) : Custody :=
  { c with unmapped := c.unmapped ++ [owner] }

def dropLease (lease : LeaseReservation) : Custody :=
  { c with dispatcher := c.dispatcher.release [lease] }

/-- `LeasedReadOwner::drop` and `LeasedWriteOwner::drop`, active.rs:560-574: first the mapping, then
    the lease. -/
def dropRegion (region : CommittedRegion) : Custody :=
  (c.dropOwner region.region.owner).dropLease region.region.lease

/-- The regions of a vector or of a map. -/
def dropRegions (regions : List (RegionId × CommittedRegion)) : Custody :=
  regions.foldl (fun c pair => c.dropRegion pair.2) c

def dropOwners (owners : List ActiveRegionOwner) : Custody :=
  owners.foldl (fun c owner => c.dropOwner owner.mapping) c

def dropLeases (leases : List LeaseReservation) : Custody :=
  leases.foldl dropLease c

/-- `dispatcher.poison_both()`. -/
def poisonBoth : Custody :=
  { c with dispatcher := c.dispatcher.poisonBoth }

end Custody

/-- A part of the activation. It asks nothing of the system. -/
abbrev Effect (ε α : Type) : Type := Session.Effect Custody ε α

variable {ε ε' α : Type}

/-- `x?` in a scope with values that an error drops. -/
def scope (drops : Custody → Custody) (x : Effect ε α) : Effect ε α := do
  match ← Op.attempt x with
  | .ok a => pure a
  | .error stop => do
    Op.modify drops
    Op.ofRun (.error stop)

/-! ### One region -/

/-- active.rs:170-186 and 318-336: its error drops the owner. -/
def fromOwner (owner : MappingOwner) (logicalLen : Nat) : Effect ActivationError Unit :=
  scope (·.dropOwner owner) (Op.ofRun (rejectIf
    (logicalLen = 0 ∨ owner.len < logicalLen ∨ owner.pageSize = 0 ∨
      owner.base % owner.pageSize ≠ 0)
    (.access .outOfBounds)))

/-- `u64::try_from(len)`. -/
def toU64 (len : Nat) : Option UInt64 := if len < 2 ^ 64 then some (UInt64.ofNat len) else none

/-- `LeaseReservation::complete`, active.rs:582-602: its error drops the reservation. -/
def complete (reservation : LeaseReservation) (actualMappedLen : UInt64) :
    Effect ResourceError LeaseReservation := do
  let c ← Op.get
  scope (·.dropLease reservation)
    (Op.ofRun (reservation.complete c.dispatcher.resources.state actualMappedLen))

/-- `ActiveReader::new_leased`, active.rs:189-207, and `ActiveWriter::new_leased`, 339-358. -/
def newLeased (owner : MappingOwner) (logicalLen : Nat) (reservation : LeaseReservation)
    (guardRequested : GuardPolicy) : Effect ActivationError ActiveRegion := do
  scope (·.dropLease reservation) (fromOwner owner logicalLen)
  let mappedLen ← scope (fun c => (c.dropOwner owner).dropLease reservation)
    (Op.ofRun (okOr (toU64 owner.len) .mappingLengthOverflow))
  let lease ← scope (·.dropOwner owner) (Op.mapError .resource (complete reservation mappedLen))
  pure { owner, lease, logicalLen, guardRequested }

/-! ### All regions -/

abbrev Item : Type := (ActiveRegionSpec × ActiveRegionOwner) × LeaseReservation

/-- `dispatcher.poison_both(); return Err(error)`. -/
def poisonFail (error : ε) : Effect ε α := do
  Op.modify Custody.poisonBoth
  Op.fail error

/-- `match x { Ok(a) => a, Err(error) => { dispatcher.poison_both(); return Err(..) } }`. -/
def orPoison (convert : ε → ε') (x : Effect ε α) : Effect ε' α := do
  match ← Op.attempt x with
  | .ok a => pure a
  | .error (.error error) => poisonFail (convert error)
  | .error .fault => Op.ofRun Run.fault

/-- The body of the loop, accepted_control.rs:2226-2274, on the owner and the reservation that
    the turn took from the iterators. -/
def activateRegion (failureAt : Option Nat) (ordinal : Nat) (item : Item) :
    Effect RegionActivationError (RegionId × CommittedRegion) := do
  let ((expectedSpec, owner), reservation) := item
  let drops (c : Custody) : Custody := (c.dropOwner owner.mapping).dropLease reservation
  if failureAt = some (ordinal + 1) then
    scope drops (poisonFail (.memory (.native (some 5))))
  else if owner.spec ≠ expectedSpec then
    scope drops (poisonFail (.memory .wrongProvenance))
  else
    match expectedSpec.authority, owner with
    | .reader, .reader _ owner =>
      let region ← orPoison .active
        (newLeased owner expectedSpec.logicalLen reservation expectedSpec.guardRequested)
      pure (expectedSpec.id, .reader region)
    | .writer, .writer _ owner =>
      let region ← orPoison .active
        (newLeased owner expectedSpec.logicalLen reservation expectedSpec.guardRequested)
      pure (expectedSpec.id, .writer region)
    | _, _ => scope drops (poisonFail (.memory .wrongProvenance))

/-- The loop, accepted_control.rs:2223-2275. An error drops what the iterators still hold and the
    regions made so far. -/
def activateLoop (failureAt : Option Nat) : Nat → List (RegionId × CommittedRegion) → List Item →
    Effect RegionActivationError (List (RegionId × CommittedRegion))
  | _, active, [] => pure active
  | ordinal, active, item :: rest => do
    let region ← scope
      (fun c => ((c.dropOwners (rest.map fun item => item.1.2)).dropLeases
        (rest.map Prod.snd)).dropRegions active)
      (activateRegion failureAt ordinal item)
    activateLoop failureAt (ordinal + 1) (active ++ [region]) rest

/-! ### The set -/

/-- batch.rs:289-291: a map as its pairs. -/
structure ActiveRegionSet where
  regions : List (RegionId × CommittedRegion)
  distinct : (regions.map Prod.fst).Nodup

namespace ActiveRegionSet

def empty : ActiveRegionSet := ⟨[], .nil⟩

def get (set : ActiveRegionSet) (id : RegionId) : Option CommittedRegion :=
  (set.regions.find? fun pair => pair.1 = id).map Prod.snd

theorem get_eq_none {set : ActiveRegionSet} {id : RegionId} :
    set.get id = none ↔ id ∉ set.regions.map fst := by
  simp only [get, Option.map_eq_none_iff, find?_eq_none, decide_eq_true_eq, mem_map,
    not_exists, not_and]

/-- `insert` of an id that is not there. -/
def insert (set : ActiveRegionSet) (id : RegionId) (region : CommittedRegion)
    (fresh : set.get id = none) : ActiveRegionSet where
  regions := set.regions ++ [(id, region)]
  distinct := by
    rw [List.map_append, List.nodup_append]
    refine ⟨set.distinct, List.nodup_singleton _, ?_⟩
    intro earlier present later same equal
    rw [List.map_singleton, List.mem_singleton] at same
    rw [equal, same] at present
    exact get_eq_none.mp fresh present

def remove (set : ActiveRegionSet) (id : RegionId) : Option CommittedRegion × ActiveRegionSet where
  fst := set.get id
  snd := {
    regions := set.regions.eraseP fun pair => pair.1 = id
    distinct := set.distinct.sublist (List.Sublist.map _ List.eraseP_sublist) }

end ActiveRegionSet

/-- The loop of `from_local_committed` that fills the map, batch.rs:329-333. `insert` returns the
    region that had the id, which is dropped; then the rest of the iterator and the map are. -/
def insertAll : ActiveRegionSet → List (RegionId × CommittedRegion) →
    Effect BatchError ActiveRegionSet
  | keyed, [] => pure keyed
  | keyed, (id, region) :: rest =>
    match fresh : keyed.get id with
    | some old =>
      scope (fun c => ((c.dropRegion old).dropRegions rest).dropRegions
        ((id, region) :: (keyed.remove id).2.regions)) (Op.fail (.duplicateRegionId id))
    | none => insertAll (keyed.insert id region fresh) rest

variable (expected : List (RegionId × LocalRegionAuthority))

/-- The checks on the expectation, batch.rs:316-327. -/
def checkExpected : Run BatchError Unit :=
  if 16 < expected.length then fail .commitMismatch
  else
    match equalNeighbour (fun pair => pair.1.key) (sortBy (fun pair => pair.1.key) expected) with
    | some duplicate => fail (.duplicateRegionId duplicate.1)
    | none => .ok ()

/-- The checks on the filled map, batch.rs:334-343. -/
def checkKeyed (keyed : ActiveRegionSet) : Run BatchError Unit := do
  rejectIf (keyed.regions.length ≠ expected.length ∨ 16 < keyed.regions.length) .commitMismatch
  forM (sortBy (fun pair => pair.1.key) expected) fun (id, authority) =>
    match authority, keyed.get id with
    | .writer, some (.writer _) => .ok ()
    | .reader, some (.reader _) => .ok ()
    | _, _ => fail .commitMismatch

/-- batch.rs:311-344. -/
def fromLocalCommitted
    (regions : List (RegionId × CommittedRegion)) : Effect BatchError ActiveRegionSet := do
  scope (·.dropRegions regions) (Op.ofRun (checkExpected expected))
  let keyed ← insertAll .empty regions
  scope (·.dropRegions keyed.regions) (Op.ofRun (checkKeyed expected keyed))
  pure keyed

/-- accepted_control.rs:2206-2285, and its copies, 2056-2203, which inject no failure. -/
def activateLinuxRegions (specs : List ActiveRegionSpec)
    (reservations : List LeaseReservation) (failureAt : Option Nat)
    (owners : List ActiveRegionOwner) : Effect RegionActivationError ActiveRegionSet := do
  let expected := specs.map fun spec => (spec.id, spec.authority)
  if reservations.length ≠ specs.length then
    -- The owners are not made yet.
    scope (·.dropLeases reservations) (poisonFail (.memory .wrongProvenance))
  else if owners.length ≠ specs.length then
    scope (fun c => (c.dropOwners owners).dropLeases reservations)
      (poisonFail (.memory .wrongProvenance))
  else do
    let active ← activateLoop failureAt 0 [] ((specs.zip owners).zip reservations)
    orPoison .batch (fromLocalCommitted expected active)

/-! ### Takes -/

/-- A take of a region out of the set. -/
inductive Take where
  | writer (id : RegionId)
  | reader (id : RegionId)
  deriving DecidableEq

namespace Take

def id : Take → RegionId
  | writer id => id
  | reader id => id

end Take

namespace ActiveRegionSet

/-- batch.rs:357-368. -/
def takeWriter (set : ActiveRegionSet) (id : RegionId) :
    Run BatchError ActiveRegion × ActiveRegionSet :=
  match set.get id with
  | none => (fail (.unknownRegion id), set)
  | some (.reader _) => (fail (.wrongDirection id), set)
  | some (.writer _) =>
    match set.remove id with
    | (some (.writer writer), set) => (.ok writer, set)
    | (some (.reader _), set) => (fail (.wrongDirection id), set)
    | (none, set) => (fail (.unknownRegion id), set)

/-- batch.rs:371-382. -/
def takeReader (set : ActiveRegionSet) (id : RegionId) :
    Run BatchError ActiveRegion × ActiveRegionSet :=
  match set.get id with
  | none => (fail (.unknownRegion id), set)
  | some (.writer _) => (fail (.wrongDirection id), set)
  | some (.reader _) =>
    match set.remove id with
    | (some (.reader reader), set) => (.ok reader, set)
    | (some (.writer _), set) => (fail (.wrongDirection id), set)
    | (none, set) => (fail (.unknownRegion id), set)

def take (set : ActiveRegionSet) : Take → Run BatchError ActiveRegion × ActiveRegionSet
  | .writer id => set.takeWriter id
  | .reader id => set.takeReader id

/-- The takes of a program, one after the other: what each returned, and the set that is left. -/
def takeAll (set : ActiveRegionSet) :
    List Take → List (Take × Run BatchError ActiveRegion) × ActiveRegionSet
  | [] => ([], set)
  | take :: rest =>
    let (result, set) := set.take take
    let (results, set) := set.takeAll rest
    ((take, result) :: results, set)

end ActiveRegionSet

/-! ### What is spent -/

/-- From `c` to `c'` these leases and these mappings were dropped, in whatever order. -/
structure Spent (leases : List LeaseReservation) (owners : List MappingOwner) (c c' : Custody) :
    Prop where
  dispatcher : c'.dispatcher = c.dispatcher.release leases
  unmapped : c'.unmapped.Perm (c.unmapped ++ owners)

instance : RightCommutative ResourceOwner.release where
  right_comm owner lease lease' := by
    simp only [ResourceOwner.release, ResourceOwner.mk.injEq, and_true, true_and]
    grind

variable {leases : List LeaseReservation} {regions : List (RegionId × CommittedRegion)}

open ResourceOwner

theorem release_perm {leases' : List LeaseReservation} (perm : leases.Perm leases')
    (d : Dispatcher) : d.release leases = d.release leases' := by
  unfold Dispatcher.release releaseAll
  rw [perm.foldl_eq]

open ActiveRegionOwner

namespace Spent

variable {leases leases' : List LeaseReservation} {owners owners' : List MappingOwner}
  {c c' c'' : Custody}

theorem refl (c : Custody) : Spent [] [] c c := ⟨rfl, by simp⟩

theorem trans (first : Spent leases owners c c') (second : Spent leases' owners' c' c'') :
    Spent (leases ++ leases') (owners ++ owners') c c'' where
  dispatcher := by
    rw [second.dispatcher, first.dispatcher]
    simp [Dispatcher.release, releaseAll]
  unmapped := by
    rw [← append_assoc]
    exact second.unmapped.trans (first.unmapped.append_right owners')

theorem perm (spent : Spent leases owners c c') (sameLeases : leases.Perm leases')
    (sameOwners : owners.Perm owners') : Spent leases' owners' c c' where
  dispatcher := spent.dispatcher.trans (release_perm sameLeases _)
  unmapped := spent.unmapped.trans (sameOwners.append_left _)

theorem dropOwner (c : Custody) (owner : MappingOwner) : Spent [] [owner] c (c.dropOwner owner) :=
  ⟨rfl, .refl _⟩

theorem dropLease (c : Custody) (lease : LeaseReservation) :
    Spent [lease] [] c (c.dropLease lease) :=
  ⟨rfl, by simp [Custody.dropLease]⟩

theorem dropRegion (c : Custody) (region : CommittedRegion) :
    Spent [region.region.lease] [region.region.owner] c (c.dropRegion region) :=
  (dropOwner c _).trans (dropLease _ _)

theorem dropOwners (c : Custody) (owners : List ActiveRegionOwner) :
    Spent [] (owners.map mapping) c (c.dropOwners owners) := by
  induction owners generalizing c with
  | nil => exact refl c
  | cons owner owners ih => exact (dropOwner c owner.mapping).trans (ih _)

theorem dropLeases (c : Custody) (leases : List LeaseReservation) :
    Spent leases [] c (c.dropLeases leases) := by
  induction leases generalizing c with
  | nil => exact refl c
  | cons lease leases ih => exact (dropLease c lease).trans (ih _)

end Spent

/-- The leases and the mappings of some regions. -/
def leasesOf (regions : List (RegionId × CommittedRegion)) : List LeaseReservation :=
  regions.map fun pair => pair.2.region.lease

def ownersOf (regions : List (RegionId × CommittedRegion)) : List MappingOwner :=
  regions.map fun pair => pair.2.region.owner

variable (c : Custody)

theorem Spent.dropRegions (regions : List (RegionId × CommittedRegion)) :
    Spent (leasesOf regions) (ownersOf regions) c (c.dropRegions regions) := by
  induction regions generalizing c with
  | nil => exact refl c
  | cons pair regions ih => exact (dropRegion c pair.2).trans (ih _)

theorem poison_releaseAll (owner : ResourceOwner) (leases : List LeaseReservation) :
    (owner.releaseAll leases).poison = owner.poison.releaseAll leases := by
  induction leases generalizing owner with
  | nil => rfl
  | cons lease leases ih =>
    have swap : (owner.release lease).poison = owner.poison.release lease := by
      unfold poison
      cases state : owner.state <;> simp [release, state]
    change ((owner.release lease).releaseAll leases).poison = _
    rw [ih, swap]
    rfl

theorem Spent.poisonBoth {owners : List MappingOwner} {c c' : Custody}
    (spent : Spent leases owners c c') : Spent leases owners c.poisonBoth c'.poisonBoth where
  dispatcher := by
    change c'.dispatcher.poisonBoth = _
    rw [spent.dispatcher]
    simp [Dispatcher.poisonBoth, Dispatcher.release, poison_releaseAll, Custody.poisonBoth]
  unmapped := spent.unmapped

/-! ### Parts that settle -/

/-- How a part of the activation that was given these leases and mappings ends: if it returns,
    nothing was dropped and it has `made` its value; if it fails, all of them were dropped, counted
    from `failed`. It does not fault. -/
def Settled (c failed : Custody) (leases : List LeaseReservation) (owners : List MappingOwner)
    (made : α → Prop) (result : Run ε α) (c' : Custody) : Prop :=
  match result with
  | .ok a => c' = c ∧ made a
  | .error (.error _) => Spent leases owners failed c'
  | .error .fault => False

/-- A part that ends like this, and makes no calls. -/
def Settles (c failed : Custody) (leases : List LeaseReservation) (owners : List MappingOwner)
    (made : α → Prop) (x : Effect ε α) : Prop :=
  ∀ h, Op.wp (fun _ _ => False) (fun _ => Settled c failed leases owners made) h c x

namespace Settles

variable {β : Type} {c failed : Custody} {leases leases' : List LeaseReservation}
  {owners owners' : List MappingOwner} {made : α → Prop} {x : Effect ε α}

theorem returns (settles : Settles c failed leases owners made x) :
    ∃ result c', x c = .ret (result, c') ∧ Settled c failed leases owners made result c' := by
  have ends := settles []
  unfold Op.wp at ends
  cases outcome : x c with
  | call c k =>
    rw [outcome] at ends
    exact ends.1.elim
  | ret outcome' =>
    rw [outcome] at ends
    exact ⟨outcome'.1, outcome'.2, rfl, ends⟩

theorem of_pure {a : α} (holds : made a) :
    Settles c failed leases owners made (pure a : Effect ε α) :=
  fun _ => ⟨rfl, holds⟩

theorem of_fail (e : ε) : Settles c c [] [] made (Op.fail e : Effect ε α) :=
  fun _ => .refl c

theorem of_ofRun {run : Run ε α} (sound : NoFault run) (holds : ∀ a, run = .ok a → made a) :
    Settles c c [] [] made (Op.ofRun run : Effect ε α) := by
  intro h
  rw [Op.wp_ofRun]
  rcases run with (e | _) | a
  · exact .refl c
  · exact sound rfl
  · exact ⟨rfl, holds a rfl⟩

theorem of_poisonFail (e : ε) : Settles c c.poisonBoth [] [] made (poisonFail e : Effect ε α) :=
  fun _ => .refl c.poisonBoth

theorem perm (settles : Settles c failed leases owners made x) (sameLeases : leases.Perm leases')
    (sameOwners : owners.Perm owners') : Settles c failed leases' owners' made x := by
  intro h
  refine Op.wp_mono ?_ (settles h)
  rintro _ ((e | _) | a) c' holds
  · exact Spent.perm holds sameLeases sameOwners
  · exact holds
  · exact holds

theorem mono {made' : α → Prop} (settles : Settles c failed leases owners made x)
    (weaker : ∀ a, made a → made' a) : Settles c failed leases owners made' x := by
  intro h
  refine Op.wp_mono ?_ (settles h)
  rintro _ ((e | _) | a) c' holds
  · exact holds
  · exact holds
  · exact ⟨holds.1, weaker a holds.2⟩

theorem bind {made' : β → Prop} {f : α → Effect ε β} (first : Settles c failed leases owners made x)
    (next : ∀ a, made a → Settles c failed leases owners made' (f a)) :
    Settles c failed leases owners made' (x >>= f) := by
  intro h
  rw [Op.wp_bind]
  refine Op.wp_mono ?_ (first h)
  rintro h' ((e | _) | a) c' holds
  · exact holds
  · exact holds
  · obtain ⟨rfl, holds⟩ := holds
    exact next a holds h'

/-- The values of a scope are dropped after those of the part inside it. -/
theorem scope {drops : Custody → Custody} (settles : Settles c failed leases owners made x)
    (spends : ∀ c, Spent leases' owners' c (drops c)) :
    Settles c failed (leases ++ leases') (owners ++ owners') made (Activation.scope drops x) := by
  intro h
  refine (Op.wp_bind _ _).mpr ((Op.wp_attempt _).mpr (Op.wp_mono ?_ (settles h)))
  rintro h' ((e | _) | a) c' holds
  · exact Spent.trans holds (spends c')
  · exact holds.elim
  · exact holds

variable {convert : ε → ε'}

theorem orPoison (settles : Settles c c leases owners made x) :
    Settles c c.poisonBoth leases owners made (Activation.orPoison convert x) := by
  intro h
  refine (Op.wp_bind _ _).mpr ((Op.wp_attempt _).mpr (Op.wp_mono ?_ (settles h)))
  rintro h' ((e | _) | a) c' holds
  · exact Spent.poisonBoth holds
  · exact holds
  · exact holds

theorem mapError (settles : Settles c failed leases owners made x) :
    Settles c failed leases owners made (Op.mapError convert x) := by
  intro h
  rw [Op.wp_mapError]
  refine Op.wp_mono ?_ (settles h)
  rintro h' ((e | _) | a) c' holds
  · exact holds
  · exact holds
  · exact holds

end Settles

/-! ### The activation settles -/

theorem toU64_eq_some {len : Nat} {value : UInt64} (converted : toU64 len = some value) :
    value.toNat = len := by
  unfold toU64 at converted
  split at converted
  · cases converted
    exact UInt64.toNat_ofNat_of_lt' (by simpa [UInt64.size] using ‹len < 2 ^ 64›)
  · cases converted

theorem settles_fromOwner (owner : MappingOwner) (logicalLen : Nat) :
    Settles c c [] [owner] (fun _ => logicalLen ≠ 0 ∧ logicalLen ≤ owner.len)
      (fromOwner owner logicalLen) := by
  have checked : Settles c c [] [] (fun _ => logicalLen ≠ 0 ∧ logicalLen ≤ owner.len)
      (Op.ofRun (rejectIf (logicalLen = 0 ∨ owner.len < logicalLen ∨ owner.pageSize = 0 ∨
        owner.base % owner.pageSize ≠ 0) (ActivationError.access .outOfBounds))) := by
    refine .of_ofRun (noFault_rejectIf _ _) ?_
    intro _ accepted
    have fits := rejectIf_eq_ok.mp accepted
    omega
  exact checked.scope fun c => .dropOwner c owner

theorem settles_complete (reservation : LeaseReservation) (len : UInt64) :
    Settles c c [reservation] [] (fun lease => lease = reservation ∧ reservation.bytes = len)
      (complete reservation len) := by
  have completed : Settles c c [] [] (fun lease => lease = reservation ∧ reservation.bytes = len)
      (Op.ofRun (reservation.complete c.dispatcher.resources.state len)) := by
    unfold LeaseReservation.complete
    refine .of_ofRun ?_ ?_
    · refine noFault_rejectIf_bind fun _ => ?_
      cases c.dispatcher.resources.state
      · exact noFault_pure _
      · exact noFault_fail _
      · exact noFault_fail _
    · intro lease accepted
      obtain ⟨_, same, live⟩ := bind_eq_ok.mp accepted
      have equal : reservation.bytes = len := by simpa using rejectIf_eq_ok.mp same
      cases state : c.dispatcher.resources.state with
      | active =>
        rw [state] at live
        exact ⟨(pure_eq_ok.mp live).symm, equal⟩
      | poisoned =>
        rw [state] at live
        cases live
      | closed =>
        rw [state] at live
        cases live
  intro h
  exact completed.scope (fun c => .dropLease c reservation) h

theorem settles_newLeased (owner : MappingOwner) (logicalLen : Nat)
    (reservation : LeaseReservation) (guardRequested : GuardPolicy) :
    Settles c c [reservation] [owner]
      (fun region => region = ⟨owner, reservation, logicalLen, guardRequested⟩ ∧
        reservation.bytes.toNat = owner.len)
      (newLeased owner logicalLen reservation guardRequested) := by
  refine (((settles_fromOwner c owner logicalLen).scope fun c => .dropLease c reservation)).bind ?_
  intro _ _
  have converted : Settles c c [] [] (fun value => value.toNat = owner.len)
      (Op.ofRun (okOr (toU64 owner.len) ActivationError.mappingLengthOverflow)) := by
    exact .of_ofRun (noFault_okOr _ _) fun value accepted => toU64_eq_some (okOr_eq_ok.mp accepted)
  have both (c : Custody) : Spent _ _ c ((c.dropOwner owner).dropLease reservation) :=
    (Spent.dropOwner c owner).trans (.dropLease _ reservation)
  refine (converted.scope both).bind ?_
  intro len exact
  have leased : Settles c c _ _ _ (Op.mapError ActivationError.resource _) :=
    (settles_complete c reservation len).mapError
  refine (leased.scope fun c => .dropOwner c owner).bind ?_
  rintro lease ⟨rfl, equal⟩
  exact .of_pure ⟨rfl, by rw [equal, exact]⟩

/-- What a turn of the loop makes of its item. -/
structure Made (item : Item) (pair : RegionId × CommittedRegion) : Prop where
  spec : item.1.2.spec = item.1.1
  authority : item.1.2.authority = item.1.1.authority
  length : item.2.bytes.toNat = item.1.2.mapping.len
  id : pair.1 = item.1.1.id
  direction : pair.2.authority = item.1.1.authority
  region : pair.2.region =
    ⟨item.1.2.mapping, item.2, item.1.1.logicalLen, item.1.1.guardRequested⟩

theorem settles_activateRegion (failureAt : Option Nat) (ordinal : Nat) (item : Item) :
    Settles c c.poisonBoth [item.2] [item.1.2.mapping] (Made item)
      (activateRegion failureAt ordinal item) := by
  obtain ⟨⟨expectedSpec, owner⟩, reservation⟩ := item
  have refused (e : RegionActivationError) : Settles c c.poisonBoth [reservation] [owner.mapping]
        (Made ((expectedSpec, owner), reservation))
        (scope (fun c => (c.dropOwner owner.mapping).dropLease reservation) (poisonFail e)) :=
    (Settles.of_poisonFail e).scope fun c =>
      (Spent.dropOwner c owner.mapping).trans (.dropLease _ reservation)
  unfold activateRegion
  dsimp only
  by_cases injected : failureAt = some (ordinal + 1)
  · rw [if_pos injected]
    exact refused _
  rw [if_neg injected]
  by_cases same : owner.spec ≠ expectedSpec
  · rw [if_pos same]
    exact refused _
  rw [if_neg same]
  rw [not_not] at same
  cases direction : expectedSpec.authority with
  | reader =>
    cases owner with
    | reader spec owner =>
      refine (settles_newLeased c owner _ reservation _).orPoison.bind ?_
      rintro region ⟨rfl, length⟩
      exact .of_pure ⟨same, direction.symm, length, rfl, direction.symm, rfl⟩
    | writer spec owner => exact refused _
  | writer =>
    cases owner with
    | writer spec owner =>
      refine (settles_newLeased c owner _ reservation _).orPoison.bind ?_
      rintro region ⟨rfl, length⟩
      exact .of_pure ⟨same, direction.symm, length, rfl, direction.symm, rfl⟩
    | reader spec owner => exact refused _

/-- The mappings that some items hold. -/
def itemOwners (items : List Item) : List MappingOwner := items.map fun item => item.1.2.mapping

theorem settles_activateLoop (failureAt : Option Nat) (ordinal : Nat)
    (active : List (RegionId × CommittedRegion)) (items : List Item) :
    Settles c c.poisonBoth (leasesOf active ++ items.map snd)
      (ownersOf active ++ itemOwners items)
      (fun regions => ∃ made, regions = active ++ made ∧ List.Forall₂ Made items made)
      (activateLoop failureAt ordinal active items) := by
  induction items generalizing ordinal active with
  | nil => exact .of_pure ⟨[], by simp, .nil⟩
  | cons item rest ih =>
    have turn := (settles_activateRegion c failureAt ordinal item).scope
      fun c => ((Spent.dropOwners c (rest.map fun item => item.1.2)).trans
        (.dropLeases _ (rest.map snd))).trans (.dropRegions _ active)
    unfold activateLoop
    refine (turn.perm ?_ ?_).bind ?_
    · have swap : ((item.2 :: rest.map snd) ++ leasesOf active).Perm _ :=
        perm_append_comm
      simpa using swap
    · have swap : (itemOwners (item :: rest) ++ ownersOf active).Perm _ := perm_append_comm
      simpa [itemOwners, Function.comp_def] using swap
    · intro pair made
      refine ((ih (ordinal + 1) (active ++ [pair])).perm ?_ ?_).mono ?_
      · simp [leasesOf, made.region]
      · simp [ownersOf, itemOwners, made.region]
      · rintro _ ⟨later, rfl, all⟩
        exact ⟨pair :: later, by simp, .cons made all⟩

/-- The member that is found, in front of the others. -/
theorem perm_of_find {β : Type} {p : β → Bool} {list : List β} {found : β}
    (first : list.find? p = some found) : list.Perm (found :: list.eraseP p) := by
  induction list with
  | nil => cases first
  | cons head tail ih =>
    by_cases here : p head = true
    · rw [find?_cons_of_pos here, Option.some.injEq] at first
      rw [eraseP_cons_of_pos here, first]
    · rw [find?_cons_of_neg here] at first
      rw [eraseP_cons_of_neg here]
      exact ((ih first).cons head).trans (.swap _ _ _)

theorem ActiveRegionSet.get_eq_some {set : ActiveRegionSet} {id : RegionId}
    {region : CommittedRegion} (found : set.get id = some region) :
    set.regions.Perm ((id, region) :: (set.remove id).2.regions) := by
  obtain ⟨⟨id', region'⟩, first, rfl⟩ := Option.map_eq_some_iff.mp found
  have same : id' = id := by simpa using find?_some first
  subst same
  exact perm_of_find first

theorem settles_insertAll (keyed : ActiveRegionSet) (regions : List (RegionId × CommittedRegion)) :
    Settles c c (leasesOf (keyed.regions ++ regions)) (ownersOf (keyed.regions ++ regions))
      (fun set => set.regions = keyed.regions ++ regions) (insertAll keyed regions) := by
  induction regions generalizing keyed with
  | nil => exact .of_pure (by simp)
  | cons pair rest ih =>
    obtain ⟨id, region⟩ := pair
    unfold insertAll
    split
    · rename_i old found
      have held : (keyed.regions ++ (id, region) :: rest).Perm
          ((id, old) :: rest ++ (id, region) :: (keyed.remove id).2.regions) := by
        refine ((ActiveRegionSet.get_eq_some found).append_right _).trans (.cons _ ?_)
        refine perm_append_comm.trans ?_
        exact perm_middle.symm.trans (List.Perm.refl _)
      have failed : Settles c c [] []
          (fun set : ActiveRegionSet => set.regions = keyed.regions ++ (id, region) :: rest)
          (Op.fail (BatchError.duplicateRegionId id)) :=
        .of_fail _
      have dropped := failed.scope
        fun c => ((Spent.dropRegion c old).trans (.dropRegions _ rest)).trans
          (.dropRegions _ ((id, region) :: (keyed.remove id).2.regions))
      refine dropped.perm ?_ ?_
      · simpa [leasesOf] using (held.map fun pair => pair.2.region.lease).symm
      · simpa [ownersOf] using (held.map fun pair => pair.2.region.owner).symm
    · rename_i fresh
      have later := ih (keyed.insert id region fresh)
      simpa [ActiveRegionSet.insert] using later

theorem noFault_checkExpected : NoFault (checkExpected expected) := by
  unfold checkExpected
  split_ifs
  · exact noFault_fail _
  · split
    · exact noFault_fail _
    · exact noFault_ok _

theorem noFault_checkKeyed (keyed : ActiveRegionSet) : NoFault (checkKeyed expected keyed) := by
  refine noFault_rejectIf_bind fun _ => noFault_forM ?_
  intro pair _
  dsimp only
  split
  · exact noFault_ok _
  · exact noFault_ok _
  · exact noFault_fail _

theorem settles_fromLocalCommitted (expected : List (RegionId × LocalRegionAuthority))
    (regions : List (RegionId × CommittedRegion)) :
    Settles c c (leasesOf regions) (ownersOf regions) (fun set => set.regions = regions)
      (fromLocalCommitted expected regions) := by
  have checked : Settles c c [] [] (fun _ => True) (Op.ofRun (checkExpected expected)) :=
    .of_ofRun (noFault_checkExpected expected) fun _ _ => trivial
  refine (checked.scope fun c => .dropRegions c regions).bind fun _ _ => ?_
  refine (settles_insertAll c .empty regions).bind fun keyed filled => ?_
  change keyed.regions = regions at filled
  have matched : Settles c c [] [] (fun _ => True) (Op.ofRun (checkKeyed expected keyed)) :=
    .of_ofRun (noFault_checkKeyed expected keyed) fun _ _ => trivial
  have kept : Settles c c (leasesOf regions) (ownersOf regions) _ _ :=
    (matched.scope fun c => .dropRegions c keyed.regions).perm
      (by rw [filled]; exact .refl _) (by rw [filled]; exact .refl _)
  exact kept.bind fun _ _ => .of_pure filled

/-! ### All or nothing -/

/-- The specs, owners and reservations match one by one. -/
structure Matched (specs : List ActiveRegionSpec) (reservations : List LeaseReservation)
    (owners : List ActiveRegionOwner) : Prop where
  reserved : reservations.length = specs.length
  mapped : owners.length = specs.length
  each : ∀ (i : Nat) (spec : ActiveRegionSpec) (owner : ActiveRegionOwner)
    (reservation : LeaseReservation), specs[i]? = some spec → owners[i]? = some owner →
    reservations[i]? = some reservation → owner.spec = spec ∧ owner.authority = spec.authority ∧
      reservation.bytes.toNat = owner.mapping.len

/-- The ledger has charges for these lengths besides those of `base`. -/
structure Charged (base : ResourceOwner) (lengths : List Nat) (resources : ResourceOwner) :
    Prop where
  regions : resources.activeRegions.toNat = base.activeRegions.toNat + lengths.length
  bytes : resources.activeBytes.toNat = base.activeBytes.toNat + lengths.sum

def bytesOf (reservations : List LeaseReservation) : List Nat :=
  reservations.map fun reservation => reservation.bytes.toNat

/-- An activation that returned a set. -/
structure Activated (specs : List ActiveRegionSpec) (reservations : List LeaseReservation)
    (owners : List ActiveRegionOwner) (set : ActiveRegionSet) (c c' : Custody) : Prop where
  matched : Matched specs reservations owners
  /-- The regions of the set have the ids and the directions of the specs. -/
  ids : set.regions.map (fun pair => (pair.1, pair.2.authority)) =
    specs.map fun spec => (spec.id, spec.authority)
  /-- They own the mappings and the leases that were given. -/
  owned : ownersOf set.regions = owners.map ActiveRegionOwner.mapping
  leased : leasesOf set.regions = reservations
  unchanged : c' = c
  charged : ∀ base, Charged base (bytesOf reservations) c.dispatcher.resources →
    Charged base (owners.map fun owner => owner.mapping.len) c'.dispatcher.resources

/-- An activation that failed. -/
structure Undone (specs : List ActiveRegionSpec) (reservations : List LeaseReservation)
    (owners : List ActiveRegionOwner) (c c' : Custody) : Prop where
  poisoned : c'.dispatcher.sessionState = .poisoned ∧ c'.dispatcher.transport.poisoned = true
  released : ∀ base, Charged base (bytesOf reservations) c.dispatcher.resources →
    Charged base [] c'.dispatcher.resources
  /-- The mappings are gone, if there were any yet. -/
  unmapped : c'.unmapped.Perm (c.unmapped ++
    if reservations.length = specs.length then owners.map ActiveRegionOwner.mapping else [])

theorem Charged.release {base resources : ResourceOwner} {lease : LeaseReservation}
    {lengths : List Nat} (charged : Charged base (lease.bytes.toNat :: lengths) resources) :
    Charged base lengths (resources.release lease) := by
  have regions := charged.regions
  have bytes := charged.bytes
  rw [length_cons] at regions
  rw [sum_cons] at bytes
  constructor
  · change (resources.activeRegions - 1).toNat = _
    rw [UInt32.toNat_sub_of_le]
    · simp
      omega
    · rw [UInt32.le_iff_toNat_le]
      simp
      omega
  · change (resources.activeBytes - lease.bytes).toNat = _
    rw [UInt64.toNat_sub_of_le]
    · omega
    · rw [UInt64.le_iff_toNat_le]
      omega

theorem Charged.releaseAll {base resources : ResourceOwner}
    (charged : Charged base (bytesOf leases) resources) :
    Charged base [] (resources.releaseAll leases) := by
  induction leases generalizing resources with
  | nil => exact charged
  | cons lease leases ih => exact ih charged.release

variable {items : List Item}

theorem exists_of_forall₂ (made : List.Forall₂ Made items regions) {item : Item}
    (member : item ∈ items) : ∃ pair ∈ regions, Made item pair := by
  induction made with
  | nil => cases member
  | cons head _ ih =>
    rcases mem_cons.mp member with rfl | member
    · exact ⟨_, mem_cons_self, head⟩
    · obtain ⟨pair, present, made⟩ := ih member
      exact ⟨pair, mem_cons_of_mem _ present, made⟩

section Items

variable {specs : List ActiveRegionSpec} {reservations : List LeaseReservation}
  {owners : List ActiveRegionOwner} (reserved : reservations.length = specs.length)
  (mapped : owners.length = specs.length)

include reserved mapped

theorem items_pairs : ((specs.zip owners).zip reservations).map fst = specs.zip owners :=
  map_fst_zip (by rw [length_zip]; omega)

theorem items_specs : ((specs.zip owners).zip reservations).map (fun item => item.1.1) = specs := by
  change List.map (fst ∘ fst) _ = _
  rw [← map_map, items_pairs reserved mapped]
  exact map_fst_zip (by omega)

theorem items_owners :
    ((specs.zip owners).zip reservations).map (fun item => item.1.2) = owners := by
  change List.map (snd ∘ fst) _ = _
  rw [← map_map, items_pairs reserved mapped]
  exact map_snd_zip (by omega)

theorem items_reservations : ((specs.zip owners).zip reservations).map snd = reservations :=
  map_snd_zip (by rw [length_zip]; omega)

end Items

/-- What an activation makes of its arguments if it returns. -/
structure Complete (specs : List ActiveRegionSpec) (reservations : List LeaseReservation)
    (owners : List ActiveRegionOwner) (set : ActiveRegionSet) : Prop where
  reserved : reservations.length = specs.length
  mapped : owners.length = specs.length
  made : List.Forall₂ Made ((specs.zip owners).zip reservations) set.regions

theorem settles_activateLinuxRegions (specs : List ActiveRegionSpec)
    (reservations : List LeaseReservation) (failureAt : Option Nat)
    (owners : List ActiveRegionOwner) (c : Custody) :
    Settles c c.poisonBoth reservations
      (if reservations.length = specs.length then owners.map mapping else [])
      (Complete specs reservations owners)
      (activateLinuxRegions specs reservations failureAt owners) := by
  unfold activateLinuxRegions
  dsimp only
  by_cases reserved : reservations.length ≠ specs.length
  · rw [if_pos reserved, if_neg reserved]
    exact (Settles.of_poisonFail _).scope fun c => .dropLeases c reservations
  rw [if_neg reserved]
  rw [not_not] at reserved
  rw [if_pos reserved]
  by_cases mapped : owners.length ≠ specs.length
  · rw [if_pos mapped]
    refine ((Settles.of_poisonFail _).scope fun c =>
      (Spent.dropOwners c owners).trans (.dropLeases _ reservations)).perm (.refl _) ?_
    simp
  rw [if_neg mapped]
  rw [not_not] at mapped
  have loop := settles_activateLoop c failureAt 0 [] ((specs.zip owners).zip reservations)
  have leases : leasesOf [] ++ ((specs.zip owners).zip reservations).map snd = reservations :=
    items_reservations reserved mapped
  have mappings : ownersOf [] ++ itemOwners ((specs.zip owners).zip reservations) =
      owners.map mapping := by
    conv_rhs => rw [← items_owners reserved mapped, map_map]
    rfl
  rw [leases, mappings] at loop
  refine loop.bind ?_
  rintro active ⟨_, rfl, made⟩
  have keyed : Settles c c.poisonBoth _ _ _ (orPoison RegionActivationError.batch _) :=
    (settles_fromLocalCommitted c (specs.map fun spec => (spec.id, spec.authority)) active).orPoison
  have held : leasesOf active = reservations :=
    (map_eq_of_forall₂ made fun item pair made => by rw [made.region]).trans leases
  have owned : ownersOf active = owners.map mapping :=
    (map_eq_of_forall₂ made fun item pair made => by rw [made.region]).trans mappings
  rw [held, owned] at keyed
  refine keyed.mono ?_
  intro set same
  exact ⟨reserved, mapped, by rw [same]; exact made⟩

namespace Complete

variable {specs : List ActiveRegionSpec} {reservations : List LeaseReservation}
  {owners : List ActiveRegionOwner} {set : ActiveRegionSet}

section

variable (complete : Complete specs reservations owners set)
include complete

theorem matched : Matched specs reservations owners := by
  refine ⟨complete.reserved, complete.mapped, ?_⟩
  intro i spec owner reservation specAt ownerAt reservationAt
  have item : ((specs.zip owners).zip reservations)[i]? = some ((spec, owner), reservation) := by
    simp [getElem?_zip_eq_some, specAt, ownerAt, reservationAt]
  obtain ⟨pair, -, made⟩ := exists_of_forall₂ complete.made (mem_of_getElem? item)
  exact ⟨made.spec, made.authority, made.length⟩

theorem leased : leasesOf set.regions = reservations := by
  rw [← items_reservations complete.reserved complete.mapped]
  exact map_eq_of_forall₂ complete.made fun item pair made => by rw [made.region]

theorem owned : ownersOf set.regions = owners.map mapping := by
  conv_rhs => rw [← items_owners complete.reserved complete.mapped, map_map]
  exact map_eq_of_forall₂ complete.made fun item pair made => by rw [made.region]; rfl

theorem ids :
    set.regions.map (fun pair => (pair.1, pair.2.authority)) =
      specs.map fun spec => (spec.id, spec.authority) := by
  conv_rhs => rw [← items_specs complete.reserved complete.mapped, map_map]
  refine map_eq_of_forall₂ complete.made ?_
  intro item pair made
  rw [made.id, made.direction]
  rfl

/-- Each lease is as long as the mapping it is for. -/
theorem lengths : bytesOf reservations = owners.map fun owner => owner.mapping.len := by
  unfold bytesOf
  conv_lhs => rw [← items_reservations complete.reserved complete.mapped, map_map]
  conv_rhs => rw [← items_owners complete.reserved complete.mapped, map_map]
  apply map_congr_left
  intro item member
  obtain ⟨pair, -, made⟩ := exists_of_forall₂ complete.made member
  exact made.length

theorem activated (c : Custody) : Activated specs reservations owners set c c where
  matched := complete.matched
  ids := complete.ids
  owned := complete.owned
  leased := complete.leased
  unchanged := rfl
  charged _ charged := complete.lengths ▸ charged

end

end Complete

theorem Spent.undone {specs : List ActiveRegionSpec} {reservations : List LeaseReservation}
    {owners : List ActiveRegionOwner} {c c' : Custody}
    (spent : Spent reservations (if reservations.length = specs.length then
      owners.map mapping else []) c.poisonBoth c') : Undone specs reservations owners c c' where
  poisoned := by
    rw [spent.dispatcher]
    simp [Dispatcher.sessionState, Dispatcher.release, Custody.poisonBoth, Dispatcher.poisonBoth,
      ControlState.poison]
  released base charged := by
    rw [spent.dispatcher]
    change Charged base [] (c.dispatcher.resources.poison.releaseAll reservations)
    refine Charged.releaseAll ?_
    unfold poison
    split
    · exact ⟨charged.regions, charged.bytes⟩
    · exact charged
  unmapped := spent.unmapped

/-! ### Takes out of a set -/

/-- The region as it was committed for this direction. -/
def Take.committed (take : Take) (region : ActiveRegion) : CommittedRegion :=
  match take with
  | .writer _ => .writer region
  | .reader _ => .reader region

/-- What the takes have handed out, each region under the direction it was taken in. -/
def handed (results : List (Take × Run BatchError ActiveRegion)) :
    List (RegionId × CommittedRegion) :=
  results.filterMap fun (take, result) => match result with
    | .ok region => some (take.id, take.committed region)
    | .error _ => none

namespace ActiveRegionSet

/-- A take removes the region of its id and direction, or fails and changes nothing. -/
theorem take_cases (set : ActiveRegionSet) (take : Take) :
    (∃ region, set.take take = (.ok region, (set.remove take.id).2) ∧
      set.get take.id = some (take.committed region)) ∨
    ∃ e, set.take take = (fail e, set) := by
  cases take with
  | writer id =>
    cases found : set.get id with
    | none => exact .inr ⟨.unknownRegion id, by simp [take, takeWriter, found]⟩
    | some region =>
      cases region with
      | reader region => exact .inr ⟨.wrongDirection id, by simp [take, takeWriter, found]⟩
      | writer region =>
        refine .inl ⟨region, ?_, found⟩
        simp only [take, takeWriter, found, remove]
        rfl
  | reader id =>
    cases found : set.get id with
    | none => exact .inr ⟨.unknownRegion id, by simp [take, takeReader, found]⟩
    | some region =>
      cases region with
      | writer region => exact .inr ⟨.wrongDirection id, by simp [take, takeReader, found]⟩
      | reader region =>
        refine .inl ⟨region, ?_, found⟩
        simp only [take, takeReader, found, remove]
        rfl

/-- What was handed out and what is left make up the set. -/
theorem takeAll_perm (set : ActiveRegionSet) (takes : List Take) :
    (handed (set.takeAll takes).1 ++ (set.takeAll takes).2.regions).Perm set.regions := by
  induction takes generalizing set with
  | nil => exact .refl _
  | cons take rest ih =>
    rcases set.take_cases take with ⟨region, taken, found⟩ | ⟨e, failed⟩
    · have later := (ih (set.remove take.id).2).cons (take.id, take.committed region)
      simpa [takeAll, taken, handed] using later.trans (get_eq_some found).symm
    · simpa [takeAll, failed, handed, Run.fail] using ih set

end ActiveRegionSet

/-- What any takes out of a set come to. -/
structure TakenOnce (set : ActiveRegionSet) (takes : List Take) : Prop where
  /-- What was handed out is of the set, in its own direction, and is no longer in it. -/
  partition : (handed (set.takeAll takes).1 ++ (set.takeAll takes).2.regions).Perm set.regions
  once : ((handed (set.takeAll takes).1).map Prod.fst).Nodup
  failed : ∀ take stop, ((set.takeAll takes).2.take take).1 = .error stop →
    ((set.takeAll takes).2.take take).2 = (set.takeAll takes).2

theorem takenOnce (set : ActiveRegionSet) (takes : List Take) : TakenOnce set takes := by
  have partition := set.takeAll_perm takes
  refine ⟨partition, ?_, ?_⟩
  · have distinct := (partition.map fst).nodup_iff.mpr set.distinct
    rw [map_append] at distinct
    exact distinct.of_append_left
  · intro take stop failed
    rcases (set.takeAll takes).2.take_cases take with ⟨region, taken, -⟩ | ⟨e, refused⟩
    · rw [taken] at failed
      cases failed
    · rw [refused]

/-- Activation is all or nothing. It always returns, without a fault. If it returns a set, then the
    specs, the owners and the reservations matched one by one, the set has exactly the ids and
    directions of the specs, and the ledger is charged with the lengths of the mappings; and however
    regions are taken out of that set, each one is handed out once at most and in its own direction.
    If it fails, the dispatcher is poisoned, and every charge of a reservation and every mapping is
    gone. -/
theorem activation_all_or_nothing (specs : List ActiveRegionSpec)
    (reservations : List LeaseReservation) (failureAt : Option Nat)
    (owners : List ActiveRegionOwner) (c : Custody) :
    ∃ result c', activateLinuxRegions specs reservations failureAt owners c = .ret (result, c') ∧
      (∀ set, result = .ok set → Activated specs reservations owners set c c' ∧
        ∀ takes, TakenOnce set takes) ∧
      ∀ stop, result = .error stop → stop ≠ .fault ∧ Undone specs reservations owners c c' := by
  obtain ⟨result, c', runs, settled⟩ :=
    (settles_activateLinuxRegions specs reservations failureAt owners c).returns
  refine ⟨result, c', runs, ?_, ?_⟩
  · rintro set rfl
    obtain ⟨rfl, complete⟩ := settled
    exact ⟨complete.activated c', fun takes => takenOnce set takes⟩
  · rintro stop rfl
    cases stop with
    | error e => exact ⟨nofun, Spent.undone settled⟩
    | fault => exact settled.elim

namespace Sample

def spec : ActiveRegionSpec :=
  { id := ⟨7, by decide⟩, authority := .writer, logicalLen := 100, mappedLen := 4096,
    guardRequested := .bestEffort }

def owner : MappingOwner := { base := 0x2000, len := 4096, pageSize := 4096, guardInstalled := true }

def set : ActiveRegionSet :=
  ⟨[(spec.id, .writer ⟨owner, ⟨4096⟩, 100, .bestEffort⟩)], by decide⟩

end Sample

-- One writable region of one page, in a live session.
example (d : Dispatcher) (live : d.resources.state = .active) :
    activateLinuxRegions [Sample.spec] [⟨4096⟩] none [.writer Sample.spec Sample.owner] ⟨d, []⟩ =
      .ret (.ok Sample.set, ⟨d, []⟩) := by
  obtain ⟨transport, state, maximumWireLen, parameters, nextTransaction, resources, issued⟩ := d
  obtain ⟨liveness, activeRegions, activeBytes, maximumRegions, maximumBytes⟩ := resources
  cases live
  rfl

end NativeIpc.Session.Activation
