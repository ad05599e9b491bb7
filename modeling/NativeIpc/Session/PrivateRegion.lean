import NativeIpc.Lib.Bytes
import NativeIpc.Lib.Loop

/-!
# Private regions

`NativeRegion` of `crates/native-ipc/src/memory.rs` while it is still private: its allocation, its
initialization through closures, clearing, and growth by a replacement mapping. The platform's
allocator is asked for a mapping and either fails or returns a zeroed one that is long enough.
-/

namespace NativeIpc.Session.PrivateRegion

open NativeIpc.Lib Bytes Run

/-! ### Options -/

/-- memory.rs:99-104. -/
inductive WriterOwner where
  | creator
  | peer
  deriving DecidableEq, Repr

/-- memory.rs:159-167. -/
inductive GrowthPolicy where
  | fixed
  | replaceBeforeShare (maximumLen : Nat)
  deriving DecidableEq, Repr

/-- memory.rs:171-176. -/
inductive CleanupPolicy where
  | releaseOnDrop
  | clearThenRelease
  deriving DecidableEq, Repr

/-- memory.rs:187-193. The permissions say who writes; there is one seal policy. -/
structure RegionOptions where
  logicalLen : Nat
  growth : GrowthPolicy
  cleanup : CleanupPolicy
  permissions : WriterOwner
  deriving DecidableEq, Repr

/-- memory.rs:253-258. -/
def RegionOptions.maximumLen (options : RegionOptions) : Nat :=
  match options.growth with
  | .fixed => options.logicalLen
  | .replaceBeforeShare maximumLen => maximumLen

/-- memory.rs:291-324. -/
inductive MemoryError where
  | zeroLength
  | maximumBelowInitial (initial maximum : Nat)
  | fixedSize
  | shrinkUnsupported (current requested : Nat)
  | maximumExceeded (requested maximum : Nat)
  | platform (operation : String)
  | randomnessUnavailable
  deriving DecidableEq, Repr

/-- memory.rs:680-692. -/
def validateOptions (options : RegionOptions) : Run MemoryError Unit := do
  rejectIf (options.logicalLen = 0) .zeroLength
  rejectIf (options.maximumLen < options.logicalLen)
    (.maximumBelowInitial options.logicalLen options.maximumLen)

/-! ### The allocator -/

/-- What a successful allocation of `request` bytes is: a zeroed mapping, page-rounded. -/
structure Allocation (request : Nat) where
  mappedLen : Nat
  covers : request ≤ mappedLen
  deriving DecidableEq

/-- The bytes of a new mapping. -/
def Allocation.bytes {request : Nat} (allocation : Allocation request) : Bytes :=
  List.replicate allocation.mappedLen 0

/-- `PlatformQuiescentRegion::new(len)`. -/
inductive Call where
  | allocate (len : Nat)
  deriving DecidableEq

/-- A mapping, or none. -/
def Reply : Call → Type
  | .allocate len => Option (Allocation len)

/-! ### The region -/

/-- memory.rs:372-376: the bytes of its mapping, the logical length and the
    options. -/
structure NativeRegion where
  inner : Bytes
  logicalLen : Nat
  options : RegionOptions
  deriving DecidableEq

/-- A region, and the mappings that were replaced with the bytes they were released with. -/
structure Owner where
  region : NativeRegion
  released : List Bytes
  deriving DecidableEq

abbrev Effect (σ α : Type) : Type := Op Call Reply σ MemoryError α

/-- `PlatformQuiescentRegion::new(len)?`. -/
def platformNew {σ : Type} (len : Nat) : Effect σ Bytes := do
  let reply : Option (Allocation len) ← Op.perform (Call.allocate len)
  match reply with
  | some allocation => pure allocation.bytes
  | none => Op.fail (.platform "allocate")

/-- memory.rs:665-672. -/
def clearMapping (bytes : Bytes) : Bytes := bytes.map fun _ => 0

/-- memory.rs:383-391. -/
def allocate (options : RegionOptions) : Effect Unit NativeRegion := do
  Op.ofRun (validateOptions options)
  let inner ← platformNew options.logicalLen
  pure { inner, logicalLen := options.logicalLen, options }

/-- An `FnOnce(&mut [u8]) -> R`: what it leaves in the slice, and what it returns. A panic is one
    of the things it can return. -/
structure Closure (ρ : Type) where
  run : Bytes → Bytes × ρ
  length_run : ∀ bytes, (run bytes).1.length = bytes.length

/-- `initialize`, memory.rs:420-423. -/
def initializeWith {ρ : Type} (operation : Closure ρ) : Effect Owner ρ := do
  let owner ← Op.get
  let region := owner.region
  let logical ← Op.ofRun (assume (region.logicalLen ≤ region.inner.length)
    (region.inner.take region.logicalLen))
  let (written, result) := operation.run logical
  Op.modify fun owner =>
    { owner with region := { region with inner := region.inner.overwrite 0 written } }
  pure result

/-- memory.rs:429-431. -/
def clear : Effect Owner Unit :=
  Op.modify fun owner =>
    { owner with region := { owner.region with inner := clearMapping owner.region.inner } }

/-- The end of `grow`, memory.rs:456-467: the old mapping is released after the bytes are copied. -/
def replace (requested : Nat) (replacement : Bytes) : Effect Owner Unit := do
  let owner ← Op.get
  let region := owner.region
  let logical ← Op.ofRun (assume (region.logicalLen ≤ region.inner.length)
    (region.inner.take region.logicalLen))
  let replacement ← Op.ofRun (put replacement 0 logical)
  let previous := if region.options.cleanup = .clearThenRelease then clearMapping region.inner
    else region.inner
  Op.modify fun owner => {
    region := { region with inner := replacement, logicalLen := requested }
    released := owner.released ++ [previous] }

/-- memory.rs:434-467. -/
def grow (requested : Nat) : Effect Owner Unit := do
  let owner ← Op.get
  let region := owner.region
  Op.ofRun (rejectIf (requested = 0) .zeroLength)
  Op.ofRun (rejectIf (requested < region.logicalLen)
    (.shrinkUnsupported region.logicalLen requested))
  if requested = region.logicalLen then pure ()
  else
    match region.options.growth with
    | .fixed => Op.fail .fixedSize
    | .replaceBeforeShare maximum => do
      Op.ofRun (rejectIf (maximum < requested) (.maximumExceeded requested maximum))
      let replacement ← platformNew requested
      replace requested replacement

/-! ### Operations one after the other -/

/-- What a program does to its region, with the result of a growth. -/
inductive Event where
  | initialized
  | cleared
  | grown (requested : Nat) (result : Run MemoryError Unit)

/-- One operation. The closure of an initialization may be any, and so may the allocator's
    answer. -/
inductive Step : Owner → Event → Owner → Prop
  | initialized {ρ : Type} {operation : Closure ρ} {owner owner' : Owner}
      {result : Run MemoryError ρ} {log : Log Call Reply}
      (runs : Op.Returns (initializeWith operation) owner log result owner') :
      Step owner .initialized owner'
  | cleared {owner owner' : Owner} {result : Run MemoryError Unit} {log : Log Call Reply}
      (runs : Op.Returns clear owner log result owner') : Step owner .cleared owner'
  | grown {requested : Nat} {owner owner' : Owner} {result : Run MemoryError Unit}
      {log : Log Call Reply}
      (runs : Op.Returns (grow requested) owner log result owner') :
      Step owner (.grown requested result) owner'

/-! ### What holds of a region -/

/-- The logical bytes are mapped, within the maximum, and nothing but zeros follows them. -/
structure NativeRegion.Valid (region : NativeRegion) : Prop where
  fits : region.logicalLen ≤ region.inner.length
  bounded : region.logicalLen ≤ region.options.maximumLen
  padding : ∀ i byte, region.logicalLen ≤ i → region.inner[i]? = some byte → byte = 0

theorem validateOptions_eq_ok {options : RegionOptions} {u : Unit} :
    validateOptions options = .ok u ↔
      options.logicalLen ≠ 0 ∧ options.logicalLen ≤ options.maximumLen := by
  unfold validateOptions
  simp [bind_eq_ok, rejectIf_eq_ok]

variable {request requested : Nat}

theorem getElem?_bytes (allocation : Allocation request) (i : Nat) (byte : UInt8)
    (present : allocation.bytes[i]? = some byte) : byte = 0 := by
  rw [Allocation.bytes, List.getElem?_replicate] at present
  split at present
  · exact (Option.some.inj present).symm
  · cases present

theorem getElem?_clearMapping (bytes : Bytes) (i : Nat) (byte : UInt8)
    (present : (clearMapping bytes)[i]? = some byte) : byte = 0 := by
  rw [clearMapping, List.getElem?_map] at present
  obtain ⟨_, _, rfl⟩ := Option.map_eq_some_iff.mp present
  rfl

theorem Allocation.length_bytes (allocation : Allocation request) :
    allocation.bytes.length = allocation.mappedLen :=
  List.length_replicate

theorem ensures_platformNew_bind {σ α : Type} {len : Nat} {s : σ} {f : Bytes → Effect σ α}
    {post : Run MemoryError α → σ → Prop}
    (made : ∀ allocation : Allocation len, Op.Ensures post s (f allocation.bytes))
    (failed : post (fail (.platform "allocate")) s) :
    Op.Ensures post s (platformNew len >>= f) := by
  intro h
  refine (Op.wp_bind _ _).mpr ⟨trivial, ?_⟩
  intro (reply : Option (Allocation len))
  cases reply with
  | none => exact failed
  | some allocation => exact made allocation _

/-- An allocation that returned. -/
theorem valid_of_allocate {options : RegionOptions} {log : Log Call Reply}
    {region : NativeRegion} (allocated : Op.Returns (allocate options) () log (.ok region) ()) :
    region.Valid ∧ region.options = options ∧ region.logicalLen = options.logicalLen := by
  have ensures : Op.Ensures (fun result _ => ∀ region, result = .ok region → region.Valid ∧
      region.options = options ∧ region.logicalLen = options.logicalLen) () (allocate options) := by
    refine .ofRun_bind (fun stop _ region ok => by cases ok) ?_
    intro _ accepted
    obtain ⟨-, bounded⟩ := validateOptions_eq_ok.mp accepted
    refine ensures_platformNew_bind ?_ fun region ok => by cases ok
    intro allocation
    refine .of_pure fun region same => ?_
    cases same
    refine ⟨⟨?_, bounded, fun i byte _ => getElem?_bytes allocation i byte⟩, rfl, rfl⟩
    exact allocation.length_bytes.symm ▸ allocation.covers
  exact ensures.of_returns allocated region rfl

/-! ### What each operation does -/

/-- What a growth does to a region. -/
structure GrownTo (requested : Nat) (result : Run MemoryError Unit) (before after : Owner) :
    Prop where
  sound : result ≠ Run.fault
  length : result = .ok () → after.region.logicalLen = requested
  kept : result = .ok () → ∀ i < before.region.logicalLen,
    after.region.inner[i]? = before.region.inner[i]?
  zeroed : result = .ok () → ∀ i, before.region.logicalLen ≤ i → i < requested →
    after.region.inner[i]? = some 0
  failed : ∀ stop, result = .error stop → after = before

/-- What every operation does to a region. -/
structure Advanced (before after : NativeRegion) : Prop where
  valid : after.Valid
  options : after.options = before.options
  length : before.logicalLen ≤ after.logicalLen

theorem Advanced.refl {region : NativeRegion} (valid : region.Valid) : Advanced region region :=
  ⟨valid, rfl, Nat.le_refl _⟩

/-- Bytes written over the logical ones leave the padding as it was. -/
theorem NativeRegion.Valid.overwritten {region : NativeRegion} (valid : region.Valid)
    {written : Bytes} (covers : written.length = region.logicalLen) :
    Advanced region { region with inner := region.inner.overwrite 0 written } := by
  have fits : 0 + written.length ≤ region.inner.length := by
    have := valid.fits
    omega
  refine ⟨⟨?_, valid.bounded, ?_⟩, rfl, Nat.le_refl _⟩
  · change region.logicalLen ≤ (region.inner.overwrite 0 written).length
    rw [length_overwrite fits]
    exact valid.fits
  · intro i byte past present
    rw [getElem?_overwrite fits, if_neg (by change region.logicalLen ≤ i at past; omega)] at present
    exact valid.padding i byte past present

theorem length_take_logical {region : NativeRegion} (valid : region.Valid) :
    (region.inner.take region.logicalLen).length = region.logicalLen := by
  rw [List.length_take]
  exact Nat.min_eq_left valid.fits

variable {owner : Owner}

theorem ensures_initializeWith {ρ : Type} (operation : Closure ρ) (valid : owner.region.Valid) :
    Op.Ensures (fun _ owner' => Advanced owner.region owner'.region) owner
      (initializeWith operation) := by
  refine .get_bind (.ofRun_bind (fun _ _ => .refl valid) ?_)
  intro logical read
  obtain ⟨-, rfl⟩ := assume_eq_ok.mp read
  refine .modify_bind (.of_pure ?_)
  refine valid.overwritten ?_
  rw [operation.length_run]
  exact length_take_logical valid

theorem ensures_clear (valid : owner.region.Valid) :
    Op.Ensures (fun _ owner' => Advanced owner.region owner'.region) owner clear := by
  refine .of_modify ⟨⟨?_, valid.bounded, ?_⟩, rfl, Nat.le_refl _⟩
  · change owner.region.logicalLen ≤ (clearMapping owner.region.inner).length
    rw [clearMapping, List.length_map]
    exact valid.fits
  · intro i byte _
    exact getElem?_clearMapping owner.region.inner i byte

/-- The bytes of the replacement: the logical bytes, and zeros after them. -/
theorem getElem?_replacement {region : NativeRegion} (valid : region.Valid)
    (allocation : Allocation requested) (longer : region.logicalLen ≤ requested) (i : Nat) :
    (allocation.bytes.overwrite 0 (region.inner.take region.logicalLen))[i]? =
      if i < region.logicalLen then region.inner[i]? else allocation.bytes[i]? := by
  have covers := length_take_logical valid
  have room := allocation.covers
  rw [getElem?_overwrite (by rw [covers, allocation.length_bytes]; omega), covers]
  by_cases inside : i < region.logicalLen
  · rw [if_pos (by omega), if_pos inside, Nat.sub_zero, List.getElem?_take_of_lt inside]
  · rw [if_neg (by omega), if_neg inside]

theorem ensures_replace (valid : owner.region.Valid)
    (allocation : Allocation requested) (longer : owner.region.logicalLen < requested)
    (bounded : requested ≤ owner.region.options.maximumLen) :
    Op.Ensures (fun result owner' => Advanced owner.region owner'.region ∧
      GrownTo requested result owner owner') owner (replace requested allocation.bytes) := by
  have covers := length_take_logical valid
  have room := allocation.covers
  have bytes := getElem?_replacement valid allocation (Nat.le_of_lt longer)
  have copies : 0 + (owner.region.inner.take owner.region.logicalLen).length ≤
      allocation.bytes.length := by
    rw [covers, allocation.length_bytes]
    omega
  refine .get_bind (.ofRun_bind ?_ ?_)
  · intro stop failed
    rw [Run.assume, if_pos valid.fits] at failed
    cases failed
  intro logical read
  obtain ⟨-, rfl⟩ := assume_eq_ok.mp read
  refine .ofRun_bind ?_ ?_
  · intro stop failed
    rw [put, Run.assume, if_pos copies] at failed
    cases failed
  intro replacement copied
  obtain ⟨-, rfl⟩ := put_eq_ok.mp copied
  refine .of_modify ⟨⟨⟨?_, bounded, ?_⟩, rfl, Nat.le_of_lt longer⟩, ?_⟩
  · change requested ≤ (allocation.bytes.overwrite 0 _).length
    rw [length_overwrite copies, allocation.length_bytes]
    exact room
  · intro i byte past present
    change requested ≤ i at past
    rw [bytes i, if_neg (by omega)] at present
    exact getElem?_bytes allocation i byte present
  · refine ⟨?_, fun _ => rfl, ?_, ?_, ?_⟩
    · intro failed
      cases failed
    · intro _ i inside
      exact (bytes i).trans (if_pos inside)
    · intro _ i past inside
      refine (bytes i).trans ?_
      rw [if_neg (by omega), Allocation.bytes, List.getElem?_replicate, if_pos (by omega)]
    · intro stop failed
      cases failed

theorem ensures_grow (requested : Nat) (valid : owner.region.Valid) :
    Op.Ensures (fun result owner' => Advanced owner.region owner'.region ∧
      GrownTo requested result owner owner') owner (grow requested) := by
  have refused (e : MemoryError) : Advanced owner.region owner.region ∧
      GrownTo requested (.error (.error e)) owner owner :=
    ⟨.refl valid, nofun, nofun, nofun, nofun, fun _ _ => rfl⟩
  refine .get_bind (.reject_bind (fun _ => refused _) fun _ => ?_)
  refine .reject_bind (fun _ => refused _) fun larger => ?_
  by_cases same : requested = owner.region.logicalLen
  · rw [if_pos same]
    refine .of_pure ⟨.refl valid, nofun, fun _ => same.symm, fun _ _ _ => rfl, ?_, nofun⟩
    intro _ i past inside
    omega
  rw [if_neg same]
  cases policy : owner.region.options.growth with
  | fixed => exact .of_fail (refused _)
  | replaceBeforeShare maximum =>
    refine .reject_bind (fun _ => refused _) fun within => ?_
    refine ensures_platformNew_bind ?_ (refused _)
    intro allocation
    refine ensures_replace valid allocation (by omega) ?_
    rw [RegionOptions.maximumLen, policy]
    exact Nat.not_lt.mp within

/-! ### Whole runs -/

/-- What a step does, whatever the operation is. -/
theorem Step.advanced {owner' : Owner} {event : Event} (step : Step owner event owner')
    (valid : owner.region.Valid) :
    Advanced owner.region owner'.region ∧ ∀ requested result,
      event = .grown requested result → GrownTo requested result owner owner' := by
  cases step with
  | initialized runs => exact ⟨(ensures_initializeWith _ valid).of_returns runs, nofun⟩
  | cleared runs => exact ⟨(ensures_clear valid).of_returns runs, nofun⟩
  | grown runs =>
    obtain ⟨advanced, grown⟩ := (ensures_grow _ valid).of_returns runs
    refine ⟨advanced, ?_⟩
    intro requested result same
    cases same
    exact grown

/-- The contents of private regions. After any operations on an allocated region, the logical
    length is at least what it was and at most the maximum, and every mapped byte past it is zero.
    A growth that succeeds keeps the old logical bytes and adds zeros; one that fails changes
    nothing. -/
theorem private_region_contents {options : RegionOptions} {log : Log Call Reply}
    {region : NativeRegion} (allocated : Op.Returns (allocate options) () log (.ok region) ())
    {events : List Event} {owner : Owner} (trace : Trace Step ⟨region, []⟩ events owner) :
    options.logicalLen ≤ owner.region.logicalLen ∧
    owner.region.logicalLen ≤ options.maximumLen ∧
    owner.region.logicalLen ≤ owner.region.inner.length ∧
    (∀ i byte, owner.region.logicalLen ≤ i → owner.region.inner[i]? = some byte → byte = 0) ∧
    ∀ event owner', Step owner event owner' →
      owner.region.logicalLen ≤ owner'.region.logicalLen ∧
      ∀ requested result, event = .grown requested result →
        GrownTo requested result owner owner' := by
  obtain ⟨valid, sameOptions, initial⟩ := valid_of_allocate allocated
  have reached : Advanced region owner.region := by
    refine trace.invariant (I := fun _ owner => Advanced region owner.region) (.refl valid) ?_
    intro _ before event after _ soFar step
    obtain ⟨next, -⟩ := step.advanced soFar.valid
    exact ⟨next.valid, next.options.trans soFar.options, soFar.length.trans next.length⟩
  refine ⟨initial ▸ reached.length, ?_, reached.valid.fits, reached.valid.padding, ?_⟩
  · have bounded := reached.valid.bounded
    rw [reached.options, sameOptions] at bounded
    exact bounded
  · intro event owner' step
    obtain ⟨next, grown⟩ := step.advanced reached.valid
    exact ⟨next.length, grown⟩

namespace Sample

def options : RegionOptions :=
  { logicalLen := 3, growth := .replaceBeforeShare 10, cleanup := .clearThenRelease,
    permissions := .creator }

/-- A page of eight bytes. -/
def page (request : Nat) (covers : request ≤ 8) : Allocation request := ⟨8, covers⟩

def region : NativeRegion := { inner := List.replicate 8 0, logicalLen := 3, options }

/-- A closure that counts up from one. -/
def counting : Closure Unit where
  run bytes := ((List.range bytes.length).map fun i => UInt8.ofNat (i + 1), ())
  length_run bytes := by simp

def filled : Owner := ⟨{ region with inner := [1, 2, 3, 0, 0, 0, 0, 0] }, []⟩

def grown : Owner :=
  ⟨{ region with inner := [1, 2, 3, 0, 0, 0, 0, 0], logicalLen := 5 }, [List.replicate 8 0]⟩

theorem allocated : Op.Returns (allocate options) ()
    [⟨.allocate 3, some (page 3 (by decide))⟩] (.ok region) () :=
  .step (.refl _)

theorem trace : Trace Step ⟨region, []⟩ [.initialized, .grown 5 (.ok ())] grown := by
  have initialized : Op.Returns (initializeWith counting) ⟨region, []⟩ [] (.ok ()) filled :=
    .refl _
  have larger : Op.Returns (PrivateRegion.grow 5) filled
      [⟨.allocate 5, some (page 5 (by decide))⟩] (.ok ()) grown :=
    .step (.refl _)
  exact (Trace.nil.snoc (.initialized initialized)).snoc (.grown larger)

end Sample

theorem private_region_contents_sample :
    Trace Step ⟨Sample.region, []⟩ [.initialized, .grown 5 (.ok ())] Sample.grown ∧
      Sample.grown.region.logicalLen ≤ Sample.options.maximumLen :=
  ⟨Sample.trace, (private_region_contents Sample.allocated Sample.trace).2.1⟩

end NativeIpc.Session.PrivateRegion
