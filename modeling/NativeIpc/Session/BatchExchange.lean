import NativeIpc.Session.Records
import NativeIpc.Session.Opening

/-!
# The exchange of a batch

What each side of a Linux batch has sent, received and done when one of its
operations has returned.
-/

namespace NativeIpc.Session

open NativeIpc.Lib Bytes Run Op.Returns List ExpectedMixedDirectionBatch
open Op (Returns)
open Dispatcher
open CapabilityFrame (fromManifest)

variable {t : Target} {d d' : Dispatcher} {deadline : Deadline} {log : Log Call Reply}

/-! ### What the memory modules make of a batch -/

variable {σ : Type} {expected : ExpectedMixedDirectionBatch}
  {α : Type} {s' : σ} {f : Unit → MemoryEffect σ α} {a : α} {rights : List Nat}

theorem checkDeadline_ok {s : σ} (returned : Returns (checkDeadline deadline) s log (.ok ()) s') :
    ∃ reply, log = [⟨.expired deadline, reply⟩] ∧ s' = s := by
  obtain ⟨reply, tail, rfl, branch⟩ := of_perform_bind returned
  split at branch
  · obtain ⟨-, failed, -⟩ := of_ofRun branch
    cases failed
  · obtain ⟨rfl, -, rfl⟩ := of_pure branch
    exact ⟨reply, rfl, rfl⟩

theorem checkDeadline_bind_ok {s : σ}
    (returned : Returns (checkDeadline deadline >>= f) s log (.ok a) s') :
    ∃ reply rest, log = ⟨.expired deadline, reply⟩ :: rest ∧ Returns (f ()) s rest (.ok a) s' := by
  obtain ⟨_, s₁, _, after, rfl, checked, rest⟩ := bind_ok returned
  obtain ⟨reply, rfl, rfl⟩ := checkDeadline_ok checked
  exact ⟨reply, after, rfl, rest⟩

theorem native_bind_ok {s : σ} {step : NativeStep} {f : Nat → MemoryEffect σ α}
    (returned : Returns (native step >>= f) s log (.ok a) s') :
    ∃ value rest, log = ⟨.native step, .ok value⟩ :: rest ∧
      Returns (f value) s rest (.ok a) s' := by
  obtain ⟨_, s₁, before, after, rfl, answered, rest⟩ := bind_ok returned
  obtain ⟨reply, tail, rfl, branch⟩ := of_perform_bind answered
  split at branch
  · obtain ⟨rfl, same, rfl⟩ := of_pure branch
    cases same
    exact ⟨_, after, rfl, rest⟩
  · obtain ⟨-, failed, -⟩ := of_ofRun branch
    cases failed

/-- What an expectation says of a region. -/
def ExpectedEntry.region (entry : ExpectedEntry) : ExpectedRegion :=
  ⟨entry.id, entry.writer, entry.logicalLen⟩

/-- The regions of an accepted expectation are those that were asked for. -/
theorem LinuxExpectedMixedDirectionBatch.prepare_ok {s : σ} {expected : ExpectedBatch}
    {limits : SessionLimits} {prepared : ExpectedMixedDirectionBatch}
    (returned : Returns (prepare t expected limits deadline) s log (.ok prepared) s') :
    prepared.entries.map ExpectedEntry.region = expected.regions ∧
      prepared.deadline = deadline := by
  obtain ⟨_, _, rfl, checking⟩ := checkDeadline_bind_ok returned
  obtain ⟨_, -, looping⟩ := ofRun_bind_ok checking
  obtain ⟨sofar, s₁, before, after, rfl, looped, ended⟩ := bind_ok looping
  obtain ⟨-, same, -⟩ := of_pure ended
  cases same
  refine ⟨?_, rfl⟩
  refine foldlM_ok (fun regions sofar => sofar.1.map ExpectedEntry.region = regions) looped rfl ?_
  intro regions region sofar s log sofar' s' holds turned
  obtain ⟨_, _, rfl, entering⟩ := checkDeadline_bind_ok turned
  obtain ⟨_, -, nonzero⟩ := ofRun_bind_ok entering
  obtain ⟨_, -, paging⟩ := ofRun_bind_ok nonzero
  obtain ⟨page, s₂, _, _, rfl, -, aligning⟩ := bind_ok paging
  obtain ⟨mappedLen, -, summing⟩ := ofRun_bind_ok aligning
  obtain ⟨total, -, bounding⟩ := ofRun_bind_ok summing
  obtain ⟨_, -, adding⟩ := ofRun_bind_ok bounding
  obtain ⟨-, same, -⟩ := of_pure adding
  cases same
  rw [map_append, holds]
  rfl

/-- The object that an answer gives to a region. -/
def preparedObject : Answer Call Reply → Option (RegionId × Nat)
  | ⟨.native (.prepareRegion id _ _), .ok object⟩ => some (id, object)
  | _ => none

@[simp] theorem preparedObject_expired (reply : Reply (.expired deadline)) :
    preparedObject ⟨.expired deadline, reply⟩ = none := rfl

@[simp] theorem preparedObject_prepareRegion (id : RegionId) (writer : WriterEndpoint)
    (mappedLen : UInt64) (object : Nat) :
    preparedObject ⟨.native (.prepareRegion id writer mappedLen), .ok object⟩ = some (id, object) :=
  rfl

/-- A region and the object it has in the batch. -/
def PreparedEntry.binding (entry : PreparedEntry) : RegionId × Nat :=
  (entry.region.id, entry.object)

/-- The regions of a prepared batch are those of the transfer batch in canonical order, each with
    the object that was made for it. -/
theorem LinuxMixedDirectionBatch.prepare_ok {s : σ} {batch : TransferBatch}
    {profile : NativeAuthorityProfile} {prepared : MixedDirectionBatch}
    (returned : Returns (prepare batch profile deadline) s log (.ok prepared) s') :
    prepared.entries.map PreparedEntry.region = batch.canonical ∧
      prepared.entries.map PreparedEntry.binding = log.filterMap preparedObject ∧
      prepared.deadline = deadline := by
  obtain ⟨regions, s₁, _, _, rfl, pending, looping⟩ := bind_ok returned
  obtain ⟨_, _, rfl, checking⟩ := checkDeadline_bind_ok pending
  obtain ⟨_, -, nonempty⟩ := ofRun_bind_ok checking
  obtain ⟨_, -, ordered⟩ := ofRun_bind_ok nonempty
  obtain ⟨rfl, same, -⟩ := of_pure ordered
  cases same
  obtain ⟨entries, s₂, _, _, rfl, looped, ending⟩ := bind_ok looping
  obtain ⟨_, _, rfl, ended⟩ := checkDeadline_bind_ok ending
  obtain ⟨rfl, same, -⟩ := of_pure ended
  cases same
  have turns := foldlM_ok_log
    (fun regions entries log => entries.map PreparedEntry.region = regions ∧
      entries.map PreparedEntry.binding = log.filterMap preparedObject) looped ⟨rfl, rfl⟩ ?_
  · refine ⟨turns.1, ?_, rfl⟩
    simp [turns.2, filterMap_cons]
  · intro regions region entries earlier s log entries' s' holds turned
    obtain ⟨_, _, rfl, building⟩ := checkDeadline_bind_ok turned
    obtain ⟨single, -, adding⟩ := ofRun_bind_ok building
    obtain ⟨_, -, preparing⟩ := ofRun_bind_ok adding
    obtain ⟨object, _, rfl, appended⟩ := native_bind_ok preparing
    obtain ⟨rfl, same, -⟩ := of_pure appended
    cases same
    simp [holds.1, holds.2, filterMap_cons, PreparedEntry.binding]

/-- What final sealing leaves of an entry: only the view is new. -/
def PreparedEntry.sealedPart (entry : PreparedEntry) : PreparedRegion × Nat :=
  (entry.region, entry.object)

theorem LinuxMixedDirectionBatch.sealAfterImport_ok {s : σ} {batch sealed : MixedDirectionBatch}
    (returned : Returns (sealAfterImport batch) s log (.ok sealed) s') :
    sealed.entries.map PreparedEntry.sealedPart = batch.entries.map PreparedEntry.sealedPart := by
  obtain ⟨⟨⟨⟩, entries⟩, _, _, _, rfl, sealing, ended⟩ := bind_ok returned
  obtain ⟨-, same, -⟩ := of_pure ended
  cases same
  obtain ⟨inner, ran⟩ := of_through sealing
  have single : ∀ entry ∈ batch.entries.map sealingEntry, entry.size = 1 := by
    intro entry member
    obtain ⟨prepared, -, rfl⟩ := mem_map.mp member
    unfold sealingEntry
    cases prepared.region.writer <;> rfl
  have finished := ran.satisfies (Sealing.wp_sealAfterImport ⟨_, batch.deadline, single⟩)
  have same : batch.entries.length = entries.length := by
    rw [← finished.kept.length_eq, length_map]
  have kept (entry : PreparedEntry) (sealed : Sealing.MixedEntry) :
      (withView entry sealed).sealedPart = entry.sealedPart := by
    unfold withView
    split <;> rfl
  rw [map_zipWith, ← map_uncurry_zip_eq_zipWith]
  simp only [Function.uncurry_def, kept]
  have firsts := map_fst_zip same.le
  conv_rhs => rw [← firsts, map_map]
  rfl

/-! ### What is activated -/

theorem activeRegionSpec_ok {backend : Backend} {regionId : BitVec 128}
    {authority : LocalRegionAuthority} {logicalLen mappedLen : UInt64} {guard : GuardPolicy}
    {spec : ActiveRegionSpec} (accepted : activeRegionSpec t backend regionId authority logicalLen
      mappedLen guard = .ok spec) :
    spec.id.value = regionId ∧ spec.authority = authority ∧ spec.mappedLen = mappedLen := by
  unfold activeRegionSpec at accepted
  split at accepted
  · cases accepted
  · obtain ⟨_, -, consistent⟩ := bind_eq_ok.mp accepted
    obtain ⟨_, -, built⟩ := bind_eq_ok.mp consistent
    cases built
    exact ⟨rfl, rfl, rfl⟩

variable {backend : Backend} {specs : List ActiveRegionSpec} {manifest : TransferManifest}

theorem ImportedEntry.activeSpec_ok {entry : ImportedEntry} {spec : ActiveRegionSpec}
    (accepted : entry.activeSpec t backend = .ok spec) :
    spec.id.value = entry.manifest.regionId ∧ spec.authority = entry.writer.receiverAuthority ∧
      spec.mappedLen = entry.manifest.mappedLen := by
  unfold activeSpec at accepted
  cases backend with
  | linux => exact activeRegionSpec_ok accepted
  | macos =>
    obtain ⟨_, -, made⟩ := bind_eq_ok.mp accepted
    obtain ⟨_, -, made⟩ := bind_eq_ok.mp made
    exact activeRegionSpec_ok made
  | windows =>
    obtain ⟨_, -, made⟩ := bind_eq_ok.mp accepted
    obtain ⟨_, -, made⟩ := bind_eq_ok.mp made
    exact activeRegionSpec_ok made

/-- The spec is that of the entry, whose view there is. -/
def PreparedEntry.Specified (t : Target) (backend : Backend) (entry : PreparedEntry)
    (spec : ActiveRegionSpec) : Prop :=
  entry.activeSpec t backend = .ok spec ∧
    ¬ (entry.region.writer = .receiver ∧ backend = .linux ∧ entry.view = .absent)

theorem PreparedEntry.specs_ids {entries : List PreparedEntry}
    (all : Forall₂ (Specified t backend) entries specs) :
    specs.map ActiveRegionSpec.id = entries.map fun entry => entry.region.id := by
  refine map_eq_of_forall₂ all fun entry spec specified => ?_
  have value := (activeRegionSpec_ok specified.1).1
  exact RegionId.key_inj.mp (congrArg BitVec.toNat value)

theorem ImportedEntry.specs_ids {entries : List ImportedEntry}
    (all : Forall₂ (fun entry spec => entry.activeSpec t backend = .ok spec) entries specs) :
    (specs.map fun spec => spec.id.value) = entries.map fun entry => entry.manifest.regionId :=
  map_eq_of_forall₂ all fun _ _ accepted => (ImportedEntry.activeSpec_ok accepted).1

theorem LinuxMixedDirectionBatch.activationSpecs_ok {s : σ} {batch : MixedDirectionBatch}
    (returned : Returns (activationSpecs t batch) s log (.ok specs) s') :
    Forall₂ (PreparedEntry.Specified t .linux) batch.entries specs := by
  obtain ⟨_, _, rfl, looping⟩ := checkDeadline_bind_ok returned
  obtain ⟨specs, s₁, _, _, rfl, looped, validating⟩ := bind_ok looping
  obtain ⟨_, -, ended⟩ := ofRun_bind_ok validating
  obtain ⟨-, same, -⟩ := of_pure ended
  cases same
  refine foldlM_ok (Forall₂ (PreparedEntry.Specified t .linux)) looped .nil ?_
  intro before entry specs s log specs' s' holds turned
  have specified (log : Log Call Reply) (s : σ)
      (viewed : entry.region.writer = .receiver → entry.view = .mapped)
      (specifying : Returns (do
        let spec ← Op.ofRun (entry.activeSpec t .linux)
        checkDeadline batch.deadline
        pure (specs ++ [spec])) s log (.ok specs') s') :
      Forall₂ (PreparedEntry.Specified t .linux) (before ++ [entry]) specs' := by
    obtain ⟨spec, accepted, checking⟩ := ofRun_bind_ok specifying
    obtain ⟨_, _, rfl, ended⟩ := checkDeadline_bind_ok checking
    obtain ⟨-, same, -⟩ := of_pure ended
    cases same
    refine rel_append holds (.cons ⟨accepted, ?_⟩ .nil)
    rintro ⟨writer, -, absent⟩
    cases absent.symm.trans (viewed writer)
  unfold activationSpec at turned
  dsimp only at turned
  split at turned
  · rename_i writer
    obtain ⟨_, s₂, _, after, rfl, -, specifying⟩ := bind_ok turned
    exact specified after s₂ (by simp [writer]) specifying
  · obtain ⟨_, s₂, _, _, rfl, -, viewing⟩ := bind_ok turned
    obtain ⟨_, viewed, specifying⟩ := ofRun_bind_ok viewing
    exact specified _ s₂ (fun _ => not_not.mp (rejectIf_eq_ok.mp viewed)) specifying

theorem MixedDirectionBatch.sectionSpecs_ok {batch : MixedDirectionBatch}
    (backend_ne : backend ≠ .linux) (accepted : batch.sectionSpecs t backend = .ok specs) :
    Forall₂ (PreparedEntry.Specified t backend) batch.entries specs := by
  obtain ⟨specs, each, validating⟩ := bind_eq_ok.mp accepted
  obtain ⟨_, -, ended⟩ := bind_eq_ok.mp validating
  cases ended
  exact (forall₂_of_mapM each).imp fun entry spec made => ⟨made, fun none => backend_ne none.2.1⟩

/-- The coordinator activates the regions of its batch, in their order. -/
theorem coordinatorSpecs_ok {s : σ} {batch : MixedDirectionBatch}
    (returned : Returns (backend.coordinatorSpecs t batch) s log (.ok specs) s') :
    Forall₂ (PreparedEntry.Specified t backend) batch.entries specs := by
  cases backend with
  | linux => exact LinuxMixedDirectionBatch.activationSpecs_ok returned
  | macos =>
    obtain ⟨_, _, _, _, rfl, -, specifying⟩ := bind_ok returned
    exact MixedDirectionBatch.sectionSpecs_ok nofun (of_ofRun specifying).2.1.symm
  | windows =>
    obtain ⟨_, _, _, _, rfl, -, specifying⟩ := bind_ok returned
    exact MixedDirectionBatch.sectionSpecs_ok nofun (of_ofRun specifying).2.1.symm

theorem LinuxImportedMixedDirectionBatch.activationSpecs_ok {s : σ}
    {batch : ImportedMixedDirectionBatch}
    (returned : Returns (activationSpecs t batch deadline) s log (.ok specs) s') :
    Forall₂ (fun entry spec => entry.activeSpec t .linux = .ok spec) batch.entries specs := by
  obtain ⟨_, _, rfl, looping⟩ := checkDeadline_bind_ok returned
  obtain ⟨specs, s₁, _, _, rfl, looped, validating⟩ := bind_ok looping
  obtain ⟨_, -, ended⟩ := ofRun_bind_ok validating
  obtain ⟨-, same, -⟩ := of_pure ended
  cases same
  refine foldlM_ok (Forall₂ _) looped .nil ?_
  intro before entry specs s log specs' s' holds turned
  obtain ⟨_, s₂, _, _, rfl, -, placing⟩ := bind_ok turned
  obtain ⟨_, -, specifying⟩ := ofRun_bind_ok placing
  obtain ⟨spec, accepted, checking⟩ := ofRun_bind_ok specifying
  obtain ⟨_, _, rfl, ended⟩ := checkDeadline_bind_ok checking
  obtain ⟨-, same, -⟩ := of_pure ended
  cases same
  exact rel_append holds (.cons accepted .nil)

theorem MacImportedMixedDirectionBatch.activationSpecs_ok {s : σ}
    {batch : ImportedMixedDirectionBatch}
    (returned : Returns (activationSpecs t batch deadline) s log (.ok specs) s') :
    Forall₂ (fun entry spec => entry.activeSpec t .macos = .ok spec) batch.entries specs := by
  obtain ⟨_, _, rfl, looping⟩ := checkDeadline_bind_ok returned
  obtain ⟨specs, s₁, _, _, rfl, looped, checking⟩ := bind_ok looping
  obtain ⟨_, _, rfl, validating⟩ := checkDeadline_bind_ok checking
  obtain ⟨_, -, ended⟩ := ofRun_bind_ok validating
  obtain ⟨-, same, -⟩ := of_pure ended
  cases same
  refine foldlM_ok (Forall₂ _) looped .nil ?_
  intro before entry specs s log specs' s' holds turned
  obtain ⟨_, _, rfl, placing⟩ := checkDeadline_bind_ok turned
  obtain ⟨_, -, specifying⟩ := ofRun_bind_ok placing
  obtain ⟨spec, accepted, ended⟩ := ofRun_bind_ok specifying
  obtain ⟨-, same, -⟩ := of_pure ended
  cases same
  exact rel_append holds (.cons accepted .nil)

/-- The receiver activates what it imported, in the order of the manifest. -/
theorem receiverSpecs_ok {s : σ} {batch : ImportedMixedDirectionBatch}
    (returned : Returns (backend.receiverSpecs t batch deadline) s log (.ok specs) s') :
    Forall₂ (fun entry spec => entry.activeSpec t backend = .ok spec) batch.entries specs := by
  cases backend with
  | linux => exact LinuxImportedMixedDirectionBatch.activationSpecs_ok returned
  | macos => exact MacImportedMixedDirectionBatch.activationSpecs_ok returned
  | windows => exact MacImportedMixedDirectionBatch.activationSpecs_ok returned

/-! ### The owners of a batch -/

namespace Activation

/-- An owner as the activation expects it for a spec. -/
structure ActiveRegionOwner.Meets (owner : ActiveRegionOwner) (spec : ActiveRegionSpec) : Prop where
  sameSpec : owner.spec = spec
  sameAuthority : owner.authority = spec.authority
  sameLen : owner.mapping.len = spec.mappedLen.toNat

end Activation

open Activation (ActiveRegionOwner)

variable {ε : Type} {spec : ActiveRegionSpec}

theorem viewOwner_meets {authority : LocalRegionAuthority} {mappedLen : UInt64}
    (sameAuthority : spec.authority = authority) (sameLen : spec.mappedLen = mappedLen)
    (object pageSize : Nat) : (viewOwner authority spec object mappedLen pageSize).Meets spec := by
  subst sameLen
  cases authority <;> exact ⟨rfl, sameAuthority.symm, rfl⟩

theorem PreparedEntry.owner_ok {entry : PreparedEntry} (specified : entry.Specified t backend spec)
    (pageSize : Nat) :
    ∃ owner, (entry.owner t backend pageSize : Run ε _) = .ok owner ∧ owner.Meets spec := by
  obtain ⟨accepted, viewed⟩ := specified
  obtain ⟨-, authority, length⟩ := activeRegionSpec_ok accepted
  rw [owner, accepted]
  exact ⟨_, if_neg viewed, viewOwner_meets authority length entry.object pageSize⟩

theorem ImportedEntry.owner_ok {entry : ImportedEntry}
    (accepted : entry.activeSpec t backend = .ok spec) (pageSize : Nat) :
    ∃ owner, (entry.owner t backend pageSize : Run ε _) = .ok owner ∧ owner.Meets spec := by
  obtain ⟨-, authority, length⟩ := ImportedEntry.activeSpec_ok accepted
  rw [owner, accepted]
  exact ⟨_, rfl, viewOwner_meets authority length entry.object pageSize⟩

/-- The owners that the coordinator makes of a batch meet the specs it has made of it. -/
theorem coordinatorOwners_meet {s : σ} {batch : MixedDirectionBatch}
    (returned : Returns (backend.coordinatorSpecs t batch) s log (.ok specs) s') (pageSize : Nat) :
    ∃ owners, (batch.intoActiveRegionOwners t backend pageSize : Run ε _) = .ok owners ∧
      Forall₂ ActiveRegionOwner.Meets owners specs :=
  exists_mapM_of_forall₂ (coordinatorSpecs_ok returned) fun _ _ specified =>
    PreparedEntry.owner_ok specified pageSize

/-- The owners that the receiver makes of a batch meet the specs it has made of it. -/
theorem receiverOwners_meet {s : σ} {batch : ImportedMixedDirectionBatch}
    (returned : Returns (backend.receiverSpecs t batch deadline) s log (.ok specs) s')
    (pageSize : Nat) :
    ∃ owners, (batch.intoActiveRegionOwners t backend pageSize : Run ε _) = .ok owners ∧
      Forall₂ ActiveRegionOwner.Meets owners specs :=
  exists_mapM_of_forall₂ (receiverSpecs_ok returned) fun _ _ accepted =>
    ImportedEntry.owner_ok accepted pageSize

/-! ### What is imported -/

/-- A manifest that matches has as many entries as the expectation. -/
theorem ExpectedMixedDirectionBatch.length_of_matches
    (matching : expected.matchesManifest manifest = true) :
    manifest.entries.length = expected.entries.length := by
  simp only [matchesManifest, Bool.and_eq_true, decide_eq_true_eq] at matching
  exact matching.1.1.1

/-- An import that succeeded was of a manifest that matches, with one object for each entry. -/
theorem ExpectedMixedDirectionBatch.checkImport_bind_ok {s : σ} {matching : Bool}
    (returned : Returns (expected.checkImport matching rights >>= f) s log (.ok a) s') :
    matching = true ∧ rights.length = expected.entries.length ∧
      ∃ reply rest, log = ⟨.expired expected.deadline, reply⟩ :: rest ∧
        Returns (f ()) s rest (.ok a) s' := by
  obtain ⟨_, s₁, _, after, rfl, checking, rest⟩ := bind_ok returned
  obtain ⟨reply, _, rfl, checked⟩ := checkDeadline_bind_ok checking
  obtain ⟨rfl, accepted, rfl⟩ := of_ofRun checked
  have passed := rejectIf_eq_ok.mp accepted.symm
  simp only [not_or, not_not, Bool.not_eq_false] at passed
  exact ⟨passed.2, passed.1, reply, after, rfl, rest⟩

/-- The object whose view an answer has mapped, with its length and whether it is written. -/
def mappedView : Answer Call Reply → Option (Nat × UInt64 × Bool)
  | ⟨.native (.mapView object mappedLen writable), .ok _⟩ => some (object, mappedLen, writable)
  | _ => none

/-- The view that an imported region has. -/
def ImportedEntry.mapped (entry : ImportedEntry) : Nat × UInt64 × Bool :=
  (entry.object, entry.manifest.mappedLen, entry.writer = .receiver)

namespace LinuxExpectedMixedDirectionBatch

variable {s : σ} {distinctKeys : Bool}

/-- A turn imports the object as the region it comes with, and maps one view, that of the region. -/
theorem importEntry_ok {entries entries' : List ImportedEntry}
    {item : (ExpectedEntry × ManifestEntry) × Nat}
    (turned : Returns (importEntry t distinctKeys deadline entries item) s log (.ok entries') s') :
    ∃ entry : ImportedEntry, entries' = entries ++ [entry] ∧ entry.manifest = item.1.2 ∧
      entry.object = item.2 ∧ log.filterMap mappedView = [entry.mapped] := by
  obtain ⟨_, _, rfl, sizing⟩ := checkDeadline_bind_ok turned
  obtain ⟨_, -, keying⟩ := ofRun_bind_ok sizing
  obtain ⟨_, _, rfl, comparing⟩ := native_bind_ok keying
  obtain ⟨_, -, checking⟩ := ofRun_bind_ok comparing
  obtain ⟨_, _, rfl, viewing⟩ := checkDeadline_bind_ok checking
  obtain ⟨_, _, rfl, viewed⟩ := native_bind_ok viewing
  obtain ⟨_, _, rfl, advising⟩ := checkDeadline_bind_ok viewed
  obtain ⟨_, _, _, _, rfl, advised, owning⟩ := bind_ok advising
  obtain ⟨_, _, rfl, between⟩ := native_bind_ok advised
  obtain ⟨_, _, rfl, again⟩ := checkDeadline_bind_ok between
  obtain ⟨_, _, rfl, last⟩ := native_bind_ok again
  obtain ⟨_, rfl, rfl⟩ := checkDeadline_ok last
  obtain ⟨_, _, rfl, owned⟩ := native_bind_ok owning
  obtain ⟨_, _, rfl, validating⟩ := checkDeadline_bind_ok owned
  obtain ⟨_, _, _, _, rfl, validated, appended⟩ := bind_ok validating
  obtain ⟨_, _, rfl, compared⟩ := native_bind_ok validated
  obtain ⟨rfl, -, -⟩ := of_ofRun compared
  obtain ⟨rfl, same, -⟩ := of_pure appended
  cases same
  exact ⟨_, rfl, rfl, rfl, by simp [filterMap_cons, mappedView, ImportedEntry.mapped]⟩

/-- Each received object is imported as the region of the manifest entry at its place, and its
    views are mapped in this order. -/
theorem importBatch_ok {imported : ImportedMixedDirectionBatch}
    (returned : Returns (importBatch t distinctKeys expected manifest rights) s log
      (.ok imported) s') :
    matchesManifest expected manifest = true ∧
      imported.entries.map ImportedEntry.manifest = manifest.entries ∧
      imported.entries.map ImportedEntry.object = rights ∧
      log.filterMap mappedView = imported.entries.map ImportedEntry.mapped := by
  obtain ⟨matching, count, _, _, rfl, looping⟩ := checkImport_bind_ok returned
  obtain ⟨entries, s₁, turns, _, rfl, looped, ending⟩ := bind_ok looping
  obtain ⟨_, _, rfl, ended⟩ := checkDeadline_bind_ok ending
  obtain ⟨rfl, same, -⟩ := of_pure ended
  cases same
  obtain ⟨manifests, objects, views⟩ := foldlM_ok_log (fun before entries log =>
    entries.map ImportedEntry.manifest = before.map (fun item => item.1.2) ∧
      entries.map ImportedEntry.object = before.map Prod.snd ∧
      log.filterMap mappedView = entries.map ImportedEntry.mapped) looped ⟨rfl, rfl, rfl⟩ (by
    rintro before item entries earlier s log _ s' ⟨manifests, objects, views⟩ turned
    obtain ⟨entry, rfl, manifest, object, view⟩ := importEntry_ok turned
    simp [manifests, objects, views, manifest, object, view])
  have lengths := length_of_matches matching
  have pairs : (expected.importItems manifest rights).map Prod.fst =
      expected.entries.zip manifest.entries :=
    map_fst_zip (by rw [length_zip]; omega)
  have seconds : (expected.entries.zip manifest.entries).map Prod.snd = manifest.entries :=
    map_snd_zip (by omega)
  refine ⟨matching, manifests.trans ?_, objects.trans (map_snd_zip ?_), ?_⟩
  · rw [← seconds, ← pairs, map_map]
    rfl
  · rw [length_zip]
    omega
  · simp [filterMap_cons, mappedView, views]

end LinuxExpectedMixedDirectionBatch

end NativeIpc.Session
