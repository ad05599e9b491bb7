import Mathlib.Data.List.Lex
import NativeIpc.Lib.Search
import NativeIpc.Lib.Sorting
import NativeIpc.Supervisor.Connection
import NativeIpc.Supervisor.Plan

/-!
# Installed policies and staged plans

A client names a policy; the installed catalog says which executable, first argument and
target identity that policy stands for, and which further input it admits. The admitted
spawn is staged to the broker as a plan. The two directions of trust meet here: nothing a
request carries selects code, and nothing an admitted request carries is refused by the plan.
Lines are those of `supervisor.rs`.
-/

namespace NativeIpc.Supervisor

open NativeIpc.Lib Bytes Run List
open Unique

/-! ### The catalog -/

/-- `<[u8] as Ord>::cmp` compares byte by byte. -/
def byteOrder (bytes : Bytes) : List Nat := bytes.map UInt8.toNat

theorem byteOrder_injective : Function.Injective byteOrder :=
  map_injective_iff.mpr fun _ _ => UInt8.toNat.inj

/-- The checks of `TargetPolicyDefinition::new`, lines 555-575. -/
def TargetPolicyDefinition.check (policyId : Bytes)
    (authorizedClientCodeIdentity targetIdentity : FixedBytes 32)
    (installedExecutable argument0 : Bytes) (maximumAdditionalArguments : Nat)
    (allowedEnvironmentKeys : List Bytes) : Run SupervisorWireError Unit := do
  validatePolicyId policyId
  validateInstalledExecutable installedExecutable
  validateComponent argument0
  rejectIf (authorizedClientCodeIdentity = zero32 ∨ targetIdentity = zero32 ∨ argument0 = [] ∨
    maximumAdditionalArguments ≥ maxArguments ∨
    allowedEnvironmentKeys.length > maxEnvironment) .invalidPolicy
  forM allowedEnvironmentKeys validateEnvironmentKey
  rejectIf (equalNeighbour byteOrder (sortBy byteOrder allowedEnvironmentKeys) ≠ none)
    .invalidPolicy

/-- Lines 532-540: the keys are kept sorted. -/
structure TargetPolicyDefinition where
  policyId : Bytes
  authorizedClientCodeIdentity : FixedBytes 32
  targetIdentity : FixedBytes 32
  installedExecutable : Bytes
  argument0 : Bytes
  maximumAdditionalArguments : Nat
  allowedEnvironmentKeys : List Bytes
  valid : ∃ keys, allowedEnvironmentKeys = sortBy byteOrder keys ∧
    TargetPolicyDefinition.check policyId authorizedClientCodeIdentity targetIdentity
      installedExecutable argument0 maximumAdditionalArguments keys = .ok ()

/-- Lines 546-585. -/
def TargetPolicyDefinition.new (policyId : Bytes)
    (authorizedClientCodeIdentity targetIdentity : FixedBytes 32)
    (installedExecutable argument0 : Bytes) (maximumAdditionalArguments : Nat)
    (keys : List Bytes) : Run SupervisorWireError TargetPolicyDefinition :=
  match valid : TargetPolicyDefinition.check policyId authorizedClientCodeIdentity targetIdentity
      installedExecutable argument0 maximumAdditionalArguments keys with
  | .ok () =>
    .ok { policyId, authorizedClientCodeIdentity, targetIdentity, installedExecutable, argument0,
          maximumAdditionalArguments, allowedEnvironmentKeys := sortBy byteOrder keys,
          valid := ⟨keys, rfl, valid⟩ }
  | .error stop => .error stop

/-- Lines 634-642; `from_definition` takes every field over. -/
abbrev InstalledTargetPolicy : Type := TargetPolicyDefinition

/-- The key by which a catalog is sorted and searched. -/
def InstalledTargetPolicy.order (policy : InstalledTargetPolicy) : List Nat :=
  byteOrder policy.policyId

/-- Lines 589-591. -/
structure InstalledPolicyCatalog where
  policies : List InstalledTargetPolicy
  increasing : (policies.map InstalledTargetPolicy.order).Pairwise (· < ·)

/-- Lines 604-623. -/
def InstalledPolicyCatalog.fromVerifiedInstallation (definitions : List TargetPolicyDefinition) :
    Run SupervisorWireError InstalledPolicyCatalog :=
  if definitions = [] then fail .invalidPolicy
  else
    let sorted := sortBy InstalledTargetPolicy.order definitions
    match distinct : equalNeighbour InstalledTargetPolicy.order sorted with
    | some _ => fail .invalidPolicy
    | none => .ok ⟨sorted, (equalNeighbour_eq_none (sortBy_sorted _ definitions)).mp distinct⟩

/-- Lines 625-630. -/
def InstalledPolicyCatalog.resolve (catalog : InstalledPolicyCatalog) (policyId : Bytes) :
    Option InstalledTargetPolicy :=
  (binarySearch catalog.policies InstalledTargetPolicy.order (byteOrder policyId)).bind
    (catalog.policies[·]?)

/-- Lines 698-706. -/
structure ValidatedSpawn where
  peer : VerifiedPeer
  deadline : SupervisorDeadlineBinding
  policyId : Bytes
  targetIdentity : FixedBytes 32
  installedExecutable : Bytes
  arguments : List Bytes
  environment : List TargetEnvironmentEntry
  deriving DecidableEq

/-- One turn of the loop over the environment, lines 671-680. -/
def InstalledTargetPolicy.admitEntry (policy : InstalledTargetPolicy) (seen : List Bytes)
    (entry : TargetEnvironmentEntry) : Run SupervisorWireError (List Bytes) := do
  rejectIf ((binarySearch policy.allowedEnvironmentKeys byteOrder (byteOrder entry.key)) = none ∨
    entry.key ∈ seen) .invalidTargetInput
  pure (entry.key :: seen)

/-- Lines 657-693. -/
def InstalledTargetPolicy.validate (policy : InstalledTargetPolicy)
    (authenticated : AuthenticatedSpawnRequest) : Run SupervisorWireError ValidatedSpawn := do
  rejectIf (authenticated.request.policyId ≠ policy.policyId) .invalidPolicy
  rejectIf (authenticated.peer.codeIdentity ≠ policy.authorizedClientCodeIdentity) .peerMismatch
  rejectIf (authenticated.request.arguments.length > policy.maximumAdditionalArguments)
    .invalidTargetInput
  let _ ← authenticated.request.environment.foldlM policy.admitEntry []
  pure { peer := authenticated.peer, deadline := authenticated.deadline,
         policyId := policy.policyId, targetIdentity := policy.targetIdentity,
         installedExecutable := policy.installedExecutable,
         arguments := policy.argument0 :: authenticated.request.arguments,
         environment := authenticated.request.environment }

/-- Lines 519-527. -/
def AuthenticatedSpawnRequest.validate (authenticated : AuthenticatedSpawnRequest)
    (catalog : InstalledPolicyCatalog) : Run SupervisorWireError ValidatedSpawn := do
  let policy ← okOr (catalog.resolve authenticated.request.policyId) .invalidPolicy
  policy.validate authenticated

/-! ### What a definition guarantees -/

/-- The facts that `new` has checked. -/
structure TargetPolicyDefinition.Sound (policy : TargetPolicyDefinition) : Prop where
  policyId : validatePolicyId policy.policyId = .ok ()
  executable : validateInstalledExecutable policy.installedExecutable = .ok ()
  argument0 : validateComponent policy.argument0 = .ok ()
  target : policy.targetIdentity ≠ zero32
  additional : policy.maximumAdditionalArguments < maxArguments
  keys : ∀ key ∈ policy.allowedEnvironmentKeys, validateEnvironmentKey key = .ok ()
  increasing : (policy.allowedEnvironmentKeys.map byteOrder).Pairwise (· < ·)

theorem TargetPolicyDefinition.sound (policy : TargetPolicyDefinition) : policy.Sound := by
  obtain ⟨keys, sorted, valid⟩ := policy.valid
  simp only [check, bind_eq_ok, rejectIf_eq_ok, forM_eq_ok, exists_iff, not_or, not_not,
    ge_iff_le, Nat.not_le] at valid
  obtain ⟨policyId, executable, argument0, ⟨-, target, -, additional, -⟩, each, distinct⟩ := valid
  refine ⟨policyId, executable, argument0, target, additional, ?_, ?_⟩
  · intro key member
    rw [sorted] at member
    exact each key (mem_sortBy.mp member)
  · rw [sorted]
    exact (equalNeighbour_eq_none (sortBy_sorted _ keys)).mp distinct

/-- A binary search through strictly increasing byte strings finds the members. -/
theorem binarySearch_ne_none {keys : List Bytes} {key : Bytes}
    (increasing : (keys.map byteOrder).Pairwise (· < ·)) :
    binarySearch keys byteOrder (byteOrder key) ≠ none ↔ key ∈ keys := by
  have found := binarySearch_eq_find (byteOrder key) (pairwise_map.mp increasing)
  constructor
  · intro some
    obtain ⟨index, hit⟩ := Option.ne_none_iff_exists'.mp some
    simp only [binarySearch, Option.bind_eq_some_iff] at hit
    obtain ⟨other, member, same⟩ := hit
    split at same
    · rename_i equal
      rw [← byteOrder_injective equal]
      exact mem_of_getElem? member
    · cases same
  · intro member absent
    rw [absent, Option.bind_none, eq_comm, find?_eq_none] at found
    exact found key member (by simp)

variable {spawn : ValidatedSpawn}

/-- What `validate` has checked, and the spawn it makes. -/
theorem InstalledTargetPolicy.validate_eq_ok {policy : InstalledTargetPolicy}
    {authenticated : AuthenticatedSpawnRequest} :
    policy.validate authenticated = .ok spawn ↔
      authenticated.request.policyId = policy.policyId ∧
      authenticated.peer.codeIdentity = policy.authorizedClientCodeIdentity ∧
      authenticated.request.arguments.length ≤ policy.maximumAdditionalArguments ∧
      ((∀ entry ∈ authenticated.request.environment, entry.key ∈ policy.allowedEnvironmentKeys) ∧
        (authenticated.request.environment.map TargetEnvironmentEntry.key).Nodup) ∧
      { peer := authenticated.peer, deadline := authenticated.deadline,
        policyId := policy.policyId, targetIdentity := policy.targetIdentity,
        installedExecutable := policy.installedExecutable,
        arguments := policy.argument0 :: authenticated.request.arguments,
        environment := authenticated.request.environment : ValidatedSpawn } = spawn := by
  have turn : ∀ seen entry keys, policy.admitEntry seen entry = .ok keys ↔
      entry.key ∈ policy.allowedEnvironmentKeys ∧ entry.key ∉ seen ∧ entry.key :: seen = keys := by
    intro seen entry keys
    simp only [admitEntry, bind_eq_ok, rejectIf_eq_ok, pure_eq_ok, exists_iff, not_or,
      binarySearch_ne_none policy.sound.increasing, and_assoc]
  have loop : (∃ keys, authenticated.request.environment.foldlM policy.admitEntry [] = .ok keys) ↔
      (∀ entry ∈ authenticated.request.environment, entry.key ∈ policy.allowedEnvironmentKeys) ∧
        (authenticated.request.environment.map TargetEnvironmentEntry.key).Nodup := by
    rw [foldlM_distinct turn]
    simp
  simp only [validate, bind_eq_ok, rejectIf_eq_ok, pure_eq_ok, exists_iff, not_not,
    Nat.not_lt, exists_and_right, loop]

/-! ### A request does not select code -/

theorem InstalledPolicyCatalog.resolve_eq_find (catalog : InstalledPolicyCatalog)
    (policyId : Bytes) :
    catalog.resolve policyId = catalog.policies.find? fun policy => policy.policyId = policyId := by
  rw [resolve, binarySearch_eq_find _ (pairwise_map.mp catalog.increasing)]
  congr 1
  funext policy
  exact decide_eq_decide.mpr byteOrder_injective.eq_iff

theorem InstalledPolicyCatalog.resolve_eq_some {catalog : InstalledPolicyCatalog}
    {policyId : Bytes} {policy : InstalledTargetPolicy} :
    catalog.resolve policyId = some policy ↔
      policy ∈ catalog.policies ∧ policy.policyId = policyId := by
  rw [resolve_eq_find]
  constructor
  · intro found
    exact ⟨mem_of_find?_eq_some found, by simpa using find?_some found⟩
  · rintro ⟨member, named⟩
    cases found : catalog.policies.find? fun policy => policy.policyId = policyId with
    | none => exact absurd named (by simpa using find?_eq_none.mp found policy member)
    | some other =>
      have otherNamed : other.policyId = policyId := by simpa using find?_some found
      have nodup : (catalog.policies.map InstalledTargetPolicy.order).Nodup :=
        catalog.increasing.imp fun before => ne_of_lt before
      rw [inj_on_of_nodup_map nodup (mem_of_find?_eq_some found) member
        (congrArg byteOrder (otherNamed.trans named.symm))]

theorem AuthenticatedSpawnRequest.validate_eq_ok {authenticated : AuthenticatedSpawnRequest}
    {catalog : InstalledPolicyCatalog} :
    authenticated.validate catalog = .ok spawn ↔
      ∃ policy ∈ catalog.policies, policy.validate authenticated = .ok spawn := by
  simp only [validate, bind_eq_ok, okOr_eq_ok, InstalledPolicyCatalog.resolve_eq_some]
  constructor
  · rintro ⟨policy, ⟨member, -⟩, accepted⟩
    exact ⟨policy, member, accepted⟩
  · rintro ⟨policy, member, accepted⟩
    exact ⟨policy, ⟨member, (InstalledTargetPolicy.validate_eq_ok.mp accepted).1.symm⟩, accepted⟩

/-- The entries of a catalog are the verified definitions, and every one is found under its name.
    What two accepted requests under one name run is the entry's, whatever else they carry, and
    what an accepted request adds is within the entry's limits. -/
theorem policy_noninterference (catalog : InstalledPolicyCatalog) :
    (∀ definitions, InstalledPolicyCatalog.fromVerifiedInstallation definitions = .ok catalog →
      catalog.policies.Perm definitions) ∧
    (∀ policyId, catalog.resolve policyId =
        catalog.policies.find? fun policy => policy.policyId = policyId) ∧
    (∀ policyId policy, catalog.resolve policyId = some policy ↔
        policy ∈ catalog.policies ∧ policy.policyId = policyId) ∧
    (∀ (first second : AuthenticatedSpawnRequest) (one other : ValidatedSpawn),
      first.request.policyId = second.request.policyId →
      first.validate catalog = .ok one → second.validate catalog = .ok other →
      ∃ policy, catalog.resolve first.request.policyId = some policy ∧
        ∀ spawn ∈ [one, other], spawn.installedExecutable = policy.installedExecutable ∧
          spawn.arguments.head? = some policy.argument0 ∧
          spawn.targetIdentity = policy.targetIdentity) ∧
    ∀ (authenticated : AuthenticatedSpawnRequest) (spawn : ValidatedSpawn),
      authenticated.validate catalog = .ok spawn →
      ∃ policy, catalog.resolve authenticated.request.policyId = some policy ∧
        spawn.arguments.length ≤ maxArguments ∧
        (spawn.environment.map TargetEnvironmentEntry.key).Nodup ∧
        ∀ entry ∈ spawn.environment, entry.key ∈ policy.allowedEnvironmentKeys ∧
          ∀ start ∈ forbiddenPrefixes, ¬ start <+: entry.key := by
  refine ⟨?_, catalog.resolve_eq_find, fun _ _ => InstalledPolicyCatalog.resolve_eq_some, ?_, ?_⟩
  · intro definitions built
    unfold InstalledPolicyCatalog.fromVerifiedInstallation at built
    split at built
    · cases built
    · dsimp only at built
      split at built
      · cases built
      · cases built
        exact sortBy_perm _ _
  · intro first second one other same accepted accepted'
    obtain ⟨policy, member, checked⟩ := AuthenticatedSpawnRequest.validate_eq_ok.mp accepted
    obtain ⟨policy', member', checked'⟩ := AuthenticatedSpawnRequest.validate_eq_ok.mp accepted'
    obtain ⟨named, -, -, -, rfl⟩ := InstalledTargetPolicy.validate_eq_ok.mp checked
    obtain ⟨named', -, -, -, rfl⟩ := InstalledTargetPolicy.validate_eq_ok.mp checked'
    have resolved := InstalledPolicyCatalog.resolve_eq_some.mpr ⟨member, named.symm⟩
    have resolved' := InstalledPolicyCatalog.resolve_eq_some.mpr ⟨member', named'.symm⟩
    rw [← same, resolved] at resolved'
    cases resolved'
    exact ⟨policy, resolved, by simp⟩
  · intro authenticated spawn accepted
    obtain ⟨policy, member, checked⟩ := AuthenticatedSpawnRequest.validate_eq_ok.mp accepted
    obtain ⟨named, -, few, ⟨allowed, distinct⟩, rfl⟩ :=
      InstalledTargetPolicy.validate_eq_ok.mp checked
    refine ⟨policy, InstalledPolicyCatalog.resolve_eq_some.mpr ⟨member, named.symm⟩, ?_, distinct,
      fun entry given => ⟨allowed entry given, ?_⟩⟩
    · exact Nat.lt_of_le_of_lt few policy.sound.additional
    · intro start listed begins
      have key := policy.sound.keys entry.key (allowed entry given)
      rw [validateEnvironmentKey, rejectIf_eq_ok] at key
      refine key (.inr (.inr (.inr (List.any_eq_true.mpr ⟨start, listed, ?_⟩))))
      exact List.isPrefixOf_iff_prefix.mpr begins

/-! ### An admitted spawn can be staged -/

/-- `PendingSpawnReply<SessionAssignedSpawn>`, supervisor_auth_adapter.rs:1733-1738 and 1827-1830,
    without its reply right. -/
structure AssignedSpawnReply where
  freshness : SpawnReplyFreshness
  boundSession : Option (FixedBytes 32)
  session : FixedBytes 32
  spawn : ValidatedSpawn
  deriving DecidableEq

/-- The bindings that `stage_broker_plan` compares before it makes a plan,
    supervisor_broker_plan.rs:129-137. -/
def AssignedSpawnReply.Bound (pending : AssignedSpawnReply) : Prop :=
  ¬ (pending.freshness.generation ≠ pending.freshness.connection ∨
    pending.freshness.connection ≠ pending.spawn.peer.connectionIdentity ∨
    pending.freshness.sequence ≠ 1 ∨ pending.freshness.clientNonce = zero32 ∨
    pending.freshness.serviceNonce = zero32 ∨
    pending.freshness.clientNonce = pending.freshness.serviceNonce ∨
    pending.boundSession ≠ some pending.session)

instance (pending : AssignedSpawnReply) : Decidable pending.Bound :=
  inferInstanceAs (Decidable (¬ _))

/-- The plan that `stage_broker_plan` makes, supervisor_broker_plan.rs:143-160. -/
def AssignedSpawnReply.plan (pending : AssignedSpawnReply) : BrokerLaunchPlan where
  deadline := pending.spawn.deadline.wire
  connectionGeneration := pending.freshness.generation
  sequence := pending.freshness.sequence
  effectiveUid := pending.spawn.peer.effectiveUid
  effectiveGid := pending.spawn.peer.effectiveGid
  session := pending.session
  auditIdentity := pending.spawn.peer.auditIdentity
  codeIdentity := pending.spawn.peer.codeIdentity
  targetIdentity := pending.spawn.targetIdentity
  clientNonce := pending.freshness.clientNonce
  serviceNonce := pending.freshness.serviceNonce
  policyId := pending.spawn.policyId
  installedExecutable := pending.spawn.installedExecutable
  arguments := pending.spawn.arguments
  environment := pending.spawn.environment

/-- supervisor_broker_plan.rs:125-170. -/
def AssignedSpawnReply.stageBrokerPlan (pending : AssignedSpawnReply) :
    Run SupervisorWireError Bytes := do
  rejectIf (¬ pending.Bound) .replayOrSubstitution
  pending.plan.encode

/-- The components of an admitted spawn pass the loops of the plan's checks. -/
theorem validateComponents_eq_ok {arguments : List Bytes}
    {environment : List TargetEnvironmentEntry} :
    validateComponents arguments environment = .ok () ↔
      (∀ argument ∈ arguments, validateComponent argument = .ok ()) ∧
        (environment.map TargetEnvironmentEntry.key).Nodup := by
  have turn : ∀ (seen : List Bytes) (entry : TargetEnvironmentEntry) keys, (do
      validateEnvironmentKey entry.key
      validateComponent entry.value
      rejectIf (entry.key ∈ seen) .invalidTargetInput
      pure (entry.key :: seen) : Run SupervisorWireError (List Bytes)) = .ok keys ↔
        True ∧ entry.key ∉ seen ∧ entry.key :: seen = keys := by
    intro seen entry keys
    obtain ⟨⟨⟩, key, value⟩ := bind_eq_ok.mp entry.valid
    simp only [key, value, ok_bind, bind_eq_ok, rejectIf_eq_ok, pure_eq_ok, exists_iff, true_and]
  simp only [validateComponents, bind_eq_ok, forM_eq_ok, exists_iff, pure_eq_ok,
    exists_and_right, foldlM_distinct turn]
  simp

/-- The arguments and entries of a plan are longer than on the wire by their wider lengths. -/
theorem length_componentsImage (arguments : List Bytes)
    (environment : List TargetEnvironmentEntry) :
    (componentsImage arguments environment).length =
      (arguments.flatMap componentImage).length + 2 * arguments.length +
        (environment.flatMap TargetEnvironmentEntry.image).length + 4 * environment.length := by
  have first : (arguments.flatMap longComponentImage).length =
      (arguments.flatMap componentImage).length + 2 * arguments.length := by
    induction arguments with
    | nil => rfl
    | cons argument rest ih =>
      simp only [flatMap_cons, length_append, ih, longComponentImage, componentImage,
        length_ofLe, length_cons]
      omega
  have second : (environment.flatMap TargetEnvironmentEntry.planImage).length =
      (environment.flatMap TargetEnvironmentEntry.image).length + 4 * environment.length := by
    induction environment with
    | nil => rfl
    | cons entry rest ih =>
      simp only [flatMap_cons, length_append, ih, TargetEnvironmentEntry.planImage,
        TargetEnvironmentEntry.image, longComponentImage, componentImage, length_ofLe,
        length_cons]
      omega
  rw [componentsImage, length_append, first, second]
  omega

/-- A record that was read binds a request as long as its payload, and a nonzero deadline. -/
theorem bindSpawn_facts {peer : VerifiedPeer} {record : Bytes} {clocks : Clocks}
    {authenticated : AuthenticatedSpawnRequest}
    (bound : SupervisorConnection.bindSpawn peer record clocks = .ok authenticated) :
    authenticated.peer = peer ∧ authenticated.deadline.wire.wireValue ≠ 0 ∧
      record.length = headerLen + spawnPrefixLen + authenticated.request.body.length := by
  simp only [SupervisorConnection.bindSpawn, SupervisorDeadlineBinding.fromWire,
    SupervisorDeadline.toLocalInstant, bind_eq_ok, slice_eq_ok, decodeSpawnPayload_eq_ok,
    rejectIf_eq_ok, pure_eq_ok, exists_iff] at bound
  obtain ⟨payload, ⟨⟨long, -⟩, part⟩, request, image, _, ⟨_, ⟨now, -, -, some, -, -⟩, rfl⟩, rfl⟩ :=
    bound
  refine ⟨rfl, fun zero => ?_, ?_⟩
  · have none : request.deadline.wireValue.toNat = 0 := congrArg UInt64.toNat zero
    omega
  · have size := congrArg List.length (part.trans image)
    rw [length_extract_of_le (Nat.le_refl _), SpawnRequest.image, length_append,
      SpawnRequest.length_fields] at size
    change record.length = headerLen + spawnPrefixLen + request.body.length
    omega

/-- The plan of a spawn that was read and admitted passes its checks once the reply is bound. -/
theorem AssignedSpawnReply.validate_plan {pending : AssignedSpawnReply}
    {authenticated : AuthenticatedSpawnRequest} {catalog : InstalledPolicyCatalog}
    {connectionIdentity : UInt64} {sender : SenderFacts}
    (verified : VerifiedPeer.fromAuditToken connectionIdentity sender = .ok authenticated.peer)
    (nonzero : connectionIdentity ≠ 0) (deadline : authenticated.deadline.wire.wireValue ≠ 0)
    (admitted : authenticated.validate catalog = .ok pending.spawn)
    (session : pending.session ≠ zero32) (bound : pending.Bound) :
    pending.plan.validate = .ok () := by
  obtain ⟨policy, -, checked⟩ := AuthenticatedSpawnRequest.validate_eq_ok.mp admitted
  obtain ⟨-, -, few, ⟨-, distinct⟩, made⟩ := InstalledTargetPolicy.validate_eq_ok.mp checked
  have valid := authenticated.request.valid
  simp only [SpawnRequest.check, bind_eq_ok, rejectIf_eq_ok, forM_eq_ok, exists_iff, not_or,
    Nat.not_le, Nat.not_lt] at valid
  obtain ⟨-, ⟨arguments, environment⟩, components⟩ := valid
  simp only [VerifiedPeer.fromAuditToken, bind_eq_ok, rejectIf_eq_ok, exists_iff,
    pure_eq_ok, not_or] at verified
  obtain ⟨⟨audit, uid, gid, uidMax, gidMax, code⟩, peer⟩ := verified
  simp only [Bound, not_or, not_not] at bound
  obtain ⟨generation, connection, first, client, service, differ, -⟩ := bound
  have bounds : ¬ (pending.plan.arguments = [] ∨ pending.plan.arguments.length > maxArguments ∨
      pending.plan.environment.length > maxEnvironment) := by
    simp only [plan, ← made, length_cons, not_or, Nat.not_lt]
    exact ⟨cons_ne_nil _ _, arguments, environment⟩
  have facts : pending.spawn.peer = { sender with connectionIdentity } := by
    rw [← made, ← peer]
  refine bind_eq_ok.mpr ⟨(), rejectIf_eq_ok.mpr ?_, bind_eq_ok.mpr ⟨(), ?_, bind_eq_ok.mpr
    ⟨(), ?_, validateComponents_eq_ok.mpr ⟨?_, ?_⟩⟩⟩⟩
  · simp only [not_or] at bounds ⊢
    refine ⟨?_, ?_, fun other => other first, ?_, ?_, ?_, ?_, ?_, differ, bounds⟩
    · simpa only [plan, ← made] using deadline
    · simpa only [plan, generation, connection, facts] using nonzero
    · simpa only [plan, facts] using uid
    · simpa only [plan, facts] using uidMax
    · simpa only [plan, facts] using gid
    · simpa only [plan, facts] using gidMax
    · have target : pending.spawn.targetIdentity ≠ zero32 := by
        rw [← made]
        exact policy.sound.target
      simp only [plan, facts, mem_cons, not_mem_nil, or_false, not_or]
      exact ⟨session.symm, Ne.symm audit, Ne.symm code, target.symm, Ne.symm client,
        Ne.symm service⟩
  · simpa only [plan, ← made] using policy.sound.policyId
  · simpa only [plan, ← made] using policy.sound.executable
  · simp only [plan, ← made, mem_cons, forall_eq_or_imp]
    exact ⟨policy.sound.argument0, components⟩
  · simpa only [plan, ← made] using distinct

/-- The plan of an admitted spawn is at most 8722 bytes longer than the record it came from: its
    header, the policy's fields, and two further bytes of length for every component. -/
theorem AssignedSpawnReply.length_plan {pending : AssignedSpawnReply} {record : Bytes}
    {authenticated : AuthenticatedSpawnRequest} {catalog : InstalledPolicyCatalog}
    (size : record.length = headerLen + spawnPrefixLen + authenticated.request.body.length)
    (short : record.length ≤ maxSupervisorRecordBytes)
    (admitted : authenticated.validate catalog = .ok pending.spawn) :
    pending.plan.image.length ≤ maxBrokerPlanBytes := by
  obtain ⟨policy, -, checked⟩ := AuthenticatedSpawnRequest.validate_eq_ok.mp admitted
  obtain ⟨named, -, -, -, made⟩ := InstalledTargetPolicy.validate_eq_ok.mp checked
  obtain ⟨-, arguments, environment, -⟩ := authenticated.request.bounds
  have first := (validateComponent_eq_ok.mp policy.sound.argument0).1
  have executable := length_le_of_validateInstalledExecutable policy.sound.executable
  rw [BrokerLaunchPlan.image, length_append, BrokerLaunchPlan.length_header, BrokerLaunchPlan.body]
  simp only [plan, ← made, length_append, length_componentsImage, flatMap_cons,
    componentImage, length_ofLe, length_cons, ← named]
  simp only [SpawnRequest.body, length_append, headerLen, spawnPrefixLen] at size
  simp only [maxSupervisorRecordBytes, maxArguments, maxEnvironment, maxComponentBytes,
    maxBrokerPlanBytes, planHeaderBytes] at *
  omega

/-- A spawn that was read from a record and admitted by the catalog is refused only where its
    reply is not the one bound to it. Otherwise its plan is valid, what is staged is the plan's
    encoding, and it and the launcher's plan fit the limit. -/
theorem admitted_spawn_staged {record : Bytes} {clocks : Clocks} {connectionIdentity : UInt64}
    {sender : SenderFacts} {peer : VerifiedPeer} {authenticated : AuthenticatedSpawnRequest}
    {catalog : InstalledPolicyCatalog} {pending : AssignedSpawnReply}
    (short : record.length ≤ maxSupervisorRecordBytes) (nonzero : connectionIdentity ≠ 0)
    (verified : VerifiedPeer.fromAuditToken connectionIdentity sender = .ok peer)
    (bound : SupervisorConnection.bindSpawn peer record clocks = .ok authenticated)
    (admitted : authenticated.validate catalog = .ok pending.spawn)
    (session : pending.session ≠ zero32) :
    (¬ pending.Bound → pending.stageBrokerPlan = fail .replayOrSubstitution) ∧
      (pending.Bound → pending.plan.validate = .ok () ∧
        ∃ frame launcher, pending.stageBrokerPlan = .ok frame ∧
          pending.plan.encode = .ok frame ∧ frame.length ≤ maxBrokerPlanBytes ∧
          (LauncherExecPlan.fromBroker pending.plan).encode = .ok launcher ∧
          launcher.length ≤ maxBrokerPlanBytes) := by
  obtain ⟨rfl, deadline, size⟩ := bindSpawn_facts bound
  refine ⟨fun unbound => ?_, fun fresh => ?_⟩
  · rw [AssignedSpawnReply.stageBrokerPlan, rejectIf, if_pos unbound]
    rfl
  · have valid := AssignedSpawnReply.validate_plan verified nonzero deadline admitted session fresh
    have fits := AssignedSpawnReply.length_plan size short admitted
    have fits' := (LauncherExecPlan.length_image_fromBroker pending.plan).trans fits
    have encoded := BrokerLaunchPlan.encode_eq_ok.mpr ⟨valid, fits, rfl⟩
    refine ⟨valid, pending.plan.image, (LauncherExecPlan.fromBroker pending.plan).image, ?_,
      encoded, fits, LauncherExecPlan.encode_eq_ok.mpr
        ⟨LauncherExecPlan.validate_fromBroker valid, fits', rfl⟩, fits'⟩
    exact bind_eq_ok.mpr ⟨(), rejectIf_eq_ok.mpr (not_not.mpr fresh), encoded⟩

namespace Staged

def sender : SenderFacts := ⟨.filled 32 1, 501, 20, .filled 32 2⟩

/-- The policy `a` runs `/b` and admits one argument and the variable `C`. -/
def policy : TargetPolicyDefinition :=
  ⟨[0x61], .filled 32 2, .filled 32 7, [0x2f, 0x62], [0x62], 1, [[0x43]], [[0x43]], by decide,
    by decide⟩

def catalog : InstalledPolicyCatalog := ⟨[policy], List.pairwise_singleton _ _⟩

/-- The supervisor has checked the header by the time it reads the request. -/
def record : Bytes := List.replicate headerLen 0 ++ asked.image

def authenticated : AuthenticatedSpawnRequest :=
  ⟨{ sender with connectionIdentity := 11 }, ⟨⟨1⟩, 1⟩, asked⟩

def pending : AssignedSpawnReply where
  freshness := ⟨11, 11, 1, .filled 32 4, .filled 32 5⟩
  boundSession := some (.filled 32 6)
  session := .filled 32 6
  spawn :=
    { peer := authenticated.peer, deadline := authenticated.deadline, policyId := [0x61],
      targetIdentity := .filled 32 7, installedExecutable := [0x2f, 0x62],
      arguments := [[0x62], [0x65]], environment := [assigned] }

/-- The plan's 279 bytes. -/
def frame : Bytes :=
  planMagic ++ [1, 0, 0, 0, 23, 1, 0, 0] ++ [1, 0, 0, 0, 0, 0, 0, 0] ++ [11, 0, 0, 0, 0, 0, 0, 0] ++
    [1, 0, 0, 0, 0, 0, 0, 0] ++ [245, 1, 0, 0] ++ [20, 0, 0, 0] ++
    ([6, 1, 2, 7, 4, 5] : Bytes).flatMap (List.replicate 32) ++
    [1, 0, 0, 0, 2, 0, 0, 0, 2, 0, 1, 0, 0, 0, 0, 0] ++
    [0x61, 0x2f, 0x62, 1, 0, 0, 0, 0x62, 1, 0, 0, 0, 0x65, 1, 0, 0, 0, 0x43, 1, 0, 0, 0, 0x64]

end Staged

/-- A request with an argument and a variable, staged. -/
theorem admitted_spawn_staged_policy :
    Staged.pending.stageBrokerPlan = .ok Staged.frame ∧
      Staged.pending.plan.encode = .ok Staged.frame := by
  have short : Staged.record.length ≤ maxSupervisorRecordBytes := by decide +kernel
  have verified : VerifiedPeer.fromAuditToken 11 Staged.sender = .ok Staged.authenticated.peer :=
    rfl
  have bound : SupervisorConnection.bindSpawn Staged.authenticated.peer Staged.record
      ⟨0, 0, 0, 0⟩ = .ok Staged.authenticated := by decide +kernel
  have admitted : Staged.authenticated.validate Staged.catalog = .ok Staged.pending.spawn := by
    refine AuthenticatedSpawnRequest.validate_eq_ok.mpr ⟨Staged.policy, List.mem_singleton_self _,
      InstalledTargetPolicy.validate_eq_ok.mpr ?_⟩
    decide
  obtain ⟨-, frame, -, staged, encoded, -⟩ := (admitted_spawn_staged short (by decide) verified
    bound admitted (by decide)).2 (by decide)
  have value : Staged.pending.plan.encode = .ok Staged.frame := by decide +kernel
  obtain rfl : frame = Staged.frame := Except.ok.inj (encoded.symm.trans value)
  exact ⟨staged, encoded⟩

end NativeIpc.Supervisor
