import NativeIpc.Lib.Bytes
import NativeIpc.Lib.Words

/-!
# Session limits and accepted parameters

The finite limits both endpoints negotiate (`crates/native-ipc/src/session.rs`)
and the parameters an accepted session retains
(`crates/native-ipc/src/backend/mod.rs`).
-/

namespace NativeIpc.Session

open NativeIpc.Lib Run
open Std.Commutative

/-- session.rs:1248-1265. -/
structure SessionLimits where
  maxRegionsPerBatch : UInt16
  maxRegionBytes : UInt64
  maxBatchBytes : UInt64
  maxActiveRegions : UInt32
  maxActiveBytes : UInt64
  maxTransactions : UInt64
  maxBootstrapPayloadBytes : UInt32
  maxControlPayloadBytes : UInt32
  deriving DecidableEq, Repr

/-- session.rs:1284-1295. -/
inductive NegotiationError where
  | zeroLimit
  | aboveHardMaximum
  | nativeSizeNarrowing
  | atomicUnsupported
  | invalidDeadline
  deriving DecidableEq, Repr

/-- The `HARD_MAX_*` constants, session.rs:217-231, as the limits they bound. -/
def SessionLimits.hardMax : SessionLimits where
  maxRegionsPerBatch := 16
  maxRegionBytes := .ofNat (2 ^ 40)
  maxBatchBytes := .ofNat (2 ^ 42)
  maxActiveRegions := .ofNat (2 ^ 20)
  maxActiveBytes := .ofNat (2 ^ 44)
  maxTransactions := .ofNat (2 ^ 48)
  maxBootstrapPayloadBytes := 16 * 1024 * 1024
  maxControlPayloadBytes := 16 * 1024 * 1024

/-- session.rs:1268-1279. -/
def SessionLimits.default : SessionLimits where
  maxRegionsPerBatch := 16
  maxRegionBytes := 256 * 1024 * 1024
  maxBatchBytes := 1024 * 1024 * 1024
  maxActiveRegions := 4096
  maxActiveBytes := 8 * 1024 * 1024 * 1024
  maxTransactions := .ofNat (2 ^ 32)
  maxBootstrapPayloadBytes := 1024 * 1024
  maxControlPayloadBytes := 1024 * 1024

variable {t : Target}

namespace SessionLimits

/-- Some limit is zero. -/
def HasZero (limits : SessionLimits) : Prop :=
  limits.maxRegionsPerBatch = 0 ∨ limits.maxRegionBytes = 0 ∨ limits.maxBatchBytes = 0 ∨
    limits.maxActiveRegions = 0 ∨ limits.maxActiveBytes = 0 ∨ limits.maxTransactions = 0 ∨
    limits.maxBootstrapPayloadBytes = 0 ∨ limits.maxControlPayloadBytes = 0

/-- Some limit exceeds its hard maximum. -/
def AboveHardMax (limits : SessionLimits) : Prop :=
  hardMax.maxRegionsPerBatch < limits.maxRegionsPerBatch ∨
    hardMax.maxRegionBytes < limits.maxRegionBytes ∨
    hardMax.maxBatchBytes < limits.maxBatchBytes ∨
    hardMax.maxActiveRegions < limits.maxActiveRegions ∨
    hardMax.maxActiveBytes < limits.maxActiveBytes ∨
    hardMax.maxTransactions < limits.maxTransactions ∨
    hardMax.maxBootstrapPayloadBytes < limits.maxBootstrapPayloadBytes ∨
    hardMax.maxControlPayloadBytes < limits.maxControlPayloadBytes

/-- Some byte limit exceeds `native_usize_max`. -/
def AboveNative (limits : SessionLimits) (nativeUsizeMax : Nat) : Prop :=
  nativeUsizeMax < limits.maxRegionBytes.toNat ∨ nativeUsizeMax < limits.maxBatchBytes.toNat ∨
    nativeUsizeMax < limits.maxActiveBytes.toNat ∨
    nativeUsizeMax < limits.maxBootstrapPayloadBytes.toNat ∨
    nativeUsizeMax < limits.maxControlPayloadBytes.toNat

instance (limits : SessionLimits) : Decidable limits.HasZero :=
  inferInstanceAs (Decidable (_ ∨ _))

instance (limits : SessionLimits) : Decidable limits.AboveHardMax :=
  inferInstanceAs (Decidable (_ ∨ _))

instance (limits : SessionLimits) (n : Nat) : Decidable (limits.AboveNative n) :=
  inferInstanceAs (Decidable (_ ∨ _))

/-- `validate` with `validate_for_native_max`, session.rs:1307-1341. -/
def validate (t : Target) (limits : SessionLimits) : Run NegotiationError SessionLimits := do
  rejectIf limits.HasZero .zeroLimit
  rejectIf limits.AboveHardMax .aboveHardMaximum
  rejectIf (limits.AboveNative (2 ^ t.bits - 1)) .nativeSizeNarrowing
  pure limits

/-- The limits that `validate` accepts. -/
structure Valid (t : Target) (limits : SessionLimits) : Prop where
  nonzero : ¬ limits.HasZero
  hard : ¬ limits.AboveHardMax
  native : ¬ limits.AboveNative (2 ^ t.bits - 1)

variable {limits : SessionLimits}

theorem validate_eq_ok {accepted : SessionLimits} :
    limits.validate t = .ok accepted ↔ limits.Valid t ∧ accepted = limits := by
  simp only [validate, bind_eq_ok, rejectIf_eq_ok, pure_eq_ok, exists_const]
  constructor
  · rintro ⟨nonzero, hard, native, rfl⟩
    exact ⟨⟨nonzero, hard, native⟩, rfl⟩
  · rintro ⟨⟨nonzero, hard, native⟩, rfl⟩
    exact ⟨nonzero, hard, native, rfl⟩

instance (t : Target) (limits : SessionLimits) : Decidable (limits.Valid t) :=
  decidable_of_iff (¬ limits.HasZero ∧ ¬ limits.AboveHardMax ∧
      ¬ limits.AboveNative (2 ^ t.bits - 1))
    ⟨fun h => ⟨h.1, h.2.1, h.2.2⟩, fun h => ⟨h.nonzero, h.hard, h.native⟩⟩

example : default.Valid Target.w64 := by decide

/-- Limits that a narrower target accepts are accepted where `usize` is a `u64`. -/
theorem Valid.w64 (h : limits.Valid t) : limits.Valid Target.w64 := by
  refine ⟨h.nonzero, h.hard, ?_⟩
  have wide (n : UInt64) : ¬ 2 ^ 64 - 1 < n.toNat := Nat.not_lt.mpr (Nat.le_pred_of_lt n.toNat_lt)
  have narrow (n : UInt32) : ¬ 2 ^ 64 - 1 < n.toNat := by
    have := n.toNat_lt
    omega
  rintro (h | h | h | h | h)
  · exact wide _ h
  · exact wide _ h
  · exact wide _ h
  · exact narrow _ h
  · exact narrow _ h

/-- Validated limits leave room below `u64::MAX` for the next transaction number. -/
theorem Valid.maxTransactions_le (h : limits.Valid t) : limits.maxTransactions.toNat ≤ 2 ^ 48 := by
  by_contra hlarge
  apply h.hard
  refine .inr (.inr (.inr (.inr (.inr (.inl ?_)))))
  rw [UInt64.lt_iff_toNat_lt]
  exact (show hardMax.maxTransactions.toNat = 2 ^ 48 from rfl).trans_lt (Nat.not_le.mp hlarge)

/-- The record of the smaller of each pair of limits. -/
def pointwiseMin (a b : SessionLimits) : SessionLimits where
  maxRegionsPerBatch := min a.maxRegionsPerBatch b.maxRegionsPerBatch
  maxRegionBytes := min a.maxRegionBytes b.maxRegionBytes
  maxBatchBytes := min a.maxBatchBytes b.maxBatchBytes
  maxActiveRegions := min a.maxActiveRegions b.maxActiveRegions
  maxActiveBytes := min a.maxActiveBytes b.maxActiveBytes
  maxTransactions := min a.maxTransactions b.maxTransactions
  maxBootstrapPayloadBytes := min a.maxBootstrapPayloadBytes b.maxBootstrapPayloadBytes
  maxControlPayloadBytes := min a.maxControlPayloadBytes b.maxControlPayloadBytes

theorem pointwiseMin_comm (a b : SessionLimits) : a.pointwiseMin b = b.pointwiseMin a := by
  simp only [pointwiseMin, mk.injEq]
  exact ⟨comm _ _, comm _ _, comm _ _, comm _ _, comm _ _, comm _ _, comm _ _, comm _ _⟩

/-- session.rs:1346-1364. -/
def negotiate (t : Target) (ours theirs : SessionLimits) : Run NegotiationError SessionLimits := do
  let ours ← ours.validate t
  let theirs ← theirs.validate t
  (pointwiseMin ours theirs).validate t

theorem of_min {α : Type} [Min α] [Std.MinEqOr α] (p : α → Prop) {a b : α} (ha : p a)
    (hb : p b) : p (min a b) := by
  rcases Std.MinEqOr.min_eq_or a b with h | h <;> rw [h] <;> assumption

/-- The smaller of each pair of valid limits is valid. -/
theorem Valid.pointwiseMin {a b : SessionLimits} (ha : a.Valid t) (hb : b.Valid t) :
    (a.pointwiseMin b).Valid t := by
  constructor
  · have h := ha.nonzero
    have h' := hb.nonzero
    simp only [HasZero, not_or] at h h' ⊢
    obtain ⟨h1, h2, h3, h4, h5, h6, h7, h8⟩ := h
    obtain ⟨h1', h2', h3', h4', h5', h6', h7', h8'⟩ := h'
    exact ⟨of_min (· ≠ 0) h1 h1', of_min (· ≠ 0) h2 h2', of_min (· ≠ 0) h3 h3',
      of_min (· ≠ 0) h4 h4', of_min (· ≠ 0) h5 h5', of_min (· ≠ 0) h6 h6', of_min (· ≠ 0) h7 h7',
      of_min (· ≠ 0) h8 h8'⟩
  · have h := ha.hard
    have h' := hb.hard
    simp only [AboveHardMax, not_or] at h h' ⊢
    obtain ⟨h1, h2, h3, h4, h5, h6, h7, h8⟩ := h
    obtain ⟨h1', h2', h3', h4', h5', h6', h7', h8'⟩ := h'
    exact ⟨of_min (¬ _ < ·) h1 h1', of_min (¬ _ < ·) h2 h2', of_min (¬ _ < ·) h3 h3',
      of_min (¬ _ < ·) h4 h4', of_min (¬ _ < ·) h5 h5', of_min (¬ _ < ·) h6 h6',
      of_min (¬ _ < ·) h7 h7', of_min (¬ _ < ·) h8 h8'⟩
  · have h := ha.native
    have h' := hb.native
    simp only [AboveNative, not_or] at h h' ⊢
    obtain ⟨h1, h2, h3, h4, h5⟩ := h
    obtain ⟨h1', h2', h3', h4', h5'⟩ := h'
    exact ⟨of_min (¬ _ < UInt64.toNat ·) h1 h1', of_min (¬ _ < UInt64.toNat ·) h2 h2',
      of_min (¬ _ < UInt64.toNat ·) h3 h3', of_min (¬ _ < UInt32.toNat ·) h4 h4',
      of_min (¬ _ < UInt32.toNat ·) h5 h5'⟩

theorem negotiate_eq_ok {ours theirs effective : SessionLimits} :
    negotiate t ours theirs = .ok effective ↔
      ours.Valid t ∧ theirs.Valid t ∧ effective = ours.pointwiseMin theirs := by
  simp only [negotiate, bind_eq_ok, validate_eq_ok]
  constructor
  · rintro ⟨_, ⟨valid, rfl⟩, _, ⟨valid', rfl⟩, -, rfl⟩
    exact ⟨valid, valid', rfl⟩
  · rintro ⟨valid, valid', rfl⟩
    exact ⟨_, ⟨valid, rfl⟩, _, ⟨valid', rfl⟩, valid.pointwiseMin valid', rfl⟩

end SessionLimits

/-- protocol.rs:50-75. -/
inductive NativeAuthorityProfile where
  | legacy
  | linuxMdweV1
  | macMachV1
  | windowsSectionsV1
  deriving DecidableEq, Repr

/-- protocol.rs:78-80. -/
def NativeAuthorityProfile.isVnext : NativeAuthorityProfile → Bool
  | .legacy => false
  | _ => true

/-- mod.rs:14-23, with what `SpawnIdentityFacts::new` checks. -/
@[ext] structure SpawnIdentityFacts where
  parentPid : UInt32
  childPid : UInt32
  nonce : FixedBytes 32
  parentPid_ne_zero : parentPid ≠ 0
  childPid_ne_zero : childPid ≠ 0
  distinct : parentPid ≠ childPid
  nonce_ne_zero : nonce ≠ FixedBytes.zero 32

instance : DecidableEq SpawnIdentityFacts := fun a b =>
  decidable_of_iff (a.parentPid = b.parentPid ∧ a.childPid = b.childPid ∧ a.nonce = b.nonce)
    SpawnIdentityFacts.ext_iff.symm

/-- mod.rs:28-34. -/
structure AcceptedSessionParameters where
  facts : SpawnIdentityFacts
  limits : SessionLimits
  authorityProfile : NativeAuthorityProfile
  deriving DecidableEq

end NativeIpc.Session
