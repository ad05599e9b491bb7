import NativeIpc.Lib.Writes
import NativeIpc.Session.Control
import NativeIpc.Session.Limits

/-!
# Negotiation frames

The HELLO, ACCEPT and REJECT frames that open a session, their validity checks
and their wire codec (`crates/native-ipc/src/negotiation.rs`). An encoder
returns the encoded length together with the written destination.
Lines are those of `negotiation.rs`.
-/

namespace NativeIpc.Session

open NativeIpc.Lib Bytes Run

/-! ### Constants -/

/-- `MAGIC`, line 5: `NIPCHEL1`. -/
def helloMagic : Bytes := [0x4e, 0x49, 0x50, 0x43, 0x48, 0x45, 0x4c, 0x31]

def wireMajor : UInt16 := 1

def wireMinor : UInt16 := 0

/-- `HEADER_LEN`, line 8. -/
def helloHeaderLen : Nat := 224

def kindHello : UInt16 := 1

def kindAccept : UInt16 := 2

def kindReject : UInt16 := 3

def atomicU32LockFree : UInt32 := 1

def atomicU64LockFree : UInt32 := 2

def knownAtomicFlags : UInt32 := atomicU32LockFree ||| atomicU64LockFree

def hardMaxBootstrapPayloadBytes : UInt32 := 16 * 1024 * 1024

/-- Lines 1023-1046. -/
inductive NegotiationWireError where
  | truncated
  | badMagic
  | badVersion
  | badKind
  | badRole
  | badTarget
  | targetMismatch
  | badAtomicFacts
  | atomicMismatch
  | badLimits
  | badRejectReason
  | badDecisionChallenge
  | nonceMismatch
  | nonCanonical
  | effectiveMismatch
  | decisionReplayOrOrder
  | decisionChallengeMismatch
  | requiredFeatureNotSupported
  | payloadTooLarge
  | lengthOverflow
  | allocationFailed
  | destinationTooSmall
  deriving DecidableEq, Repr

/-! ### Parts of a frame -/

/-- Lines 23-26. -/
inductive SenderRole where
  | coordinator
  | receiver
  deriving DecidableEq, Repr

/-- The discriminant of `SenderRole`. -/
def SenderRole.toUInt8 : SenderRole → UInt8
  | .coordinator => 1
  | .receiver => 2

/-- Lines 29-35. -/
def SenderRole.decode (value : UInt8) : Run NegotiationWireError SenderRole :=
  if value = 1 then .ok .coordinator
  else if value = 2 then .ok .receiver
  else fail .badRole

/-- Line 40, with what its constructors check. -/
structure DecisionChallenge where
  bytes : FixedBytes 16
  ne_zero : bytes ≠ FixedBytes.zero 16
  deriving DecidableEq

/-- `DecisionChallenge::decode` and `from_os_csprng`, lines 43-52. -/
def DecisionChallenge.decode (bytes : FixedBytes 16) : Run NegotiationWireError DecisionChallenge :=
  if h : bytes = FixedBytes.zero 16 then fail .badDecisionChallenge else .ok ⟨bytes, h⟩

/-- Line 60: the two words of `[u64; 2]`. -/
structure FeatureBits where
  word0 : UInt64
  word1 : UInt64
  deriving DecidableEq, Repr

namespace FeatureBits

/-- `FeatureBits::default`. -/
def default : FeatureBits := ⟨0, 0⟩

/-- Lines 63-65. -/
def isSubsetOf (a b : FeatureBits) : Bool :=
  a.word0 &&& ~~~b.word0 = 0 && a.word1 &&& ~~~b.word1 = 0

/-- Lines 67-69. -/
def intersection (a b : FeatureBits) : FeatureBits := ⟨a.word0 &&& b.word0, a.word1 &&& b.word1⟩

/-- Lines 71-73. -/
def union (a b : FeatureBits) : FeatureBits := ⟨a.word0 ||| b.word0, a.word1 ||| b.word1⟩

end FeatureBits

def featureAtomicU32 : FeatureBits := ⟨1, 0⟩

def featureAtomicU64 : FeatureBits := ⟨2, 0⟩

/-- Lines 18-19. -/
def knownFeatures : FeatureBits := ⟨featureAtomicU32.word0 ||| featureAtomicU64.word0, 0⟩

/-- The operating systems that `TargetFacts::current` tells apart. -/
inductive HostOs where
  | linux
  | macos
  | windows
  deriving DecidableEq, Repr

/-- What a build is compiled for: the width of `usize`, the system and the architecture. -/
structure Host where
  usize : Target
  os : HostOs
  x86_64 : Bool

/-- Lines 77-82. -/
structure TargetFacts where
  os : UInt16
  architecture : UInt16
  pointerWidth : UInt8
  endian : UInt8
  deriving DecidableEq, Repr

namespace TargetFacts

/-- Lines 85-100. -/
def current (host : Host) : TargetFacts where
  os := match host.os with
    | .linux => 1
    | .macos => 2
    | .windows => 3
  architecture := if host.x86_64 then 1 else 2
  pointerWidth := 64
  endian := 1

/-- What `TargetFacts::validate` rejects. -/
def Malformed (target : TargetFacts) : Prop :=
  ¬ (1 ≤ target.os ∧ target.os ≤ 3) ∨ ¬ (1 ≤ target.architecture ∧ target.architecture ≤ 2) ∨
    target.pointerWidth ≠ 64 ∨ target.endian ≠ 1

instance (target : TargetFacts) : Decidable target.Malformed :=
  inferInstanceAs (Decidable (_ ∨ _))

/-- Lines 102-111. -/
def validate (target : TargetFacts) : Run NegotiationWireError TargetFacts := do
  rejectIf target.Malformed .badTarget
  pure target

theorem validate_eq_ok {target accepted : TargetFacts} :
    target.validate = .ok accepted ↔ ¬ target.Malformed ∧ target = accepted := by
  simp only [validate, bind_eq_ok, rejectIf_eq_ok, pure_eq_ok, exists_const]

theorem not_malformed_current (host : Host) : ¬ (current host).Malformed := by
  obtain ⟨_, os, x86_64⟩ := host
  cases os <;> cases x86_64 <;> simp [current, Malformed]

end TargetFacts

/-- session.rs:1369-1376. -/
structure AtomicCapabilities where
  atomicU32LockFree : Bool
  atomicU32Alignment : Nat
  atomicU64LockFree : Bool
  atomicU64Alignment : Nat
  pageAlignment : Nat
  cacheLineAlignment : Nat
  deriving DecidableEq, Repr

/-- Lines 115-122. -/
structure AtomicOffer where
  u32LockFree : Bool
  u64LockFree : Bool
  u32Alignment : UInt16
  u64Alignment : UInt16
  pageAlignment : UInt32
  cacheLineAlignment : UInt32
  deriving DecidableEq, Repr

/-- `u16::try_from` of a `usize`. -/
def u16TryFrom (value : Nat) : Option UInt16 :=
  if value < 2 ^ 16 then some (UInt16.ofNat value) else none

namespace AtomicOffer

/-- What `AtomicOffer::validate` rejects. -/
def Malformed (offer : AtomicOffer) : Prop :=
  ¬ offer.u32Alignment.toNat.isPowerOfTwo ∨ ¬ offer.u64Alignment.toNat.isPowerOfTwo ∨
    ¬ offer.pageAlignment.toNat.isPowerOfTwo ∨ ¬ offer.cacheLineAlignment.toNat.isPowerOfTwo ∨
    offer.pageAlignment.toNat < max offer.u32Alignment.toNat offer.u64Alignment.toNat ∨
    offer.cacheLineAlignment.toNat < max offer.u32Alignment.toNat offer.u64Alignment.toNat

instance (offer : AtomicOffer) : Decidable offer.Malformed := inferInstanceAs (Decidable (_ ∨ _))

/-- Lines 141-156. -/
def validate (offer : AtomicOffer) : Run NegotiationWireError AtomicOffer := do
  rejectIf offer.Malformed .badAtomicFacts
  pure offer

theorem validate_eq_ok {offer accepted : AtomicOffer} :
    offer.validate = .ok accepted ↔ ¬ offer.Malformed ∧ offer = accepted := by
  simp only [validate, bind_eq_ok, rejectIf_eq_ok, pure_eq_ok, exists_const]

/-- Lines 125-139. -/
def fromLocal (value : AtomicCapabilities) : Run NegotiationWireError AtomicOffer := do
  let u32Alignment ← okOr (u16TryFrom value.atomicU32Alignment) .lengthOverflow
  let u64Alignment ← okOr (u16TryFrom value.atomicU64Alignment) .lengthOverflow
  let pageAlignment ← okOr (u32TryFrom value.pageAlignment) .lengthOverflow
  let cacheLineAlignment ← okOr (u32TryFrom value.cacheLineAlignment) .lengthOverflow
  validate {
    u32LockFree := value.atomicU32LockFree
    u64LockFree := value.atomicU64LockFree
    u32Alignment
    u64Alignment
    pageAlignment
    cacheLineAlignment }

/-- The flag word of an offer, lines 914-920 and 870-876. -/
def flags (offer : AtomicOffer) : UInt32 :=
  (if offer.u32LockFree then atomicU32LockFree else 0) |||
    (if offer.u64LockFree then atomicU64LockFree else 0)

end AtomicOffer

/-! ### Frames -/

/-- Lines 160-169. -/
structure HelloFrame where
  role : SenderRole
  nonce : FixedBytes 32
  supportedFeatures : FeatureBits
  requiredFeatures : FeatureBits
  limits : SessionLimits
  atomics : AtomicOffer
  target : TargetFacts
  applicationPayload : Bytes
  deriving DecidableEq

/-- Lines 234-243. -/
structure AcceptFrame where
  role : SenderRole
  nonce : FixedBytes 32
  selectedFeatures : FeatureBits
  effectiveLimits : SessionLimits
  atomics : AtomicOffer
  target : TargetFacts
  helloDigest : FixedBytes 32
  decisionChallenge : DecisionChallenge
  deriving DecidableEq

/-- `NonZeroU32`. -/
@[ext] structure NonZeroU32 where
  value : UInt32
  ne_zero : value ≠ 0

instance : DecidableEq NonZeroU32 := fun a b =>
  decidable_of_iff (a.value = b.value) NonZeroU32.ext_iff.symm

/-- Lines 246-251. -/
structure RejectFrame where
  role : SenderRole
  nonce : FixedBytes 32
  reason : NonZeroU32
  decisionChallenge : DecisionChallenge
  deriving DecidableEq

/-- Lines 254-258. -/
inductive NegotiationFrame where
  | hello (frame : HelloFrame)
  | accept (frame : AcceptFrame)
  | reject (frame : RejectFrame)
  deriving DecidableEq

/-- Lines 838-843. -/
def validatePayloadLen (length offeredLimit : UInt32) : Run NegotiationWireError Unit :=
  rejectIf (hardMaxBootstrapPayloadBytes < length ∨ offeredLimit < length) .payloadTooLarge

/-- `limits.validate().map_err(|_| BadLimits)`. -/
def checkLimits (t : Target) (limits : SessionLimits) : Run NegotiationWireError SessionLimits :=
  (limits.validate t).mapError fun _ => .badLimits

/-- Lines 673-689. -/
def HelloFrame.validate (t : Target) (frame : HelloFrame) : Run NegotiationWireError Unit := do
  rejectIf (frame.nonce = FixedBytes.zero 32) .nonceMismatch
  rejectIf (¬ frame.requiredFeatures.isSubsetOf frame.supportedFeatures)
    .requiredFeatureNotSupported
  let _ ← checkLimits t frame.limits
  let _ ← frame.atomics.validate
  let _ ← frame.target.validate
  let payloadLen ← okOr (u32TryFrom frame.applicationPayload.length) .lengthOverflow
  validatePayloadLen payloadLen frame.limits.maxBootstrapPayloadBytes

/-- Lines 693-706. -/
def AcceptFrame.validate (t : Target) (frame : AcceptFrame) : Run NegotiationWireError Unit := do
  rejectIf (frame.nonce = FixedBytes.zero 32) .nonceMismatch
  rejectIf (frame.helloDigest = FixedBytes.zero 32) .effectiveMismatch
  let _ ← checkLimits t frame.effectiveLimits
  let _ ← frame.atomics.validate
  let _ ← frame.target.validate

/-- Lines 710-715. -/
def RejectFrame.validate (frame : RejectFrame) : Run NegotiationWireError Unit :=
  rejectIf (frame.nonce = FixedBytes.zero 32) .nonceMismatch

variable {u : Unit} {frame : HelloFrame}

theorem validatePayloadLen_eq_ok {length limit : UInt32} :
    validatePayloadLen length limit = .ok u ↔
      length.toNat ≤ 2 ^ 24 ∧ length.toNat ≤ limit.toNat := by
  have hard : hardMaxBootstrapPayloadBytes.toNat = 2 ^ 24 := rfl
  simp [validatePayloadLen, rejectIf_eq_ok, UInt32.le_iff_toNat_le, hard]

variable {t : Target}

theorem checkLimits_eq_ok {limits accepted : SessionLimits} :
    checkLimits t limits = .ok accepted ↔ limits.Valid t ∧ limits = accepted := by
  rw [checkLimits, mapError_eq_ok, SessionLimits.validate_eq_ok, eq_comm (a := accepted)]

/-- Validated limits keep a bootstrap payload below the hard maximum. -/
theorem SessionLimits.Valid.maxBootstrapPayloadBytes_le {limits : SessionLimits}
    (h : limits.Valid t) : limits.maxBootstrapPayloadBytes.toNat ≤ 2 ^ 24 := by
  have hard := h.hard
  simp only [SessionLimits.AboveHardMax, not_or, UInt32.not_lt, UInt32.le_iff_toNat_le] at hard
  exact hard.2.2.2.2.2.2.1

/-- The HELLO frames that `HelloFrame::validate` accepts. -/
structure HelloFrame.Valid (t : Target) (frame : HelloFrame) : Prop where
  nonce_ne_zero : frame.nonce ≠ FixedBytes.zero 32
  required_supported : frame.requiredFeatures.isSubsetOf frame.supportedFeatures = true
  limits : frame.limits.Valid t
  atomics : ¬ frame.atomics.Malformed
  target : ¬ frame.target.Malformed
  payload_le : frame.applicationPayload.length ≤ frame.limits.maxBootstrapPayloadBytes.toNat

theorem HelloFrame.Valid.payload_small (h : frame.Valid t) :
    frame.applicationPayload.length ≤ 2 ^ 24 :=
  h.payload_le.trans h.limits.maxBootstrapPayloadBytes_le

theorem HelloFrame.validate_eq_ok : frame.validate t = .ok u ↔ frame.Valid t := by
  simp only [validate, bind_eq_ok, rejectIf_eq_ok, checkLimits_eq_ok, AtomicOffer.validate_eq_ok,
    TargetFacts.validate_eq_ok, okOr_eq_ok, ControlState.u32TryFrom_eq_some,
    validatePayloadLen_eq_ok, exists_const, not_not]
  constructor
  · rintro ⟨nonce, features, _, ⟨limits, -⟩, _, ⟨atomics, -⟩, _, ⟨target, -⟩, word, hword, -, hle⟩
    exact ⟨nonce, features, limits, atomics, target, hword.trans_le hle⟩
  · intro h
    have hsmall := h.payload_small
    have hword : (UInt32.ofNat frame.applicationPayload.length).toNat =
        frame.applicationPayload.length := UInt32.toNat_ofNat_of_lt' (by change _ < 2 ^ 32; omega)
    exact ⟨h.nonce_ne_zero, h.required_supported, _, ⟨h.limits, rfl⟩, _, ⟨h.atomics, rfl⟩, _,
      ⟨h.target, rfl⟩, _, hword.symm, hword.trans_le hsmall, hword.trans_le h.payload_le⟩

/-- The ACCEPT frames that `AcceptFrame::validate` accepts. -/
structure AcceptFrame.Valid (t : Target) (frame : AcceptFrame) : Prop where
  nonce_ne_zero : frame.nonce ≠ FixedBytes.zero 32
  digest_ne_zero : frame.helloDigest ≠ FixedBytes.zero 32
  limits : frame.effectiveLimits.Valid t
  atomics : ¬ frame.atomics.Malformed
  target : ¬ frame.target.Malformed

theorem AcceptFrame.validate_eq_ok {frame : AcceptFrame} :
    frame.validate t = .ok u ↔ frame.Valid t := by
  simp only [validate, bind_eq_ok, rejectIf_eq_ok, checkLimits_eq_ok, AtomicOffer.validate_eq_ok,
    TargetFacts.validate_eq_ok, exists_const]
  constructor
  · rintro ⟨nonce, digest, _, ⟨limits, -⟩, _, ⟨atomics, -⟩, _, ⟨target, -⟩, -⟩
    exact ⟨nonce, digest, limits, atomics, target⟩
  · intro h
    exact ⟨h.nonce_ne_zero, h.digest_ne_zero, _, ⟨h.limits, rfl⟩, _, ⟨h.atomics, rfl⟩, _,
      ⟨h.target, rfl⟩, rfl⟩

theorem RejectFrame.validate_eq_ok {frame : RejectFrame} :
    frame.validate = .ok u ↔ frame.nonce ≠ FixedBytes.zero 32 :=
  rejectIf_eq_ok

namespace NegotiationFrame

/-- The `validate` of the frame's own kind. -/
def validate (t : Target) : NegotiationFrame → Run NegotiationWireError Unit
  | hello frame => frame.validate t
  | accept frame => frame.validate t
  | reject frame => frame.validate

def role : NegotiationFrame → SenderRole
  | hello frame => frame.role
  | accept frame => frame.role
  | reject frame => frame.role

def nonce : NegotiationFrame → FixedBytes 32
  | hello frame => frame.nonce
  | accept frame => frame.nonce
  | reject frame => frame.nonce

/-- The application payload, which only a HELLO carries. -/
def payload : NegotiationFrame → Bytes
  | hello frame => frame.applicationPayload
  | accept _ => []
  | reject _ => []

/-- Lines 261-273. -/
def encodedLen (t : Target) (frame : NegotiationFrame) : Run NegotiationWireError Nat := do
  frame.validate t
  okOr (checkedAdd t.bits helloHeaderLen frame.payload.length) .lengthOverflow

end NegotiationFrame

/-! ### Encoding -/

/-- The writes of `encode_features`, lines 977-980. -/
def featureWrites (offset : Nat) (value : FeatureBits) : List (Nat × Bytes) :=
  [(offset, ofLe 8 value.word0.toNat), (offset + 8, ofLe 8 value.word1.toNat)]

/-- The writes of `encode_common` after the features, lines 909-932. -/
def factWrites (limits : SessionLimits) (atomics : AtomicOffer) (target : TargetFacts) :
    List (Nat × Bytes) :=
  [(96, ofLe 2 limits.maxRegionsPerBatch.toNat),
    (100, ofLe 4 limits.maxActiveRegions.toNat),
    (104, ofLe 8 limits.maxRegionBytes.toNat),
    (112, ofLe 8 limits.maxBatchBytes.toNat),
    (120, ofLe 8 limits.maxActiveBytes.toNat),
    (128, ofLe 8 limits.maxTransactions.toNat),
    (136, ofLe 4 limits.maxBootstrapPayloadBytes.toNat),
    (140, ofLe 4 limits.maxControlPayloadBytes.toNat),
    (144, ofLe 4 atomics.flags.toNat),
    (148, ofLe 2 atomics.u32Alignment.toNat),
    (150, ofLe 2 atomics.u64Alignment.toNat),
    (152, ofLe 4 atomics.pageAlignment.toNat),
    (156, ofLe 4 atomics.cacheLineAlignment.toNat),
    (160, ofLe 2 target.os.toNat),
    (162, ofLe 2 target.architecture.toNat),
    (164, [target.pointerWidth]),
    (165, [target.endian])]

/-- The writes of `encode_common`, lines 897-933. -/
def commonWrites (nonce : FixedBytes 32) (supported required : FeatureBits)
    (limits : SessionLimits) (atomics : AtomicOffer) (target : TargetFacts) : List (Nat × Bytes) :=
  [(32, nonce.list)] ++ featureWrites 64 supported ++ featureWrites 80 required ++
    factWrites limits atomics target

/-- The writes for one kind of frame, lines 295-336. -/
def NegotiationFrame.kindWrites : NegotiationFrame → List (Nat × Bytes)
  | .hello frame =>
    [(12, ofLe 2 kindHello.toNat), (14, [frame.role.toUInt8])] ++
      commonWrites frame.nonce frame.supportedFeatures frame.requiredFeatures frame.limits
        frame.atomics frame.target ++
      [(helloHeaderLen, frame.applicationPayload)]
  | .accept frame =>
    [(12, ofLe 2 kindAccept.toNat), (14, [frame.role.toUInt8])] ++
      commonWrites frame.nonce frame.selectedFeatures FeatureBits.default frame.effectiveLimits
        frame.atomics frame.target ++
      [(80, frame.decisionChallenge.bytes.list), (166, frame.helloDigest.list)]
  | .reject frame =>
    [(12, ofLe 2 kindReject.toNat), (14, [frame.role.toUInt8]),
      (28, ofLe 4 frame.reason.value.toNat), (32, frame.nonce.list),
      (80, frame.decisionChallenge.bytes.list)]

/-- Lines 275-339. -/
def NegotiationFrame.encodeInto (t : Target) (frame : NegotiationFrame) (destination : Bytes) :
    Run NegotiationWireError (Nat × Bytes) := do
  let required ← frame.encodedLen t
  rejectIf (destination.length < required) .destinationTooSmall
  let wire ← put destination 0 (List.replicate required 0)
  let wire ← put wire 0 helloMagic
  let wire ← putU16 wire 8 wireMajor
  let wire ← putU16 wire 10 wireMinor
  let wire ← putU32 wire 16 (UInt32.ofNat helloHeaderLen)
  let frameLen ← okOr (u32TryFrom required) .lengthOverflow
  let wire ← putU32 wire 20 frameLen
  let payloadLen ← okOr (u32TryFrom (required - helloHeaderLen)) .lengthOverflow
  let wire ← putU32 wire 24 payloadLen
  frame.validate t
  let wire ← putAll wire frame.kindWrites
  pure (required, wire)

/-- Lines 346-351. -/
def helloEncodedLen (t : Target) (frame : HelloFrame) : Run NegotiationWireError Nat := do
  frame.validate t
  okOr (checkedAdd t.bits helloHeaderLen frame.applicationPayload.length) .lengthOverflow

/-- Lines 355-398. -/
def encodeHelloInto (t : Target) (frame : HelloFrame) (destination : Bytes) :
    Run NegotiationWireError (Nat × Bytes) := do
  let required ← helloEncodedLen t frame
  rejectIf (destination.length < required) .destinationTooSmall
  let wire ← put destination 15 [0]
  let wire ← put wire 28 (List.replicate 4 0)
  let wire ← put wire 98 (List.replicate 2 0)
  let wire ← put wire 166 (List.replicate 58 0)
  let wire ← put wire 0 helloMagic
  let wire ← putU16 wire 8 wireMajor
  let wire ← putU16 wire 10 wireMinor
  let wire ← putU16 wire 12 kindHello
  let wire ← put wire 14 [frame.role.toUInt8]
  let wire ← putU32 wire 16 (UInt32.ofNat helloHeaderLen)
  let frameLen ← okOr (u32TryFrom required) .lengthOverflow
  let wire ← putU32 wire 20 frameLen
  let payloadLen ← okOr (u32TryFrom frame.applicationPayload.length) .lengthOverflow
  let wire ← putU32 wire 24 payloadLen
  let wire ← putAll wire (commonWrites frame.nonce frame.supportedFeatures frame.requiredFeatures
    frame.limits frame.atomics frame.target)
  let wire ← put wire helloHeaderLen frame.applicationPayload
  pure (required, wire)

/-! ### Decoding -/

variable (source : Bytes)

/-- Lines 982-984. -/
def decodeFeatures (offset : Nat) : Run NegotiationWireError FeatureBits := do
  let word0 ← getU64 source offset
  let word1 ← getU64 source (offset + 8)
  pure { word0, word1 }

/-- Lines 935-949. -/
def decodeLimits : Run NegotiationWireError SessionLimits := do
  let reserved ← getU16 source 98
  rejectIf (reserved ≠ 0) .nonCanonical
  let maxRegionsPerBatch ← getU16 source 96
  let maxActiveRegions ← getU32 source 100
  let maxRegionBytes ← getU64 source 104
  let maxBatchBytes ← getU64 source 112
  let maxActiveBytes ← getU64 source 120
  let maxTransactions ← getU64 source 128
  let maxBootstrapPayloadBytes ← getU32 source 136
  let maxControlPayloadBytes ← getU32 source 140
  pure {
    maxRegionsPerBatch
    maxRegionBytes
    maxBatchBytes
    maxActiveRegions
    maxActiveBytes
    maxTransactions
    maxBootstrapPayloadBytes
    maxControlPayloadBytes }

/-- Lines 951-965. -/
def decodeAtomics : Run NegotiationWireError AtomicOffer := do
  let flags ← getU32 source 144
  rejectIf (flags &&& ~~~knownAtomicFlags ≠ 0) .badAtomicFacts
  let u32Alignment ← getU16 source 148
  let u64Alignment ← getU16 source 150
  let pageAlignment ← getU32 source 152
  let cacheLineAlignment ← getU32 source 156
  AtomicOffer.validate {
    u32LockFree := flags &&& atomicU32LockFree ≠ 0
    u64LockFree := flags &&& atomicU64LockFree ≠ 0
    u32Alignment
    u64Alignment
    pageAlignment
    cacheLineAlignment }

/-- Lines 967-975. -/
def decodeTarget : Run NegotiationWireError TargetFacts := do
  let os ← getU16 source 160
  let architecture ← getU16 source 162
  let pointerWidth ← getU8 source 164
  let endian ← getU8 source 165
  TargetFacts.validate { os, architecture, pointerWidth, endian }

/-- What every frame starts with: the checked part of `decode_frame` before its `match`. -/
structure FrameHead where
  kind : UInt16
  role : SenderRole
  payloadLen : UInt32
  nonce : FixedBytes 32
  deriving DecidableEq

/-- `decode_frame` up to its `match`, lines 718-757. -/
def decodeHead (t : Target) (source : Bytes) (expectedRole : SenderRole)
    (expectedNonce : FixedBytes 32) : Run NegotiationWireError FrameHead := do
  rejectIf (source.length < helloHeaderLen) .truncated
  let magic ← slice source 0 8
  rejectIf (magic ≠ helloMagic) .badMagic
  let major ← getU16 source 8
  let minor ← getU16 source 10
  rejectIf (major ≠ wireMajor ∨ minor ≠ wireMinor) .badVersion
  let kind ← getU16 source 12
  let roleByte ← getU8 source 14
  let role ← SenderRole.decode roleByte
  rejectIf (role ≠ expectedRole) .badRole
  let reserved ← getU8 source 15
  let headerLen ← getU32 source 16
  let tail ← slice source 198 224
  rejectIf (reserved ≠ 0 ∨ headerLen ≠ UInt32.ofNat helloHeaderLen ∨ ∃ byte ∈ tail, byte ≠ 0)
    .nonCanonical
  let frameLen ← getU32 source 20
  let payloadLen ← getU32 source 24
  let expectedLen ← okOr (checkedAdd t.bits helloHeaderLen payloadLen.toNat) .lengthOverflow
  rejectIf (frameLen.toNat ≠ expectedLen ∨ source.length ≠ expectedLen) .nonCanonical
  let nonceBytes ← slice source 32 64
  let nonce ← toFixed 32 nonceBytes
  rejectIf (nonce = FixedBytes.zero 32 ∨ nonce ≠ expectedNonce) .nonceMismatch
  pure { kind, role, payloadLen, nonce }

/-- The `KIND_HELLO` arm of `decode_frame`, lines 760-793. -/
def decodeHello (t : Target) (source : Bytes) (head : FrameHead) (localPayloadLimit : UInt32) :
    Run NegotiationWireError HelloFrame := do
  let reason ← getU32 source 28
  let digest ← slice source 166 198
  rejectIf (reason ≠ 0 ∨ ∃ byte ∈ digest, byte ≠ 0) .nonCanonical
  validatePayloadLen head.payloadLen localPayloadLimit
  let supportedFeatures ← decodeFeatures source 64
  let requiredFeatures ← decodeFeatures source 80
  rejectIf (¬ requiredFeatures.isSubsetOf supportedFeatures) .requiredFeatureNotSupported
  let limits ← decodeLimits source
  let limits ← checkLimits t limits
  let atomics ← decodeAtomics source
  let target ← decodeTarget source
  validatePayloadLen head.payloadLen limits.maxBootstrapPayloadBytes
  let applicationPayload ← slice source helloHeaderLen source.length
  let frame : HelloFrame := {
    role := head.role
    nonce := head.nonce
    supportedFeatures
    requiredFeatures
    limits
    atomics
    target
    applicationPayload }
  frame.validate t
  pure frame

/-- The `KIND_ACCEPT` arm of `decode_frame`, lines 794-814. -/
def decodeAccept (t : Target) (source : Bytes) (head : FrameHead) :
    Run NegotiationWireError AcceptFrame := do
  let reason ← getU32 source 28
  rejectIf (head.payloadLen ≠ 0 ∨ reason ≠ 0) .nonCanonical
  let selectedFeatures ← decodeFeatures source 64
  let limits ← decodeLimits source
  let effectiveLimits ← checkLimits t limits
  let atomics ← decodeAtomics source
  let target ← decodeTarget source
  let digestBytes ← slice source 166 198
  let helloDigest ← toFixed 32 digestBytes
  let challengeBytes ← slice source 80 96
  let challenge ← toFixed 16 challengeBytes
  let decisionChallenge ← DecisionChallenge.decode challenge
  let frame : AcceptFrame := {
    role := head.role
    nonce := head.nonce
    selectedFeatures
    effectiveLimits
    atomics
    target
    helloDigest
    decisionChallenge }
  frame.validate t
  pure frame

/-- `NonZeroU32::new(value)`. -/
def NonZeroU32.new (value : UInt32) : Option NonZeroU32 :=
  if h : value = 0 then none else some ⟨value, h⟩

/-- The `KIND_REJECT` arm of `decode_frame`, lines 815-834. -/
def decodeReject (head : FrameHead) : Run NegotiationWireError RejectFrame := do
  let features ← slice source 64 80
  let common ← slice source 96 198
  rejectIf (head.payloadLen ≠ 0 ∨ (∃ byte ∈ features, byte ≠ 0) ∨ ∃ byte ∈ common, byte ≠ 0)
    .nonCanonical
  let reasonWord ← getU32 source 28
  let reason ← okOr (NonZeroU32.new reasonWord) .badRejectReason
  let challengeBytes ← slice source 80 96
  let challenge ← toFixed 16 challengeBytes
  let decisionChallenge ← DecisionChallenge.decode challenge
  let frame : RejectFrame := { role := head.role, nonce := head.nonce, reason, decisionChallenge }
  frame.validate
  pure frame

/-- Lines 718-836. Its allocation of the payload is taken to succeed. -/
def decodeFrame (t : Target) (source : Bytes) (expectedRole : SenderRole)
    (expectedNonce : FixedBytes 32) (localPayloadLimit : UInt32) :
    Run NegotiationWireError NegotiationFrame := do
  let head ← decodeHead t source expectedRole expectedNonce
  if head.kind = kindHello then
    let frame ← decodeHello t source head localPayloadLimit
    pure (.hello frame)
  else if head.kind = kindAccept then
    let frame ← decodeAccept t source head
    pure (.accept frame)
  else if head.kind = kindReject then
    let frame ← decodeReject source head
    pure (.reject frame)
  else fail .badKind

end NativeIpc.Session
