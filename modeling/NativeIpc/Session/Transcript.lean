import Mathlib.Data.Set.Basic
import NativeIpc.Session.NegotiationCodec

/-!
# The negotiated transcript

What the two HELLOs of a session are reduced to
(`crates/native-ipc/src/negotiation.rs`). SHA-256 is a parameter: a function of
the bytes that the hasher is fed. Feature words are read as sets of feature
numbers where results speak about them.
Lines are those of `negotiation.rs`.
-/

namespace NativeIpc.Session

open NativeIpc.Lib Bytes Run List AtomicOffer

/-! ### The reduction of two HELLOs -/

/-- Lines 188-199. -/
structure NegotiatedTranscript where
  nonce : FixedBytes 32
  selectedFeatures : FeatureBits
  effectiveLimits : SessionLimits
  effectiveAtomics : AtomicOffer
  target : TargetFacts
  wireMajor : UInt16
  wireMinor : UInt16
  helloDigest : FixedBytes 32
  decisionChallenge : Option DecisionChallenge
  acceptedRoles : UInt8
  deriving DecidableEq

/-- Lines 172-175. -/
structure HelloPair where
  coordinator : HelloFrame
  receiver : HelloFrame

/-- The fields that `hash_hello` feeds before the payload, lines 853-893. -/
def hashFields (frame : HelloFrame) (payloadLen : UInt32) : List Bytes :=
  [helloMagic, ofLe 2 wireMajor.toNat, ofLe 2 wireMinor.toNat, ofLe 2 kindHello.toNat,
    [frame.role.toUInt8], frame.nonce.list,
    ofLe 8 frame.supportedFeatures.word0.toNat, ofLe 8 frame.supportedFeatures.word1.toNat,
    ofLe 8 frame.requiredFeatures.word0.toNat, ofLe 8 frame.requiredFeatures.word1.toNat,
    ofLe 2 frame.limits.maxRegionsPerBatch.toNat, ofLe 4 frame.limits.maxActiveRegions.toNat,
    ofLe 8 frame.limits.maxRegionBytes.toNat, ofLe 8 frame.limits.maxBatchBytes.toNat,
    ofLe 8 frame.limits.maxActiveBytes.toNat, ofLe 8 frame.limits.maxTransactions.toNat,
    ofLe 4 frame.limits.maxBootstrapPayloadBytes.toNat,
    ofLe 4 frame.limits.maxControlPayloadBytes.toNat,
    ofLe 4 frame.atomics.flags.toNat, ofLe 2 frame.atomics.u32Alignment.toNat,
    ofLe 2 frame.atomics.u64Alignment.toNat, ofLe 4 frame.atomics.pageAlignment.toNat,
    ofLe 4 frame.atomics.cacheLineAlignment.toNat,
    ofLe 2 frame.target.os.toNat, ofLe 2 frame.target.architecture.toNat,
    [frame.target.pointerWidth, frame.target.endian], ofLe 4 payloadLen.toNat]

/-- Lines 853-895: the bytes it feeds to the hasher. The `expect` on the
    payload length faults. -/
def hashHello (frame : HelloFrame) : Run NegotiationWireError Bytes :=
  match u32TryFrom frame.applicationPayload.length with
  | some payloadLen => .ok ((hashFields frame payloadLen).flatten ++ frame.applicationPayload)
  | none => fault

/-- `b"native-ipc-vnext-hello-transcript-v1"`, line 847. -/
def transcriptDomain : Bytes :=
  "native-ipc-vnext-hello-transcript-v1".toList.map fun c => UInt8.ofNat c.toNat

/-- The bytes that `canonical_hello_digest` feeds to the hasher, lines 845-851. -/
def canonicalHelloStream (coordinator receiver : HelloFrame) : Run NegotiationWireError Bytes := do
  let first ← hashHello coordinator
  let second ← hashHello receiver
  pure (transcriptDomain ++ first ++ second)

/-- The alignments that `from_hello_pair` compares, lines 464-469. -/
def AtomicOffer.AlignmentsDiffer (offer ours : AtomicOffer) : Prop :=
  offer.u32Alignment ≠ ours.u32Alignment ∨ offer.u64Alignment ≠ ours.u64Alignment ∨
    offer.pageAlignment ≠ ours.pageAlignment ∨ offer.cacheLineAlignment ≠ ours.cacheLineAlignment

instance (offer ours : AtomicOffer) : Decidable (offer.AlignmentsDiffer ours) :=
  inferInstanceAs (Decidable (_ ∨ _))

/-- The effective atomics, lines 473-481. -/
def AtomicOffer.effective (ours coordinator receiver : AtomicOffer) : AtomicOffer :=
  { ours with
    u32LockFree := ours.u32LockFree && coordinator.u32LockFree && receiver.u32LockFree
    u64LockFree := ours.u64LockFree && coordinator.u64LockFree && receiver.u64LockFree }

/-- The features that atomics back, lines 482-486. -/
def AtomicOffer.features (offer : AtomicOffer) : FeatureBits :=
  ⟨(if offer.u32LockFree then 1 else 0) * featureAtomicU32.word0 |||
    (if offer.u64LockFree then 1 else 0) * featureAtomicU64.word0, 0⟩

/-- The selected features, lines 487-491. -/
def HelloPair.selectedFeatures (hellos : HelloPair) (effectiveAtomics : AtomicOffer) :
    FeatureBits :=
  ((hellos.coordinator.supportedFeatures.intersection
    hellos.receiver.supportedFeatures).intersection knownFeatures).intersection
      effectiveAtomics.features

/-- The features that either side requires, line 492. -/
def HelloPair.requiredFeatures (hellos : HelloPair) : FeatureBits :=
  hellos.coordinator.requiredFeatures.union hellos.receiver.requiredFeatures

namespace NegotiatedTranscript

section

variable (host : Host) (sha256 : Bytes → FixedBytes 32)

variable (hellos : HelloPair)

/-- The transcript of a pair of HELLOs under `ours`, lines 473-510. -/
def agreed (ours : AtomicOffer) (effectiveLimits : SessionLimits)
    (stream : Bytes) : NegotiatedTranscript :=
  let effectiveAtomics := ours.effective hellos.coordinator.atomics hellos.receiver.atomics
  { nonce := hellos.coordinator.nonce
    selectedFeatures := hellos.selectedFeatures effectiveAtomics
    effectiveLimits
    effectiveAtomics
    target := TargetFacts.current host
    wireMajor := Session.wireMajor
    wireMinor := Session.wireMinor
    helloDigest := sha256 stream
    decisionChallenge := none
    acceptedRoles := 0 }

/-- `from_hello_pair` after `from_local`, lines 462-510. -/
def reduce (ours : AtomicOffer) : Run NegotiationWireError NegotiatedTranscript := do
  let coordinator := hellos.coordinator
  let receiver := hellos.receiver
  forM [coordinator.atomics, receiver.atomics] fun offer =>
    rejectIf (offer.AlignmentsDiffer ours) .atomicMismatch
  let effectiveAtomics := ours.effective coordinator.atomics receiver.atomics
  rejectIf (¬ hellos.requiredFeatures.isSubsetOf (hellos.selectedFeatures effectiveAtomics))
    .requiredFeatureNotSupported
  let effectiveLimits ← (SessionLimits.negotiate host.usize coordinator.limits
    receiver.limits).mapError fun _ => .badLimits
  let stream ← canonicalHelloStream coordinator receiver
  pure (agreed host sha256 hellos ours effectiveLimits stream)

/-- Lines 445-511. -/
def fromHelloPair (verifiedLocalAtomics : AtomicCapabilities) :
    Run NegotiationWireError NegotiatedTranscript := do
  let coordinator := hellos.coordinator
  let receiver := hellos.receiver
  coordinator.validate host.usize
  receiver.validate host.usize
  rejectIf (coordinator.role ≠ .coordinator ∨ receiver.role ≠ .receiver) .badRole
  rejectIf (coordinator.nonce ≠ receiver.nonce) .nonceMismatch
  rejectIf (coordinator.target ≠ TargetFacts.current host ∨
    receiver.target ≠ TargetFacts.current host) .targetMismatch
  let ours ← AtomicOffer.fromLocal verifiedLocalAtomics
  reduce host sha256 hellos ours

/-- Lines 432-443. -/
def fromHellosWithPeerPayload (verifiedLocalAtomics : AtomicCapabilities)
    (peerRole : SenderRole) : Run NegotiationWireError (NegotiatedTranscript × Bytes) := do
  let transcript ← fromHelloPair host sha256 hellos verifiedLocalAtomics
  let peerPayload := match peerRole with
    | .coordinator => hellos.coordinator.applicationPayload
    | .receiver => hellos.receiver.applicationPayload
  pure (transcript, peerPayload)

end

end NegotiatedTranscript

/-! ### The stream of a transcript determines both HELLOs -/

variable {t : Target}

theorem hashHello_eq {frame : HelloFrame} (valid : frame.Valid t) :
    ∃ payloadLen : UInt32, payloadLen.toNat = frame.applicationPayload.length ∧
      hashHello frame =
        .ok ((hashFields frame payloadLen).flatten ++ frame.applicationPayload) := by
  have hsmall := valid.payload_small
  obtain ⟨payloadLen, hword, same⟩ :=
    ControlState.exists_u32TryFrom frame.applicationPayload.length (by omega)
  refine ⟨payloadLen, same, ?_⟩
  rw [hashHello, hword]

theorem AtomicOffer.flags_inj {a b : AtomicOffer} :
    a.flags = b.flags ↔ a.u32LockFree = b.u32LockFree ∧ a.u64LockFree = b.u64LockFree := by
  unfold flags
  cases a.u32LockFree <;> cases a.u64LockFree <;> cases b.u32LockFree <;> cases b.u64LockFree <;>
    decide

theorem SenderRole.toUInt8_inj {a b : SenderRole} : a.toUInt8 = b.toUInt8 ↔ a = b := by
  cases a <;> cases b <;> decide

/-- All fields are hashed. -/
theorem hashFields_inj {a b : HelloFrame} {payloadLen payloadLen' : UInt32}
    (fields : hashFields a payloadLen = hashFields b payloadLen')
    (payload : a.applicationPayload = b.applicationPayload) : a = b := by
  simp only [hashFields, List.cons.injEq, SenderRole.toUInt8_inj, ofLe_u16_inj, ofLe_u32_inj,
    ofLe_u64_inj, flags_inj, and_true, true_and] at fields
  obtain ⟨role, nonce, s0, s1, r0, r1, l1, l2, l3, l4, l5, l6, l7, l8, ⟨f32, f64⟩, a1, a2, a3, a4,
    os, arch, ⟨width, endian⟩, -⟩ := fields
  have hnonce : a.nonce = b.nonce := FixedBytes.ext_list nonce
  obtain ⟨aRole, aNonce, ⟨as0, as1⟩, ⟨ar0, ar1⟩, ⟨al1, al2, al3, al4, al5, al6, al7, al8⟩,
    ⟨af32, af64, aa1, aa2, aa3, aa4⟩, ⟨aos, aarch, awidth, aendian⟩, aPayload⟩ := a
  obtain ⟨bRole, bNonce, ⟨bs0, bs1⟩, ⟨br0, br1⟩, ⟨bl1, bl2, bl3, bl4, bl5, bl6, bl7, bl8⟩,
    ⟨bf32, bf64, ba1, ba2, ba3, ba4⟩, ⟨bos, barch, bwidth, bendian⟩, bPayload⟩ := b
  simp_all

theorem hashFields_widths (a b : HelloFrame) (payloadLen payloadLen' : UInt32) :
    (hashFields a payloadLen).map List.length = (hashFields b payloadLen').map List.length := by
  simp [hashFields, FixedBytes.length_eq]

/-- A hashed HELLO can be read off the front of a stream. -/
theorem hashHello_append_inj {a b : HelloFrame} (ha : a.Valid t) (hb : b.Valid t)
    {first first' rest rest' : Bytes} (hfirst : hashHello a = .ok first)
    (hfirst' : hashHello b = .ok first') (h : first ++ rest = first' ++ rest') :
    a = b ∧ rest = rest' := by
  obtain ⟨payloadLen, hlen, hhash⟩ := hashHello_eq ha
  obtain ⟨payloadLen', hlen', hhash'⟩ := hashHello_eq hb
  cases hfirst.symm.trans hhash
  cases hfirst'.symm.trans hhash'
  rw [append_assoc, append_assoc] at h
  obtain ⟨fields, tail⟩ := flatten_append_inj (hashFields_widths a b _ _) h
  have hword : payloadLen = payloadLen' := by
    simpa [hashFields, ofLe_u32_inj] using congrArg List.getLast? fields
  have hwidth : a.applicationPayload.length = b.applicationPayload.length := by
    rw [← hlen, ← hlen', hword]
  obtain ⟨payload, rest⟩ := append_inj tail hwidth
  exact ⟨hashFields_inj fields payload, rest⟩

theorem canonicalHelloStream_eq {coordinator receiver : HelloFrame}
    (hc : coordinator.Valid t) (hr : receiver.Valid t) :
    ∃ first second, hashHello coordinator = .ok first ∧ hashHello receiver = .ok second ∧
      canonicalHelloStream coordinator receiver = .ok (transcriptDomain ++ (first ++ second)) := by
  obtain ⟨_, -, first⟩ := hashHello_eq hc
  obtain ⟨_, -, second⟩ := hashHello_eq hr
  refine ⟨_, _, first, second, ?_⟩
  rw [canonicalHelloStream, first, second, ← append_assoc]
  rfl

/-! ### A sample pair of endpoints -/

/-- x86-64 Linux. -/
def sampleHost : Host := ⟨Target.w64, .linux, true⟩

/-- Atomics of an endpoint whose 64-bit cells may not be lock-free. -/
def sampleAtomics (u64LockFree : Bool) : AtomicCapabilities := ⟨true, 4, u64LockFree, 8, 4096, 64⟩

/-- A HELLO that requires 32-bit atomics and carries `payload`. -/
def sampleHello (role : SenderRole) (u64LockFree : Bool) (limit : UInt32) (payload : Bytes) :
    HelloFrame where
  role
  nonce := .filled 32 1
  supportedFeatures := knownFeatures
  requiredFeatures := featureAtomicU32
  limits := { SessionLimits.default with maxBootstrapPayloadBytes := limit }
  atomics := ⟨true, u64LockFree, 4, 8, 4096, 64⟩
  target := TargetFacts.current sampleHost
  applicationPayload := payload

/-- The stream exists for valid HELLOs, and equal streams come from equal HELLOs. -/
theorem hello_stream_binds {t : Target} {coordinator receiver coordinator' receiver' : HelloFrame}
    (valid : coordinator.validate t = .ok () ∧ receiver.validate t = .ok ())
    (valid' : coordinator'.validate t = .ok () ∧ receiver'.validate t = .ok ()) :
    (∃ stream, canonicalHelloStream coordinator receiver = .ok stream) ∧
      (canonicalHelloStream coordinator receiver = canonicalHelloStream coordinator' receiver' →
        coordinator = coordinator' ∧ receiver = receiver') := by
  have hc := HelloFrame.validate_eq_ok.mp valid.1
  have hr := HelloFrame.validate_eq_ok.mp valid.2
  have hc' := HelloFrame.validate_eq_ok.mp valid'.1
  have hr' := HelloFrame.validate_eq_ok.mp valid'.2
  obtain ⟨first, second, hfirst, hsecond, hstream⟩ := canonicalHelloStream_eq hc hr
  obtain ⟨first', second', hfirst', hsecond', hstream'⟩ := canonicalHelloStream_eq hc' hr'
  refine ⟨⟨_, hstream⟩, ?_⟩
  intro same
  have hwhole := Except.ok.inj (hstream.symm.trans (same.trans hstream'))
  obtain ⟨rfl, htail⟩ :=
    hashHello_append_inj hc hc' hfirst hfirst' (List.append_cancel_left hwhole)
  have hlast : second ++ [] = second' ++ [] := by rw [htail]
  exact ⟨rfl, (hashHello_append_inj hr hr' hsecond hsecond' hlast).1⟩

/-- Moving a byte of payload from one HELLO to the other changes the stream. -/
theorem hello_stream_binds_sample :
    canonicalHelloStream (sampleHello .coordinator true 4 [1, 2]) (sampleHello .receiver true 4 [3])
      ≠ canonicalHelloStream (sampleHello .coordinator true 4 [1])
          (sampleHello .receiver true 4 [2, 3]) := by
  intro same
  have h := (hello_stream_binds (t := Target.w64)
    ⟨by decide, by decide⟩ ⟨by decide, by decide⟩).2 same
  exact absurd h.1 (by decide)

/-! ### Features as sets -/

namespace FeatureBits

/-- Whether a feature number is set: 0 to 63 in the first word, 64 to 127 in the second. -/
def bit (features : FeatureBits) (number : Nat) : Bool :=
  if number < 64 then features.word0.toBitVec.getLsbD number
  else features.word1.toBitVec.getLsbD (number - 64)

/-- The set of feature numbers. -/
def toSet (features : FeatureBits) : Set Nat := { number | features.bit number = true }

theorem and_not_eq_zero_iff {a b : UInt64} :
    a &&& ~~~b = 0 ↔
      ∀ i < 64, a.toBitVec.getLsbD i = true → b.toBitVec.getLsbD i = true := by
  rw [← UInt64.toBitVec_inj]
  constructor
  · intro h i hi ha
    have hbit := congrArg (·.getLsbD i) h
    simpa [hi, ha] using hbit
  · intro h
    apply BitVec.eq_of_getLsbD_eq
    intro i hi
    have hbit := h i hi
    cases ha : a.toBitVec.getLsbD i with
    | false => simp [ha]
    | true => simp [ha, hbit ha]

/-- `is_subset_of` is inclusion. -/
theorem isSubsetOf_iff {a b : FeatureBits} : a.isSubsetOf b = true ↔ a.toSet ⊆ b.toSet := by
  simp only [isSubsetOf, Bool.and_eq_true, decide_eq_true_eq, and_not_eq_zero_iff]
  constructor
  · rintro ⟨low, high⟩ i hi
    simp only [toSet, bit, Set.mem_ofPred_eq] at hi ⊢
    split at hi
    · rename_i hlt
      rw [if_pos hlt]
      exact low i hlt hi
    · rename_i hge
      rw [if_neg hge]
      exact high _ (BitVec.lt_of_getLsbD hi) hi
  · intro h
    constructor
    · intro i hi ha
      have hmem : i ∈ a.toSet := by simp [toSet, bit, hi, ha]
      simpa [toSet, bit, hi] using h hmem
    · intro i _ ha
      have hmem : i + 64 ∈ a.toSet := by simp [toSet, bit, ha]
      simpa [toSet, bit] using h hmem

theorem toSet_intersection (a b : FeatureBits) : (a.intersection b).toSet = a.toSet ∩ b.toSet := by
  ext i
  simp only [toSet, bit, intersection, Set.mem_inter_iff, Set.mem_ofPred_eq]
  split <;> simp

theorem toSet_union (a b : FeatureBits) : (a.union b).toSet = a.toSet ∪ b.toSet := by
  ext i
  simp only [toSet, bit, union, Set.mem_union, Set.mem_ofPred_eq]
  split <;> simp

end FeatureBits

/-- A word below four sets at most the features 0 and 1. -/
theorem FeatureBits.mem_toSet_of_lt_four {word : UInt64} {low high : Bool} {number : Nat}
    (small : word.toNat < 4) (hlow : word.toNat.testBit 0 = low)
    (hhigh : word.toNat.testBit 1 = high) :
    number ∈ (FeatureBits.mk word 0).toSet ↔
      (number = 0 ∧ low = true) ∨ (number = 1 ∧ high = true) := by
  simp only [toSet, bit, Set.mem_ofPred_eq, BitVec.getLsbD, UInt64.toNat_toBitVec]
  match number with
  | 0 => simp [← hlow]
  | 1 => simp [← hhigh]
  | number + 2 =>
    have hpow : 2 ^ 2 ≤ 2 ^ (number + 2) := Nat.pow_le_pow_right (by omega) (by omega)
    have hclear : word.toNat.testBit (number + 2) = false := Nat.testBit_lt_two_pow (by omega)
    split <;> simp [hclear]

/-- The feature that a backed atomic stands for. -/
theorem AtomicOffer.mem_features {offer : AtomicOffer} {number : Nat} :
    number ∈ offer.features.toSet ↔
      (number = 0 ∧ offer.u32LockFree = true) ∨ (number = 1 ∧ offer.u64LockFree = true) := by
  unfold features
  cases offer.u32LockFree <;> cases offer.u64LockFree <;>
    exact FeatureBits.mem_toSet_of_lt_four (by decide) (by decide) (by decide)

/-! ### What a transcript records -/

theorem AtomicOffer.not_alignmentsDiffer_self (offer : AtomicOffer) :
    ¬ offer.AlignmentsDiffer offer := by
  simp [AlignmentsDiffer]

theorem AtomicOffer.alignmentsDiffer_comm {a b : AtomicOffer} :
    a.AlignmentsDiffer b ↔ b.AlignmentsDiffer a := by
  unfold AlignmentsDiffer
  rw [ne_comm, ne_comm (a := a.u64Alignment), ne_comm (a := a.pageAlignment),
    ne_comm (a := a.cacheLineAlignment)]

/-- Under equal alignments either endpoint's own offer gives the same effective atomics. -/
theorem AtomicOffer.effective_eq {a b : AtomicOffer} (aligned : ¬ a.AlignmentsDiffer b) :
    a.effective a b = b.effective a b := by
  simp only [AlignmentsDiffer, not_or, not_not] at aligned
  obtain ⟨h1, h2, h3, h4⟩ := aligned
  simp [effective, h1, h2, h3, h4, Bool.and_comm]

theorem AtomicOffer.effective_lockFree {ours a b : AtomicOffer} :
    ((ours.effective a b).u32LockFree = true →
      ours.u32LockFree = true ∧ a.u32LockFree = true ∧ b.u32LockFree = true) ∧
    ((ours.effective a b).u64LockFree = true →
      ours.u64LockFree = true ∧ a.u64LockFree = true ∧ b.u64LockFree = true) := by
  simp [effective, and_assoc]

/-- A selected feature is known, offered by both, and backed by an atomic of both offers. -/
theorem HelloPair.of_mem_selectedFeatures {hellos : HelloPair} {ours : AtomicOffer} {number : Nat}
    (selected : number ∈ (hellos.selectedFeatures
      (ours.effective hellos.coordinator.atomics hellos.receiver.atomics)).toSet) :
    number ∈ knownFeatures.toSet ∧ number ∈ hellos.coordinator.supportedFeatures.toSet ∧
      number ∈ hellos.receiver.supportedFeatures.toSet ∧
      ((number = 0 ∧ hellos.coordinator.atomics.u32LockFree = true ∧
          hellos.receiver.atomics.u32LockFree = true) ∨
        (number = 1 ∧ hellos.coordinator.atomics.u64LockFree = true ∧
          hellos.receiver.atomics.u64LockFree = true)) := by
  simp only [selectedFeatures, FeatureBits.toSet_intersection, Set.mem_inter_iff,
    mem_features] at selected
  obtain ⟨⟨⟨coordinator, receiver⟩, known⟩, backed⟩ := selected
  refine ⟨known, coordinator, receiver, ?_⟩
  obtain ⟨rfl, lockFree⟩ | ⟨rfl, lockFree⟩ := backed
  · exact .inl ⟨rfl, (effective_lockFree.1 lockFree).2⟩
  · exact .inr ⟨rfl, (effective_lockFree.2 lockFree).2⟩

namespace NegotiatedTranscript

variable {host : Host} {sha256 : Bytes → FixedBytes 32}

/-- What `from_hello_pair` has checked when it returns. -/
structure Agreeable (host : Host) (hellos : HelloPair) (ours : AtomicOffer) : Prop where
  coordinator_valid : hellos.coordinator.Valid host.usize
  receiver_valid : hellos.receiver.Valid host.usize
  coordinator_role : hellos.coordinator.role = .coordinator
  receiver_role : hellos.receiver.role = .receiver
  nonce_eq : hellos.coordinator.nonce = hellos.receiver.nonce
  coordinator_target : hellos.coordinator.target = TargetFacts.current host
  receiver_target : hellos.receiver.target = TargetFacts.current host
  coordinator_aligned : ¬ hellos.coordinator.atomics.AlignmentsDiffer ours
  receiver_aligned : ¬ hellos.receiver.atomics.AlignmentsDiffer ours
  required_selected : hellos.requiredFeatures.isSubsetOf (hellos.selectedFeatures
    (ours.effective hellos.coordinator.atomics hellos.receiver.atomics)) = true

theorem fromHelloPair_eq_ok {hellos : HelloPair} {capabilities : AtomicCapabilities}
    {transcript : NegotiatedTranscript} :
    fromHelloPair host sha256 hellos capabilities = .ok transcript ↔
      ∃ ours stream, AtomicOffer.fromLocal capabilities = .ok ours ∧ Agreeable host hellos ours ∧
        canonicalHelloStream hellos.coordinator hellos.receiver = .ok stream ∧
        transcript = agreed host sha256 hellos ours
          (hellos.coordinator.limits.pointwiseMin hellos.receiver.limits) stream := by
  simp only [fromHelloPair, reduce, bind_eq_ok, HelloFrame.validate_eq_ok, rejectIf_eq_ok,
    forM_eq_ok, mapError_eq_ok, SessionLimits.negotiate_eq_ok, pure_eq_ok, exists_const, not_or,
    not_not, forall_mem_cons, not_mem_nil, false_implies, implies_true, and_true]
  constructor
  · rintro ⟨hc, hr, ⟨roleC, roleR⟩, nonce, ⟨targetC, targetR⟩, ours, hours, ⟨alignC, alignR⟩,
      required, _, ⟨-, -, rfl⟩, stream, hstream, rfl⟩
    exact ⟨ours, stream, hours, ⟨hc, hr, roleC, roleR, nonce, targetC, targetR, alignC, alignR,
      required⟩, hstream, rfl⟩
  · rintro ⟨ours, stream, hours, ⟨hc, hr, roleC, roleR, nonce, targetC, targetR, alignC, alignR,
      required⟩, hstream, rfl⟩
    exact ⟨hc, hr, ⟨roleC, roleR⟩, nonce, ⟨targetC, targetR⟩, ours, hours, ⟨alignC, alignR⟩,
      required, _, ⟨hc.limits, hr.limits, rfl⟩, stream, hstream, rfl⟩

/-- Both endpoints reduce the pair the same way, also when they fail. -/
theorem reduce_local_irrelevant (hellos : HelloPair) :
    reduce host sha256 hellos hellos.coordinator.atomics =
      reduce host sha256 hellos hellos.receiver.atomics := by
  have hself := not_alignmentsDiffer_self
  by_cases differ : hellos.coordinator.atomics.AlignmentsDiffer hellos.receiver.atomics
  · have differ' := alignmentsDiffer_comm.mp differ
    simp [reduce, forM_cons, rejectIf, fail, hself, differ, differ', bind, Except.bind]
  · have differ' := mt alignmentsDiffer_comm.mp differ
    have heffective := effective_eq differ
    simp only [reduce, agreed, heffective, forM_cons, forM_nil, rejectIf, hself, differ,
      differ', if_false]

theorem fromHelloPair_local_irrelevant {coordinator receiver : HelloFrame}
    {atCoordinator atReceiver : AtomicCapabilities}
    (offered : AtomicOffer.fromLocal atCoordinator = .ok coordinator.atomics)
    (offered' : AtomicOffer.fromLocal atReceiver = .ok receiver.atomics) :
    fromHelloPair host sha256 ⟨coordinator, receiver⟩ atCoordinator =
      fromHelloPair host sha256 ⟨coordinator, receiver⟩ atReceiver := by
  have same : reduce host sha256 ⟨coordinator, receiver⟩ coordinator.atomics =
      reduce host sha256 ⟨coordinator, receiver⟩ receiver.atomics :=
    reduce_local_irrelevant ⟨coordinator, receiver⟩
  simp only [fromHelloPair, offered, offered', ok_bind, same]

theorem noFault_fromLocal (capabilities : AtomicCapabilities) :
    NoFault (AtomicOffer.fromLocal capabilities) := by
  refine noFault_bind (noFault_okOr _ _) fun _ _ => ?_
  refine noFault_bind (noFault_okOr _ _) fun _ _ => ?_
  refine noFault_bind (noFault_okOr _ _) fun _ _ => ?_
  refine noFault_bind (noFault_okOr _ _) fun _ _ => ?_
  exact noFault_rejectIf_bind fun _ => noFault_pure _

/-- The `expect` on the payload lengths is never reached with a length above `u32`. -/
theorem noFault_fromHelloPair (hellos : HelloPair) (capabilities : AtomicCapabilities) :
    NoFault (fromHelloPair host sha256 hellos capabilities) := by
  refine noFault_bind (HelloFrame.noFault_validate _) fun _ hc => ?_
  refine noFault_bind (HelloFrame.noFault_validate _) fun _ hr => ?_
  refine noFault_rejectIf_bind fun _ => ?_
  refine noFault_rejectIf_bind fun _ => ?_
  refine noFault_rejectIf_bind fun _ => ?_
  refine noFault_bind (noFault_fromLocal _) fun _ _ => ?_
  refine noFault_bind (noFault_forM fun _ _ => noFault_rejectIf _ _) fun _ _ => ?_
  refine noFault_rejectIf_bind fun _ => ?_
  have validC := HelloFrame.validate_eq_ok.mp hc
  have validR := HelloFrame.validate_eq_ok.mp hr
  obtain ⟨_, _, -, -, hstream⟩ := canonicalHelloStream_eq validC validR
  rw [SessionLimits.negotiate_eq_ok.mpr ⟨validC.limits, validR.limits, rfl⟩, hstream]
  exact noFault_ok _

/-- Two endpoints on one target that each offer their own atomics reach the same transcript or the
    same error, and a transcript records what both agreed to. -/
theorem negotiation_sound_and_symmetric (host : Host) (sha256 : Bytes → FixedBytes 32)
    {coordinator receiver : HelloFrame} {atCoordinator atReceiver : AtomicCapabilities}
    (offered : AtomicOffer.fromLocal atCoordinator = .ok coordinator.atomics)
    (offered' : AtomicOffer.fromLocal atReceiver = .ok receiver.atomics) :
    fromHelloPair host sha256 ⟨coordinator, receiver⟩ atCoordinator =
        fromHelloPair host sha256 ⟨coordinator, receiver⟩ atReceiver ∧
      NoFault (fromHelloPair host sha256 ⟨coordinator, receiver⟩ atCoordinator) ∧
      (∀ transcript, fromHelloPair host sha256 ⟨coordinator, receiver⟩ atCoordinator =
          .ok transcript →
        coordinator.requiredFeatures.toSet ⊆ transcript.selectedFeatures.toSet ∧
        receiver.requiredFeatures.toSet ⊆ transcript.selectedFeatures.toSet ∧
        (∀ number ∈ transcript.selectedFeatures.toSet,
          number ∈ knownFeatures.toSet ∧ number ∈ coordinator.supportedFeatures.toSet ∧
          number ∈ receiver.supportedFeatures.toSet ∧
          ((number = 0 ∧ coordinator.atomics.u32LockFree = true ∧
              receiver.atomics.u32LockFree = true) ∨
            (number = 1 ∧ coordinator.atomics.u64LockFree = true ∧
              receiver.atomics.u64LockFree = true))) ∧
        transcript.effectiveLimits = coordinator.limits.pointwiseMin receiver.limits ∧
        transcript.effectiveLimits.validate host.usize = .ok transcript.effectiveLimits) ∧
      (∀ ours theirs : SessionLimits, ours.validate host.usize = .ok ours →
        theirs.validate host.usize = .ok theirs →
        ∃ effective, SessionLimits.negotiate host.usize ours theirs = .ok effective ∧
          SessionLimits.negotiate host.usize theirs ours = .ok effective) := by
  refine ⟨fromHelloPair_local_irrelevant offered offered', noFault_fromHelloPair _ _, ?_, ?_⟩
  · intro transcript run
    obtain ⟨ours, stream, -, agreeable, -, rfl⟩ := fromHelloPair_eq_ok.mp run
    have required := FeatureBits.isSubsetOf_iff.mp agreeable.required_selected
    rw [HelloPair.requiredFeatures, FeatureBits.toSet_union, Set.union_subset_iff] at required
    refine ⟨required.1, required.2, ?_, rfl, ?_⟩
    · intro number selected
      exact @HelloPair.of_mem_selectedFeatures ⟨coordinator, receiver⟩ ours number selected
    · have valid := agreeable.coordinator_valid.limits.pointwiseMin agreeable.receiver_valid.limits
      exact SessionLimits.validate_eq_ok.mpr ⟨valid, rfl⟩
  · intro ours theirs valid valid'
    have hours := (SessionLimits.validate_eq_ok.mp valid).1
    have htheirs := (SessionLimits.validate_eq_ok.mp valid').1
    refine ⟨_, SessionLimits.negotiate_eq_ok.mpr ⟨hours, htheirs, rfl⟩, ?_⟩
    exact SessionLimits.negotiate_eq_ok.mpr ⟨htheirs, hours, SessionLimits.pointwiseMin_comm _ _⟩

/-- Only one of the two endpoints has lock-free 64-bit atomics; both select 32-bit atomics only. -/
theorem negotiation_sound_and_symmetric_sample :
    ∃ transcript, transcript.selectedFeatures = featureAtomicU32 ∧
      fromHelloPair sampleHost (fun _ => FixedBytes.zero 32)
          ⟨sampleHello .coordinator true 4 [1], sampleHello .receiver false 8 [2, 3]⟩
          (sampleAtomics true) = .ok transcript ∧
      fromHelloPair sampleHost (fun _ => FixedBytes.zero 32)
          ⟨sampleHello .coordinator true 4 [1], sampleHello .receiver false 8 [2, 3]⟩
          (sampleAtomics false) = .ok transcript := by
  have offered : AtomicOffer.fromLocal (sampleAtomics true) =
      .ok (sampleHello .coordinator true 4 [1]).atomics := by decide
  have offered' : AtomicOffer.fromLocal (sampleAtomics false) =
      .ok (sampleHello .receiver false 8 [2, 3]).atomics := by decide
  have same := (negotiation_sound_and_symmetric sampleHost (fun _ => FixedBytes.zero 32)
    offered offered').1
  have returns := eq_ok_get (x := fromHelloPair sampleHost (fun _ => FixedBytes.zero 32)
    ⟨sampleHello .coordinator true 4 [1], sampleHello .receiver false 8 [2, 3]⟩
    (sampleAtomics true)) (by decide +kernel)
  refine ⟨_, ?_, returns, same.symm.trans returns⟩
  decide +kernel

end NegotiatedTranscript

end NativeIpc.Session
