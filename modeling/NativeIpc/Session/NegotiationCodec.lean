import NativeIpc.Session.Negotiation

/-!
# The negotiation codec is exact

A frame is a head, a nonce, 134 bytes that depend on its kind, 26 zeros and the
payload of a HELLO. The encoders leave this image whatever the destination held
before, and the decoder accepts exactly the images of valid frames.
-/

namespace NativeIpc.Session

open NativeIpc.Lib Bytes Run List NegotiationFrame

/-! ### The image of a frame -/

/-- The fields of two feature words. -/
def FeatureBits.fields (features : FeatureBits) : List Bytes :=
  [ofLe 8 features.word0.toNat, ofLe 8 features.word1.toNat]

/-- The fields of the limits in the order of their offsets. -/
def SessionLimits.fields (limits : SessionLimits) : List Bytes :=
  [ofLe 2 limits.maxRegionsPerBatch.toNat, ofLe 2 (0 : UInt16).toNat,
    ofLe 4 limits.maxActiveRegions.toNat, ofLe 8 limits.maxRegionBytes.toNat,
    ofLe 8 limits.maxBatchBytes.toNat, ofLe 8 limits.maxActiveBytes.toNat,
    ofLe 8 limits.maxTransactions.toNat, ofLe 4 limits.maxBootstrapPayloadBytes.toNat,
    ofLe 4 limits.maxControlPayloadBytes.toNat]

/-- The fields of an atomic offer in the order of their offsets. -/
def AtomicOffer.fields (offer : AtomicOffer) : List Bytes :=
  [ofLe 4 offer.flags.toNat, ofLe 2 offer.u32Alignment.toNat, ofLe 2 offer.u64Alignment.toNat,
    ofLe 4 offer.pageAlignment.toNat, ofLe 4 offer.cacheLineAlignment.toNat]

/-- The fields of the target facts in the order of their offsets. -/
def TargetFacts.fields (target : TargetFacts) : List Bytes :=
  [ofLe 2 target.os.toNat, ofLe 2 target.architecture.toNat, [target.pointerWidth],
    [target.endian]]

/-- The fields before the reason word. -/
def headFields (kind : UInt16) (role : SenderRole) (payloadLen : Nat) : List Bytes :=
  [helloMagic, ofLe 2 wireMajor.toNat, ofLe 2 wireMinor.toNat, ofLe 2 kind.toNat, [role.toUInt8],
    [0], ofLe 4 helloHeaderLen, ofLe 4 (helloHeaderLen + payloadLen), ofLe 4 payloadLen]

namespace NegotiationFrame

/-- The kind word of a frame. -/
def kind : NegotiationFrame → UInt16
  | hello _ => kindHello
  | accept _ => kindAccept
  | reject _ => kindReject

/-- The reason word of a frame. -/
def reason : NegotiationFrame → UInt32
  | hello _ => 0
  | accept _ => 0
  | reject frame => frame.reason.value

/-- The fields between the nonce and the reserved tail. -/
def bodyFields : NegotiationFrame → List Bytes
  | hello frame =>
    frame.supportedFeatures.fields ++ frame.requiredFeatures.fields ++ frame.limits.fields ++
      frame.atomics.fields ++ frame.target.fields ++ [List.replicate 32 0]
  | accept frame =>
    frame.selectedFeatures.fields ++ [frame.decisionChallenge.bytes.list] ++
      frame.effectiveLimits.fields ++ frame.atomics.fields ++ frame.target.fields ++
      [frame.helloDigest.list]
  | reject frame =>
    [List.replicate 16 0, frame.decisionChallenge.bytes.list, List.replicate 102 0]

/-- The fields of a frame in the order of their offsets. -/
def fields (frame : NegotiationFrame) : List Bytes :=
  headFields frame.kind frame.role frame.payload.length ++
    [ofLe 4 frame.reason.toNat, frame.nonce.list] ++ frame.bodyFields ++
    [List.replicate 26 0, frame.payload]

/-- The bytes of a frame. -/
def image (frame : NegotiationFrame) : Bytes := frame.fields.flatten

end NegotiationFrame

open FeatureBits

section Lengths

@[simp] theorem length_helloMagic : helloMagic.length = 8 := rfl

theorem FeatureBits.length_fields (features : FeatureBits) :
    features.fields.flatten.length = 16 := by
  simp [fields]

theorem SessionLimits.length_fields (limits : SessionLimits) :
    limits.fields.flatten.length = 48 := by
  simp [fields]

theorem AtomicOffer.length_fields (offer : AtomicOffer) : offer.fields.flatten.length = 16 := by
  simp [fields]

theorem TargetFacts.length_fields (target : TargetFacts) : target.fields.flatten.length = 6 := by
  simp [fields]

theorem length_headFields (kind : UInt16) (role : SenderRole) (payloadLen : Nat) :
    (headFields kind role payloadLen).flatten.length = 28 := by
  simp [headFields]

theorem NegotiationFrame.length_bodyFields (frame : NegotiationFrame) :
    frame.bodyFields.flatten.length = 134 := by
  cases frame with
  | hello frame =>
    simp only [bodyFields, flatten_append, length_append, length_fields,
      SessionLimits.length_fields, AtomicOffer.length_fields, TargetFacts.length_fields]
    simp
  | accept frame =>
    simp only [bodyFields, flatten_append, length_append, length_fields,
      SessionLimits.length_fields, AtomicOffer.length_fields, TargetFacts.length_fields]
    simp [frame.decisionChallenge.bytes.length_eq, frame.helloDigest.length_eq]
  | reject frame => simp [bodyFields, frame.decisionChallenge.bytes.length_eq]

theorem NegotiationFrame.length_image (frame : NegotiationFrame) :
    frame.image.length = helloHeaderLen + frame.payload.length := by
  simp only [image, fields, flatten_append, length_append, length_headFields, length_bodyFields]
  simp [frame.nonce.length_eq, helloHeaderLen]
  omega

end Lengths

/-! ### Decoding -/

open FixedBytes DecisionChallenge

section Parts

variable {source : Bytes}

theorem decodeFeatures_eq_ok {offset : Nat} {features : FeatureBits} :
    decodeFeatures source offset = .ok features ↔ FieldsAt source offset features.fields := by
  simp only [decodeFeatures, bind_eq_ok, getU64_eq_ok, pure_eq_ok, FeatureBits.fields, FieldsAt,
    length_ofLe, and_true]
  constructor
  · rintro ⟨word0, h0, word1, h1, rfl⟩
    exact ⟨h0, h1⟩
  · rintro ⟨h0, h1⟩
    exact ⟨_, h0, _, h1, rfl⟩

theorem decodeLimits_eq_ok {limits : SessionLimits} :
    decodeLimits source = .ok limits ↔ FieldsAt source 96 limits.fields := by
  simp only [decodeLimits, bind_eq_ok, rejectIf_eq_ok, getU16_eq_ok, getU32_eq_ok, getU64_eq_ok,
    pure_eq_ok, exists_const, not_not, SessionLimits.fields, FieldsAt, length_ofLe, and_true,
    Nat.reduceAdd]
  constructor
  · rintro ⟨_, reserved, rfl, _, perBatch, _, active, _, region, _, batch, _, activeBytes, _,
      transactions, _, bootstrap, _, control, rfl⟩
    exact ⟨perBatch, reserved, active, region, batch, activeBytes, transactions, bootstrap, control⟩
  · rintro ⟨perBatch, reserved, active, region, batch, activeBytes, transactions, bootstrap, control⟩
    exact ⟨_, reserved, rfl, _, perBatch, _, active, _, region, _, batch, _, activeBytes, _,
      transactions, _, bootstrap, _, control, rfl⟩

/-- The known bits of a flag word are the two capabilities. -/
theorem flags_eq_iff {flags : UInt32} {u32LockFree u64LockFree : Bool} :
    (flags &&& ~~~knownAtomicFlags = 0 ∧ decide (flags &&& atomicU32LockFree ≠ 0) = u32LockFree ∧
        decide (flags &&& atomicU64LockFree ≠ 0) = u64LockFree) ↔
      flags = (if u32LockFree then atomicU32LockFree else 0) |||
        (if u64LockFree then atomicU64LockFree else 0) := by
  constructor
  · rintro ⟨known, rfl, rfl⟩
    have hsmall : flags.toNat < 4 := by
      have h := congrArg UInt32.toNat known
      rw [UInt32.toNat_and, UInt32.toNat_not] at h
      have hround := andNot_two_pow_sub_one (w := 32) (k := 2) (by omega) flags.toNat_lt
      have hzero : andNot 32 flags.toNat (2 ^ 2 - 1) = 0 := h
      omega
    have hcases : flags = 0 ∨ flags = 1 ∨ flags = 2 ∨ flags = 3 := by
      simp only [← UInt32.toNat_inj]
      change flags.toNat = 0 ∨ flags.toNat = 1 ∨ flags.toNat = 2 ∨ flags.toNat = 3
      omega
    rcases hcases with rfl | rfl | rfl | rfl <;> decide
  · rintro rfl
    cases u32LockFree <;> cases u64LockFree <;> decide

theorem decodeAtomics_eq_ok {offer : AtomicOffer} :
    decodeAtomics source = .ok offer ↔ ¬ offer.Malformed ∧ FieldsAt source 144 offer.fields := by
  simp only [decodeAtomics, bind_eq_ok, rejectIf_eq_ok, getU16_eq_ok, getU32_eq_ok,
    AtomicOffer.validate_eq_ok, exists_const, not_not, AtomicOffer.fields, FieldsAt, length_ofLe,
    and_true, Nat.reduceAdd]
  constructor
  · rintro ⟨flags, hflags, known, _, u32, _, u64, _, page, _, line, valid, rfl⟩
    refine ⟨valid, ?_, u32, u64, page, line⟩
    rw [AtomicOffer.flags, ← flags_eq_iff.mp ⟨known, rfl, rfl⟩]
    exact hflags
  · rintro ⟨valid, hflags, u32, u64, page, line⟩
    obtain ⟨known, h32, h64⟩ := flags_eq_iff.mpr (rfl : offer.flags = _)
    refine ⟨offer.flags, hflags, known, _, u32, _, u64, _, page, _, line, ?_⟩
    rw [h32, h64]
    exact ⟨valid, rfl⟩

theorem decodeTarget_eq_ok {target : TargetFacts} :
    decodeTarget source = .ok target ↔ ¬ target.Malformed ∧ FieldsAt source 160 target.fields := by
  simp only [decodeTarget, bind_eq_ok, getU16_eq_ok, getU8_eq_ok, TargetFacts.validate_eq_ok,
    TargetFacts.fields, FieldsAt, length_ofLe, length_singleton, and_true, Nat.reduceAdd]
  constructor
  · rintro ⟨_, os, _, arch, _, width, _, endian, valid, rfl⟩
    exact ⟨valid, os, arch, width, endian⟩
  · rintro ⟨valid, os, arch, width, endian⟩
    exact ⟨_, os, _, arch, _, width, _, endian, valid, rfl⟩

variable {role : SenderRole}

theorem SenderRole.decode_eq_ok {byte : UInt8} :
    SenderRole.decode byte = .ok role ↔ [byte] = [role.toUInt8] := by
  unfold SenderRole.decode
  split
  · subst byte
    cases role <;> simp [toUInt8]
  · split
    · subst byte
      cases role <;> simp [toUInt8]
    · cases role <;> simp_all [fail, toUInt8]

theorem DecisionChallenge.decode_eq_ok {bytes : FixedBytes 16} {challenge : DecisionChallenge} :
    decode bytes = .ok challenge ↔ bytes = challenge.bytes := by
  unfold decode
  split
  · subst bytes
    simp [fail, eq_comm, challenge.ne_zero]
  · simp only [Except.ok.injEq]
    constructor
    · rintro rfl
      rfl
    · rintro rfl
      rfl

theorem NonZeroU32.new_eq_some {value : UInt32} {word : NonZeroU32} :
    NonZeroU32.new value = some word ↔ value = word.value := by
  unfold NonZeroU32.new
  split
  · subst value
    simp [eq_comm, word.ne_zero]
  · simp only [Option.some.injEq]
    constructor
    · rintro rfl
      rfl
    · rintro rfl
      rfl

/-- A slice without a byte other than zero. -/
theorem not_exists_ne_zero_iff {start stop : Nat} (room : stop ≤ source.length) :
    (¬ ∃ byte ∈ source.extract start stop, byte ≠ 0) ↔
      source.extract start stop = replicate (stop - start) 0 := by
  rw [eq_replicate_iff, length_extract_of_le room]
  simp

/-- The head is accepted where its fields, the nonce and the zero tail stand. -/
theorem decodeHead_eq_ok {t : Target} {nonce : FixedBytes 32} {head : FrameHead} :
    decodeHead t source role nonce = .ok head ↔
      head.role = role ∧ head.nonce = nonce ∧ nonce ≠ zero 32 ∧
        helloHeaderLen + head.payloadLen.toNat < 2 ^ 32 ∧
        source.length = helloHeaderLen + head.payloadLen.toNat ∧
        FieldsAt source 0 (headFields head.kind head.role head.payloadLen.toNat) ∧
        source.extract 32 64 = head.nonce.list ∧
        source.extract 198 224 = replicate 26 0 := by
  by_cases hroom : 224 ≤ source.length
  · simp only [decodeHead, bind_eq_ok, rejectIf_eq_ok, slice_eq_ok, getU16_eq_ok, getU32_eq_ok,
      getU8_eq_ok, toFixed_eq_ok, SenderRole.decode_eq_ok, okOr_eq_ok, checkedAdd_eq_some,
      pure_eq_ok, exists_const, not_or, not_not, headFields, FieldsAt, length_ofLe,
      length_helloMagic, length_singleton, and_true, Nat.reduceAdd]
    constructor
    · rintro ⟨-, _, ⟨-, rfl⟩, magic, _, major, _, minor, ⟨rfl, rfl⟩, kind, hkind, byte, hbyte,
        found, hfound, rfl, _, reserved, _, size, _, ⟨-, rfl⟩, ⟨rfl, rfl, tail⟩, frameLen, hframe,
        payloadLen, hpayload, _, ⟨-, rfl⟩, ⟨frameEq, lenEq⟩, _, ⟨-, rfl⟩, found, nonceEq, ⟨nonzero,
        rfl⟩, rfl⟩
      have hlt : frameLen.toNat < 2 ^ 32 := frameLen.toNat_lt
      rw [not_exists_ne_zero_iff hroom] at tail
      refine ⟨rfl, rfl, nonzero, frameEq ▸ hlt, lenEq, ⟨magic, major, minor, hkind, ?_, reserved,
        size, ?_, hpayload⟩, nonceEq, tail⟩
      · rw [hbyte, hfound]
      · rw [← frameEq]
        exact hframe
    · rintro ⟨rfl, rfl, nonzero, hlt, lenEq, ⟨magic, major, minor, hkind, hrole, reserved, size,
        hframe, hpayload⟩, nonceEq, tail⟩
      have hframeLen : (UInt32.ofNat (helloHeaderLen + head.payloadLen.toNat)).toNat =
          helloHeaderLen + head.payloadLen.toNat := UInt32.toNat_ofNat_of_lt' hlt
      rw [← not_exists_ne_zero_iff hroom] at tail
      exact ⟨Nat.not_lt.mpr hroom, _, ⟨by omega, rfl⟩, magic, _, major, _, minor, ⟨rfl, rfl⟩, _,
        hkind, _, hrole, _, rfl, rfl, _, reserved, UInt32.ofNat helloHeaderLen, size, _, ⟨by omega,
        rfl⟩, ⟨rfl, rfl, tail⟩, _, by rw [hframeLen]; exact hframe, _, hpayload, _, ⟨t.u32_fits hlt,
        rfl⟩, ⟨hframeLen, lenEq⟩, _, ⟨by omega, rfl⟩, _, nonceEq, ⟨nonzero, rfl⟩, rfl⟩
  · constructor
    · intro h
      obtain ⟨_, long, -⟩ := bind_eq_ok.mp h
      exact absurd (Nat.not_lt.mp (rejectIf_eq_ok.mp long)) hroom
    · rintro ⟨-, -, -, -, lenEq, -⟩
      exact absurd (lenEq ▸ Nat.le_add_right _ _) hroom

end Parts

open HelloFrame

section Kinds

variable {t : Target} {source : Bytes} {head : FrameHead}
  (sized : source.length = helloHeaderLen + head.payloadLen.toNat)
include sized

open NegotiationFrame

theorem decodeHello_eq_ok {limit : UInt32} {frame : HelloFrame} :
    decodeHello t source head limit = .ok frame ↔
      (frame.role = head.role ∧ frame.nonce = head.nonce) ∧ frame.Valid t ∧
        frame.applicationPayload.length ≤ limit.toNat ∧
        source.extract 28 32 = ofLe 4 (0 : UInt32).toNat ∧
        FieldsAt source 64 (hello frame).bodyFields ∧
        source.extract helloHeaderLen source.length = frame.applicationPayload := by
  have hlen : source.length = 224 + head.payloadLen.toNat := sized
  have hroom : helloHeaderLen ≤ source.length := sized ▸ Nat.le_add_right _ _
  have hpayload : (source.extract helloHeaderLen source.length).length = head.payloadLen.toNat := by
    rw [length_extract_of_le le_rfl, sized, Nat.add_sub_cancel_left]
  simp only [decodeHello, bind_eq_ok, getU32_eq_ok, slice_eq_ok, rejectIf_eq_ok,
    validatePayloadLen_eq_ok, decodeFeatures_eq_ok, decodeLimits_eq_ok, checkLimits_eq_ok,
    decodeAtomics_eq_ok, decodeTarget_eq_ok, validate_eq_ok, pure_eq_ok, exists_const, not_or,
    not_not, bodyFields, fieldsAt_append_iff, flatten_append, length_append, length_fields,
    SessionLimits.length_fields, AtomicOffer.length_fields, TargetFacts.length_fields, FieldsAt,
    length_replicate, and_true, Nat.reduceAdd]
  constructor
  · rintro ⟨_, reason, _, ⟨-, rfl⟩, ⟨rfl, digest⟩, ⟨-, small⟩, supported, hsupported, required,
      hrequired, -, limits, hlimits, _, ⟨-, rfl⟩, atomics, ⟨-, hatomics⟩, target, ⟨-, htarget⟩, -,
      payload, ⟨-, part⟩, valid, rfl⟩
    rw [not_exists_ne_zero_iff (by omega)] at digest
    refine ⟨⟨rfl, rfl⟩, valid, ?_, reason, ⟨⟨⟨⟨⟨hsupported, hrequired⟩, hlimits⟩, hatomics⟩,
      htarget⟩, digest⟩, part⟩
    show payload.length ≤ limit.toNat
    rw [← part, hpayload]
    exact small
  · rintro ⟨⟨hrole, hnonce⟩, valid, small, reason, ⟨⟨⟨⟨⟨hsupported, hrequired⟩, hlimits⟩, hatomics⟩,
      htarget⟩, digest⟩, payload⟩
    have hsmall := valid.payload_small
    have hle := valid.payload_le
    rw [← payload, hpayload] at hsmall hle small
    refine ⟨0, reason, _, ⟨by omega, rfl⟩, ⟨rfl, (not_exists_ne_zero_iff (by omega)).mpr digest⟩,
      ⟨hsmall, small⟩, _, hsupported, _, hrequired, valid.required_supported, _, hlimits, _,
      ⟨valid.limits, rfl⟩, _, ⟨valid.atomics, hatomics⟩, _, ⟨valid.target, htarget⟩, ⟨hsmall, hle⟩,
      _, ⟨⟨hroom, le_rfl⟩, rfl⟩, ?_⟩
    rw [← hrole, ← hnonce, payload]
    exact ⟨valid, rfl⟩

theorem decodeAccept_eq_ok {frame : AcceptFrame} :
    decodeAccept t source head = .ok frame ↔
      (frame.role = head.role ∧ frame.nonce = head.nonce) ∧ frame.Valid t ∧
        head.payloadLen = 0 ∧ source.extract 28 32 = ofLe 4 (0 : UInt32).toNat ∧
        FieldsAt source 64 (accept frame).bodyFields := by
  have hlen : source.length = 224 + head.payloadLen.toNat := sized
  simp only [decodeAccept, bind_eq_ok, getU32_eq_ok, slice_eq_ok, rejectIf_eq_ok, toFixed_eq_ok,
    decodeFeatures_eq_ok, decodeLimits_eq_ok, checkLimits_eq_ok, decodeAtomics_eq_ok,
    decodeTarget_eq_ok, decode_eq_ok, AcceptFrame.validate_eq_ok, pure_eq_ok, exists_const, not_or,
    not_not, bodyFields, fieldsAt_append_iff, flatten_append, length_append, length_fields,
    SessionLimits.length_fields, AtomicOffer.length_fields, TargetFacts.length_fields, FieldsAt,
    flatten_singleton, length_eq, and_true, Nat.reduceAdd]
  constructor
  · rintro ⟨_, reason, ⟨empty, rfl⟩, selected, hselected, limits, hlimits, _, ⟨-, rfl⟩, atomics, ⟨-,
      hatomics⟩, target, ⟨-, htarget⟩, _, ⟨-, rfl⟩, digest, hdigest, _, ⟨-, rfl⟩, bytes, hchallenge,
      challenge, rfl, valid, rfl⟩
    exact ⟨⟨rfl, rfl⟩, valid, empty, reason, ⟨⟨⟨⟨hselected, hchallenge⟩, hlimits⟩, hatomics⟩,
      htarget⟩, hdigest⟩
  · rintro ⟨⟨hrole, hnonce⟩, valid, empty, reason, ⟨⟨⟨⟨hselected, hchallenge⟩, hlimits⟩, hatomics⟩,
      htarget⟩, hdigest⟩
    refine ⟨0, reason, ⟨empty, rfl⟩, _, hselected, _, hlimits, _, ⟨valid.limits, rfl⟩, _,
      ⟨valid.atomics, hatomics⟩, _, ⟨valid.target, htarget⟩, _, ⟨by omega, rfl⟩, _, hdigest, _,
      ⟨by omega, rfl⟩, _, hchallenge, _, rfl, ?_⟩
    rw [← hrole, ← hnonce]
    exact ⟨valid, rfl⟩

theorem decodeReject_eq_ok {frame : RejectFrame} :
    decodeReject source head = .ok frame ↔
      (frame.role = head.role ∧ frame.nonce = head.nonce) ∧
        frame.nonce ≠ zero 32 ∧ head.payloadLen = 0 ∧
        source.extract 28 32 = ofLe 4 frame.reason.value.toNat ∧
        FieldsAt source 64 (reject frame).bodyFields := by
  have hlen : source.length = 224 + head.payloadLen.toNat := sized
  simp only [decodeReject, bind_eq_ok, getU32_eq_ok, slice_eq_ok, rejectIf_eq_ok, toFixed_eq_ok,
    okOr_eq_ok, NonZeroU32.new_eq_some, decode_eq_ok, RejectFrame.validate_eq_ok, pure_eq_ok,
    exists_const, not_or, not_not, bodyFields, FieldsAt, length_replicate, length_eq, and_true,
    Nat.reduceAdd]
  constructor
  · rintro ⟨_, ⟨-, rfl⟩, _, ⟨-, rfl⟩, ⟨empty, features, common⟩, _, hreason, reason, rfl, _, ⟨-,
      rfl⟩, bytes, hchallenge, challenge, rfl, nonzero, rfl⟩
    rw [not_exists_ne_zero_iff (by omega)] at features common
    exact ⟨⟨rfl, rfl⟩, nonzero, empty, hreason, features, hchallenge, common⟩
  · rintro ⟨⟨hrole, hnonce⟩, nonzero, empty, hreason, features, hchallenge, common⟩
    refine ⟨_, ⟨by omega, rfl⟩, _, ⟨by omega, rfl⟩, ⟨empty,
      (not_exists_ne_zero_iff (by omega)).mpr features,
      (not_exists_ne_zero_iff (by omega)).mpr common⟩, _, hreason, _, rfl, _, ⟨by omega, rfl⟩, _,
      hchallenge, _, rfl, ?_⟩
    rw [← hrole, ← hnonce]
    exact ⟨nonzero, rfl⟩

end Kinds

variable {frame : NegotiationFrame}

namespace NegotiationFrame

/-- A buffer is the image of a frame exactly when the parts of the frame stand in it. -/
theorem eq_image_iff {source : Bytes} :
    source = frame.image ↔
      source.length = helloHeaderLen + frame.payload.length ∧
        FieldsAt source 0 (headFields frame.kind frame.role frame.payload.length) ∧
        source.extract 28 32 = ofLe 4 frame.reason.toNat ∧
        source.extract 32 64 = frame.nonce.list ∧ FieldsAt source 64 frame.bodyFields ∧
        source.extract 198 224 = replicate 26 0 ∧
        source.extract helloHeaderLen source.length = frame.payload := by
  by_cases sized : source.length = helloHeaderLen + frame.payload.length
  · have himage : source = frame.image ↔ FieldsAt source 0 frame.fields :=
      eq_flatten_iff (sized.trans frame.length_image.symm)
    rw [himage, sized]
    simp only [fields, fieldsAt_append_iff, flatten_append, length_append,
      length_headFields, length_bodyFields, FieldsAt, length_ofLe, frame.nonce.length_eq,
      length_replicate, flatten_cons, flatten_nil, length_nil, and_true,
      true_and, Nat.reduceAdd, and_assoc]
    rfl
  · constructor
    · intro h
      exact absurd (h ▸ frame.length_image) sized
    · intro h
      exact absurd h.1 sized

/-- What the frames of a peer must satisfy to be accepted. -/
structure Acceptable (t : Target) (role : SenderRole) (nonce : FixedBytes 32) (limit : UInt32)
    (frame : NegotiationFrame) : Prop where
  valid : frame.validate t = .ok ()
  role_eq : frame.role = role
  nonce_eq : frame.nonce = nonce
  payload_le : frame.payload.length ≤ limit.toNat

theorem nonce_ne_zero_of_validate {t : Target} {u : Unit}
    (h : frame.validate t = .ok u) : frame.nonce ≠ zero 32 := by
  cases frame with
  | hello frame => exact (validate_eq_ok.mp h).nonce_ne_zero
  | accept frame => exact (AcceptFrame.validate_eq_ok.mp h).nonce_ne_zero
  | reject frame => exact RejectFrame.validate_eq_ok.mp h

theorem payload_small_of_validate {t : Target} {u : Unit}
    (h : frame.validate t = .ok u) : frame.payload.length ≤ 2 ^ 24 := by
  cases frame with
  | hello frame => exact (validate_eq_ok.mp h).payload_small
  | accept frame => exact Nat.zero_le _
  | reject frame => exact Nat.zero_le _

end NegotiationFrame

section Frames

variable {t : Target} {source : Bytes} {role : SenderRole} {nonce : FixedBytes 32}
  {limit : UInt32} {frame : NegotiationFrame}

/-- A head and the rest of a frame make up its image. -/
theorem eq_image_of_head (frame : NegotiationFrame) {head : FrameHead}
    (hhead : decodeHead t source role nonce = .ok head)
    (same : frame.role = head.role ∧ frame.nonce = head.nonce) (kind : head.kind = frame.kind)
    (payloadLen : head.payloadLen.toNat = frame.payload.length)
    (reason : source.extract 28 32 = ofLe 4 frame.reason.toNat)
    (body : FieldsAt source 64 frame.bodyFields)
    (payload : source.extract helloHeaderLen source.length = frame.payload) :
    frame.role = role ∧ frame.nonce = nonce ∧ source = frame.image := by
  obtain ⟨hrole, hnonce, -, -, sized, stands, nonceStands, tail⟩ := decodeHead_eq_ok.mp hhead
  rw [payloadLen] at sized stands
  rw [kind, ← same.1] at stands
  rw [← same.2] at nonceStands
  exact ⟨same.1.trans hrole, same.2.trans hnonce, eq_image_iff.mpr
    ⟨sized, stands, reason, nonceStands, body, tail, payload⟩⟩

theorem extract_self_eq_nil (source : Bytes) (start : Nat) (short : source.length = start) :
    source.extract start source.length = [] := by
  simp [extract_eq_take_drop, short]

/-- What `decode_frame` returns is the frame whose image it read. -/
theorem of_decodeFrame (h : decodeFrame t source role nonce limit = .ok frame) :
    frame.Acceptable t role nonce limit ∧ source = frame.image := by
  obtain ⟨head, hhead, hrest⟩ := bind_eq_ok.mp h
  have sized := (decodeHead_eq_ok.mp hhead).2.2.2.2.1
  have hempty (empty : head.payloadLen = 0) : head.payloadLen.toNat = 0 := congrArg UInt32.toNat empty
  split at hrest
  · rename_i hkind
    obtain ⟨hello, hhello, hframe⟩ := bind_eq_ok.mp hrest
    cases hframe
    obtain ⟨same, valid, small, reason, body, payload⟩ := (decodeHello_eq_ok sized).mp hhello
    have hlen : head.payloadLen.toNat = hello.applicationPayload.length := by
      rw [← payload, length_extract_of_le le_rfl, sized, Nat.add_sub_cancel_left]
    obtain ⟨hrole, hnonce, himage⟩ :=
      eq_image_of_head (.hello hello) hhead same hkind hlen reason body payload
    exact ⟨⟨validate_eq_ok.mpr valid, hrole, hnonce, small⟩, himage⟩
  · split at hrest
    · rename_i hkind
      obtain ⟨accept, haccept, hframe⟩ := bind_eq_ok.mp hrest
      cases hframe
      obtain ⟨same, valid, empty, reason, body⟩ := (decodeAccept_eq_ok sized).mp haccept
      rw [hempty empty] at sized
      obtain ⟨hrole, hnonce, himage⟩ := eq_image_of_head (.accept accept) hhead same hkind
        (hempty empty) reason body (extract_self_eq_nil source _ sized)
      exact ⟨⟨AcceptFrame.validate_eq_ok.mpr valid, hrole, hnonce, Nat.zero_le _⟩, himage⟩
    · split at hrest
      · rename_i hkind
        obtain ⟨reject, hreject, hframe⟩ := bind_eq_ok.mp hrest
        cases hframe
        obtain ⟨same, valid, empty, reason, body⟩ := (decodeReject_eq_ok sized).mp hreject
        rw [hempty empty] at sized
        obtain ⟨hrole, hnonce, himage⟩ := eq_image_of_head (.reject reject) hhead same hkind
          (hempty empty) reason body (extract_self_eq_nil source _ sized)
        exact ⟨⟨RejectFrame.validate_eq_ok.mpr valid, hrole, hnonce, Nat.zero_le _⟩, himage⟩
      · cases hrest

/-- The image of an acceptable frame is read back. -/
theorem decodeFrame_image (h : frame.Acceptable t role nonce limit) :
    decodeFrame t frame.image role nonce limit = .ok frame := by
  obtain ⟨sized, headStands, reason, nonceStands, body, tail, payload⟩ :=
    eq_image_iff.mp (rfl : frame.image = frame.image)
  have hsmall := payload_small_of_validate h.valid
  have hword : (UInt32.ofNat frame.payload.length).toNat = frame.payload.length :=
    UInt32.toNat_ofNat_of_lt' (by change _ < 2 ^ 32; omega)
  let head : FrameHead :=
    { kind := frame.kind
      role := frame.role
      payloadLen := UInt32.ofNat frame.payload.length
      nonce := frame.nonce }
  have hsized : frame.image.length = helloHeaderLen + head.payloadLen.toNat := by
    rw [sized, hword]
  have hhead : decodeHead t frame.image role nonce = .ok head := by
    rw [decodeHead_eq_ok, hword]
    refine ⟨h.role_eq, h.nonce_eq, ?_, ?_, sized, headStands, nonceStands, tail⟩
    · rw [← h.nonce_eq]
      exact nonce_ne_zero_of_validate h.valid
    · rw [helloHeaderLen]
      omega
  rw [decodeFrame, hhead, ok_bind]
  cases frame with
  | hello hello =>
    have hdecode := (decodeHello_eq_ok hsized).mpr
      ⟨⟨rfl, rfl⟩, validate_eq_ok.mp h.valid, h.payload_le, reason, body, payload⟩
    have hkind : head.kind = kindHello := rfl
    rw [if_pos hkind, hdecode]
    rfl
  | accept accept =>
    have hdecode := (decodeAccept_eq_ok hsized).mpr
      ⟨⟨rfl, rfl⟩, AcceptFrame.validate_eq_ok.mp h.valid, rfl, reason, body⟩
    have hkind : head.kind = kindAccept := rfl
    rw [hkind, if_neg (by decide), if_pos rfl, hdecode]
    rfl
  | reject reject =>
    have hdecode := (decodeReject_eq_ok hsized).mpr
      ⟨⟨rfl, rfl⟩, RejectFrame.validate_eq_ok.mp h.valid, rfl, reason, body⟩
    have hkind : head.kind = kindReject := rfl
    rw [hkind, if_neg (by decide), if_neg (by decide), if_pos rfl, hdecode]
    rfl

theorem decodeFrame_eq_ok :
    decodeFrame t source role nonce limit = .ok frame ↔
      frame.Acceptable t role nonce limit ∧ source = frame.image := by
  constructor
  · exact of_decodeFrame
  · rintro ⟨acceptable, rfl⟩
    exact decodeFrame_image acceptable

theorem NegotiationFrame.validate_w64 (h : frame.validate t = .ok ()) :
    frame.validate Target.w64 = .ok () := by
  cases frame with
  | hello frame =>
    have valid := validate_eq_ok.mp h
    exact validate_eq_ok.mpr { valid with limits := valid.limits.w64 }
  | accept frame =>
    have valid := AcceptFrame.validate_eq_ok.mp h
    exact AcceptFrame.validate_eq_ok.mpr { valid with limits := valid.limits.w64 }
  | reject frame => exact h

theorem NegotiationFrame.role_stands {source : Bytes} (h : source = frame.image) :
    source.extract 14 15 = [frame.role.toUInt8] := by
  obtain ⟨-, -, -, -, stands, -⟩ := (eq_image_iff.mp h).2.1
  exact stands

/-- The bytes of a valid frame are those of no other valid frame, whatever the endpoints' word
    sizes. -/
theorem NegotiationFrame.image_inj {t' : Target} {frame' : NegotiationFrame}
    (valid : frame.validate t = .ok ()) (valid' : frame'.validate t' = .ok ())
    (same : frame.image = frame'.image) : frame = frame' := by
  have hrole : frame'.role = frame.role := by
    have h := (role_stands rfl).symm.trans (role_stands same)
    revert h
    cases frame.role <;> cases frame'.role <;> decide
  have hnonce : frame'.nonce = frame.nonce := by
    obtain ⟨-, -, -, stands, -⟩ := eq_image_iff.mp (Eq.refl frame.image)
    obtain ⟨-, -, -, stands', -⟩ := eq_image_iff.mp same
    exact ext_list (stands'.symm.trans stands)
  have small : frame.payload.length ≤ ((2 : UInt32) ^ 24).toNat := payload_small_of_validate valid
  have small' : frame'.payload.length ≤ ((2 : UInt32) ^ 24).toNat :=
    payload_small_of_validate valid'
  have first := decodeFrame_image ⟨validate_w64 valid, rfl, rfl, small⟩
  have second := decodeFrame_image ⟨validate_w64 valid', hrole, hnonce, small'⟩
  rw [← same] at second
  exact Except.ok.inj (first.symm.trans second)

end Frames

/-! ### Encoding -/

/-- The writes of `encode_into` between its `fill` and its `match`. -/
def headWrites (payloadLen : Nat) : List (Nat × Bytes) :=
  [(0, helloMagic), (8, ofLe 2 wireMajor.toNat), (10, ofLe 2 wireMinor.toNat),
    (16, ofLe 4 helloHeaderLen), (20, ofLe 4 (helloHeaderLen + payloadLen)),
    (24, ofLe 4 payloadLen)]

/-- The writes of `encode_hello_into`. -/
def HelloFrame.writes (frame : HelloFrame) : List (Nat × Bytes) :=
  [(15, [0]), (28, List.replicate 4 0), (98, List.replicate 2 0), (166, List.replicate 58 0),
    (0, helloMagic), (8, ofLe 2 wireMajor.toNat), (10, ofLe 2 wireMinor.toNat),
    (12, ofLe 2 kindHello.toNat), (14, [frame.role.toUInt8]), (16, ofLe 4 helloHeaderLen),
    (20, ofLe 4 (helloHeaderLen + frame.applicationPayload.length)),
    (24, ofLe 4 frame.applicationPayload.length)] ++
    commonWrites frame.nonce frame.supportedFeatures frame.requiredFeatures frame.limits
      frame.atomics frame.target ++
    [(helloHeaderLen, frame.applicationPayload)]

/-- The fields of a HELLO with one reserved tail. -/
def HelloFrame.fields (frame : HelloFrame) : List Bytes :=
  headFields kindHello frame.role frame.applicationPayload.length ++
    [List.replicate 4 0, frame.nonce.list] ++ frame.supportedFeatures.fields ++
    frame.requiredFeatures.fields ++ frame.limits.fields ++ frame.atomics.fields ++
    frame.target.fields ++ [List.replicate 58 0, frame.applicationPayload]

namespace NegotiationFrame

/-- What no write for its kind touches in a frame: the zeros and an empty payload. -/
def gaps : NegotiationFrame → List (Nat × Bytes)
  | hello _ => [(15, [0]), (28, List.replicate 4 0), (98, List.replicate 2 0),
      (166, List.replicate 32 0), (198, List.replicate 26 0)]
  | accept _ => [(15, [0]), (28, List.replicate 4 0), (98, List.replicate 2 0),
      (198, List.replicate 26 0), (224, [])]
  | reject _ => [(15, [0]), (64, List.replicate 16 0), (96, List.replicate 102 0),
      (198, List.replicate 26 0), (224, [])]

/-- The writes for a kind of frame that no later one covers: an ACCEPT writes its challenge over
    the required features. -/
def lastingWrites : NegotiationFrame → List (Nat × Bytes)
  | hello frame => kindWrites (.hello frame)
  | accept frame =>
    [(12, ofLe 2 kindAccept.toNat), (14, [frame.role.toUInt8]), (32, frame.nonce.list)] ++
      featureWrites 64 frame.selectedFeatures ++
      factWrites frame.effectiveLimits frame.atomics frame.target ++
      [(80, frame.decisionChallenge.bytes.list), (166, frame.helloDigest.list)]
  | reject frame => kindWrites (.reject frame)

/-- The writes of a frame and its gaps are its fields in some order. -/
theorem perm_lastingWrites (frame : NegotiationFrame) :
    (frame.gaps ++ (headWrites frame.payload.length ++ frame.lastingWrites)).Perm
      (placed 0 frame.fields) := by
  rw [perm_iff_count]
  intro write
  cases frame <;>
    simp only [gaps, lastingWrites, headWrites, kindWrites, commonWrites, factWrites,
      featureWrites, kind, role, nonce, reason, payload, fields, headFields, bodyFields,
      FeatureBits.fields, SessionLimits.fields, AtomicOffer.fields, TargetFacts.fields, placed,
      cons_append, nil_append, length_ofLe, length_helloMagic, length_cons,
      length_nil, length_replicate, length_eq, Nat.reduceAdd, Nat.zero_add,
      count_cons, count_nil, helloHeaderLen, UInt16.toNat_zero, UInt32.toNat_zero,
      ofLe_zero] <;>
    ring

end NegotiationFrame

/-- So are the writes of `encode_hello_into`. -/
theorem HelloFrame.perm_writes (frame : HelloFrame) :
    frame.writes.Perm (placed 0 frame.fields) := by
  rw [perm_iff_count]
  intro write
  simp only [writes, commonWrites, factWrites, featureWrites, fields, headFields,
    FeatureBits.fields, SessionLimits.fields, AtomicOffer.fields, TargetFacts.fields, placed,
    cons_append, nil_append, length_ofLe, length_helloMagic, length_cons,
    length_nil, length_replicate, length_eq, Nat.reduceAdd, Nat.zero_add,
    count_cons, count_nil, helloHeaderLen, UInt16.toNat_zero, ofLe_zero]
  ring

theorem HelloFrame.flatten_fields (frame : HelloFrame) :
    frame.fields.flatten = (NegotiationFrame.hello frame).image := by
  have htail : replicate 58 (0 : UInt8) = replicate 32 0 ++ replicate 26 0 := rfl
  simp only [fields, NegotiationFrame.image, NegotiationFrame.fields, NegotiationFrame.bodyFields,
    NegotiationFrame.reason, UInt32.toNat_zero, ofLe_zero, htail, flatten_append,
    flatten_cons, flatten_nil, append_assoc, append_nil]
  rfl

/-! ### The encoders leave the image -/

section Encoders

variable {t : Target} {destination : Bytes}

theorem encodedLen_eq (valid : frame.validate t = .ok ()) :
    frame.encodedLen t = .ok (helloHeaderLen + frame.payload.length) := by
  have hsmall := payload_small_of_validate valid
  have hfits : helloHeaderLen + frame.payload.length < 2 ^ t.bits :=
    t.u32_fits (by rw [helloHeaderLen]; omega)
  rw [NegotiationFrame.encodedLen, valid, ok_bind, okOr_eq_ok, checkedAdd_eq_some]
  exact ⟨hfits, rfl⟩

/-- Zeros that fill the front of a buffer stand at every gap. -/
theorem extract_zeros {size start width : Nat} (rest : Bytes) (inside : start + width ≤ size) :
    (replicate size 0 ++ rest).extract start (start + width) = replicate width 0 := by
  rw [extract_eq_take_drop, Nat.add_sub_cancel_left, drop_append_of_le_length
    (by rw [length_replicate]; omega), drop_replicate, take_append_of_le_length
    (by rw [length_replicate]; omega), take_replicate, Nat.min_eq_left (by omega)]

namespace NegotiationFrame

section

variable (frame : NegotiationFrame)

/-- The destination of a frame after its front was filled with zeros. -/
def zeroed (rest : Bytes) : Bytes :=
  List.replicate (helloHeaderLen + frame.payload.length) 0 ++ rest

theorem length_zeroed (rest : Bytes) :
    (frame.zeroed rest).length = helloHeaderLen + frame.payload.length + rest.length := by
  simp [zeroed]

theorem zeroed_stand (rest : Bytes) (start width : Nat) (inside : start + width ≤ helloHeaderLen) :
    (frame.zeroed rest).extract start (start + (replicate width (0 : UInt8)).length) =
      replicate width 0 := by
  rw [length_replicate]
  exact extract_zeros rest (inside.trans (Nat.le_add_right _ _))

theorem gaps_stand (rest : Bytes) :
    ∀ write ∈ frame.gaps,
      (frame.zeroed rest).extract write.1 (write.1 + write.2.length) = write.2 := by
  have hzero := frame.zeroed_stand rest
  cases frame <;> simp only [gaps, forall_mem_cons, not_mem_nil, false_implies,
    implies_true, and_true]
  · exact ⟨hzero 15 1 (by decide), hzero 28 4 (by decide), hzero 98 2 (by decide),
      hzero 166 32 (by decide), hzero 198 26 (by decide)⟩
  · exact ⟨hzero 15 1 (by decide), hzero 28 4 (by decide), hzero 98 2 (by decide),
      hzero 198 26 (by decide), hzero 224 0 (by decide)⟩
  · exact ⟨hzero 15 1 (by decide), hzero 64 16 (by decide), hzero 96 102 (by decide),
      hzero 198 26 (by decide), hzero 224 0 (by decide)⟩

/-- The two words of the empty required features are zeros over zeros. -/
theorem overwriteAll_required (rest : Bytes) {front : List (Nat × Bytes)}
    (below : ∀ write ∈ front, write.1 + write.2.length ≤ 80) (writes : List (Nat × Bytes)) :
    (frame.zeroed rest).overwriteAll (front ++ (featureWrites 80 default ++ writes)) =
      (frame.zeroed rest).overwriteAll (front ++ writes) := by
  have hwords : featureWrites 80 default ++ writes =
      (80, replicate 8 0) :: (88, replicate 8 0) :: writes := rfl
  have hroom : 224 ≤ (frame.zeroed rest).length := by
    rw [length_zeroed, helloHeaderLen, Nat.add_assoc]
    exact Nat.le_add_right _ _
  have hfit (start : Nat) (inside : start + 8 ≤ 224) :
      Fit (frame.zeroed rest).length ((start, replicate 8 0) :: front) := by
    refine fit_cons.mpr ⟨inside.trans hroom, fun write hwrite => ?_⟩
    exact (below write hwrite).trans (by omega)
  rw [hwords, overwriteAll_skip (hfit 80 (by omega)) (fun write hwrite => .inr (below write hwrite))
      (frame.zeroed_stand rest 80 8 (by decide)),
    overwriteAll_skip (hfit 88 (by omega))
      (fun write hwrite => .inr ((below write hwrite).trans (by decide)))
      (frame.zeroed_stand rest 88 8 (by decide))]

/-- On zeros, the writes for a kind leave what the lasting ones leave. -/
theorem overwriteAll_kindWrites (rest : Bytes) :
    (frame.zeroed rest).overwriteAll (headWrites frame.payload.length ++ frame.kindWrites) =
      (frame.zeroed rest).overwriteAll (headWrites frame.payload.length ++ frame.lastingWrites) := by
  cases frame with
  | hello frame => rfl
  | accept frame =>
    let front := headWrites 0 ++ [(12, ofLe 2 kindAccept.toNat), (14, [frame.role.toUInt8]),
      (32, frame.nonce.list)] ++ featureWrites 64 frame.selectedFeatures
    let back := factWrites frame.effectiveLimits frame.atomics frame.target ++
      [(80, frame.decisionChallenge.bytes.list), (166, frame.helloDigest.list)]
    have hall : headWrites 0 ++ kindWrites (.accept frame) =
        front ++ (featureWrites 80 default ++ back) := by
      simp only [kindWrites, commonWrites, front, back, append_assoc, cons_append, nil_append]
    have hlasting : headWrites 0 ++ lastingWrites (.accept frame) = front ++ back := by
      simp only [lastingWrites, front, back, append_assoc]
    have below : ∀ write ∈ front, write.1 + write.2.length ≤ 80 := by
      simp [front, headWrites, featureWrites, frame.nonce.length_eq]
    rw [show (accept frame).payload.length = 0 from rfl, hall, hlasting]
    exact overwriteAll_required (.accept frame) rest below back
  | reject frame => rfl

/-- The writes of `encode_into` leave the image and the rest of the destination. -/
theorem overwriteAll_image (rest : Bytes) :
    (frame.zeroed rest).overwriteAll (headWrites frame.payload.length ++ frame.kindWrites) =
      frame.image ++ rest := by
  have hroom : frame.fields.flatten.length ≤ (frame.zeroed rest).length := by
    rw [← image, frame.length_image, length_zeroed]
    exact Nat.le_add_right _ _
  have hcover := overwriteAll_covering frame.perm_lastingWrites hroom
  rw [overwriteAll_append, overwriteAll_eq_self (frame.gaps_stand rest), ← image,
    frame.length_image] at hcover
  rw [overwriteAll_kindWrites, hcover, zeroed, drop_left' length_replicate]

theorem fit_kindWrites :
    Fit (helloHeaderLen + frame.payload.length)
      (headWrites frame.payload.length ++ frame.kindWrites) := by
  cases frame <;>
    simp [Fit, headWrites, kindWrites, commonWrites, factWrites, featureWrites, payload,
      helloHeaderLen, length_eq]
  omega

end

/-- The statements of `encode_into` are its `fill` and its writes. -/
theorem encodeInto_eq_putAll (valid : frame.validate t = .ok ())
    (room : helloHeaderLen + frame.payload.length ≤ destination.length) :
    frame.encodeInto t destination = (do
      let wire ← put destination 0 (replicate (helloHeaderLen + frame.payload.length) 0)
      let wire ← putAll wire (headWrites frame.payload.length ++ frame.kindWrites)
      pure (helloHeaderLen + frame.payload.length, wire)) := by
  have hsmall := payload_small_of_validate valid
  have hheader : helloHeaderLen = 224 := rfl
  have hshort : rejectIf (destination.length < helloHeaderLen + frame.payload.length)
      NegotiationWireError.destinationTooSmall = .ok () := if_neg (Nat.not_lt.mpr room)
  obtain ⟨frameLen, hframe, hframeLen⟩ :=
    ControlState.exists_u32TryFrom (helloHeaderLen + frame.payload.length) (by omega)
  obtain ⟨payloadLen, hpayload, hpayloadLen⟩ :=
    ControlState.exists_u32TryFrom frame.payload.length (by omega)
  have hword : (UInt32.ofNat helloHeaderLen).toNat = helloHeaderLen := rfl
  simp only [encodeInto, encodedLen_eq valid, ok_bind, hshort, hframe, Nat.add_sub_cancel_left,
    hpayload, okOr, valid, putAll_append, headWrites, putAll, putU16, putU32, hframeLen,
    hpayloadLen, hword, bind_assoc, pure_bind]

/-- A valid frame that fits its destination is encoded to its image. -/
theorem encodeInto_eq (valid : frame.validate t = .ok ())
    (room : helloHeaderLen + frame.payload.length ≤ destination.length) :
    frame.encodeInto t destination = .ok (helloHeaderLen + frame.payload.length,
      frame.image ++ destination.drop (helloHeaderLen + frame.payload.length)) := by
  let rest := destination.drop (helloHeaderLen + frame.payload.length)
  have hfill : (put destination 0 (replicate (helloHeaderLen + frame.payload.length) 0) :
      Run NegotiationWireError Bytes) = .ok (frame.zeroed rest) := by
    rw [put_eq_ok, length_replicate, Nat.zero_add]
    exact ⟨room, by simp [overwrite, zeroed, rest]⟩
  have hfit : Fit (frame.zeroed rest).length
      (headWrites frame.payload.length ++ frame.kindWrites) := by
    intro write hwrite
    rw [length_zeroed]
    exact (frame.fit_kindWrites write hwrite).trans (Nat.le_add_right _ _)
  rw [encodeInto_eq_putAll valid room, hfill, ok_bind, putAll_eq hfit, ok_bind, overwriteAll_image]
  rfl

end NegotiationFrame

variable {frame : HelloFrame}

/-- The statements of `encode_hello_into` are its writes. -/
theorem encodeHelloInto_eq_putAll (valid : frame.validate t = .ok ())
    (room : helloHeaderLen + frame.applicationPayload.length ≤ destination.length) :
    encodeHelloInto t frame destination = (do
      let wire ← putAll destination frame.writes
      pure (helloHeaderLen + frame.applicationPayload.length, wire)) := by
  have hsmall := (validate_eq_ok.mp valid).payload_small
  have hheader : helloHeaderLen = 224 := rfl
  have hlen : helloEncodedLen t frame = .ok (helloHeaderLen + frame.applicationPayload.length) :=
    encodedLen_eq (show (NegotiationFrame.hello frame).validate t = .ok () from valid)
  have hshort : rejectIf (destination.length < helloHeaderLen + frame.applicationPayload.length)
      NegotiationWireError.destinationTooSmall = .ok () := if_neg (Nat.not_lt.mpr room)
  obtain ⟨frameLen, hframe, hframeLen⟩ :=
    ControlState.exists_u32TryFrom (helloHeaderLen + frame.applicationPayload.length) (by omega)
  obtain ⟨payloadLen, hpayload, hpayloadLen⟩ :=
    ControlState.exists_u32TryFrom frame.applicationPayload.length (by omega)
  have hword : (UInt32.ofNat helloHeaderLen).toNat = helloHeaderLen := rfl
  simp only [encodeHelloInto, hlen, ok_bind, hshort, hframe, hpayload, okOr, writes,
    putAll_append, putAll, putU16, putU32, hframeLen, hpayloadLen, hword, bind_assoc, pure_bind]

/-- A HELLO is encoded to its image whatever the destination held. -/
theorem encodeHelloInto_eq (valid : frame.validate t = .ok ())
    (room : helloHeaderLen + frame.applicationPayload.length ≤ destination.length) :
    encodeHelloInto t frame destination = .ok (helloHeaderLen + frame.applicationPayload.length,
      (NegotiationFrame.hello frame).image ++
        destination.drop (helloHeaderLen + frame.applicationPayload.length)) := by
  have himage : frame.fields.flatten.length = helloHeaderLen + frame.applicationPayload.length := by
    rw [frame.flatten_fields, length_image]
    rfl
  have hroom : frame.fields.flatten.length ≤ destination.length := himage.trans_le room
  rw [encodeHelloInto_eq_putAll valid room, putAll_eq (fit_of_covering frame.perm_writes hroom),
    ok_bind, overwriteAll_covering frame.perm_writes hroom, himage, frame.flatten_fields]
  rfl

end Encoders

section Exactness

variable {t : Target} {destination wire : Bytes} {length : Nat}

/-- What `encode_into` accepts, and what it leaves. -/
theorem encodeInto_eq_ok :
    frame.encodeInto t destination = .ok (length, wire) ↔
      frame.validate t = .ok () ∧ length = helloHeaderLen + frame.payload.length ∧
        length ≤ destination.length ∧ wire = frame.image ++ destination.drop length := by
  constructor
  · intro h
    obtain ⟨required, hlen, hrest⟩ := bind_eq_ok.mp h
    obtain ⟨_, valid, -⟩ := bind_eq_ok.mp hlen
    obtain ⟨_, hroom, -⟩ := bind_eq_ok.mp hrest
    rw [encodedLen_eq valid] at hlen
    cases hlen
    have room := Nat.not_lt.mp (rejectIf_eq_ok.mp hroom)
    rw [encodeInto_eq valid room] at h
    cases h
    exact ⟨valid, rfl, room, rfl⟩
  · rintro ⟨valid, rfl, room, rfl⟩
    exact encodeInto_eq valid room

/-- The codec is exact: `decode_frame` accepts the encodings of the valid frames with the expected
    role and nonce and a payload within the limit, returns the encoded frame, and accepts nothing
    else. -/
theorem negotiation_codec_exact (t : Target) :
    (∀ source role nonce limit frame,
      decodeFrame t source role nonce limit = .ok frame ↔
        (∃ destination length wire, frame.encodeInto t destination = .ok (length, wire) ∧
          source = wire.take length) ∧
        frame.validate t = .ok () ∧ frame.role = role ∧ frame.nonce = nonce ∧
        frame.payload.length ≤ limit.toNat) ∧
    ∀ frame destination length wire role nonce limit,
      NegotiationFrame.encodeInto t frame destination = .ok (length, wire) →
        frame.role = role → frame.nonce = nonce → frame.payload.length ≤ UInt32.toNat limit →
          decodeFrame t (wire.take length) role nonce limit = .ok frame := by
  have htake (frame : NegotiationFrame) (rest : Bytes) :
      (frame.image ++ rest).take (helloHeaderLen + frame.payload.length) = frame.image :=
    take_left' frame.length_image
  constructor
  · intro source role nonce limit frame
    rw [decodeFrame_eq_ok]
    constructor
    · rintro ⟨⟨valid, hrole, hnonce, small⟩, rfl⟩
      refine ⟨⟨frame.image, _, _, encodeInto_eq_ok.mpr ⟨valid, rfl, frame.length_image.ge, rfl⟩, ?_⟩,
        valid, hrole, hnonce, small⟩
      rw [htake]
    · rintro ⟨⟨destination, length, wire, hencode, rfl⟩, valid, hrole, hnonce, small⟩
      obtain ⟨-, rfl, -, rfl⟩ := encodeInto_eq_ok.mp hencode
      exact ⟨⟨valid, hrole, hnonce, small⟩, htake frame _⟩
  · intro frame destination length wire role nonce limit hencode hrole hnonce small
    obtain ⟨valid, rfl, -, rfl⟩ := encodeInto_eq_ok.mp hencode
    rw [htake]
    exact decodeFrame_image ⟨valid, hrole, hnonce, small⟩

end Exactness

section Borrowing

variable {t : Target}

variable (frame : HelloFrame)

theorem helloEncodedLen_eq :
    helloEncodedLen t frame = (NegotiationFrame.hello frame).encodedLen t := rfl

/-- Both encoders of a HELLO give the same result. -/
theorem encodeHelloInto_eq_encodeInto (destination : Bytes) :
    encodeHelloInto t frame destination =
      (NegotiationFrame.hello frame).encodeInto t destination := by
  cases hlen : (NegotiationFrame.hello frame).encodedLen t with
  | error stop =>
    have hhello : helloEncodedLen t frame = .error stop := hlen
    rw [encodeHelloInto, NegotiationFrame.encodeInto, hlen, hhello]
    rfl
  | ok required =>
    have hhello : helloEncodedLen t frame = .ok required := hlen
    obtain ⟨_, valid, -⟩ := bind_eq_ok.mp hlen
    have hrequired := hlen.symm.trans (encodedLen_eq valid)
    cases hrequired
    by_cases room : helloHeaderLen + frame.applicationPayload.length ≤ destination.length
    · rw [encodeHelloInto_eq valid room, encodeInto_eq valid room]
      rfl
    · have hshort : rejectIf
          (destination.length < helloHeaderLen + (NegotiationFrame.hello frame).payload.length)
          NegotiationWireError.destinationTooSmall = fail .destinationTooSmall :=
        if_pos (Nat.not_le.mp room)
      rw [encodeHelloInto, NegotiationFrame.encodeInto, hlen, hhello, ok_bind, ok_bind, hshort]
      rfl

theorem HelloFrame.noFault_validate : NoFault (frame.validate t) := by
  have hlimits : NoFault (checkLimits t frame.limits) := by
    refine noFault_mapError ?_
    refine noFault_rejectIf_bind fun _ => ?_
    refine noFault_rejectIf_bind fun _ => ?_
    exact noFault_rejectIf_bind fun _ => noFault_pure _
  have hatomics : NoFault frame.atomics.validate :=
    noFault_rejectIf_bind fun _ => noFault_pure _
  have htarget : NoFault frame.target.validate :=
    noFault_rejectIf_bind fun _ => noFault_pure _
  refine noFault_rejectIf_bind fun _ => ?_
  refine noFault_rejectIf_bind fun _ => ?_
  refine noFault_bind hlimits fun _ _ => ?_
  refine noFault_bind hatomics fun _ _ => ?_
  refine noFault_bind htarget fun _ _ => ?_
  exact noFault_bind (noFault_okOr _ _) fun _ _ => noFault_rejectIf _ _

/-- Encoding a HELLO ends with a length or with an error of its own. -/
theorem noFault_encodeHelloInto (destination : Bytes) :
    NoFault (encodeHelloInto t frame destination) := by
  have hlen : NoFault (helloEncodedLen t frame) :=
    noFault_bind frame.noFault_validate fun _ _ => noFault_okOr _ _
  by_cases fits : ∃ required, helloEncodedLen t frame = .ok required ∧ required ≤ destination.length
  · obtain ⟨required, hrequired, room⟩ := fits
    obtain ⟨_, valid, -⟩ := bind_eq_ok.mp hrequired
    have heq := hrequired.symm.trans
      (encodedLen_eq (show (NegotiationFrame.hello frame).validate t = .ok () from valid))
    cases heq
    rw [encodeHelloInto_eq valid room]
    exact noFault_ok _
  · refine noFault_bind hlen fun required hrequired => ?_
    refine noFault_rejectIf_bind fun hroom => ?_
    exact absurd ⟨required, hrequired, Nat.not_lt.mp hroom⟩ fits

/-- `encode_hello_into` gives the length, the bytes or the error of `encode_into`, leaves the
    destination past the length as it was, and announces the same length. -/
theorem hello_encoders_agree (t : Target) (frame : HelloFrame) (destination : Bytes) :
    encodeHelloInto t frame destination =
        (NegotiationFrame.hello frame).encodeInto t destination ∧
      NoFault (encodeHelloInto t frame destination) ∧
      (∀ length wire, encodeHelloInto t frame destination = .ok (length, wire) →
        length ≤ destination.length ∧ wire.length = destination.length ∧
          wire.drop length = destination.drop length) ∧
      helloEncodedLen t frame = (NegotiationFrame.hello frame).encodedLen t := by
  refine ⟨encodeHelloInto_eq_encodeInto frame destination, noFault_encodeHelloInto frame destination,
    ?_, helloEncodedLen_eq frame⟩
  intro length wire h
  rw [encodeHelloInto_eq_encodeInto] at h
  obtain ⟨-, hlength, room, rfl⟩ := encodeInto_eq_ok.mp h
  have himage : (NegotiationFrame.hello frame).image.length = length := by
    rw [NegotiationFrame.length_image, hlength]
  refine ⟨room, ?_, drop_left' himage⟩
  rw [length_append, himage, length_drop, Nat.add_sub_cancel' room]

end Borrowing

end NativeIpc.Session
