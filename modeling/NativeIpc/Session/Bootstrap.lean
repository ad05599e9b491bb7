import NativeIpc.Session.Decision

/-!
# The HELLO exchange on Linux

How the two ends of a spawned session turn a local offer and the peer's HELLO
into a transcript (`crates/native-ipc/src/backend/linux_vnext/spawn.rs`). The
packets are inputs here; sending and receiving them is the business of the
session that surrounds these functions.
-/

namespace NativeIpc.Session

open NativeIpc.Lib Bytes Run FeatureBits

/-- linux_vnext.rs:20. -/
def maxZeroRightsPacketBytes : Nat := 64 * 1024

/-- This and the next, spawn.rs:57-58. -/
def maxLinuxHelloPayload : Nat := maxZeroRightsPacketBytes - helloHeaderLen

def maxLinuxControlPayload : UInt32 := UInt32.ofNat (maxZeroRightsPacketBytes - controlHeaderLen)

/-- The errors of `LinuxSpawnError` that are raised here. -/
inductive LinuxSpawnError where
  | invalidInput
  | negotiation (error : NegotiationWireError)
  | nativeNegotiation (error : NegotiationError)
  deriving DecidableEq

/-- spawn.rs:175-180. -/
structure LinuxHelloOffer where
  supportedFeatures : FeatureBits
  requiredFeatures : FeatureBits
  limits : SessionLimits
  applicationPayload : Bytes
  deriving DecidableEq

/-- `limits` with the control payload bounded by the transport, spawn.rs:2699-2702. -/
def SessionLimits.boundControl (limits : SessionLimits) : SessionLimits :=
  { limits with
    maxControlPayloadBytes := min limits.maxControlPayloadBytes maxLinuxControlPayload }

/-- `limits` with the HELLO payload bounded by the transport, spawn.rs:2710-2713. -/
def SessionLimits.boundBootstrap (limits : SessionLimits) : SessionLimits :=
  { limits with
    maxBootstrapPayloadBytes :=
      min limits.maxBootstrapPayloadBytes (UInt32.ofNat maxLinuxHelloPayload) }

variable (t : Target)

/-- spawn.rs:2690-2718. -/
def validateLinuxOffer (offer : LinuxHelloOffer) : Run LinuxSpawnError LinuxHelloOffer := do
  rejectIf (¬ offer.requiredFeatures.isSubsetOf offer.supportedFeatures)
    (.negotiation .requiredFeatureNotSupported)
  let limits := offer.limits.boundControl
  let _ ← (limits.validate t).mapError .nativeNegotiation
  rejectIf (maxLinuxHelloPayload < offer.applicationPayload.length) .invalidInput
  let limits := limits.boundBootstrap
  rejectIf (limits.maxBootstrapPayloadBytes.toNat < offer.applicationPayload.length) .invalidInput
  pure { offer with limits }

/-- spawn.rs:2720-2736. -/
def makeHello (host : Host) (role : SenderRole) (nonce : FixedBytes 32) (offer : LinuxHelloOffer)
    (atomics : AtomicCapabilities) : Run LinuxSpawnError HelloFrame := do
  let atomics ← (AtomicOffer.fromLocal atomics).mapError .negotiation
  pure {
    role
    nonce
    supportedFeatures := offer.supportedFeatures
    requiredFeatures := offer.requiredFeatures
    limits := offer.limits
    atomics
    target := TargetFacts.current host
    applicationPayload := offer.applicationPayload }

/-- spawn.rs:2738-2746. -/
def encodeHello (hello : HelloFrame) : Run LinuxSpawnError Bytes := do
  let length ← (helloEncodedLen t hello).mapError .negotiation
  rejectIf (maxZeroRightsPacketBytes < length) .invalidInput
  let (_, encoded) ← (encodeHelloInto t hello (List.replicate length 0)).mapError .negotiation
  pure encoded

/-- spawn.rs:2748-2758. -/
def encodeNegotiationFrame (frame : NegotiationFrame) : Run LinuxSpawnError Bytes := do
  let length ← (frame.encodedLen t).mapError .negotiation
  rejectIf (maxZeroRightsPacketBytes < length) .invalidInput
  let (_, encoded) ← (frame.encodeInto t (List.replicate length 0)).mapError .negotiation
  pure encoded

/-- spawn.rs:2760-2773. -/
def authenticatedNonce (bytes : Bytes) : Run LinuxSpawnError (FixedBytes 32) := do
  rejectIf (bytes.length < helloHeaderLen) (.negotiation .truncated)
  let nonce ← slice bytes 32 64
  let nonce ← toFixed 32 nonce
  rejectIf (nonce = FixedBytes.zero 32) (.negotiation .nonceMismatch)
  pure nonce

/-- `decode_frame` on a packet from the peer, with the transport's own payload bound. -/
def decodePacket (packet : Bytes) (role : SenderRole) (nonce : FixedBytes 32) :
    Run LinuxSpawnError NegotiationFrame :=
  (decodeFrame t packet role nonce (UInt32.ofNat maxLinuxHelloPayload)).mapError .negotiation

/-- The packet must be a HELLO, spawn.rs:2244-2257 and 2324-2337. -/
def decodePeerHello (packet : Bytes) (role : SenderRole) (nonce : FixedBytes 32) :
    Run LinuxSpawnError HelloFrame := do
  match ← decodePacket t packet role nonce with
  | .hello frame => pure frame
  | .accept _ | .reject _ => fail (.negotiation .badKind)

open AtomicOffer NegotiatedTranscript
open HelloPair

section

variable (host : Host) (sha256 : Bytes → FixedBytes 32)

/-- A HELLO and its packet, spawn.rs:2232-2233 and 2338-2339. -/
def prepareHello (role : SenderRole) (nonce : FixedBytes 32) (offer : LinuxHelloOffer)
    (atomics : AtomicCapabilities) : Run LinuxSpawnError (HelloFrame × Bytes) := do
  let hello ← makeHello host role nonce offer atomics
  let encoded ← encodeHello host.usize hello
  pure (hello, encoded)

/-- What the coordinator makes of the receiver's packet, spawn.rs:2244-2265. -/
def coordinatorTranscript (coordinator : HelloFrame) (atomics : AtomicCapabilities)
    (nonce : FixedBytes 32) (packet : Bytes) :
    Run LinuxSpawnError (NegotiatedTranscript × Bytes) := do
  let receiver ← decodePeerHello host.usize packet .receiver nonce
  (NegotiatedTranscript.fromHellosWithPeerPayload host sha256 ⟨coordinator, receiver⟩ atomics
    .receiver).mapError .negotiation

variable (offer : LinuxHelloOffer)

/-- The coordinator's exchange, spawn.rs:2093-2112 and 2225-2285: the offer, the discovered atomics,
    the generated nonce and the packet that the receiver sent. -/
def exchangeCoordinatorHello (atomics : AtomicCapabilities) (nonce : FixedBytes 32)
    (packet : Bytes) : Run LinuxSpawnError (NegotiatedTranscript × Bytes) := do
  let offer ← validateLinuxOffer host.usize offer
  let (coordinator, _) ← prepareHello host .coordinator nonce offer atomics
  coordinatorTranscript host sha256 coordinator atomics nonce packet

/-- The receiver's answer to the coordinator's packet, spawn.rs:2322-2339: both HELLOs and the
    packet to send. -/
def answerHello (atomics : AtomicCapabilities) (packet : Bytes) :
    Run LinuxSpawnError (HelloPair × Bytes) := do
  let nonce ← authenticatedNonce packet
  let coordinator ← decodePeerHello host.usize packet .coordinator nonce
  let (receiver, encoded) ← prepareHello host .receiver nonce offer atomics
  pure (⟨coordinator, receiver⟩, encoded)

/-- The receiver's transcript, spawn.rs:2341-2347. -/
def receiverTranscript (hellos : HelloPair) (atomics : AtomicCapabilities) :
    Run LinuxSpawnError (NegotiatedTranscript × Bytes) :=
  (NegotiatedTranscript.fromHellosWithPeerPayload host sha256 hellos atomics
    .coordinator).mapError .negotiation

/-- `receive_inherited_hello_owned`, spawn.rs:2297-2359. -/
def receiveInheritedHello (atomics : AtomicCapabilities)
    (packet : Bytes) : Run LinuxSpawnError (NegotiatedTranscript × Bytes) := do
  let offer ← validateLinuxOffer host.usize offer
  let (hellos, _) ← answerHello host offer atomics packet
  receiverTranscript host sha256 hellos atomics

end

/-! ### What the functions accept -/

theorem maxLinuxHelloPayload_toNat :
    (UInt32.ofNat maxLinuxHelloPayload).toNat = maxLinuxHelloPayload := rfl

theorem toNat_boundBootstrap (limits : SessionLimits) :
    limits.boundBootstrap.maxBootstrapPayloadBytes.toNat =
      min limits.maxBootstrapPayloadBytes.toNat maxLinuxHelloPayload := by
  rw [← maxLinuxHelloPayload_toNat]
  exact UInt32.toNat_min _ _

variable {t : Target} {role : SenderRole} {nonce : FixedBytes 32} {hello : HelloFrame}
    {frame : NegotiationFrame}
  {limits : SessionLimits} {bytes packet : Bytes}

/-- Another bootstrap limit leaves valid limits valid. -/
theorem SessionLimits.Valid.withBootstrap (h : limits.Valid t) {bound : UInt32} (pos : bound ≠ 0)
    (le : bound ≤ hardMax.maxBootstrapPayloadBytes) :
    SessionLimits.Valid t { limits with maxBootstrapPayloadBytes := bound } := by
  obtain ⟨nonzero, hard, native⟩ := h
  simp only [HasZero, AboveHardMax, AboveNative, not_or] at nonzero hard native
  obtain ⟨z1, z2, z3, z4, z5, z6, -, z8⟩ := nonzero
  obtain ⟨h1, h2, h3, h4, h5, h6, -, h8⟩ := hard
  obtain ⟨n1, n2, n3, -, n5⟩ := native
  have hword : bound.toNat ≤ 2 ^ t.bits - 1 := Nat.le_sub_one_of_lt (t.u32_fits bound.toNat_lt)
  constructor
  · simp only [HasZero, not_or]
    exact ⟨z1, z2, z3, z4, z5, z6, pos, z8⟩
  · simp only [AboveHardMax, not_or]
    exact ⟨h1, h2, h3, h4, h5, h6, UInt32.not_lt.mpr le, h8⟩
  · simp only [AboveNative, not_or]
    exact ⟨n1, n2, n3, Nat.not_lt.mpr hword, n5⟩

theorem SessionLimits.Valid.boundBootstrap
    (h : limits.Valid t) : limits.boundBootstrap.Valid t := by
  have nonzero := h.nonzero
  have hard := h.hard
  simp only [HasZero, AboveHardMax, not_or, UInt32.not_lt] at nonzero hard
  apply h.withBootstrap
  · exact of_min (· ≠ 0) nonzero.2.2.2.2.2.2.1 (by decide)
  · exact of_min (· ≤ hardMax.maxBootstrapPayloadBytes) hard.2.2.2.2.2.2.1 (by decide)

/-- The offers that `validate_linux_offer` accepts. -/
structure LinuxHelloOffer.Valid (t : Target) (offer : LinuxHelloOffer) : Prop where
  required_supported : offer.requiredFeatures.isSubsetOf offer.supportedFeatures = true
  limits : offer.limits.boundControl.Valid t
  payload_le : offer.applicationPayload.length ≤
    min offer.limits.maxBootstrapPayloadBytes.toNat maxLinuxHelloPayload

/-- An accepted offer is sent with its limits bounded by the transport. -/
def LinuxHelloOffer.bounded (offer : LinuxHelloOffer) : LinuxHelloOffer :=
  { offer with limits := offer.limits.boundControl.boundBootstrap }

theorem validateLinuxOffer_eq_ok {offer accepted : LinuxHelloOffer} :
    validateLinuxOffer t offer = .ok accepted ↔ offer.Valid t ∧ accepted = offer.bounded := by
  have hbound := toNat_boundBootstrap offer.limits.boundControl
  have hcontrol : offer.limits.boundControl.maxBootstrapPayloadBytes =
    offer.limits.maxBootstrapPayloadBytes := rfl
  rw [hcontrol] at hbound
  simp only [validateLinuxOffer, bind_eq_ok, rejectIf_eq_ok, mapError_eq_ok,
    SessionLimits.validate_eq_ok, pure_eq_ok, exists_const, not_not, Nat.not_lt, hbound]
  constructor
  · rintro ⟨features, _, ⟨limits, -⟩, -, payload, rfl⟩
    exact ⟨⟨features, limits, payload⟩, rfl⟩
  · rintro ⟨⟨features, limits, payload⟩, rfl⟩
    exact ⟨features, _, ⟨limits, rfl⟩, payload.trans (Nat.min_le_right _ _), payload, rfl⟩

theorem makeHello_eq_ok {host : Host} {offer : LinuxHelloOffer} {atomics : AtomicCapabilities} :
    makeHello host role nonce offer atomics = .ok hello ↔
      fromLocal atomics = .ok hello.atomics ∧
        hello = ⟨role, nonce, offer.supportedFeatures, offer.requiredFeatures, offer.limits,
          hello.atomics, TargetFacts.current host, offer.applicationPayload⟩ := by
  simp only [makeHello, bind_eq_ok, mapError_eq_ok, pure_eq_ok]
  constructor
  · rintro ⟨ours, hours, rfl⟩
    exact ⟨hours, rfl⟩
  · rintro ⟨hours, hhello⟩
    exact ⟨_, hours, hhello.symm⟩

theorem encodeNegotiationFrame_eq_ok :
    encodeNegotiationFrame t frame = .ok bytes ↔
      frame.validate t = .ok () ∧ frame.payload.length ≤ maxLinuxHelloPayload ∧
        bytes = frame.image := by
  have hroom : helloHeaderLen + frame.payload.length ≤ maxZeroRightsPacketBytes ↔
      frame.payload.length ≤ maxLinuxHelloPayload := by
    change 224 + _ ≤ 65536 ↔ _ ≤ 65312
    omega
  simp only [encodeNegotiationFrame, bind_eq_ok, mapError_eq_ok, rejectIf_eq_ok, pure_eq_ok,
    exists_const, Nat.not_lt, Prod.exists, encodeInto_eq_ok]
  constructor
  · rintro ⟨length, hlength, room, _, _, ⟨valid, rfl, -, rfl⟩, rfl⟩
    cases hlength.symm.trans (encodedLen_eq valid)
    refine ⟨valid, hroom.mp room, ?_⟩
    rw [List.drop_of_length_le (by simp), List.append_nil]
  · rintro ⟨valid, small, rfl⟩
    refine ⟨_, encodedLen_eq valid, hroom.mpr small, _, _, ⟨valid, rfl, ?_, rfl⟩, ?_⟩
    · simp
    · rw [List.drop_of_length_le (by simp), List.append_nil]

theorem encodeHello_eq_ok :
    encodeHello t hello = .ok bytes ↔
      hello.Valid t ∧ hello.applicationPayload.length ≤ maxLinuxHelloPayload ∧
        bytes = (NegotiationFrame.hello hello).image := by
  have same : encodeHello t hello = encodeNegotiationFrame t (.hello hello) := by
    simp only [encodeHello, encodeNegotiationFrame, helloEncodedLen_eq,
      encodeHelloInto_eq_encodeInto]
  rw [same, encodeNegotiationFrame_eq_ok, ← HelloFrame.validate_eq_ok]
  rfl

theorem decodePacket_eq_ok :
    decodePacket t packet role nonce = .ok frame ↔
      frame.Acceptable t role nonce (UInt32.ofNat maxLinuxHelloPayload) ∧
        packet = frame.image := by
  rw [decodePacket, mapError_eq_ok, decodeFrame_eq_ok]

theorem decodePeerHello_eq_ok {frame : HelloFrame} :
    decodePeerHello t packet role nonce = .ok frame ↔
      frame.Valid t ∧ frame.role = role ∧ frame.nonce = nonce ∧
        frame.applicationPayload.length ≤ maxLinuxHelloPayload ∧
        packet = (NegotiationFrame.hello frame).image := by
  simp only [decodePeerHello, bind_eq_ok, decodePacket_eq_ok]
  constructor
  · rintro ⟨decoded, ⟨⟨valid, role_eq, nonce_eq, payload_le⟩, rfl⟩, hkind⟩
    cases decoded with
    | hello decoded =>
      cases hkind
      exact ⟨HelloFrame.validate_eq_ok.mp valid, role_eq, nonce_eq, payload_le, rfl⟩
    | accept _ => cases hkind
    | reject _ => cases hkind
  · rintro ⟨valid, role_eq, nonce_eq, payload_le, rfl⟩
    exact ⟨.hello frame, ⟨⟨HelloFrame.validate_eq_ok.mpr valid, role_eq, nonce_eq, payload_le⟩,
      rfl⟩, rfl⟩

/-- A frame holds its nonce where `authenticated_nonce` reads it. -/
theorem authenticatedNonce_image
    (valid : frame.validate t = .ok ()) : authenticatedNonce frame.image = .ok frame.nonce := by
  have hlen := frame.length_image
  have hnonce := (NegotiationFrame.eq_image_iff.mp (rfl : frame.image = frame.image)).2.2.2.1
  have hne := NegotiationFrame.nonce_ne_zero_of_validate valid
  have hlong : helloHeaderLen ≤ frame.image.length := hlen ▸ Nat.le_add_right _ _
  have hheader : helloHeaderLen = 224 := rfl
  simp only [authenticatedNonce, bind_eq_ok, rejectIf_eq_ok, slice_eq_ok, toFixed_eq_ok,
    pure_eq_ok, exists_const, Nat.not_lt]
  exact ⟨hlong, _, ⟨⟨by omega, by omega⟩, rfl⟩, _, hnonce, hne, rfl⟩

/-! ### Both exchanges as one -/

/-- The role at the other end. -/
def SenderRole.peer : SenderRole → SenderRole
  | .coordinator => .receiver
  | .receiver => .coordinator

/-- The HELLO of an accepted offer. -/
def localHello (host : Host) (role : SenderRole) (nonce : FixedBytes 32) (offer : LinuxHelloOffer)
    (ours : AtomicOffer) : HelloFrame :=
  ⟨role, nonce, offer.supportedFeatures, offer.requiredFeatures, offer.bounded.limits, ours,
    TargetFacts.current host, offer.applicationPayload⟩

/-- The pair of HELLOs as the endpoint with `role` sees it. -/
def HelloPair.of (role : SenderRole) (mine theirs : HelloFrame) : HelloPair :=
  match role with
  | .coordinator => ⟨mine, theirs⟩
  | .receiver => ⟨theirs, mine⟩

section Exchanges

variable {host : Host} {sha256 : Bytes → FixedBytes 32} {offer : LinuxHelloOffer}
  {atomics : AtomicCapabilities} {packet payload : Bytes} {transcript : NegotiatedTranscript}

/-- What an exchange at the endpoint with `role` has checked when it returns. -/
structure Exchanged (host : Host) (sha256 : Bytes → FixedBytes 32) (role : SenderRole)
    (offer : LinuxHelloOffer) (atomics : AtomicCapabilities) (ours : AtomicOffer)
    (theirs : HelloFrame) (transcript : NegotiatedTranscript) : Prop where
  offer_valid : offer.Valid host.usize
  discovered : AtomicOffer.fromLocal atomics = .ok ours
  mine_valid : (localHello host role theirs.nonce offer ours).Valid host.usize
  theirs_valid : theirs.Valid host.usize
  theirs_role : theirs.role = role.peer
  theirs_payload : theirs.applicationPayload.length ≤ maxLinuxHelloPayload
  transcript_eq : NegotiatedTranscript.fromHelloPair host sha256
    (HelloPair.of role (localHello host role theirs.nonce offer ours) theirs) atomics =
      .ok transcript

theorem fromHellosWithPeerPayload_eq_ok {hellos : HelloPair} :
    fromHellosWithPeerPayload host sha256 hellos atomics role =
        .ok (transcript, payload) ↔
      fromHelloPair host sha256 hellos atomics = .ok transcript ∧
        payload = (match role with
          | .coordinator => hellos.coordinator.applicationPayload
          | .receiver => hellos.receiver.applicationPayload) := by
  simp only [fromHellosWithPeerPayload, bind_eq_ok, pure_eq_ok, Prod.mk.injEq]
  constructor
  · rintro ⟨_, made, rfl, rfl⟩
    exact ⟨made, rfl⟩
  · rintro ⟨made, rfl⟩
    exact ⟨_, made, rfl, rfl⟩

variable {encoded : Bytes}

theorem prepareHello_eq_ok :
    prepareHello host role nonce offer.bounded atomics = .ok (hello, encoded) ↔
      ∃ ours, fromLocal atomics = .ok ours ∧
        hello = localHello host role nonce offer ours ∧ hello.Valid host.usize ∧
        offer.applicationPayload.length ≤ maxLinuxHelloPayload ∧
        encoded = (NegotiationFrame.hello hello).image := by
  simp only [prepareHello, bind_eq_ok, makeHello_eq_ok, encodeHello_eq_ok, pure_eq_ok,
    Prod.mk.injEq]
  constructor
  · rintro ⟨made, ⟨discovered, hmade⟩, _, ⟨valid, small, rfl⟩, rfl, rfl⟩
    rw [hmade] at small
    exact ⟨_, discovered, hmade, valid, small, rfl⟩
  · rintro ⟨ours, discovered, rfl, valid, small, rfl⟩
    exact ⟨_, ⟨discovered, rfl⟩, _, ⟨valid, small, rfl⟩, rfl, rfl⟩

theorem exchangeCoordinatorHello_eq_ok :
    exchangeCoordinatorHello host sha256 offer atomics nonce packet = .ok (transcript, payload) ↔
      ∃ ours theirs, Exchanged host sha256 .coordinator offer atomics ours theirs transcript ∧
        theirs.nonce = nonce ∧ packet = (NegotiationFrame.hello theirs).image ∧
        payload = theirs.applicationPayload := by
  simp only [exchangeCoordinatorHello, bind_eq_ok, validateLinuxOffer_eq_ok, Prod.exists,
    coordinatorTranscript, decodePeerHello_eq_ok, mapError_eq_ok, fromHellosWithPeerPayload_eq_ok]
  constructor
  · rintro ⟨_, ⟨valid, rfl⟩, _, _, prepared, theirs, ⟨hvalid, role, rfl, small, rfl⟩, made, rfl⟩
    obtain ⟨ours, discovered, rfl, mine, -, -⟩ := prepareHello_eq_ok.mp prepared
    exact ⟨ours, theirs, ⟨valid, discovered, mine, hvalid, role, small, made⟩, rfl, rfl, rfl⟩
  · rintro ⟨ours, theirs, ⟨valid, discovered, mine, hvalid, role, small, made⟩, rfl, rfl, rfl⟩
    have hsmall := valid.payload_le.trans (Nat.min_le_right _ _)
    exact ⟨_, ⟨valid, rfl⟩, _, _,
      prepareHello_eq_ok.mpr ⟨ours, discovered, rfl, mine, hsmall, rfl⟩, theirs,
      ⟨hvalid, role, rfl, small, rfl⟩, made, rfl⟩

theorem answerHello_eq_ok {coordinator receiver : HelloFrame} :
    answerHello host offer.bounded atomics packet = .ok (⟨coordinator, receiver⟩, encoded) ↔
      ∃ ours, fromLocal atomics = .ok ours ∧
        coordinator.Valid host.usize ∧ coordinator.role = .coordinator ∧
        coordinator.applicationPayload.length ≤ maxLinuxHelloPayload ∧
        packet = (NegotiationFrame.hello coordinator).image ∧
        receiver = localHello host .receiver coordinator.nonce offer ours ∧
        receiver.Valid host.usize ∧
        offer.applicationPayload.length ≤ maxLinuxHelloPayload ∧
        encoded = (NegotiationFrame.hello receiver).image := by
  simp only [answerHello, bind_eq_ok, decodePeerHello_eq_ok, Prod.exists, pure_eq_ok,
    Prod.mk.injEq, HelloPair.mk.injEq]
  constructor
  · rintro ⟨nonce, -, _, ⟨valid, role, rfl, small, rfl⟩, _, _, prepared, ⟨rfl, rfl⟩, rfl⟩
    obtain ⟨ours, discovered, rfl, mine, hsmall, rfl⟩ := prepareHello_eq_ok.mp prepared
    exact ⟨ours, discovered, valid, role, small, rfl, rfl, mine, hsmall, rfl⟩
  · rintro ⟨ours, discovered, valid, role, small, rfl, rfl, mine, hsmall, rfl⟩
    have hvalid : (NegotiationFrame.hello coordinator).validate host.usize = .ok () :=
      HelloFrame.validate_eq_ok.mpr valid
    exact ⟨_, authenticatedNonce_image hvalid, coordinator, ⟨valid, role, rfl, small, rfl⟩, _, _,
      prepareHello_eq_ok.mpr ⟨ours, discovered, rfl, mine, hsmall, rfl⟩, ⟨rfl, rfl⟩, rfl⟩

theorem receiveInheritedHello_eq_ok :
    receiveInheritedHello host sha256 offer atomics packet = .ok (transcript, payload) ↔
      ∃ ours theirs, Exchanged host sha256 .receiver offer atomics ours theirs transcript ∧
        packet = (NegotiationFrame.hello theirs).image ∧ payload = theirs.applicationPayload := by
  simp only [receiveInheritedHello, bind_eq_ok, validateLinuxOffer_eq_ok, Prod.exists,
    receiverTranscript, mapError_eq_ok, fromHellosWithPeerPayload_eq_ok]
  constructor
  · rintro ⟨_, ⟨valid, rfl⟩, ⟨coordinator, receiver⟩, _, answered, made, rfl⟩
    obtain ⟨ours, discovered, hvalid, role, small, rfl, rfl, mine, -, -⟩ :=
      answerHello_eq_ok.mp answered
    exact ⟨ours, coordinator, ⟨valid, discovered, mine, hvalid, role, small, made⟩, rfl, rfl⟩
  · rintro ⟨ours, theirs, ⟨valid, discovered, mine, hvalid, role, small, made⟩, rfl, rfl⟩
    have hsmall := valid.payload_le.trans (Nat.min_le_right _ _)
    exact ⟨_, ⟨valid, rfl⟩, _, _,
      answerHello_eq_ok.mpr ⟨ours, discovered, hvalid, role, small, rfl, rfl, mine, hsmall, rfl⟩,
      made, rfl⟩

end Exchanges

/-! ### The bootstrap payload limit -/

/-- The payload is within the limit of the local offer and within the negotiated one. -/
def WithinLimits (offer : LinuxHelloOffer) (transcript : NegotiatedTranscript) (payload : Bytes) :
    Prop :=
  payload.length ≤ offer.limits.maxBootstrapPayloadBytes.toNat ∧
    payload.length ≤ transcript.effectiveLimits.maxBootstrapPayloadBytes.toNat

/-- The offer can lead to a transcript: it is accepted, its atomics fit the wire, and what it
    requires is known and backed by its own atomics. -/
def Negotiable (host : Host) (offer : LinuxHelloOffer) (atomics : AtomicCapabilities) : Prop :=
  offer.Valid host.usize ∧ ∃ ours, AtomicOffer.fromLocal atomics = .ok ours ∧
    offer.requiredFeatures.toSet ⊆ knownFeatures.toSet ∩ ours.features.toSet

section Limit

variable {host : Host} {sha256 : Bytes → FixedBytes 32} {role : SenderRole}
  {offer : LinuxHelloOffer} {atomics : AtomicCapabilities} {ours : AtomicOffer}
  {theirs : HelloFrame} {transcript : NegotiatedTranscript}

section

variable (exchanged : Exchanged host sha256 role offer atomics ours theirs transcript)
include exchanged

theorem Exchanged.agreed :
    Agreeable host
        (HelloPair.of role (localHello host role theirs.nonce offer ours) theirs) ours ∧
      transcript.effectiveLimits.maxBootstrapPayloadBytes.toNat =
        min (min offer.limits.maxBootstrapPayloadBytes.toNat maxLinuxHelloPayload)
          theirs.limits.maxBootstrapPayloadBytes.toNat := by
  obtain ⟨ours', stream, discovered, agreeable, -, rfl⟩ :=
    fromHelloPair_eq_ok.mp exchanged.transcript_eq
  cases exchanged.discovered.symm.trans discovered
  refine ⟨agreeable, ?_⟩
  have hbounded : offer.bounded.limits.maxBootstrapPayloadBytes.toNat =
      min offer.limits.maxBootstrapPayloadBytes.toNat maxLinuxHelloPayload :=
    toNat_boundBootstrap offer.limits.boundControl
  rw [← hbounded]
  cases role with
  | coordinator => exact UInt32.toNat_min _ _
  | receiver => exact (UInt32.toNat_min _ _).trans (Nat.min_comm _ _)

theorem Exchanged.negotiable : Negotiable host offer atomics := by
  refine ⟨exchanged.offer_valid, ours, exchanged.discovered, ?_⟩
  have required := isSubsetOf_iff.mp exchanged.agreed.1.required_selected
  intro number needed
  have needed' : number ∈ (HelloPair.of role (localHello host role theirs.nonce offer ours)
      theirs).requiredFeatures.toSet := by
    rw [requiredFeatures, toSet_union]
    cases role with
    | coordinator => exact .inl needed
    | receiver => exact .inr needed
  have selected := required needed'
  rw [HelloPair.selectedFeatures, toSet_intersection, toSet_intersection] at selected
  obtain ⟨⟨-, known⟩, backed⟩ := selected
  refine ⟨known, mem_features.mpr ?_⟩
  obtain ⟨rfl, lockFree⟩ | ⟨rfl, lockFree⟩ := mem_features.mp backed
  · exact .inl ⟨rfl, (effective_lockFree.1 lockFree).1⟩
  · exact .inr ⟨rfl, (effective_lockFree.2 lockFree).1⟩

/-- The peer's own limit and the transport's bound are applied to the peer's payload, so only the
    local limit is left. -/
theorem Exchanged.withinLimits_iff :
    WithinLimits offer transcript theirs.applicationPayload ↔
      theirs.applicationPayload.length ≤ offer.limits.maxBootstrapPayloadBytes.toNat := by
  have htransport := exchanged.theirs_payload
  have howner := exchanged.theirs_valid.payload_le
  rw [WithinLimits, exchanged.agreed.2]
  omega

end

/-! The peer that shows the limit is not applied: it offers the largest limit itself. -/

/-- A HELLO with one byte more than the local offer allows. -/
def oversizedHello (host : Host) (role : SenderRole) (nonce : FixedBytes 32)
    (offer : LinuxHelloOffer) (ours : AtomicOffer) : HelloFrame :=
  ⟨role, nonce, offer.supportedFeatures, FeatureBits.default,
    { offer.limits.boundControl with
      maxBootstrapPayloadBytes := UInt32.ofNat maxLinuxHelloPayload },
    ours, TargetFacts.current host,
    List.replicate (offer.limits.maxBootstrapPayloadBytes.toNat + 1) 0⟩

theorem AtomicOffer.not_malformed_of_fromLocal
    (discovered : fromLocal atomics = .ok ours) : ¬ ours.Malformed := by
  simp only [fromLocal, bind_eq_ok, validate_eq_ok] at discovered
  obtain ⟨_, -, _, -, _, -, _, -, sound, rfl⟩ := discovered
  exact sound

theorem FeatureBits.default_isSubsetOf (features : FeatureBits) :
    FeatureBits.default.isSubsetOf features = true := by
  simp [isSubsetOf, FeatureBits.default]

theorem localHello_valid (nonce_ne_zero : nonce ≠ FixedBytes.zero 32)
    (valid : offer.Valid host.usize) (discovered : fromLocal atomics = .ok ours) :
    (localHello host role nonce offer ours).Valid host.usize where
  nonce_ne_zero := nonce_ne_zero
  required_supported := valid.required_supported
  limits := valid.limits.boundBootstrap
  atomics := not_malformed_of_fromLocal discovered
  target := TargetFacts.not_malformed_current host
  payload_le := valid.payload_le.trans_eq (toNat_boundBootstrap offer.limits.boundControl).symm

theorem oversizedHello_valid (nonce_ne_zero : nonce ≠ FixedBytes.zero 32)
    (valid : offer.Valid host.usize) (discovered : fromLocal atomics = .ok ours)
    (tight : offer.limits.maxBootstrapPayloadBytes.toNat < maxLinuxHelloPayload) :
    (oversizedHello host role nonce offer ours).Valid host.usize where
  nonce_ne_zero := nonce_ne_zero
  required_supported := default_isSubsetOf _
  limits := valid.limits.withBootstrap (by decide) (by decide)
  atomics := not_malformed_of_fromLocal discovered
  target := TargetFacts.not_malformed_current host
  payload_le := by
    change (List.replicate (offer.limits.maxBootstrapPayloadBytes.toNat + 1) (0 : UInt8)).length ≤
      maxLinuxHelloPayload
    rw [List.length_replicate]
    exact tight

theorem AtomicOffer.effective_self (offer : AtomicOffer) : offer.effective offer offer = offer := by
  simp [effective]

/-- What two endpoints with the local atomics require is selected once both support it and the
    local atomics back it. -/
theorem HelloPair.required_selected {hellos : HelloPair}
    (coordinator_atomics : hellos.coordinator.atomics = ours)
    (receiver_atomics : hellos.receiver.atomics = ours)
    (backed : hellos.requiredFeatures.toSet ⊆ knownFeatures.toSet ∩ ours.features.toSet)
    (supported : hellos.requiredFeatures.toSet ⊆
      hellos.coordinator.supportedFeatures.toSet ∩ hellos.receiver.supportedFeatures.toSet) :
    hellos.requiredFeatures.isSubsetOf (hellos.selectedFeatures
      (ours.effective hellos.coordinator.atomics hellos.receiver.atomics)) = true := by
  rw [isSubsetOf_iff, HelloPair.selectedFeatures, coordinator_atomics,
    receiver_atomics, effective_self]
  simp only [toSet_intersection]
  intro number needed
  exact ⟨⟨supported needed, (backed needed).1⟩, (backed needed).2⟩

theorem exchanged_oversized (sha256 : Bytes → FixedBytes 32) (role : SenderRole)
    (nonce_ne_zero : nonce ≠ FixedBytes.zero 32)
    (valid : offer.Valid host.usize) (discovered : fromLocal atomics = .ok ours)
    (backed : offer.requiredFeatures.toSet ⊆ knownFeatures.toSet ∩ ours.features.toSet)
    (tight : offer.limits.maxBootstrapPayloadBytes.toNat < maxLinuxHelloPayload) :
    ∃ transcript, Exchanged host sha256 role offer atomics ours
      (oversizedHello host role.peer nonce offer ours) transcript := by
  have mine : (localHello host role nonce offer ours).Valid host.usize :=
    localHello_valid nonce_ne_zero valid discovered
  have theirs : (oversizedHello host role.peer nonce offer ours).Valid host.usize :=
    oversizedHello_valid nonce_ne_zero valid discovered tight
  have small : (oversizedHello host role.peer nonce offer ours).applicationPayload.length ≤
      maxLinuxHelloPayload := theirs.payload_le
  have aligned := ours.not_alignmentsDiffer_self
  have none_required : FeatureBits.default.toSet ⊆ offer.requiredFeatures.toSet :=
    isSubsetOf_iff.mp (default_isSubsetOf _)
  have supported := isSubsetOf_iff.mp valid.required_supported
  suffices made : ∃ transcript, fromHelloPair host sha256
      (HelloPair.of role (localHello host role nonce offer ours)
        (oversizedHello host role.peer nonce offer ours)) atomics = .ok transcript by
    obtain ⟨transcript, made⟩ := made
    exact ⟨transcript, valid, discovered, mine, theirs, rfl, small, made⟩
  cases role with
  | coordinator =>
    obtain ⟨_, _, -, -, hstream⟩ := canonicalHelloStream_eq mine theirs
    refine ⟨_, fromHelloPair_eq_ok.mpr ⟨ours, _, discovered,
      ⟨mine, theirs, rfl, rfl, rfl, rfl, rfl, aligned, aligned, ?_⟩, hstream, rfl⟩⟩
    apply required_selected rfl rfl <;>
      rw [requiredFeatures, toSet_union]
    · exact Set.union_subset backed (none_required.trans backed)
    · exact Set.union_subset (Set.subset_inter supported supported)
        (none_required.trans (Set.subset_inter supported supported))
  | receiver =>
    obtain ⟨_, _, -, -, hstream⟩ := canonicalHelloStream_eq theirs mine
    refine ⟨_, fromHelloPair_eq_ok.mpr ⟨ours, _, discovered,
      ⟨theirs, mine, rfl, rfl, rfl, rfl, rfl, aligned, aligned, ?_⟩, hstream, rfl⟩⟩
    apply required_selected rfl rfl <;>
      rw [requiredFeatures, toSet_union]
    · exact Set.union_subset (none_required.trans backed) backed
    · exact Set.union_subset (none_required.trans (Set.subset_inter supported supported))
        (Set.subset_inter supported supported)

/-- The local limit binds the peer's payload exactly when it is not below the transport's own bound,
    or when the offer leads to no transcript at all. In a single exchange it is the only bound that
    can fail. -/
theorem bootstrap_limit_enforced_iff (host : Host) (sha256 : Bytes → FixedBytes 32)
    (offer : LinuxHelloOffer) (atomics : AtomicCapabilities) :
    ((∀ nonce packet transcript payload,
        exchangeCoordinatorHello host sha256 offer atomics nonce packet =
          .ok (transcript, payload) → WithinLimits offer transcript payload) ↔
      (Negotiable host offer atomics →
        maxLinuxHelloPayload ≤ offer.limits.maxBootstrapPayloadBytes.toNat)) ∧
    ((∀ packet transcript payload,
        receiveInheritedHello host sha256 offer atomics packet = .ok (transcript, payload) →
          WithinLimits offer transcript payload) ↔
      (Negotiable host offer atomics →
        maxLinuxHelloPayload ≤ offer.limits.maxBootstrapPayloadBytes.toNat)) ∧
    ∀ nonce packet transcript payload,
      (exchangeCoordinatorHello host sha256 offer atomics nonce packet = .ok (transcript, payload) ∨
        receiveInheritedHello host sha256 offer atomics packet = .ok (transcript, payload)) →
      (WithinLimits offer transcript payload ↔
        payload.length ≤ offer.limits.maxBootstrapPayloadBytes.toNat) := by
  have nonce_ne_zero : (⟨List.replicate 32 1, rfl⟩ : FixedBytes 32) ≠ FixedBytes.zero 32 := by
    decide
  have exceeds (transcript) (role nonce ours) : ¬ WithinLimits offer transcript
      (oversizedHello host role nonce offer ours).applicationPayload := by
    intro within
    have h := within.1
    simp [oversizedHello] at h
  refine ⟨⟨?_, ?_⟩, ⟨?_, ?_⟩, ?_⟩
  · rintro enforced ⟨valid, ours, discovered, backed⟩
    by_contra tight
    obtain ⟨transcript, exchanged⟩ := exchanged_oversized sha256 .coordinator nonce_ne_zero valid
      discovered backed (Nat.not_le.mp tight)
    exact exceeds _ _ _ _ (enforced _ _ _ _
      (exchangeCoordinatorHello_eq_ok.mpr ⟨ours, _, exchanged, rfl, rfl, rfl⟩))
  · intro ample nonce packet transcript payload run
    obtain ⟨ours, theirs, exchanged, -, -, rfl⟩ := exchangeCoordinatorHello_eq_ok.mp run
    exact exchanged.withinLimits_iff.mpr
      (exchanged.theirs_payload.trans (ample exchanged.negotiable))
  · rintro enforced ⟨valid, ours, discovered, backed⟩
    by_contra tight
    obtain ⟨transcript, exchanged⟩ := exchanged_oversized sha256 .receiver nonce_ne_zero valid
      discovered backed (Nat.not_le.mp tight)
    exact exceeds _ _ _ _ (enforced _ _ _
      (receiveInheritedHello_eq_ok.mpr ⟨ours, _, exchanged, rfl, rfl⟩))
  · intro ample packet transcript payload run
    obtain ⟨ours, theirs, exchanged, -, rfl⟩ := receiveInheritedHello_eq_ok.mp run
    exact exchanged.withinLimits_iff.mpr
      (exchanged.theirs_payload.trans (ample exchanged.negotiable))
  · rintro nonce packet transcript payload (run | run)
    · obtain ⟨ours, theirs, exchanged, -, -, rfl⟩ := exchangeCoordinatorHello_eq_ok.mp run
      exact exchanged.withinLimits_iff
    · obtain ⟨ours, theirs, exchanged, -, rfl⟩ := receiveInheritedHello_eq_ok.mp run
      exact exchanged.withinLimits_iff

end Limit

/-- An offer that allows `limit` bytes of payload. -/
def sampleOffer (limit : UInt32) : LinuxHelloOffer where
  supportedFeatures := knownFeatures
  requiredFeatures := featureAtomicU32
  limits := { SessionLimits.default with maxBootstrapPayloadBytes := limit }
  applicationPayload := []

/-- The packet of a peer that allows 64 bytes and sends 17. -/
def samplePacket (role : SenderRole) : Bytes :=
  (NegotiationFrame.hello (sampleHello role true 64 (List.replicate 17 7))).image

/-- Both ends take 17 bytes where the local and the negotiated limit are 16. -/
theorem bootstrap_limit_exceeded :
    (∃ transcript payload,
      exchangeCoordinatorHello sampleHost (fun _ => FixedBytes.zero 32) (sampleOffer 16)
          (sampleAtomics true) ⟨List.replicate 32 1, rfl⟩ (samplePacket .receiver) =
        .ok (transcript, payload) ∧
      payload.length = 17 ∧ transcript.effectiveLimits.maxBootstrapPayloadBytes = 16) ∧
    ∃ transcript payload,
      receiveInheritedHello sampleHost (fun _ => FixedBytes.zero 32) (sampleOffer 16)
          (sampleAtomics true) (samplePacket .coordinator) = .ok (transcript, payload) ∧
      payload.length = 17 ∧ transcript.effectiveLimits.maxBootstrapPayloadBytes = 16 := by
  have read (run : Run LinuxSpawnError (NegotiatedTranscript × Bytes))
      (h : run.toOption.map (fun result =>
        (result.2.length, result.1.effectiveLimits.maxBootstrapPayloadBytes)) = some (17, 16)) :
      ∃ transcript payload, run = .ok (transcript, payload) ∧
        payload.length = 17 ∧ transcript.effectiveLimits.maxBootstrapPayloadBytes = 16 := by
    obtain stop | ⟨transcript, payload⟩ := run
    · cases h
    · obtain ⟨length, limit⟩ := Prod.mk.inj (Option.some.inj h)
      exact ⟨transcript, payload, rfl, length, limit⟩
  constructor
  · exact read _ (by decide +kernel)
  · exact read _ (by decide +kernel)

end NativeIpc.Session
