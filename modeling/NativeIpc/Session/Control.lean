import NativeIpc.Lib.Bytes
import NativeIpc.Lib.Words

/-!
# Application control records

The record format and the sequence state of one endpoint
(`crates/native-ipc/src/control.rs`). A method on `&mut self` returns its
result together with the state it leaves, also when the result is an error.
Lines are those of `control.rs`.
-/

namespace NativeIpc.Session

open NativeIpc.Lib Bytes Run List

/-- `MAGIC`, line 5: `NIPCAPP1`. -/
def controlMagic : Bytes := [0x4e, 0x49, 0x50, 0x43, 0x41, 0x50, 0x50, 0x31]

/-- `VERSION_MAJOR`, line 6. -/
def controlVersionMajor : UInt16 := 1

/-- `VERSION_MINOR`, line 7. -/
def controlVersionMinor : UInt16 := 0

def controlHeaderLen : Nat := 72

def applicationControlKindMin : UInt32 := 0x80000000

def hardMaxControlPayloadBytes : UInt32 := 16 * 1024 * 1024

/-- `u64::MAX`. -/
def u64Max : UInt64 := 0xFFFFFFFFFFFFFFFF

/-- `value.checked_add(1)` on `u64`. -/
def checkedSucc (value : UInt64) : Option UInt64 :=
  (checkedAdd 64 value.toNat 1).map UInt64.ofNat

/-- Lines 12-14. -/
def controlWireLen (t : Target) (payloadLen : Nat) : Option Nat :=
  checkedAdd t.bits controlHeaderLen payloadLen

/-- `u32::try_from` of a `usize`. -/
def u32TryFrom (value : Nat) : Option UInt32 :=
  if value < 2 ^ 32 then some (UInt32.ofNat value) else none

/-- Lines 18-21. -/
structure ControlFrame where
  kind : UInt32
  payload : Bytes
  deriving DecidableEq, Repr

/-- Lines 357-386. -/
inductive ControlError where
  | poisoned
  | truncated
  | badMagic
  | badVersion
  | nonCanonical
  | wrongSession
  | reservedKind
  | payloadTooLarge
  | replayOrReorder
  | transactionConflict
  | sequenceExhausted
  | lengthOverflow
  | allocationFailed
  | destinationTooSmall
  deriving DecidableEq, Repr

/-- Lines 40-49, with what `ControlState::new` checks. -/
structure ControlState where
  nonce : FixedBytes 32
  maximumPayload : UInt32
  nextSend : UInt64
  nextReceive : UInt64
  transactionOpen : Bool
  poisoned : Bool
  pendingReceive : Bool
  nonce_ne_zero : nonce ≠ FixedBytes.zero 32
  maximumPayload_le : maximumPayload ≤ hardMaxControlPayloadBytes

variable (t : Target) (s : ControlState) {frame : ControlFrame} {destination : Bytes}

namespace ControlState

variable (nonce : FixedBytes 32)

/-- Lines 52-69. -/
def new (maximumPayload : UInt32) : Option ControlState :=
  if h : nonce = FixedBytes.zero 32 ∨ maximumPayload = 0 ∨
      hardMaxControlPayloadBytes < maximumPayload then
    none
  else
    some {
      nonce
      maximumPayload
      nextSend := 1
      nextReceive := 1
      transactionOpen := false
      poisoned := false
      pendingReceive := false
      nonce_ne_zero := fun hzero => h (.inl hzero)
      maximumPayload_le := UInt32.not_lt.mp fun hlt => h (.inr (.inr hlt)) }

/-- Lines 217-219. -/
def poison : ControlState := { s with poisoned := true }

/-! ### Sending -/

/-- Lines 229-247. -/
def checkLocalParts (kind : UInt32) (payloadLen : Nat) : Run ControlError Unit := do
  rejectIf (s.poisoned = true) .poisoned
  rejectIf (s.transactionOpen = true) .transactionConflict
  rejectIf (kind < applicationControlKindMin) .reservedKind
  let payloadLen ← okOr (u32TryFrom payloadLen) .lengthOverflow
  rejectIf (s.maximumPayload < payloadLen ∨ hardMaxControlPayloadBytes < payloadLen)
    .payloadTooLarge
  rejectIf (s.nextSend = u64Max) .sequenceExhausted

/-- Lines 76-83. -/
def encodedLenParts (kind : UInt32) (payloadLen : Nat) : Run ControlError Nat := do
  s.checkLocalParts kind payloadLen
  okOr (controlWireLen t payloadLen) .lengthOverflow

/-- The writes of `encode_parts_into`, lines 109-135. -/
def writeParts (kind : UInt32) (payload : Bytes) (required : Nat) (destination : Bytes) :
    Run ControlError Bytes := do
  rejectIf (destination.length < required) .destinationTooSmall
  let wire ← put destination 28 (List.replicate 4 0)
  let wire ← put wire 0 controlMagic
  let wire ← putU16 wire 8 controlVersionMajor
  let wire ← putU16 wire 10 controlVersionMinor
  let wire ← putU32 wire 12 (UInt32.ofNat controlHeaderLen)
  let frameLen ← okOr (u32TryFrom required) .lengthOverflow
  let wire ← putU32 wire 16 frameLen
  let payloadLen ← okOr (u32TryFrom payload.length) .lengthOverflow
  let wire ← putU32 wire 20 payloadLen
  let wire ← putU32 wire 24 kind
  let wire ← put wire 32 s.nonce.list
  let wire ← putU64 wire 64 s.nextSend
  put wire controlHeaderLen payload

/-- Lines 94-139: the wire length and the written destination. -/
def encodePartsInto (kind : UInt32) (payload destination : Bytes) :
    Run ControlError (Nat × Bytes) × ControlState :=
  if s.transactionOpen || s.pendingReceive then
    (fail .transactionConflict, s.poison)
  else if s.nextSend = u64Max then
    (fail .sequenceExhausted, s.poison)
  else
    let written : Run ControlError (Nat × Bytes × UInt64) := do
      let required ← s.encodedLenParts t kind payload.length
      let wire ← s.writeParts kind payload required destination
      let next ← okOr (checkedSucc s.nextSend) .sequenceExhausted
      pure (required, wire, next)
    match written with
    | .ok (required, wire, next) => (.ok (required, wire), { s with nextSend := next })
    | .error stop => (.error stop, s)

/-! ### Receiving -/

/-- Lines 298-301. -/
structure ValidatedControlHeader where
  kind : UInt32
  payloadLen : UInt32
  deriving DecidableEq, Repr

/-- Lines 249-295. -/
def validateHeaderInner (source : Bytes) : Run ControlError ValidatedControlHeader := do
  rejectIf (s.poisoned = true) .poisoned
  rejectIf (s.transactionOpen = true) .transactionConflict
  rejectIf (s.pendingReceive = true) .replayOrReorder
  rejectIf (source.length ≠ controlHeaderLen) .truncated
  let magic ← slice source 0 8
  rejectIf (magic ≠ controlMagic) .badMagic
  let major ← getU16 source 8
  let minor ← getU16 source 10
  rejectIf (major ≠ controlVersionMajor ∨ minor ≠ controlVersionMinor) .badVersion
  let headerLen ← getU32 source 12
  let reserved ← getU32 source 28
  rejectIf (headerLen ≠ UInt32.ofNat controlHeaderLen ∨ reserved ≠ 0) .nonCanonical
  let frameLen ← getU32 source 16
  let payloadLen ← getU32 source 20
  let expectedLen ← okOr (controlWireLen t payloadLen.toNat) .lengthOverflow
  rejectIf (frameLen.toNat ≠ expectedLen) .nonCanonical
  rejectIf (s.maximumPayload < payloadLen ∨ hardMaxControlPayloadBytes < payloadLen)
    .payloadTooLarge
  let kind ← getU32 source 24
  rejectIf (kind < applicationControlKindMin) .reservedKind
  let nonce ← slice source 32 64
  rejectIf (nonce ≠ s.nonce.list) .wrongSession
  let sequence ← getU64 source 64
  rejectIf (sequence ≠ s.nextReceive) .replayOrReorder
  rejectIf (s.nextReceive = u64Max) .sequenceExhausted
  pure { kind, payloadLen }

/-- Lines 175-191. The pending receive it returns borrows the state. -/
def validateHeader (source : Bytes) : Run ControlError ValidatedControlHeader × ControlState :=
  match s.validateHeaderInner t source with
  | .ok header => (.ok header, { s with pendingReceive := true })
  | .error stop => (.error stop, s.poison)

/-- `PendingControlReceive::drop` before the receive is committed, lines 346-353. -/
def dropPending : ControlState :=
  { s with pendingReceive := false, poisoned := true }

/-- `PendingControlReceive::finish_owned`, lines 328-343. -/
def finishOwned (header : ValidatedControlHeader) (payload : Bytes) :
    Run ControlError ControlFrame × ControlState :=
  if payload.length ≠ header.payloadLen.toNat then
    (fail .nonCanonical, s.dropPending)
  else
    match checkedSucc s.nextReceive with
    | none => (fail .sequenceExhausted, s.dropPending)
    | some next =>
      (.ok { kind := header.kind, payload },
        { s with nextReceive := next, pendingReceive := false })

/-- Lines 156-173. -/
def decodeOwned (source : Bytes) : Run ControlError ControlFrame × ControlState :=
  if source.length < controlHeaderLen then
    (fail .truncated, s.poison)
  else
    match s.validateHeader t (source.extract 0 controlHeaderLen) with
    | (.error stop, s) => (.error stop, s)
    | (.ok header, s) =>
      match controlWireLen t header.payloadLen.toNat with
      | none => (fail .lengthOverflow, s.dropPending)
      | some expected =>
        if source.length ≠ expected then
          (fail .nonCanonical, s.dropPending)
        else
          s.finishOwned header (source.extract controlHeaderLen expected)

/-! ### Transactions -/

/-- Lines 193-203. -/
def beginTransaction : Run ControlError Unit × ControlState :=
  if s.poisoned then
    (fail .poisoned, s)
  else if s.transactionOpen || s.pendingReceive then
    (fail .transactionConflict, s.poison)
  else
    (.ok (), { s with transactionOpen := true })

/-- Lines 205-215. -/
def endTransaction : Run ControlError Unit × ControlState :=
  if s.poisoned then
    (fail .poisoned, s)
  else if !s.transactionOpen then
    (fail .transactionConflict, s.poison)
  else
    (.ok (), { s with transactionOpen := false })

/-! ### The wire format -/

theorem u32TryFrom_eq_some {value : Nat} {word : UInt32} :
    u32TryFrom value = some word ↔ value = word.toNat := by
  unfold u32TryFrom
  split
  · rename_i fits
    rw [Option.some.injEq, ← UInt32.toNat_inj, UInt32.toNat_ofNat_of_lt' fits]
  · rename_i large
    refine ⟨nofun, fun h => absurd ?_ large⟩
    rw [h]
    exact word.toNat_lt

theorem exists_u32TryFrom (value : Nat) (small : value < 2 ^ 32) :
    ∃ word, u32TryFrom value = some word ∧ word.toNat = value :=
  ⟨_, if_pos small, UInt32.toNat_ofNat_of_lt' small⟩

theorem checkedSucc_eq_some {value next : UInt64} :
    checkedSucc value = some next ↔ value ≠ u64Max ∧ next = value + 1 := by
  have hlt : value.toNat < 2 ^ 64 := value.toNat_lt
  have hmax : value ≠ u64Max ↔ value.toNat + 1 < 2 ^ 64 := by
    rw [Ne, ← UInt64.toNat_inj, show u64Max.toNat = 2 ^ 64 - 1 from rfl]
    omega
  have hofNat : UInt64.ofNat (value.toNat + 1) = value + 1 := by
    rw [UInt64.ofNat_add, UInt64.ofNat_toNat]
    rfl
  simp only [checkedSucc, Option.map_eq_some_iff, checkedAdd_eq_some, hmax]
  constructor
  · rintro ⟨_, ⟨hfit, rfl⟩, rfl⟩
    exact ⟨hfit, hofNat⟩
  · rintro ⟨hfit, rfl⟩
    exact ⟨_, ⟨hfit, rfl⟩, hofNat⟩

theorem toNat_succ {value : UInt64} (h : value ≠ u64Max) : (value + 1).toNat = value.toNat + 1 := by
  have hlt : value.toNat ≠ 2 ^ 64 - 1 := fun same => h (UInt64.toNat_inj.mp same)
  have hbound := value.toNat_lt
  rw [UInt64.toNat_add]
  change (value.toNat + 1) % 2 ^ 64 = value.toNat + 1
  omega

variable {t s} {payloadLen : Nat} {source payload : Bytes} {header : ValidatedControlHeader}
  {kind : UInt32}

/-- A payload that passes the hard limit has a wire length on every target. -/
theorem controlWireLen_eq_some (t : Target) (h : payloadLen ≤ 2 ^ 24) :
    controlWireLen t payloadLen = some (controlHeaderLen + payloadLen) := by
  rw [controlWireLen, checkedAdd_eq_some]
  refine ⟨t.u32_fits ?_, rfl⟩
  rw [controlHeaderLen]
  omega

/-- The fields of a control header in the order of their offsets. -/
def headerFields (sequence : UInt64) (header : ValidatedControlHeader) : List Bytes :=
  [controlMagic, ofLe 2 controlVersionMajor.toNat, ofLe 2 controlVersionMinor.toNat,
    ofLe 4 controlHeaderLen, ofLe 4 (controlHeaderLen + header.payloadLen.toNat),
    ofLe 4 header.payloadLen.toNat, ofLe 4 header.kind.toNat, ofLe 4 (0 : UInt32).toNat,
    nonce.list, ofLe 8 sequence.toNat]

/-- The 72 bytes of a control header. -/
def headerImage (sequence : UInt64) (header : ValidatedControlHeader) : Bytes :=
  (headerFields nonce sequence header).flatten

@[simp] theorem length_headerImage (sequence : UInt64) (header : ValidatedControlHeader) :
    (headerImage nonce sequence header).length = controlHeaderLen := by
  simp [headerImage, headerFields, controlMagic, nonce.length_eq, controlHeaderLen]

/-- A control record: its header and its payload. -/
def recordImage (sequence : UInt64) (frame : ControlFrame) : Bytes :=
  headerImage nonce sequence ⟨frame.kind, UInt32.ofNat frame.payload.length⟩ ++ frame.payload

theorem length_recordImage (sequence : UInt64) (frame : ControlFrame) :
    (recordImage nonce sequence frame).length = controlHeaderLen + frame.payload.length := by
  rw [recordImage, length_append, length_headerImage]

/-- What `check_local_parts` accepts. -/
structure Sendable (s : ControlState) (frame : ControlFrame) : Prop where
  unpoisoned : s.poisoned = false
  closed : s.transactionOpen = false
  kind_ge : applicationControlKindMin ≤ frame.kind
  payload_le : frame.payload.length ≤ s.maximumPayload.toNat
  sequence_left : s.nextSend ≠ u64Max

theorem maximumPayload_toNat_le (s : ControlState) : s.maximumPayload.toNat ≤ 2 ^ 24 :=
  UInt32.le_iff_toNat_le.mp s.maximumPayload_le

theorem checkLocalParts_eq_ok {u : Unit} :
    s.checkLocalParts frame.kind frame.payload.length = .ok u ↔ s.Sendable frame := by
  have hmax := s.maximumPayload_toNat_le
  have hard := UInt32.le_iff_toNat_le.mp s.maximumPayload_le
  simp only [checkLocalParts, bind_eq_ok, rejectIf_eq_ok, okOr_eq_ok, u32TryFrom_eq_some,
    exists_const, not_or, UInt32.not_lt, UInt32.le_iff_toNat_le, Bool.not_eq_true]
  constructor
  · rintro ⟨unpoisoned, closed, kind, word, hword, ⟨hle, _⟩, left⟩
    exact ⟨unpoisoned, closed, UInt32.le_iff_toNat_le.mpr kind, by omega, left⟩
  · rintro ⟨unpoisoned, closed, kind, hle, left⟩
    have hword : (UInt32.ofNat frame.payload.length).toNat = frame.payload.length :=
      UInt32.toNat_ofNat_of_lt' (by change _ < 2 ^ 32; omega)
    exact ⟨unpoisoned, closed, UInt32.le_iff_toNat_le.mp kind, _, hword.symm,
      ⟨by omega, by omega⟩, left⟩

theorem Sendable.encodedLenParts (h : s.Sendable frame) (t : Target) :
    s.encodedLenParts t frame.kind frame.payload.length =
      .ok (controlHeaderLen + frame.payload.length) := by
  have hmax := s.maximumPayload_toNat_le
  have hle := h.payload_le
  rw [ControlState.encodedLenParts, bind_eq_ok]
  exact ⟨(), checkLocalParts_eq_ok.mpr h, okOr_eq_ok.mpr (controlWireLen_eq_some t (by omega))⟩

/-- The fields before the reserved word of a control header. -/
def leadingFields (frame : ControlFrame) : List Bytes :=
  [controlMagic, ofLe 2 controlVersionMajor.toNat, ofLe 2 controlVersionMinor.toNat,
    ofLe 4 controlHeaderLen, ofLe 4 (controlHeaderLen + frame.payload.length),
    ofLe 4 frame.payload.length, ofLe 4 frame.kind.toNat]

/-- The fields after the reserved word, and the payload. -/
def trailingFields (s : ControlState) (frame : ControlFrame) : List Bytes :=
  [s.nonce.list, ofLe 8 s.nextSend.toNat, frame.payload]

theorem recordImage_eq (s : ControlState) (small : frame.payload.length ≤ 2 ^ 24) :
    recordImage s.nonce s.nextSend frame =
      (leadingFields frame).flatten ++ List.replicate 4 0 ++ (s.trailingFields frame).flatten := by
  have hlen : (UInt32.ofNat frame.payload.length).toNat = frame.payload.length :=
    UInt32.toNat_ofNat_of_lt' (by change _ < 2 ^ 32; omega)
  simp [recordImage, headerImage, headerFields, leadingFields, trailingFields, hlen, ofLe_zero]

/-- The written-out offsets are those of consecutive fields around the reserved word. -/
theorem writeParts_eq_putFields (small : frame.payload.length ≤ 2 ^ 24)
    (fits : controlHeaderLen + frame.payload.length ≤ destination.length) :
    s.writeParts frame.kind frame.payload (controlHeaderLen + frame.payload.length) destination =
      (do
        let wire ← put destination 28 (List.replicate 4 0)
        let wire ← putFields wire 0 (leadingFields frame)
        putFields wire 32 (s.trailingFields frame)) := by
  have hheader : controlHeaderLen = 72 := rfl
  obtain ⟨frameLen, hframe, hframeLen⟩ := exists_u32TryFrom (72 + frame.payload.length) (by omega)
  obtain ⟨payloadLen, hpayload, hpayloadLen⟩ := exists_u32TryFrom frame.payload.length (by omega)
  rw [hheader] at fits
  have hfits : rejectIf (destination.length < 72 + frame.payload.length)
      ControlError.destinationTooSmall = .ok () := if_neg (Nat.not_lt.mpr fits)
  simp only [writeParts, leadingFields, trailingFields, putFields, putU16, putU32, putU64, hheader,
    hfits, hframe, hpayload, okOr, ok_bind, hframeLen, hpayloadLen, bind_assoc, bind_pure,
    controlMagic, s.nonce.length_eq, length_ofLe, length_cons, length_nil, Nat.reduceAdd]
  rfl

/-- The writes leave the record, and the rest of the destination as it was. -/
theorem writeParts_eq (small : frame.payload.length ≤ 2 ^ 24)
    (fits : controlHeaderLen + frame.payload.length ≤ destination.length) :
    s.writeParts frame.kind frame.payload (controlHeaderLen + frame.payload.length) destination =
      .ok (recordImage s.nonce s.nextSend frame ++
        destination.drop (controlHeaderLen + frame.payload.length)) := by
  have hleading : (leadingFields frame).flatten.length = 28 := by
    simp [leadingFields, controlMagic]
  have htrailing : 32 + (s.trailingFields frame).flatten.length =
      controlHeaderLen + frame.payload.length := by
    simp [trailingFields, s.nonce.length_eq, controlHeaderLen]
    omega
  rw [writeParts_eq_putFields small fits, recordImage_eq s small, ← htrailing]
  exact putFields_gap (List.replicate 4 0) hleading (htrailing.trans_le fits)

/-- The record goes out with the next sequence number, which is then used up. -/
theorem Sendable.encodePartsInto_of_room (h : s.Sendable frame) (idle : s.pendingReceive = false)
    (t : Target) (room : controlHeaderLen + frame.payload.length ≤ destination.length) :
    s.encodePartsInto t frame.kind frame.payload destination =
      (.ok (controlHeaderLen + frame.payload.length, recordImage s.nonce s.nextSend frame ++
          destination.drop (controlHeaderLen + frame.payload.length)),
        { s with nextSend := s.nextSend + 1 }) := by
  have hsmall : frame.payload.length ≤ 2 ^ 24 := h.payload_le.trans s.maximumPayload_toNat_le
  have hwrite := writeParts_eq (s := s) hsmall room
  have hnext : checkedSucc s.nextSend = some (s.nextSend + 1) :=
    checkedSucc_eq_some.mpr ⟨h.sequence_left, rfl⟩
  simp [ControlState.encodePartsInto, h.closed, idle, h.sequence_left, h.encodedLenParts t,
    hwrite, hnext, okOr, ok_bind]

/-- What `encode_parts_into` has checked when it returns. -/
theorem of_encodePartsInto {result : Nat × Bytes}
    (run : (s.encodePartsInto t frame.kind frame.payload destination).1 = .ok result) :
    s.Sendable frame ∧ s.pendingReceive = false ∧
      controlHeaderLen + frame.payload.length ≤ destination.length := by
  unfold ControlState.encodePartsInto at run
  split at run
  · cases run
  rename_i busy
  split at run
  · cases run
  dsimp only at run
  split at run
  · rename_i required wire next written
    obtain ⟨length, hlength, written⟩ := bind_eq_ok.mp written
    obtain ⟨_, hwrite, -⟩ := bind_eq_ok.mp written
    obtain ⟨_, checked, -⟩ := bind_eq_ok.mp hlength
    have sendable := checkLocalParts_eq_ok.mp checked
    cases (sendable.encodedLenParts t).symm.trans hlength
    obtain ⟨_, room, -⟩ := bind_eq_ok.mp hwrite
    have idle : s.pendingReceive = false := by
      cases h : s.pendingReceive with
      | false => rfl
      | true => exact absurd (by simp [h]) busy
    exact ⟨sendable, idle, Nat.not_lt.mp (rejectIf_eq_ok.mp room)⟩
  · cases run

/-- What `validate_header_inner` requires of the state. -/
structure Receiving (s : ControlState) : Prop where
  unpoisoned : s.poisoned = false
  closed : s.transactionOpen = false
  idle : s.pendingReceive = false
  sequence_left : s.nextReceive ≠ u64Max

/-- A header is accepted exactly when it is the canonical one with the next sequence number. -/
theorem validateHeaderInner_eq_ok (hlen : source.length = controlHeaderLen) :
    s.validateHeaderInner t source = .ok header ↔
      s.Receiving ∧ applicationControlKindMin ≤ header.kind ∧
        header.payloadLen ≤ s.maximumPayload ∧
        source = headerImage s.nonce s.nextReceive header := by
  have hmax := s.maximumPayload_toNat_le
  have hlen72 : source.length = 72 := hlen
  have himage : source = headerImage s.nonce s.nextReceive header ↔
      FieldsAt source 0 (headerFields s.nonce s.nextReceive header) :=
    eq_flatten_iff (hlen.trans (length_headerImage _ _ _).symm)
  rw [himage]
  simp only [validateHeaderInner, bind_eq_ok, slice_eq_ok, rejectIf_eq_ok, getU16_eq_ok,
    getU32_eq_ok, getU64_eq_ok, okOr_eq_ok, pure_eq_ok, hlen72, exists_const, not_or, not_not,
    Bool.not_eq_true, headerFields, FieldsAt, length_ofLe, s.nonce.length_eq, and_true,
    UInt32.not_lt]
  constructor
  · rintro ⟨unpoisoned, closed, idle, _, _, ⟨_, rfl⟩, magic, _, major, _, minor, ⟨rfl, rfl⟩, _,
      size, _, reserved, ⟨rfl, rfl⟩, frameLen, frame, payloadLen, payload, _, hexpected, rfl,
      ⟨hpayload, _⟩, kind, hkind, hge, _, ⟨_, rfl⟩, nonce, _, sequence, rfl, left, rfl⟩
    refine ⟨⟨unpoisoned, closed, idle, left⟩, hge, hpayload, magic, major, minor, size, ?_, payload,
      hkind, reserved, nonce, sequence⟩
    rw [controlWireLen, checkedAdd_eq_some] at hexpected
    rw [hexpected.2]
    exact frame
  · rintro ⟨⟨unpoisoned, closed, idle, left⟩, hge, hpayload, magic, major, minor, size, frame,
      payload, hkind, reserved, nonce, sequence⟩
    have hle : header.payloadLen.toNat ≤ 2 ^ 24 := (UInt32.le_iff_toNat_le.mp hpayload).trans hmax
    have hframe : (UInt32.ofNat (controlHeaderLen + header.payloadLen.toNat)).toNat =
        controlHeaderLen + header.payloadLen.toNat :=
      UInt32.toNat_ofNat_of_lt' (by change 72 + _ < 2 ^ 32; omega)
    exact ⟨unpoisoned, closed, idle, rfl, _, ⟨by decide, rfl⟩, magic, _, major, _, minor, ⟨rfl,
      rfl⟩, UInt32.ofNat controlHeaderLen, size, _, reserved, ⟨rfl, rfl⟩, _, hframe.symm ▸ frame, _,
      payload, _, controlWireLen_eq_some t hle, hframe, ⟨hpayload, UInt32.le_iff_toNat_le.mpr hle⟩,
      _, hkind, hge, _, ⟨by decide, rfl⟩, nonce, _, sequence, rfl, left, rfl⟩

/-- What a frame must satisfy to be received. -/
structure Receivable (s : ControlState) (frame : ControlFrame) : Prop extends Receiving s where
  kind_ge : applicationControlKindMin ≤ frame.kind
  payload_le : frame.payload.length ≤ s.maximumPayload.toNat

/-- The canonical record with the next sequence number is received. -/
theorem Receivable.decodeOwned (h : s.Receivable frame) (t : Target) :
    s.decodeOwned t (recordImage s.nonce s.nextReceive frame) =
      (.ok frame, { s with nextReceive := s.nextReceive + 1 }) := by
  have hsmall : frame.payload.length ≤ 2 ^ 24 := h.payload_le.trans s.maximumPayload_toNat_le
  let header : ValidatedControlHeader := ⟨frame.kind, UInt32.ofNat frame.payload.length⟩
  have hword : header.payloadLen.toNat = frame.payload.length :=
    UInt32.toNat_ofNat_of_lt' (by change _ < 2 ^ 32; omega)
  have himage := length_headerImage s.nonce s.nextReceive header
  have hlen := length_recordImage s.nonce s.nextReceive frame
  have hhead : (recordImage s.nonce s.nextReceive frame).extract 0 controlHeaderLen =
      headerImage s.nonce s.nextReceive header := by
    rw [recordImage, extract_eq_take_drop, drop_zero, Nat.sub_zero, take_left' himage]
  have hpayload : (recordImage s.nonce s.nextReceive frame).extract controlHeaderLen
      (controlHeaderLen + frame.payload.length) = frame.payload := by
    rw [recordImage, extract_eq_take_drop, drop_left' himage, Nat.add_sub_cancel_left, take_length]
  have hvalid : s.validateHeaderInner t (headerImage s.nonce s.nextReceive header) = .ok header :=
    (validateHeaderInner_eq_ok himage).mpr
      ⟨h.toReceiving, h.kind_ge, UInt32.le_iff_toNat_le.mpr (hword.trans_le h.payload_le), rfl⟩
  have hnext : checkedSucc s.nextReceive = some (s.nextReceive + 1) :=
    checkedSucc_eq_some.mpr ⟨h.sequence_left, rfl⟩
  simp [ControlState.decodeOwned, hlen, hhead, validateHeader, hvalid, hword,
    controlWireLen_eq_some t hsmall, hpayload, finishOwned, hnext, h.idle, header]

theorem of_finishOwned (run : (s.finishOwned header payload).1 = .ok frame) :
    payload.length = header.payloadLen.toNat ∧ frame = ⟨header.kind, payload⟩ := by
  unfold finishOwned at run
  split at run
  · cases run
  · rename_i hlen
    split at run
    · cases run
    · cases run
      exact ⟨not_not.mp hlen, rfl⟩

/-- A record is received exactly when it is the canonical one with the next sequence number. -/
theorem decodeOwned_eq_ok :
    (s.decodeOwned t source).1 = .ok frame ↔
      s.Receivable frame ∧ source = recordImage s.nonce s.nextReceive frame := by
  constructor
  · intro run
    unfold decodeOwned validateHeader at run
    split at run
    · cases run
    rename_i long
    have hhead : (source.extract 0 controlHeaderLen).length = controlHeaderLen :=
      length_extract_of_le (Nat.not_lt.mp long)
    cases hinner : s.validateHeaderInner t (source.extract 0 controlHeaderLen) with
    | error stop =>
      simp only [hinner] at run
      cases run
    | ok header =>
      obtain ⟨receiving, kind, payload, himage⟩ := (validateHeaderInner_eq_ok hhead).mp hinner
      have hpayload := UInt32.le_iff_toNat_le.mp payload
      simp only [hinner, controlWireLen_eq_some t (hpayload.trans s.maximumPayload_toNat_le)] at run
      split at run
      · cases run
      rename_i hlen
      obtain ⟨hsize, rfl⟩ := of_finishOwned run
      have hrest : source.extract controlHeaderLen
          (controlHeaderLen + header.payloadLen.toNat) = source.drop controlHeaderLen := by
        rw [← not_not.mp hlen, extract_eq_take_drop]
        exact take_of_length_le (by rw [length_drop])
      refine ⟨⟨receiving, kind, hsize.trans_le hpayload⟩, ?_⟩
      rw [recordImage, hsize, UInt32.ofNat_toNat, ← himage, hrest, extract_eq_take_drop]
      exact (take_append_drop _ _).symm
  · rintro ⟨receivable, rfl⟩
    rw [receivable.decodeOwned]

/-- A state that is free to send, and sends next what `s` receives next. -/
structure Mirrors (peer s : ControlState) : Prop where
  nonce : peer.nonce = s.nonce
  maximumPayload : peer.maximumPayload = s.maximumPayload
  sequence : peer.nextSend = s.nextReceive
  unpoisoned : peer.poisoned = false
  closed : peer.transactionOpen = false
  idle : peer.pendingReceive = false

theorem Mirrors.sendable_iff {peer : ControlState} (mirrors : peer.Mirrors s)
    (receiving : s.Receiving) : peer.Sendable frame ↔ s.Receivable frame := by
  constructor
  · intro sendable
    exact ⟨receiving, sendable.kind_ge, mirrors.maximumPayload ▸ sendable.payload_le⟩
  · intro receivable
    refine ⟨mirrors.unpoisoned, mirrors.closed, receivable.kind_ge, ?_, ?_⟩
    · rw [mirrors.maximumPayload]
      exact receivable.payload_le
    · rw [mirrors.sequence]
      exact receiving.sequence_left

/-- Encoding succeeds exactly for what may be sent into a destination with room for it. -/
theorem encodePartsInto_eq_ok {wire : Bytes} {length : Nat} :
    (s.encodePartsInto t frame.kind frame.payload destination).1 = .ok (length, wire) ↔
      s.Sendable frame ∧ s.pendingReceive = false ∧ length ≤ destination.length ∧
        length = controlHeaderLen + frame.payload.length ∧
        wire = recordImage s.nonce s.nextSend frame ++ destination.drop length := by
  constructor
  · intro run
    obtain ⟨sendable, idle, room⟩ := of_encodePartsInto run
    rw [sendable.encodePartsInto_of_room idle t room] at run
    cases run
    exact ⟨sendable, idle, room, rfl, rfl⟩
  · rintro ⟨sendable, idle, room, rfl, rfl⟩
    rw [sendable.encodePartsInto_of_room idle t room]

/-- The format is exact: a record is decoded exactly when it is what a sender at the same place of
    the same session writes, and what a sender writes depends on nothing else. -/
theorem control_wire_exact :
    (∀ (t u : Target) (s peer : ControlState), s.Receiving → peer.Mirrors s →
      ∀ (source destination : Bytes) (frame : ControlFrame),
        controlHeaderLen + frame.payload.length ≤ destination.length →
          ((s.decodeOwned t source).1 = .ok frame ↔
            applicationControlKindMin ≤ frame.kind ∧
              frame.payload.length ≤ s.maximumPayload.toNat ∧
              ∃ length wire,
                (peer.encodePartsInto u frame.kind frame.payload destination).1 =
                    .ok (length, wire) ∧
                  source = wire.take length)) ∧
    (∀ s : ControlState, s.Receiving → ∃ peer : ControlState, peer.Mirrors s) ∧
    ∀ (t : Target) (s : ControlState) (kind : UInt32) (payload destination wire : Bytes)
      (length : Nat),
      (s.encodePartsInto t kind payload destination).1 = .ok (length, wire) →
        wire.length = destination.length ∧ wire.drop length = destination.drop length ∧
          ∀ other : Bytes, length ≤ other.length →
            ∃ wire', (s.encodePartsInto t kind payload other).1 = .ok (length, wire') ∧
              wire'.take length = wire.take length := by
  refine ⟨?_, ?_, ?_⟩
  · intro t u s peer receiving mirrors source destination frame room
    have image : recordImage peer.nonce peer.nextSend frame =
        recordImage s.nonce s.nextReceive frame := by
      rw [mirrors.nonce, mirrors.sequence]
    have size := length_recordImage s.nonce s.nextReceive frame
    rw [decodeOwned_eq_ok]
    constructor
    · rintro ⟨receivable, rfl⟩
      have written := encodePartsInto_eq_ok (t := u).mpr
        ⟨(mirrors.sendable_iff receiving).mpr receivable, mirrors.idle, room, rfl, rfl⟩
      refine ⟨receivable.kind_ge, receivable.payload_le, _, _, written, ?_⟩
      rw [image, List.take_left' size]
    · rintro ⟨kind_ge, payload_le, length, wire, written, rfl⟩
      obtain ⟨-, -, -, rfl, rfl⟩ := encodePartsInto_eq_ok.mp written
      refine ⟨⟨receiving, kind_ge, payload_le⟩, ?_⟩
      rw [image, List.take_left' size]
  · intro s receiving
    exact ⟨{ s with nextSend := s.nextReceive },
      ⟨rfl, rfl, rfl, receiving.unpoisoned, receiving.closed, receiving.idle⟩⟩
  · intro t s kind payload destination wire length written
    obtain ⟨frame, rfl, rfl⟩ : ∃ frame : ControlFrame, kind = frame.kind ∧ payload = frame.payload :=
      ⟨⟨kind, payload⟩, rfl, rfl⟩
    have size := length_recordImage s.nonce s.nextSend frame
    obtain ⟨sendable, idle, room, rfl, rfl⟩ := encodePartsInto_eq_ok.mp written
    refine ⟨?_, List.drop_left' size, ?_⟩
    · rw [List.length_append, size, List.length_drop]
      omega
    · intro other otherRoom
      have rewritten := encodePartsInto_eq_ok (t := t).mpr ⟨sendable, idle, otherRoom, rfl, rfl⟩
      refine ⟨_, rewritten, ?_⟩
      rw [List.take_left' size, List.take_left' size]

/-! ### Poison is final -/

section Poisoned

variable {s : ControlState} (poisoned : s.poisoned = true)
include poisoned

theorem poison_eq : s.poison = s := by
  rw [poison, ← poisoned]

theorem encodedLenParts_of_poisoned (t : Target) (kind : UInt32) (payloadLen : Nat) :
    s.encodedLenParts t kind payloadLen = fail .poisoned := by
  simp [encodedLenParts, checkLocalParts, rejectIf, poisoned, fail, bind, Except.bind]

theorem decodeOwned_of_poisoned (t : Target) (source : Bytes) :
    ∃ error, s.decodeOwned t source = (fail error, s) := by
  have hinvalid (source : Bytes) : s.validateHeader t source = (fail .poisoned, s) := by
    simp [validateHeader, validateHeaderInner, rejectIf, poisoned, fail, bind, Except.bind,
      poison_eq poisoned]
  unfold decodeOwned
  split
  · exact ⟨.truncated, by rw [poison_eq poisoned]⟩
  · exact ⟨.poisoned, by rw [hinvalid]; rfl⟩

end Poisoned

/-! ### What a method can do to the state -/

/-- What every method leaves: poison stays, a poisoned state counts no more records, and nothing
    is left half received. -/
structure Evolves (s s' : ControlState) : Prop where
  poisoned : s.poisoned = true → s'.poisoned = true
  frozen : s.poisoned = true → s'.nextSend = s.nextSend ∧ s'.nextReceive = s.nextReceive
  idle : s.pendingReceive = false → s'.pendingReceive = false

instance : IsPreorder ControlState Evolves where
  refl _ := ⟨id, fun _ => ⟨rfl, rfl⟩, id⟩
  trans _ _ _ first second :=
    { poisoned := second.poisoned ∘ first.poisoned
      frozen := fun poisoned =>
        ⟨(second.frozen (first.poisoned poisoned)).1.trans (first.frozen poisoned).1,
          (second.frozen (first.poisoned poisoned)).2.trans (first.frozen poisoned).2⟩
      idle := second.idle ∘ first.idle }

theorem evolves_poison (s : ControlState) : s.Evolves s.poison :=
  ⟨fun _ => rfl, fun _ => ⟨rfl, rfl⟩, id⟩

theorem encodePartsInto_cases (t : Target) (s : ControlState) (kind : UInt32)
    (payload destination : Bytes) :
    (s.encodePartsInto t kind payload destination).2 = s.poison ∨
      (s.encodePartsInto t kind payload destination).2 = s ∨
      ∃ next, s.poisoned = false ∧
        (s.encodePartsInto t kind payload destination).2 = { s with nextSend := next } := by
  unfold encodePartsInto
  split
  · exact .inl rfl
  · split
    · exact .inl rfl
    · dsimp only
      split
      · rename_i required wire next written
        refine .inr (.inr ⟨next, ?_, rfl⟩)
        obtain ⟨_, encoded, -⟩ := bind_eq_ok.mp written
        by_contra poisoned
        rw [encodedLenParts_of_poisoned (Bool.eq_true_of_not_eq_false poisoned)] at encoded
        cases encoded
      · exact .inr (.inl rfl)

/-- A failed `encode_parts_into` poisons the state or leaves it as it was. -/
theorem encodePartsInto_of_error {stop : Stop ControlError}
    (failed : (s.encodePartsInto t kind payload destination).1 = .error stop) :
    (s.encodePartsInto t kind payload destination).2 = s.poison ∨
      (s.encodePartsInto t kind payload destination).2 = s := by
  unfold encodePartsInto at failed ⊢
  split
  · exact .inl rfl
  · split
    · exact .inl rfl
    · dsimp only
      split
      · simp_all
      · exact .inr rfl

theorem evolves_encodePartsInto (t : Target) (s : ControlState) (kind : UInt32)
    (payload destination : Bytes) : s.Evolves (s.encodePartsInto t kind payload destination).2 := by
  rcases encodePartsInto_cases t s kind payload destination with poisoned | same | ⟨_, live, sent⟩
  · rw [poisoned]
    exact s.evolves_poison
  · rw [same]
    exact refl_of Evolves s
  · rw [sent]
    have dead : ¬ s.poisoned = true := by simp [live]
    exact ⟨id, fun poisoned => absurd poisoned dead, id⟩

theorem checkLocalParts_ok {u : Unit} (h : s.checkLocalParts kind payloadLen = .ok u) :
    s.poisoned = false ∧ s.transactionOpen = false ∧ s.nextSend ≠ u64Max := by
  simp only [checkLocalParts, bind_eq_ok, rejectIf_eq_ok] at h
  obtain ⟨_, live, _, closed, _, _, _, _, _, _, left⟩ := h
  exact ⟨by simpa using live, by simpa using closed, left⟩

/-- Where the length is accepted and nothing is half received, encoding never poisons. -/
theorem encodePartsInto_of_encodedLenParts {length : Nat}
    (accepted : s.encodedLenParts t kind payload.length = .ok length)
    (idle : s.pendingReceive = false) :
    (s.encodePartsInto t kind payload destination).2.poisoned = false := by
  obtain ⟨_, checked, -⟩ := bind_eq_ok.mp accepted
  obtain ⟨live, closed, left⟩ := checkLocalParts_ok checked
  unfold encodePartsInto
  rw [if_neg (by simp [closed, idle]), if_neg left]
  dsimp only
  split
  · exact live
  · exact live

theorem validateHeaderInner_noFault (t : Target) (s : ControlState) (source : Bytes) :
    NoFault (s.validateHeaderInner t source) := by
  unfold validateHeaderInner
  iterate 3 refine noFault_rejectIf_bind fun _ => ?_
  refine noFault_rejectIf_bind fun sized => ?_
  have hlen : source.length = 72 := not_not.mp sized
  refine noFault_bind (noFault_slice (by omega) (by omega)) fun _ _ => ?_
  refine noFault_rejectIf_bind fun _ => ?_
  iterate 2 refine noFault_bind (noFault_getWord (by omega)) fun _ _ => ?_
  refine noFault_rejectIf_bind fun _ => ?_
  iterate 2 refine noFault_bind (noFault_getWord (by omega)) fun _ _ => ?_
  refine noFault_rejectIf_bind fun _ => ?_
  iterate 2 refine noFault_bind (noFault_getWord (by omega)) fun _ _ => ?_
  refine noFault_bind (noFault_okOr _ _) fun _ _ => ?_
  iterate 2 refine noFault_rejectIf_bind fun _ => ?_
  refine noFault_bind (noFault_getWord (by omega)) fun _ _ => ?_
  refine noFault_rejectIf_bind fun _ => ?_
  refine noFault_bind (noFault_slice (by omega) (by omega)) fun _ _ => ?_
  refine noFault_rejectIf_bind fun _ => ?_
  refine noFault_bind (noFault_getWord (by omega)) fun _ _ => ?_
  iterate 2 refine noFault_rejectIf_bind fun _ => ?_
  exact noFault_pure _

/-- Decoding fails with an error and leaves the state poisoned, or takes the next record. -/
theorem decodeOwned_cases (t : Target) (s : ControlState) (source : Bytes) :
    (∃ error, (s.decodeOwned t source).1 = fail error ∧
        ((s.decodeOwned t source).2 = s.poison ∨
          (s.decodeOwned t source).2 = { s with pendingReceive := false, poisoned := true })) ∨
      ∃ frame next, s.poisoned = false ∧ s.transactionOpen = false ∧
        s.decodeOwned t source =
          (.ok frame, { s with nextReceive := next, pendingReceive := false }) := by
  have header := validateHeaderInner_noFault t s (source.extract 0 controlHeaderLen)
  unfold decodeOwned validateHeader
  split
  · exact .inl ⟨_, rfl, .inl rfl⟩
  · rcases hinner : s.validateHeaderInner t (source.extract 0 controlHeaderLen) with
      (error | _) | header
    · exact .inl ⟨error, rfl, .inl rfl⟩
    · exact absurd hinner header
    · dsimp only
      split
      · exact .inl ⟨_, rfl, .inr rfl⟩
      · split
        · exact .inl ⟨_, rfl, .inr rfl⟩
        · unfold finishOwned
          split
          · exact .inl ⟨_, rfl, .inr rfl⟩
          · split
            · exact .inl ⟨_, rfl, .inr rfl⟩
            · simp only [validateHeaderInner, bind_eq_ok, rejectIf_eq_ok] at hinner
              obtain ⟨_, live, _, closed, -⟩ := hinner
              exact .inr ⟨_, _, by simpa using live, by simpa using closed, rfl⟩

theorem evolves_decodeOwned (t : Target) (s : ControlState) (source : Bytes) :
    s.Evolves (s.decodeOwned t source).2 := by
  rcases decodeOwned_cases t s source with ⟨_, -, poisoned | dropped⟩ | ⟨_, _, live, -, taken⟩
  · rw [poisoned]
    exact s.evolves_poison
  · rw [dropped]
    exact ⟨fun _ => rfl, fun _ => ⟨rfl, rfl⟩, fun _ => rfl⟩
  · rw [taken]
    have dead : ¬ s.poisoned = true := by simp [live]
    exact ⟨id, fun poisoned => absurd poisoned dead, fun _ => rfl⟩

theorem beginTransaction_cases (s : ControlState) :
    s.beginTransaction = (fail .poisoned, s) ∧ s.poisoned = true ∨
      s.beginTransaction = (fail .transactionConflict, s.poison) ∧ s.poisoned = false ∧
        (s.transactionOpen = true ∨ s.pendingReceive = true) ∨
      s.beginTransaction = (.ok (), { s with transactionOpen := true }) ∧ s.poisoned = false ∧
        s.transactionOpen = false ∧ s.pendingReceive = false := by
  unfold beginTransaction
  by_cases poisoned : s.poisoned = true
  · exact .inl ⟨if_pos poisoned, poisoned⟩
  · rw [if_neg poisoned]
    have live : s.poisoned = false := by simpa using poisoned
    by_cases busy : (s.transactionOpen || s.pendingReceive) = true
    · exact .inr (.inl ⟨if_pos busy, live, by simpa using busy⟩)
    · exact .inr (.inr ⟨if_neg busy, live, by simpa using busy⟩)

theorem endTransaction_cases (s : ControlState) :
    s.endTransaction = (fail .poisoned, s) ∧ s.poisoned = true ∨
      s.endTransaction = (fail .transactionConflict, s.poison) ∧ s.poisoned = false ∧
        s.transactionOpen = false ∨
      s.endTransaction = (.ok (), { s with transactionOpen := false }) ∧ s.poisoned = false ∧
        s.transactionOpen = true := by
  unfold endTransaction
  by_cases poisoned : s.poisoned = true
  · exact .inl ⟨if_pos poisoned, poisoned⟩
  · rw [if_neg poisoned]
    have live : s.poisoned = false := by simpa using poisoned
    cases hopen : s.transactionOpen with
    | false => exact .inr (.inl ⟨rfl, live, rfl⟩)
    | true => exact .inr (.inr ⟨rfl, live, rfl⟩)

end ControlState

end NativeIpc.Session
