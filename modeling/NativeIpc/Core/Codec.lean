import NativeIpc.Lib.Bytes
import NativeIpc.Lib.Program
import NativeIpc.Lib.Words

/-!
# Message envelopes

The envelope of 72 bytes in front of every payload and the budget of a payload decoder, after
`native-ipc-core/src/codec.rs`, for an arbitrary protocol. When a protocol's payloads read back to
what they were written from, so do its messages, and nothing else is accepted.
Lines are those of `codec.rs`.
-/

namespace NativeIpc.Core.Codec

open NativeIpc.Lib Bytes Run List

/-! ### Limits and errors -/

def messageMagic : UInt32 := 0x4e495043

def versionMajor : UInt16 := 1

def versionMinor : UInt16 := 0

def envelopeLen : Nat := 72

/-- Lines 18-27. -/
structure Limits where
  maxMessageBytes : UInt32
  maxPayloadBytes : UInt32
  maxRecords : UInt32
  maxAllocationBytes : UInt32
  deriving DecidableEq, Repr

/-- Lines 285-294. -/
inductive LimitKind where
  | messageBytes
  | payloadBytes
  | records
  | allocationBytes
  deriving DecidableEq, Repr

/-- Lines 265-281. -/
inductive EncodeError where
  | destinationTooSmall (required actual : Nat)
  | lengthOverflow
  | zeroGeneration
  | zeroSequence
  | protocol (code : UInt16)
  deriving DecidableEq, Repr

/-- Lines 298-343. -/
inductive DecodeError where
  | truncated (required actual : Nat)
  | badMagic (magic : UInt32)
  | badVersion (major minor : UInt16)
  | schemaMismatch
  | zeroGeneration
  | zeroSequence
  | nonCanonicalLength (declared actual : Nat)
  | lengthOverflow
  | relativeRangeOutOfBounds (offset len : UInt32) (containingLen : Nat)
  | limitExceeded (kind : LimitKind)
  | protocol (code : UInt16)
  deriving DecidableEq, Repr

/-! ### The budget of a decoder -/

/-- Lines 30-34. -/
structure DecodeContext where
  limits : Limits
  recordsRemaining : UInt32
  allocationRemaining : UInt32
  deriving DecidableEq, Repr

namespace DecodeContext

/-- Lines 37-43. -/
def new (limits : Limits) : DecodeContext where
  limits := limits
  recordsRemaining := limits.maxRecords
  allocationRemaining := limits.maxAllocationBytes

variable (context : DecodeContext)

/-- Lines 51-57. -/
def claimRecords (count : UInt32) : Run DecodeError Unit × DecodeContext :=
  match checkedSubU32 context.recordsRemaining count with
  | some remaining => (.ok (), { context with recordsRemaining := remaining })
  | none => (fail (.limitExceeded .records), context)

/-- Lines 60-66. -/
def claimAllocation (bytes : UInt32) : Run DecodeError Unit × DecodeContext :=
  match checkedSubU32 context.allocationRemaining bytes with
  | some remaining => (.ok (), { context with allocationRemaining := remaining })
  | none => (fail (.limitExceeded .allocationBytes), context)

/-- Lines 69-73. -/
def copyBytes (source : Bytes) : Run DecodeError Bytes × DecodeContext :=
  if source.length < 2 ^ 32 then
    match context.claimAllocation (UInt32.ofNat source.length) with
    | (.ok _, context) => (.ok source, context)
    | (.error stop, context) => (.error stop, context)
  else (fail .lengthOverflow, context)

end DecodeContext

/-- The calls that a payload decoder can make on its context. -/
inductive ContextCall where
  | limits
  | claimRecords (count : UInt32)
  | claimAllocation (bytes : UInt32)
  | copyBytes (source : Bytes)
  deriving DecidableEq, Repr

/-- What a call returns. -/
abbrev ContextCall.Reply : ContextCall → Type
  | limits => Limits
  | claimRecords _ => Run DecodeError Unit
  | claimAllocation _ => Run DecodeError Unit
  | copyBytes _ => Run DecodeError Bytes

/-- A call on the context, by its name. -/
def DecodeContext.serve : (call : ContextCall) → DecodeContext → call.Reply × DecodeContext
  | .limits, context => (context.limits, context)
  | .claimRecords count, context => context.claimRecords count
  | .claimAllocation bytes, context => context.claimAllocation bytes
  | .copyBytes source, context => context.copyBytes source

/-! ### Envelopes -/

/-- Lines 95-105. -/
structure Envelope where
  kind : UInt32
  flags : UInt32
  generation : UInt64
  sequence : UInt64
  payloadLen : UInt32
  deriving DecidableEq, Repr

/-- Lines 125-129. -/
def Envelope.totalLen (t : Target) (envelope : Envelope) : Run EncodeError Nat :=
  okOr (checkedAdd t.bits envelopeLen envelope.payloadLen.toNat) .lengthOverflow

/-- Lines 131-134. -/
def Envelope.withPayloadLen (envelope : Envelope) (payloadLen : Nat) :
    Run EncodeError Envelope := do
  rejectIf (¬ payloadLen < 2 ^ 32) .lengthOverflow
  pure { envelope with payloadLen := UInt32.ofNat payloadLen }

/-- An implementation of `Protocol`, lines 150-168. The encoder writes into a slice, whose
    length it cannot change; the decoder sees its context through its methods only. -/
structure Protocol where
  Message : Type
  schemaId : FixedBytes 32
  encodePayload : Message → Bytes → Run EncodeError Nat × Bytes
  length_encodePayload : ∀ message destination,
    (encodePayload message destination).2.length = destination.length
  decodePayload : Bytes → Proc ContextCall ContextCall.Reply (Run DecodeError Message)

variable (p : Protocol)

/-- Lines 362-373. -/
def encodeEnvelope (envelope : Envelope) (bytes : Bytes) : Run EncodeError Bytes := do
  let bytes ← putU32 bytes 0 messageMagic
  let bytes ← putU16 bytes 4 versionMajor
  let bytes ← putU16 bytes 6 versionMinor
  let bytes ← putU32 bytes 8 envelope.kind
  let bytes ← putU32 bytes 12 envelope.flags
  let bytes ← putU32 bytes 16 envelope.payloadLen
  let bytes ← putU32 bytes 20 (UInt32.ofNat envelopeLen)
  let bytes ← putU64 bytes 24 envelope.generation
  let bytes ← putU64 bytes 32 envelope.sequence
  put bytes 40 p.schemaId.list

/-- Lines 375-410. -/
def decodeEnvelope (bytes : Bytes) : Run DecodeError Envelope := do
  let magic ← getU32 bytes 0
  rejectIf (magic ≠ messageMagic) (.badMagic magic)
  let major ← getU16 bytes 4
  let minor ← getU16 bytes 6
  rejectIf (major ≠ versionMajor ∨ minor ≠ versionMinor) (.badVersion major minor)
  let headerLen ← getU32 bytes 20
  rejectIf (headerLen ≠ UInt32.ofNat envelopeLen)
    (.nonCanonicalLength headerLen.toNat envelopeLen)
  let schemaId ← slice bytes 40 72
  rejectIf (schemaId ≠ p.schemaId.list) .schemaMismatch
  let generation ← getU64 bytes 24
  rejectIf (generation = 0) .zeroGeneration
  let sequence ← getU64 bytes 32
  rejectIf (sequence = 0) .zeroSequence
  let kind ← getU32 bytes 8
  let flags ← getU32 bytes 12
  let payloadLen ← getU32 bytes 16
  pure { kind, flags, generation, sequence, payloadLen }

/-! ### Messages -/

/-- The lengths that `encode_message` checks after the payload (lines 192-199): the envelope
    to write and the length to return. -/
def finishEnvelope (t : Target) (envelope : Envelope) (payloadLen destinationLen : Nat) :
    Run EncodeError (Envelope × Nat) := do
  let envelope ← envelope.withPayloadLen payloadLen
  let totalLen ← envelope.totalLen t
  rejectIf (totalLen > destinationLen) (.destinationTooSmall totalLen destinationLen)
  pure (envelope, totalLen)

/-- Lines 172-201: the result and the destination after it. -/
def encodeMessage (t : Target) (envelope : Envelope) (message : p.Message)
    (destination : Bytes) : Run EncodeError Nat × Bytes :=
  if envelope.generation = 0 then (fail .zeroGeneration, destination)
  else if envelope.sequence = 0 then (fail .zeroSequence, destination)
  else if destination.length < envelopeLen then
    (fail (.destinationTooSmall envelopeLen destination.length), destination)
  else
    let written := p.encodePayload message (destination.drop envelopeLen)
    let destination := destination.take envelopeLen ++ written.2
    let finished := do
      let payloadLen ← written.1
      let (envelope, totalLen) ← finishEnvelope t envelope payloadLen destination.length
      let head ← encodeEnvelope p envelope (destination.take envelopeLen)
      pure (totalLen, head)
    match finished with
    | .ok (totalLen, head) => (.ok totalLen, head ++ destination.drop envelopeLen)
    | .error stop => (.error stop, destination)

/-- A payload decoder on a fresh context: its result and what it asked of the context. -/
def Protocol.decode (payload : Bytes) (limits : Limits) :
    Run DecodeError p.Message × Log ContextCall ContextCall.Reply × DecodeContext :=
  (p.decodePayload payload).servedBy DecodeContext.serve (DecodeContext.new limits)

/-- Lines 204-234. -/
def decodeMessage (t : Target) (source : Bytes) (limits : Limits) :
    Run DecodeError (Envelope × p.Message) := do
  rejectIf (source.length < envelopeLen) (.truncated envelopeLen source.length)
  rejectIf (source.length > limits.maxMessageBytes.toNat) (.limitExceeded .messageBytes)
  let head ← slice source 0 envelopeLen
  let envelope ← decodeEnvelope p head
  rejectIf (envelope.payloadLen.toNat > limits.maxPayloadBytes.toNat)
    (.limitExceeded .payloadBytes)
  let totalLen ← okOr (checkedAdd t.bits envelopeLen envelope.payloadLen.toNat) .lengthOverflow
  rejectIf (totalLen ≠ source.length) (.nonCanonicalLength totalLen source.length)
  let payload ← slice source envelopeLen source.length
  let message ← (p.decode payload limits).1
  pure (envelope, message)

/-! ### The image of an envelope -/

def envelopeFields (envelope : Envelope) : List Bytes :=
  [ofLe 4 messageMagic.toNat, ofLe 2 versionMajor.toNat, ofLe 2 versionMinor.toNat,
    ofLe 4 envelope.kind.toNat, ofLe 4 envelope.flags.toNat, ofLe 4 envelope.payloadLen.toNat,
    ofLe 4 (UInt32.ofNat envelopeLen).toNat, ofLe 8 envelope.generation.toNat,
    ofLe 8 envelope.sequence.toNat, p.schemaId.list]

/-- The 72 bytes of an envelope. -/
def envelopeImage (envelope : Envelope) : Bytes :=
  (envelopeFields p envelope).flatten

theorem length_envelopeImage (envelope : Envelope) :
    (envelopeImage p envelope).length = envelopeLen := by
  simp [envelopeImage, envelopeFields, envelopeLen, p.schemaId.length_eq]

variable {bytes : Bytes}

theorem encodeEnvelope_eq {p : Protocol} {envelope : Envelope} (size : bytes.length = envelopeLen) :
    encodeEnvelope p envelope bytes = .ok (envelopeImage p envelope) := by
  have fields : encodeEnvelope p envelope bytes =
      putFields bytes 0 (envelopeFields p envelope) := by
    simp [encodeEnvelope, envelopeFields, putFields, putU16, putU32, putU64]
  rw [fields]
  exact putFields_full ((length_envelopeImage p envelope).trans size.symm)

/-- An envelope is read from its image and from nothing else. -/
theorem decodeEnvelope_eq_ok {p : Protocol} {envelope : Envelope}
    (size : bytes.length = envelopeLen) :
    decodeEnvelope p bytes = .ok envelope ↔
      bytes = envelopeImage p envelope ∧ envelope.generation ≠ 0 ∧ envelope.sequence ≠ 0 := by
  have image : bytes = envelopeImage p envelope ↔ FieldsAt bytes 0 (envelopeFields p envelope) :=
    eq_flatten_iff (size.trans (length_envelopeImage p envelope).symm)
  rw [envelopeLen] at size
  simp only [image, envelopeFields, FieldsAt, length_ofLe, p.schemaId.length_eq, decodeEnvelope,
    bind_eq_ok, getU16_eq_ok, getU32_eq_ok, getU64_eq_ok, rejectIf_eq_ok, slice_eq_ok, pure_eq_ok,
    exists_const, not_not, not_or, Nat.zero_add, Nat.reduceAdd]
  constructor
  · rintro ⟨_, magic, rfl, _, major, _, minor, ⟨rfl, rfl⟩, _, header, rfl, _, ⟨-, rfl⟩, schema, _,
      generation, nonzero, _, sequence, nonzero', _, kind, _, flags, _, payloadLen, rfl⟩
    exact ⟨⟨magic, major, minor, kind, flags, payloadLen, header, generation, sequence, schema,
      trivial⟩, nonzero, nonzero'⟩
  · rintro ⟨⟨magic, major, minor, kind, flags, payloadLen, header, generation, sequence, schema, -⟩,
      nonzero, nonzero'⟩
    exact ⟨_, magic, rfl, _, major, _, minor, ⟨rfl, rfl⟩, _, header, rfl, _, ⟨by omega, rfl⟩,
      schema, _, generation, nonzero, _, sequence, nonzero', _, kind, _, flags, _, payloadLen, rfl⟩

/-! ### What is written -/

/-- The bytes that the payload encoder writes for a message, into some destination. -/
def Protocol.Writes (message : p.Message) (payload : Bytes) : Prop :=
  ∃ destination count, (p.encodePayload message destination).1 = .ok count ∧
    count ≤ destination.length ∧ payload = (p.encodePayload message destination).2.take count

/-- The bytes that `encode_message` writes, into some destination. -/
def Output (t : Target) (envelope : Envelope) (message : p.Message) (bytes : Bytes) : Prop :=
  ∃ destination total, (encodeMessage p t envelope message destination).1 = .ok total ∧
    bytes = (encodeMessage p t envelope message destination).2.take total

section Messages

variable {p : Protocol} {t : Target} {envelope : Envelope} {message : p.Message}

theorem finishEnvelope_eq_ok {count size total : Nat} {finished : Envelope} :
    finishEnvelope t envelope count size = .ok (finished, total) ↔
      count < 2 ^ 32 ∧ envelopeLen + count < 2 ^ t.bits ∧ envelopeLen + count ≤ size ∧
        finished = { envelope with payloadLen := UInt32.ofNat count } ∧
        total = envelopeLen + count := by
  simp only [finishEnvelope, Envelope.withPayloadLen, Envelope.totalLen, bind_eq_ok,
    rejectIf_eq_ok, okOr_eq_ok, checkedAdd_eq_some, pure_eq_ok, exists_const, gt_iff_lt, not_lt,
    not_le, Prod.mk.injEq]
  constructor
  · rintro ⟨_, ⟨small, rfl⟩, _, ⟨fits, rfl⟩, room, rfl, rfl⟩
    rw [UInt32.toNat_ofNat_of_lt' small] at fits room ⊢
    exact ⟨small, fits, room, rfl, rfl⟩
  · rintro ⟨small, fits, room, rfl, rfl⟩
    have word : (UInt32.ofNat count).toNat = count := UInt32.toNat_ofNat_of_lt' small
    refine ⟨_, ⟨small, rfl⟩, _, ⟨?_, rfl⟩, ?_, rfl, ?_⟩
    · rwa [word]
    · rwa [word]
    · rw [word]

/-- `encode_message` writes an envelope with the length of the payload and then the payload. -/
theorem encodeMessage_eq_ok {destination after : Bytes} {total : Nat} :
    encodeMessage p t envelope message destination = (.ok total, after) ↔
      envelope.generation ≠ 0 ∧ envelope.sequence ≠ 0 ∧ envelopeLen ≤ destination.length ∧
        ∃ count, (p.encodePayload message (destination.drop envelopeLen)).1 = .ok count ∧
          count < 2 ^ 32 ∧ envelopeLen + count < 2 ^ t.bits ∧
          envelopeLen + count ≤ destination.length ∧ total = envelopeLen + count ∧
          after = envelopeImage p { envelope with payloadLen := UInt32.ofNat count } ++
            (p.encodePayload message (destination.drop envelopeLen)).2 := by
  have written : (p.encodePayload message (destination.drop envelopeLen)).2.length =
      destination.length - envelopeLen := by
    rw [p.length_encodePayload, length_drop]
  by_cases generation : envelope.generation = 0
  · simp [encodeMessage, generation, fail]
  by_cases sequence : envelope.sequence = 0
  · simp [encodeMessage, generation, sequence, fail]
  by_cases short : destination.length < envelopeLen
  · simp [encodeMessage, generation, sequence, short, fail]
  have head : (destination.take envelopeLen).length = envelopeLen := by
    rw [length_take]
    omega
  have size : (destination.take envelopeLen ++
      (p.encodePayload message (destination.drop envelopeLen)).2).length = destination.length := by
    rw [length_append, head, written]
    omega
  unfold encodeMessage
  simp only [generation, sequence, short, if_false, size, take_left' head, drop_left' head]
  cases result : (p.encodePayload message (destination.drop envelopeLen)).1 with
  | error stop => simp [bind, Except.bind]
  | ok count =>
    cases finished : finishEnvelope t envelope count destination.length with
    | error stop =>
      have failed : ¬ (count < 2 ^ 32 ∧ envelopeLen + count < 2 ^ t.bits ∧
          envelopeLen + count ≤ destination.length) := by
        rintro ⟨small, fits, room⟩
        rw [finishEnvelope_eq_ok.mpr ⟨small, fits, room, rfl, rfl⟩] at finished
        cases finished
      simp only [ok_bind, finished]
      constructor
      · intro impossible
        cases impossible
      · rintro ⟨-, -, -, _, same, small, fits, room, -⟩
        cases same
        exact absurd ⟨small, fits, room⟩ failed
    | ok done =>
      obtain ⟨small, fits, room, envelope', total'⟩ := finishEnvelope_eq_ok.mp finished
      simp only [ok_bind, finished, encodeEnvelope_eq head, envelope', total']
      constructor
      · intro same
        cases same
        exact ⟨generation, sequence, Nat.le_of_not_lt short, count, rfl, small, fits, room, rfl,
          rfl⟩
      · rintro ⟨-, -, -, _, same, -, -, -, rfl, rfl⟩
        cases same
        rfl

theorem take_message (written : Bytes) (count : Nat) :
    (envelopeImage p envelope ++ written).take (envelopeLen + count) =
      envelopeImage p envelope ++ written.take count := by
  rw [← length_envelopeImage p envelope, take_length_add_append]

theorem output_iff :
    Output p t envelope message bytes ↔
      envelope.generation ≠ 0 ∧ envelope.sequence ≠ 0 ∧
        ∃ payload, p.Writes message payload ∧ payload.length < 2 ^ 32 ∧
          envelopeLen + payload.length < 2 ^ t.bits ∧
          bytes = envelopeImage p { envelope with payloadLen := UInt32.ofNat payload.length } ++
            payload := by
  constructor
  · rintro ⟨destination, total, done, rfl⟩
    generalize result : encodeMessage p t envelope message destination = encoded at done ⊢
    obtain ⟨_, after⟩ := encoded
    dsimp only at done ⊢
    subst done
    obtain ⟨generation, sequence, room, count, written, small, fits, inside, rfl, rfl⟩ :=
      encodeMessage_eq_ok.mp result
    have size := p.length_encodePayload message (destination.drop envelopeLen)
    rw [length_drop] at size
    have length : ((p.encodePayload message (destination.drop envelopeLen)).2.take count).length =
        count := by
      rw [length_take]
      omega
    refine ⟨generation, sequence, _, ⟨_, count, written, ?_, rfl⟩, ?_, ?_, ?_⟩
    · rw [length_drop]
      omega
    · rwa [length]
    · rwa [length]
    · rw [length, take_message]
  · rintro ⟨generation, sequence, payload, ⟨destination, count, written, room, rfl⟩, small, fits,
      rfl⟩
    have size := p.length_encodePayload message destination
    have length : ((p.encodePayload message destination).2.take count).length = count := by
      rw [length_take]
      omega
    rw [length] at small fits ⊢
    -- the payload destination behind room for an envelope
    have tail : (List.replicate envelopeLen 0 ++ destination).drop envelopeLen = destination :=
      drop_left' length_replicate
    have done : encodeMessage p t envelope message (List.replicate envelopeLen 0 ++ destination) =
        (.ok (envelopeLen + count),
          envelopeImage p { envelope with payloadLen := UInt32.ofNat count } ++
            (p.encodePayload message destination).2) := by
      refine encodeMessage_eq_ok.mpr ⟨generation, sequence, ?_, count, ?_, small, fits, ?_, rfl, ?_⟩
      · simp
      · rw [tail, written]
      · simp [room]
      · rw [tail]
    refine ⟨List.replicate envelopeLen 0 ++ destination, envelopeLen + count, ?_, ?_⟩
    · rw [done]
    · rw [done, take_message]

theorem decodeMessage_eq_ok {limits : Limits} :
    decodeMessage p t bytes limits = .ok (envelope, message) ↔
      envelope.generation ≠ 0 ∧ envelope.sequence ≠ 0 ∧
        ∃ payload, bytes = envelopeImage p envelope ++ payload ∧
          payload.length = envelope.payloadLen.toNat ∧
          envelopeLen + payload.length < 2 ^ t.bits ∧
          bytes.length ≤ limits.maxMessageBytes.toNat ∧
          payload.length ≤ limits.maxPayloadBytes.toNat ∧
          (p.decode payload limits).1 = .ok message := by
  simp only [decodeMessage, bind_eq_ok, rejectIf_eq_ok, slice_eq_ok, okOr_eq_ok,
    checkedAdd_eq_some, pure_eq_ok, exists_const, not_lt, gt_iff_lt, Prod.mk.injEq, not_not]
  constructor
  · rintro ⟨long, short, _, ⟨-, rfl⟩, envelope, decoded, limited, _, ⟨fits, rfl⟩, total, _,
      ⟨-, rfl⟩, _, read, rfl, rfl⟩
    have size : (bytes.extract 0 envelopeLen).length = envelopeLen := length_extract_of_le long
    obtain ⟨image, generation, sequence⟩ := (decodeEnvelope_eq_ok size).mp decoded
    have whole : bytes = envelopeImage p envelope ++ bytes.extract envelopeLen bytes.length := by
      rw [← image, extract_append_extract (Nat.zero_le _) long]
      simp
    have length : (bytes.extract envelopeLen bytes.length).length = envelope.payloadLen.toNat := by
      rw [length_extract_of_le le_rfl]
      omega
    refine ⟨generation, sequence, _, whole, length, ?_, short, ?_, read⟩
    · rwa [length]
    · rwa [length]
  · rintro ⟨generation, sequence, payload, rfl, length, fits, short, limited, read⟩
    have size := length_envelopeImage p envelope
    have head : (envelopeImage p envelope ++ payload).extract 0 envelopeLen =
        envelopeImage p envelope := by
      simp [extract_eq_take_drop, take_left' size]
    have tail : (envelopeImage p envelope ++ payload).extract envelopeLen
        (envelopeImage p envelope ++ payload).length = payload := by
      simp [extract_eq_take_drop, drop_left' size, size]
    have total : (envelopeImage p envelope ++ payload).length = envelopeLen + payload.length := by
      rw [length_append, size]
    refine ⟨by omega, short, _, ⟨⟨by omega, by omega⟩, rfl⟩, envelope, ?_, by omega, _,
      ⟨by omega, rfl⟩, by omega, _, ⟨⟨by omega, le_rfl⟩, rfl⟩, message, ?_, rfl, rfl⟩
    · rw [head]
      exact (decodeEnvelope_eq_ok size).mpr ⟨rfl, generation, sequence⟩
    · rw [tail]
      exact read

end Messages

/-! ### Budgets -/

/-- The call was refused. -/
def Refused : Answer ContextCall ContextCall.Reply → Prop
  | ⟨.limits, _⟩ => False
  | ⟨.claimRecords _, reply⟩ => reply ≠ .ok ()
  | ⟨.claimAllocation _, reply⟩ => reply ≠ .ok ()
  | ⟨.copyBytes source, reply⟩ => reply ≠ .ok source

/-- The records that a call was granted. -/
def grantedRecords : Answer ContextCall ContextCall.Reply → Nat
  | ⟨.claimRecords count, .ok _⟩ => count.toNat
  | _ => 0

/-- The bytes that a call was granted. -/
def grantedAllocation : Answer ContextCall ContextCall.Reply → Nat
  | ⟨.claimAllocation bytes, .ok _⟩ => bytes.toNat
  | ⟨.copyBytes source, .ok _⟩ => source.length
  | _ => 0

/-- A call takes what it was granted from the budget, and nothing when it was refused. -/
structure Charged (before : DecodeContext) (entry : Answer ContextCall ContextCall.Reply)
    (after : DecodeContext) : Prop where
  records : after.recordsRemaining.toNat + grantedRecords entry = before.recordsRemaining.toNat
  allocation : after.allocationRemaining.toNat + grantedAllocation entry =
    before.allocationRemaining.toNat
  refused : Refused entry → after = before

namespace DecodeContext

variable (context : DecodeContext)

theorem claimAllocation_cases (bytes : UInt32) :
    (context.claimAllocation bytes = (fail (.limitExceeded .allocationBytes), context)) ∨
      ∃ remaining, remaining.toNat + bytes.toNat = context.allocationRemaining.toNat ∧
        context.claimAllocation bytes =
          (.ok (), { context with allocationRemaining := remaining }) := by
  unfold claimAllocation
  cases left : checkedSubU32 context.allocationRemaining bytes with
  | none => exact .inl rfl
  | some remaining => exact .inr ⟨remaining, checkedSubU32_eq_some.mp left, rfl⟩

theorem serve_charged (call : ContextCall) :
    Charged context ⟨call, (serve call context).1⟩ (serve call context).2 := by
  cases call with
  | limits => exact ⟨rfl, rfl, fun _ => rfl⟩
  | claimRecords count =>
    simp only [serve, claimRecords]
    cases left : checkedSubU32 context.recordsRemaining count with
    | none => exact ⟨rfl, rfl, fun _ => rfl⟩
    | some remaining =>
      exact ⟨checkedSubU32_eq_some.mp left, rfl, fun refused => absurd rfl refused⟩
  | claimAllocation bytes =>
    simp only [serve]
    rcases context.claimAllocation_cases bytes with same | ⟨remaining, left, same⟩
    · rw [same]
      exact ⟨rfl, rfl, fun _ => rfl⟩
    · rw [same]
      exact ⟨rfl, left, fun refused => absurd rfl refused⟩
  | copyBytes source =>
    simp only [serve, copyBytes]
    by_cases small : source.length < 2 ^ 32
    · rw [if_pos small]
      rcases context.claimAllocation_cases (UInt32.ofNat source.length) with
        same | ⟨remaining, left, same⟩
      · rw [same]
        exact ⟨rfl, rfl, fun _ => rfl⟩
      · rw [same]
        rw [UInt32.toNat_ofNat_of_lt' small] at left
        exact ⟨rfl, left, fun refused => absurd rfl refused⟩
    · rw [if_neg small]
      exact ⟨rfl, rfl, fun _ => rfl⟩

/-- After any calls, what is left and what was granted make up the budget. -/
theorem serveAll_charged (calls : List ContextCall) :
    let served := Proc.serveAll serve calls context
    served.2.recordsRemaining.toNat + (served.1.map grantedRecords).sum =
        context.recordsRemaining.toNat ∧
      served.2.allocationRemaining.toNat + (served.1.map grantedAllocation).sum =
        context.allocationRemaining.toNat := by
  induction calls generalizing context with
  | nil => exact ⟨rfl, rfl⟩
  | cons call calls ih =>
    have step := context.serve_charged call
    have records := step.records
    have allocation := step.allocation
    obtain ⟨restRecords, restAllocation⟩ := ih (serve call context).2
    simp only [Proc.serveAll, map_cons, sum_cons]
    omega

/-- The granted claims of any calls stay within the limits. -/
theorem granted_le (limits : Limits) (calls : List ContextCall) :
    let log := (Proc.serveAll serve calls (new limits)).1
    (log.map grantedRecords).sum ≤ limits.maxRecords.toNat ∧
      (log.map grantedAllocation).sum ≤ limits.maxAllocationBytes.toNat := by
  obtain ⟨records, allocation⟩ := (new limits).serveAll_charged calls
  simp only [new] at records allocation ⊢
  omega

end DecodeContext

/-! ### Exact protocols -/

/-- The decoder has no claim refused. -/
def Protocol.StaysWithin (payload : Bytes) (limits : Limits) : Prop :=
  ∀ entry ∈ (p.decode payload limits).2.1, ¬ Refused entry

/-- The decoder accepts the bytes that the encoder writes, as far as its budget goes, and returns
    the message they were written for. -/
def Protocol.Exact : Prop :=
  ∀ payload limits message, (p.decode payload limits).1 = .ok message ↔
    p.Writes message payload ∧ p.StaysWithin payload limits

/-- Messages of an exact protocol are read from what is written for them and from nothing else; no
    protocol with another schema reads them; and no calls on a context get more than its limits. -/
theorem message_codec_exact (p : Protocol) (exact : p.Exact) (t : Target) :
    (∀ limits bytes envelope message,
      decodeMessage p t bytes limits = .ok (envelope, message) ↔
        Output p t envelope message bytes ∧ envelope.generation ≠ 0 ∧ envelope.sequence ≠ 0 ∧
          bytes.length = envelopeLen + envelope.payloadLen.toNat ∧
          bytes.length ≤ limits.maxMessageBytes.toNat ∧
          envelope.payloadLen.toNat ≤ limits.maxPayloadBytes.toNat ∧
          p.StaysWithin (bytes.drop envelopeLen) limits) ∧
    (∀ (q : Protocol) envelope message bytes, q.schemaId ≠ p.schemaId →
      Output p t envelope message bytes →
      ∀ limits decoded, decodeMessage q t bytes limits ≠ .ok decoded) ∧
    ∀ limits calls,
      let log := (Proc.serveAll DecodeContext.serve calls (DecodeContext.new limits)).1
      (log.map grantedRecords).sum ≤ limits.maxRecords.toNat ∧
      (log.map grantedAllocation).sum ≤ limits.maxAllocationBytes.toNat ∧
      ∀ before call after, calls = before ++ call :: after →
        let context := (Proc.serveAll DecodeContext.serve before (DecodeContext.new limits)).2
        Refused ⟨call, (DecodeContext.serve call context).1⟩ →
          (DecodeContext.serve call context).2 = context := by
  refine ⟨?_, ?_, ?_⟩
  · intro limits bytes envelope message
    rw [decodeMessage_eq_ok, output_iff]
    constructor
    · rintro ⟨generation, sequence, payload, rfl, length, fits, short, limited, read⟩
      have size := length_envelopeImage p envelope
      obtain ⟨writes, within⟩ := (exact _ _ _).mp read
      have small : payload.length < 2 ^ 32 := by
        rw [length]
        exact envelope.payloadLen.toNat_lt
      have same : { envelope with payloadLen := UInt32.ofNat payload.length } = envelope := by
        rw [length, UInt32.ofNat_toNat]
      refine ⟨⟨generation, sequence, payload, writes, small, fits, ?_⟩, generation, sequence, ?_,
        short, ?_, ?_⟩
      · rw [same]
      · rw [length_append, size, length]
      · rwa [length] at limited
      · rwa [drop_left' size]
    · rintro ⟨⟨-, -, payload, writes, small, fits, rfl⟩, generation, sequence, total, short,
        limited, within⟩
      rw [length_append, length_envelopeImage] at total
      have length : payload.length = envelope.payloadLen.toNat := by omega
      have same : { envelope with payloadLen := UInt32.ofNat payload.length } = envelope := by
        rw [length, UInt32.ofNat_toNat]
      rw [same] at short within ⊢
      rw [drop_left' (length_envelopeImage p envelope)] at within
      refine ⟨generation, sequence, payload, rfl, length, fits, short, ?_,
        (exact _ _ _).mpr ⟨writes, within⟩⟩
      rwa [length]
  · intro q envelope message bytes other output limits decoded read
    obtain ⟨-, -, payload, -, -, -, rfl⟩ := output_iff.mp output
    obtain ⟨-, -, payload', same, -⟩ := decodeMessage_eq_ok.mp read
    obtain ⟨fields, -⟩ := flatten_append_inj (by simp [envelopeFields, q.schemaId.length_eq,
      p.schemaId.length_eq]) same
    simp only [envelopeFields, List.cons.injEq] at fields
    exact other (FixedBytes.ext_list fields.2.2.2.2.2.2.2.2.2.1).symm
  · intro limits calls log
    obtain ⟨records, allocation⟩ := DecodeContext.granted_le limits calls
    refine ⟨records, allocation, ?_⟩
    intro before call after _ context refused
    exact (context.serve_charged call).refused refused

namespace Sample

/-- Messages of one byte, each one record. -/
def byteProtocol : Protocol where
  Message := UInt8
  schemaId := FixedBytes.zero 32
  encodePayload message destination :=
    match destination with
    | [] => (fail (.destinationTooSmall 1 0), [])
    | _ :: rest => (.ok 1, message :: rest)
  length_encodePayload message destination := by
    cases destination <;> rfl
  decodePayload payload := .call (.claimRecords 1) fun
    | .ok _ => .ret (match payload with
      | [byte] => .ok byte
      | _ => fail (.protocol 1))
    | .error stop => .ret (.error stop)

theorem byteProtocol_writes {message : byteProtocol.Message} {payload : Bytes} :
    byteProtocol.Writes message payload ↔ payload = [message] := by
  constructor
  · rintro ⟨destination, count, written, -, rfl⟩
    cases destination with
    | nil => cases written
    | cons byte rest =>
      cases written
      rfl
  · rintro rfl
    exact ⟨[0], 1, rfl, Nat.le_refl 1, rfl⟩

theorem byteProtocol_exact : byteProtocol.Exact := by
  intro payload limits message
  rw [byteProtocol_writes]
  unfold Protocol.StaysWithin Protocol.decode byteProtocol
  simp only [Proc.servedBy, DecodeContext.serve, DecodeContext.claimRecords, DecodeContext.new]
  cases left : checkedSubU32 limits.maxRecords 1 with
  | none =>
    constructor
    · intro impossible
      cases impossible
    · rintro ⟨-, within⟩
      exact absurd (fun impossible => by cases impossible) (within _ mem_cons_self)
  | some remaining =>
    constructor
    · intro decoded
      rcases payload with _ | ⟨byte, _ | ⟨next, rest⟩⟩
      · cases decoded
      · cases decoded
        refine ⟨rfl, ?_⟩
        intro entry member refused
        rw [mem_singleton.mp member] at refused
        exact refused rfl
      · cases decoded
    · rintro ⟨rfl, -⟩
      rfl

def envelope : Envelope := ⟨1, 0, 5, 1, 1⟩

def message : Bytes := envelopeImage byteProtocol envelope ++ [7]

end Sample

/-- A message of one byte, within limits of one record. -/
theorem message_codec_exact_sample :
    Sample.byteProtocol.Exact ∧
      decodeMessage Sample.byteProtocol .w64 Sample.message ⟨100, 10, 1, 0⟩ =
        .ok (Sample.envelope, (7 : UInt8)) := by
  have output : Output Sample.byteProtocol .w64 Sample.envelope (7 : UInt8) Sample.message :=
    ⟨List.replicate 73 0, 73, by decide +kernel, by decide +kernel⟩
  have within : Sample.byteProtocol.StaysWithin (Sample.message.drop envelopeLen)
      ⟨100, 10, 1, 0⟩ := ((Sample.byteProtocol_exact [7] ⟨100, 10, 1, 0⟩ (7 : UInt8)).mp rfl).2
  refine ⟨Sample.byteProtocol_exact, ?_⟩
  refine ((message_codec_exact _ Sample.byteProtocol_exact .w64).1 _ _ _ _).mpr ?_
  exact ⟨output, by decide, by decide, by decide +kernel, by decide +kernel, by decide, within⟩

end NativeIpc.Core.Codec
