import NativeIpc.Lib.Reader
import NativeIpc.Lib.Words

/-!
# The wire of the supervisor

The bounded records between a client and the same-user supervisor: a header of
96 bytes with the generation, the sequence and both nonces, and the payloads of
a spawn request and of its result. A record reads back to what it was written
from, and the readers accept nothing else.
Lines are those of `supervisor.rs`.
-/

namespace NativeIpc.Supervisor

open NativeIpc.Lib Bytes Run List
open Nat (not_lt reduceAdd)
open Unique

/-- Lines 83-102. -/
inductive SupervisorWireError where
  | malformed
  | limitExceeded
  | authenticationRequired
  | peerMismatch
  | replayOrSubstitution
  | invalidPolicy
  | invalidTargetInput
  | stateViolation
  | clockUnavailable
  deriving DecidableEq, Repr

/-- `MAGIC`, line 13: `NIPCSUP1`. -/
def wireMagic : Bytes := [0x4e, 0x49, 0x50, 0x43, 0x53, 0x55, 0x50, 0x31]

/-- `VERSION`, line 14. -/
def wireVersion : UInt16 := 1

def headerLen : Nat := 96

def spawnPrefixLen : Nat := 16

def spawnResultLen : Nat := 40

def maxSupervisorRecordBytes : Nat := 64 * 1024

def maxPolicyIdBytes : Nat := 128

def maxArguments : Nat := 64

def maxEnvironment : Nat := 64

def maxComponentBytes : Nat := 4096

/-- Line 27, in nanoseconds. -/
def maxSupervisorDeadline : Nat := 30 * 1000000000

/-! ### Reads at an offset -/

/-- `bytes.get(offset..offset + width).ok_or(Malformed)?` before a read of that range. -/
def within {α : Type} (bytes : Bytes) (offset width : Nat) (read : Run SupervisorWireError α) :
    Run SupervisorWireError α :=
  if offset + width ≤ bytes.length then read else fail .malformed

/-- Lines 1266-1277. -/
def u16At (bytes : Bytes) (offset : Nat) : Run SupervisorWireError UInt16 :=
  within bytes offset 2 (getU16 bytes offset)

/-- Lines 1279-1290. -/
def u32At (bytes : Bytes) (offset : Nat) : Run SupervisorWireError UInt32 :=
  within bytes offset 4 (getU32 bytes offset)

/-- Lines 1292-1303. -/
def u64At (bytes : Bytes) (offset : Nat) : Run SupervisorWireError UInt64 :=
  within bytes offset 8 (getU64 bytes offset)

/-- Lines 1305-1314. -/
def arrayAt (n : Nat) (bytes : Bytes) (offset : Nat) : Run SupervisorWireError (FixedBytes n) :=
  within bytes offset n do
    let part ← slice bytes offset (offset + n)
    toFixed n part

section Within

variable {bytes : Bytes} {offset : Nat}

theorem within_eq_ok {α : Type} {width : Nat} {read : Run SupervisorWireError α} {a : α} :
    within bytes offset width read = .ok a ↔ offset + width ≤ bytes.length ∧ read = .ok a := by
  unfold within fail
  split <;> simp [*]

theorem u16At_eq_ok {v : UInt16} : u16At bytes offset = .ok v ↔
    bytes.extract offset (offset + 2) = ofLe 2 v.toNat := by
  rw [u16At, within_eq_ok, getU16_eq_ok, and_iff_right_of_imp (le_of_extract_eq (length_ofLe _ _))]

theorem u32At_eq_ok {v : UInt32} : u32At bytes offset = .ok v ↔
    bytes.extract offset (offset + 4) = ofLe 4 v.toNat := by
  rw [u32At, within_eq_ok, getU32_eq_ok, and_iff_right_of_imp (le_of_extract_eq (length_ofLe _ _))]

theorem u64At_eq_ok {v : UInt64} : u64At bytes offset = .ok v ↔
    bytes.extract offset (offset + 8) = ofLe 8 v.toNat := by
  rw [u64At, within_eq_ok, getU64_eq_ok, and_iff_right_of_imp (le_of_extract_eq (length_ofLe _ _))]

theorem arrayAt_eq_ok {n : Nat} [NeZero n] {v : FixedBytes n} : arrayAt n bytes offset = .ok v ↔
    bytes.extract offset (offset + n) = v.list := by
  rw [arrayAt, within_eq_ok, slice_toFixed_eq_ok,
    and_iff_right_of_imp (le_of_extract_eq v.length_eq)]

end Within

/-! ### Headers -/

/-- Lines 52-57. -/
inductive RecordKind where
  | clientHello
  | serviceHello
  | spawn
  | spawnResult
  deriving DecidableEq, Repr

/-- `kind as u16`. -/
def RecordKind.code : RecordKind → UInt16
  | .clientHello => 1
  | .serviceHello => 2
  | .spawn => 3
  | .spawnResult => 4

/-- Lines 60-68. -/
def RecordKind.decode (value : UInt16) : Run SupervisorWireError RecordKind :=
  if value = 1 then .ok .clientHello
  else if value = 2 then .ok .serviceHello
  else if value = 3 then .ok .spawn
  else if value = 4 then .ok .spawnResult
  else fail .malformed

variable {value : UInt16} {policyId : Bytes}

theorem RecordKind.decode_eq_ok {kind : RecordKind} :
    RecordKind.decode value = .ok kind ↔ value = kind.code := by
  constructor
  · intro decoded
    unfold RecordKind.decode fail at decoded
    repeat' split at decoded
    all_goals first | (cases decoded; assumption) | cases decoded
  · rintro rfl
    cases kind <;> rfl

/-- Lines 72-79. -/
structure Header where
  kind : RecordKind
  payloadLen : Nat
  generation : UInt64
  sequence : UInt64
  clientNonce : FixedBytes 32
  serviceNonce : FixedBytes 32
  deriving DecidableEq, Repr

/-- `u16::try_from(len)` and `u32::try_from(len)`, with the error of their callers. -/
def lenTryFrom (bits len : Nat) : Run SupervisorWireError Nat :=
  if len < 2 ^ bits then .ok len else fail .limitExceeded

theorem lenTryFrom_eq_ok {bits len n : Nat} :
    lenTryFrom bits len = .ok n ↔ len < 2 ^ bits ∧ len = n := by
  unfold lenTryFrom fail
  split <;> simp [*]

variable (header : Header)

/-- Lines 1066-1086. -/
def encodeRecord (payload : Bytes) : Run SupervisorWireError Bytes := do
  rejectIf (header.payloadLen ≠ payload.length ∨
    headerLen + payload.length > maxSupervisorRecordBytes) .limitExceeded
  let payloadLen ← lenTryFrom 32 payload.length
  pure (wireMagic ++ ofLe 2 wireVersion.toNat ++ ofLe 2 header.kind.code.toNat ++
    ofLe 4 payloadLen ++ ofLe 8 header.generation.toNat ++ ofLe 8 header.sequence.toNat ++
    header.clientNonce.list ++ header.serviceNonce.list ++ payload)

/-- Lines 1088-1108. -/
def decodeHeader (bytes : Bytes) : Run SupervisorWireError Header := do
  rejectIf (bytes.length < headerLen ∨ bytes.length > maxSupervisorRecordBytes) .malformed
  let magic ← slice bytes 0 8
  rejectIf (magic ≠ wireMagic) .malformed
  let version ← u16At bytes 8
  rejectIf (version ≠ wireVersion) .malformed
  let payloadLen ← u32At bytes 12
  rejectIf (headerLen + payloadLen.toNat ≠ bytes.length) .malformed
  let code ← u16At bytes 10
  let kind ← RecordKind.decode code
  let generation ← u64At bytes 16
  let sequence ← u64At bytes 24
  let clientNonce ← arrayAt 32 bytes 32
  let serviceNonce ← arrayAt 32 bytes 64
  pure { kind, payloadLen := payloadLen.toNat, generation, sequence, clientNonce, serviceNonce }

/-- The fields of a header in the order of their offsets. -/
def Header.fields : List Bytes :=
  [wireMagic, ofLe 2 wireVersion.toNat, ofLe 2 header.kind.code.toNat, ofLe 4 header.payloadLen,
    ofLe 8 header.generation.toNat, ofLe 8 header.sequence.toNat, header.clientNonce.list,
    header.serviceNonce.list]

/-- The bytes of a header. -/
def Header.image : Bytes := header.fields.flatten

theorem Header.length_image : header.image.length = headerLen := by
  simp [image, fields, wireMagic, header.clientNonce.length_eq, header.serviceNonce.length_eq,
    headerLen]

/-- Where a header has its payload's length. -/
theorem Header.payloadLen_image : (header.image.drop 12).take 4 = ofLe 4 header.payloadLen := by
  have start : wireMagic ++ ofLe 2 wireVersion.toNat ++ ofLe 2 header.kind.code.toNat ++
      (ofLe 4 header.payloadLen ++ (ofLe 8 header.generation.toNat ++
        (ofLe 8 header.sequence.toNat ++ (header.clientNonce.list ++ header.serviceNonce.list)))) =
      header.image := by
    simp [Header.image, Header.fields]
  rw [← start, drop_left' (by simp [wireMagic]), take_left' (length_ofLe ..)]

variable {header : Header} {payload bytes : Bytes} {generation : UInt64}

theorem encodeRecord_eq_ok :
    encodeRecord header payload = .ok bytes ↔
      header.payloadLen = payload.length ∧
        headerLen + payload.length ≤ maxSupervisorRecordBytes ∧
        bytes = header.image ++ payload := by
  simp only [encodeRecord, bind_eq_ok, rejectIf_eq_ok, lenTryFrom_eq_ok, pure_eq_ok,
    exists_iff, not_or, not_not, not_lt]
  constructor
  · rintro ⟨⟨len, fits⟩, _, ⟨-, rfl⟩, rfl⟩
    refine ⟨len, fits, ?_⟩
    simp [Header.image, Header.fields, len, append_assoc]
  · rintro ⟨len, fits, rfl⟩
    have small : payload.length < 2 ^ 32 := by
      simp only [headerLen, maxSupervisorRecordBytes] at fits
      omega
    refine ⟨⟨len, fits⟩, _, ⟨small, rfl⟩, ?_⟩
    simp [Header.image, Header.fields, len, append_assoc]

theorem decodeHeader_eq_ok :
    decodeHeader bytes = .ok header ↔
      bytes.length ≤ maxSupervisorRecordBytes ∧ headerLen + header.payloadLen = bytes.length ∧
        FieldsAt bytes 0 header.fields := by
  simp only [decodeHeader, bind_eq_ok, rejectIf_eq_ok, slice_eq_ok, u16At_eq_ok, u32At_eq_ok,
    u64At_eq_ok, arrayAt_eq_ok, RecordKind.decode_eq_ok, pure_eq_ok, exists_iff, not_or,
    not_not, not_lt]
  have width : wireMagic.length = 8 := rfl
  constructor
  · rintro ⟨⟨-, fits⟩, _, ⟨-, rfl⟩, magic, _, version, rfl, len, payload, total, _, code, kind, rfl,
      generation, hgeneration, sequence, hsequence, clientNonce, hclient, serviceNonce, hservice,
      rfl⟩
    refine ⟨fits, total, ?_⟩
    simp only [Header.fields, FieldsAt, width, length_ofLe, clientNonce.length_eq,
      serviceNonce.length_eq, reduceAdd, and_true]
    exact ⟨magic, version, code, payload, hgeneration, hsequence, hclient, hservice⟩
  · rintro ⟨fits, total, stands⟩
    simp only [Header.fields, FieldsAt, width, length_ofLe, header.clientNonce.length_eq,
      header.serviceNonce.length_eq, reduceAdd, and_true] at stands
    obtain ⟨magic, version, code, payload, generation, sequence, client, service⟩ := stands
    have long : headerLen ≤ bytes.length := by omega
    have small : header.payloadLen < 2 ^ 32 := by
      simp only [maxSupervisorRecordBytes] at fits
      omega
    have word : (UInt32.ofNat header.payloadLen).toNat = header.payloadLen :=
      UInt32.toNat_ofNat_of_lt' small
    simp only [headerLen] at long
    refine ⟨⟨long, fits⟩, _, ⟨by omega, rfl⟩, magic, _, version, rfl,
      UInt32.ofNat header.payloadLen, by rw [word]; exact payload, by rw [word]; exact total, _,
      code, _, rfl, _, generation, _, sequence, _, client, _, service, ?_⟩
    rw [word]

/-- The header of a record is read exactly where the record was written from it. -/
theorem decodeHeader_iff_encodeRecord :
    decodeHeader bytes = .ok header ↔ encodeRecord header (bytes.drop headerLen) = .ok bytes := by
  rw [decodeHeader_eq_ok, encodeRecord_eq_ok, length_drop, Header.image,
    eq_flatten_append_iff header.length_image]
  constructor
  · rintro ⟨fits, total, fields⟩
    exact ⟨by omega, by omega, by omega, fields, rfl⟩
  · rintro ⟨len, fits, long, fields, -⟩
    exact ⟨by omega, by omega, fields⟩

/-- A written record reads back. -/
theorem decodeHeader_of_encodeRecord (encoded : encodeRecord header payload = .ok bytes) :
    decodeHeader bytes = .ok header ∧ bytes.drop headerLen = payload := by
  have rest : bytes.drop headerLen = payload := by
    rw [(encodeRecord_eq_ok.mp encoded).2.2]
    exact drop_left' header.length_image
  refine ⟨?_, rest⟩
  rw [decodeHeader_iff_encodeRecord, rest]
  exact encoded

/-- Nothing may follow a record. -/
theorem decodeHeader_no_trailing {extra : Bytes} {longer : Header}
    (decoded : decodeHeader bytes = .ok header)
    (again : decodeHeader (bytes ++ extra) = .ok longer) : extra = [] := by
  obtain ⟨len, fits, whole⟩ := encodeRecord_eq_ok.mp (decodeHeader_iff_encodeRecord.mp decoded)
  obtain ⟨len', fits', whole'⟩ := encodeRecord_eq_ok.mp (decodeHeader_iff_encodeRecord.mp again)
  have images : header.image = longer.image := by
    rw [whole, append_assoc] at whole'
    refine append_inj_left whole' ?_
    rw [header.length_image, longer.length_image]
  have small : header.payloadLen < 256 ^ 4 := by
    have limit : maxSupervisorRecordBytes < 256 ^ 4 := by decide
    omega
  have small' : longer.payloadLen < 256 ^ 4 := by
    have limit : maxSupervisorRecordBytes < 256 ^ 4 := by decide
    omega
  have same : header.payloadLen = longer.payloadLen := by
    rw [← ofLe_inj small small', ← header.payloadLen_image, ← longer.payloadLen_image, images]
  have total := (decodeHeader_eq_ok.mp decoded).2.1
  have total' := (decodeHeader_eq_ok.mp again).2.1
  rw [length_append, ← total, ← same] at total'
  exact eq_nil_of_length_eq_zero (by omega)

/-! ### Deadlines -/

/-- Line 107: an instant of the clock that processes share. -/
structure SupervisorDeadline where
  wireValue : UInt64
  deriving DecidableEq, Repr

/-- One reading of `Instant::now()`, in nanoseconds, and of `clock_gettime(CLOCK_UPTIME_RAW)`. -/
structure Clocks where
  localNow : Nat
  status : Int
  tvSec : Int
  tvNsec : Int
  deriving DecidableEq, Repr

/-- Lines 200-220. -/
def Clocks.monotonicNowNanos (clocks : Clocks) : Run SupervisorWireError Nat := do
  rejectIf (clocks.status ≠ 0 ∨ clocks.tvSec < 0 ∨
    ¬ (0 ≤ clocks.tvNsec ∧ clocks.tvNsec < 1000000000)) .clockUnavailable
  let nanos ← okOr (checkedMul 64 clocks.tvSec.toNat 1000000000) .clockUnavailable
  okOr (checkedAdd 64 nanos clocks.tvNsec.toNat) .clockUnavailable

/-- The first value of an `Instant`, in nanoseconds, whose seconds do not fit an `i64`. -/
def instantLimit : Nat := 2 ^ 63 * 1000000000

/-- Lines 138-154. -/
def SupervisorDeadline.toLocalInstant (deadline : SupervisorDeadline) (clocks : Clocks) :
    Run SupervisorWireError Nat := do
  let now ← clocks.monotonicNowNanos
  rejectIf (deadline.wireValue.toNat < now) .limitExceeded
  let remaining := deadline.wireValue.toNat - now
  rejectIf (remaining = 0 ∨ remaining > maxSupervisorDeadline) .limitExceeded
  rejectIf (clocks.localNow + remaining ≥ instantLimit) .limitExceeded
  pure (clocks.localNow + remaining)

/-- Lines 166-169. -/
structure SupervisorDeadlineBinding where
  wire : SupervisorDeadline
  localInstant : Nat
  deriving DecidableEq, Repr

/-- Lines 172-179. -/
def SupervisorDeadlineBinding.fromWire (wire : SupervisorDeadline) (clocks : Clocks) :
    Run SupervisorWireError SupervisorDeadlineBinding := do
  let localInstant ← wire.toLocalInstant clocks
  pure { wire, localInstant }

/-! ### Spawn requests -/

/-- `u8::is_ascii_digit`. -/
def isAsciiDigit (byte : UInt8) : Bool := 0x30 ≤ byte ∧ byte ≤ 0x39

/-- `u8::is_ascii_uppercase`. -/
def isAsciiUppercase (byte : UInt8) : Bool := 0x41 ≤ byte ∧ byte ≤ 0x5a

/-- `u8::is_ascii_lowercase`. -/
def isAsciiLowercase (byte : UInt8) : Bool := 0x61 ≤ byte ∧ byte ≤ 0x7a

/-- `u8::is_ascii_alphanumeric`. -/
def isAsciiAlphanumeric (byte : UInt8) : Bool :=
  isAsciiDigit byte || isAsciiUppercase byte || isAsciiLowercase byte

/-- Lines 1214-1226. -/
def validatePolicyId (policyId : Bytes) : Run SupervisorWireError Unit :=
  rejectIf (policyId = [] ∨ policyId.length > maxPolicyIdBytes ∨ policyId = [0x2e] ∨
    policyId = [0x2e, 0x2e] ∨
    ¬ policyId.all fun byte =>
      isAsciiAlphanumeric byte || byte == 0x2e || byte == 0x5f || byte == 0x2d) .invalidPolicy

/-- Lines 1243-1248. -/
def validateComponent (component : Bytes) : Run SupervisorWireError Unit :=
  rejectIf (component.length > maxComponentBytes ∨ 0 ∈ component) .invalidTargetInput

/-- Line 1251: `DYLD_`, `LD_`, `__XPC_`, `XPC_`, `NATIVE_IPC_`. -/
def forbiddenPrefixes : List Bytes :=
  [[0x44, 0x59, 0x4c, 0x44, 0x5f], [0x4c, 0x44, 0x5f], [0x5f, 0x5f, 0x58, 0x50, 0x43, 0x5f],
    [0x58, 0x50, 0x43, 0x5f],
    [0x4e, 0x41, 0x54, 0x49, 0x56, 0x45, 0x5f, 0x49, 0x50, 0x43, 0x5f]]

/-- Lines 1250-1264. -/
def validateEnvironmentKey (key : Bytes) : Run SupervisorWireError Unit :=
  rejectIf (key = [] ∨ key.length > maxComponentBytes ∨
    (¬ key.all fun byte => isAsciiUppercase byte || isAsciiDigit byte || byte == 0x5f) ∨
    forbiddenPrefixes.any fun start => start.isPrefixOf key) .invalidTargetInput

/-- The checks of `TargetEnvironmentEntry::new`, lines 446-450. -/
def TargetEnvironmentEntry.check (key value : Bytes) : Run SupervisorWireError Unit := do
  validateEnvironmentKey key
  validateComponent value

/-- Lines 440-443. -/
structure TargetEnvironmentEntry where
  key : Bytes
  value : Bytes
  valid : TargetEnvironmentEntry.check key value = .ok ()
  deriving DecidableEq

/-- Lines 446-450. -/
def TargetEnvironmentEntry.new (key value : Bytes) :
    Run SupervisorWireError TargetEnvironmentEntry :=
  match valid : TargetEnvironmentEntry.check key value with
  | .ok () => .ok { key, value, valid }
  | .error stop => .error stop

/-- The checks of `SpawnRequest::new`, lines 471-490. -/
def SpawnRequest.check (policyId : Bytes) (arguments : List Bytes)
    (environment : List TargetEnvironmentEntry) : Run SupervisorWireError Unit := do
  validatePolicyId policyId
  rejectIf (arguments.length ≥ maxArguments ∨ environment.length > maxEnvironment) .limitExceeded
  forM arguments validateComponent

/-- Lines 463-468. -/
structure SpawnRequest where
  deadline : SupervisorDeadline
  policyId : Bytes
  arguments : List Bytes
  environment : List TargetEnvironmentEntry
  valid : SpawnRequest.check policyId arguments environment = .ok ()
  deriving DecidableEq

/-- Lines 471-490. -/
def SpawnRequest.new (deadline : SupervisorDeadline) (policyId : Bytes) (arguments : List Bytes)
    (environment : List TargetEnvironmentEntry) : Run SupervisorWireError SpawnRequest :=
  match valid : SpawnRequest.check policyId arguments environment with
  | .ok () => .ok { deadline, policyId, arguments, environment, valid }
  | .error stop => .error stop

open TargetEnvironmentEntry

theorem TargetEnvironmentEntry.new_eq_ok {key value : Bytes} {entry : TargetEnvironmentEntry} :
    new key value = .ok entry ↔ key = entry.key ∧ value = entry.value := by
  unfold new
  constructor
  · intro made
    split at made
    · cases made
      exact ⟨rfl, rfl⟩
    · cases made
  · rintro ⟨rfl, rfl⟩
    split
    · rfl
    · rename_i refused
      rw [entry.valid] at refused
      cases refused

variable {arguments : List Bytes} {environment : List TargetEnvironmentEntry}
    {request : SpawnRequest} {clientNonce serviceNonce : FixedBytes 32}

theorem SpawnRequest.new_eq_ok {deadline : SupervisorDeadline} :
    SpawnRequest.new deadline policyId arguments environment = .ok request ↔
      deadline = request.deadline ∧ policyId = request.policyId ∧
        arguments = request.arguments ∧ environment = request.environment := by
  unfold SpawnRequest.new
  constructor
  · intro made
    split at made
    · cases made
      exact ⟨rfl, rfl, rfl, rfl⟩
    · cases made
  · rintro ⟨rfl, rfl, rfl, rfl⟩
    split
    · rfl
    · rename_i refused
      rw [request.valid] at refused
      cases refused

theorem validateComponent_eq_ok {component : Bytes} :
    validateComponent component = .ok () ↔
      component.length ≤ maxComponentBytes ∧ 0 ∉ component := by
  rw [validateComponent, rejectIf_eq_ok, not_or, not_lt]

variable (entry : TargetEnvironmentEntry)

theorem TargetEnvironmentEntry.length_key_le : entry.key.length ≤ maxComponentBytes := by
  obtain ⟨⟨⟩, key, -⟩ := bind_eq_ok.mp entry.valid
  rw [validateEnvironmentKey, rejectIf_eq_ok, not_or, not_or, not_lt] at key
  exact key.2.1

theorem TargetEnvironmentEntry.length_value_le : entry.value.length ≤ maxComponentBytes := by
  obtain ⟨⟨⟩, -, value⟩ := bind_eq_ok.mp entry.valid
  exact (validateComponent_eq_ok.mp value).1

/-- The bounds that every request keeps. -/
theorem SpawnRequest.bounds (request : SpawnRequest) :
    request.policyId.length ≤ maxPolicyIdBytes ∧ request.arguments.length < maxArguments ∧
      request.environment.length ≤ maxEnvironment ∧
      ∀ argument ∈ request.arguments, argument.length ≤ maxComponentBytes := by
  have valid := request.valid
  simp only [SpawnRequest.check, bind_eq_ok, rejectIf_eq_ok, forM_eq_ok, exists_iff, not_or,
    Nat.not_le, not_lt] at valid
  obtain ⟨policy, ⟨arguments, environment⟩, components⟩ := valid
  rw [validatePolicyId, rejectIf_eq_ok, not_or, not_or, not_lt] at policy
  refine ⟨policy.2.1, arguments, environment, ?_⟩
  intro argument given
  exact (validateComponent_eq_ok.mp (components argument given)).1

/-- Lines 1207-1212. -/
def pushComponent (payload component : Bytes) : Run SupervisorWireError Bytes := do
  let length ← lenTryFrom 16 component.length
  pure (payload ++ ofLe 2 length ++ component)

/-- Lines 1110-1135. -/
def encodeSpawnPayload (request : SpawnRequest) : Run SupervisorWireError Bytes := do
  let policyLen ← lenTryFrom 16 request.policyId.length
  let argumentCount ← lenTryFrom 16 request.arguments.length
  let environmentCount ← lenTryFrom 16 request.environment.length
  let payload := ofLe 8 request.deadline.wireValue.toNat ++ ofLe 2 policyLen ++
    ofLe 2 argumentCount ++ ofLe 2 environmentCount ++ ofLe 2 0 ++ request.policyId
  let payload ← request.arguments.foldlM pushComponent payload
  let payload ← request.environment.foldlM (fun payload entry => do
    let payload ← pushComponent payload entry.key
    pushComponent payload entry.value) payload
  rejectIf (headerLen + payload.length > maxSupervisorRecordBytes) .limitExceeded
  pure payload

/-- `PayloadCursor::component`, lines 1189-1200. -/
def component : Reader SupervisorWireError Bytes :=
  Reader.framed .malformed 2 fun length => rejectIf (length > maxComponentBytes) .limitExceeded

/-- One turn of the loop over the environment, lines 1159-1164. -/
def environmentEntry : Reader SupervisorWireError TargetEnvironmentEntry := do
  let key ← component
  let value ← component
  Reader.check (TargetEnvironmentEntry.new key value)

/-- What the cursor of `decode_spawn_payload` takes, lines 1152-1164. -/
def spawnBody (policyLen argumentCount environmentCount : Nat) :
    Reader SupervisorWireError (Bytes × List Bytes × List TargetEnvironmentEntry) := do
  let policyId ← Reader.take .malformed policyLen
  let arguments ← component.times argumentCount
  let environment ← environmentEntry.times environmentCount
  pure (policyId, arguments, environment)

/-- Lines 1137-1169. -/
def decodeSpawnPayload (payload : Bytes) : Run SupervisorWireError SpawnRequest := do
  rejectIf (payload.length < spawnPrefixLen) .malformed
  let deadline ← u64At payload 0
  let policyLen ← u16At payload 8
  let argumentCount ← u16At payload 10
  let environmentCount ← u16At payload 12
  let reserved ← u16At payload 14
  rejectIf (reserved ≠ 0 ∨ policyLen.toNat > maxPolicyIdBytes ∨
    argumentCount.toNat > maxArguments ∨ environmentCount.toNat > maxEnvironment) .limitExceeded
  let remaining ← slice payload spawnPrefixLen payload.length
  let ((policyId, arguments, environment), left) ←
    spawnBody policyLen.toNat argumentCount.toNat environmentCount.toNat remaining
  rejectIf (left ≠ []) .malformed
  SpawnRequest.new ⟨deadline⟩ policyId arguments environment

/-- A component after its length. -/
def componentImage (part : Bytes) : Bytes := ofLe 2 part.length ++ part

/-- An entry of the environment on the wire. -/
def TargetEnvironmentEntry.image : Bytes :=
  componentImage entry.key ++ componentImage entry.value

/-- The fixed fields of a spawn payload in the order of their offsets. -/
def SpawnRequest.fields (request : SpawnRequest) : List Bytes :=
  [ofLe 8 request.deadline.wireValue.toNat, ofLe 2 request.policyId.length,
    ofLe 2 request.arguments.length, ofLe 2 request.environment.length, ofLe 2 0]

/-- What follows the fixed fields of a spawn payload. -/
def SpawnRequest.body (request : SpawnRequest) : Bytes :=
  request.policyId ++ request.arguments.flatMap componentImage ++
    request.environment.flatMap TargetEnvironmentEntry.image

/-- The payload of a spawn request. -/
def SpawnRequest.image (request : SpawnRequest) : Bytes := request.fields.flatten ++ request.body

theorem SpawnRequest.length_fields (request : SpawnRequest) :
    request.fields.flatten.length = spawnPrefixLen := by
  simp [fields, spawnPrefixLen]

theorem pushComponent_eq {part : Bytes} (short : part.length ≤ maxComponentBytes) :
    pushComponent payload part = .ok (payload ++ componentImage part) := by
  have fits : part.length < 2 ^ 16 := by
    simp only [maxComponentBytes] at short
    omega
  rw [pushComponent, lenTryFrom_eq_ok.mpr ⟨fits, rfl⟩, ok_bind, pure_eq_ok, componentImage,
    append_assoc]

theorem reads_component :
    component.Reads componentImage fun part => part.length ≤ maxComponentBytes := by
  intro bytes part rest
  rw [component, Reader.reads_framed]
  refine and_congr_left fun _ => ?_
  dsimp only
  rw [rejectIf_eq_ok, not_lt]
  refine and_iff_right_of_imp fun short => ?_
  simp only [maxComponentBytes] at short
  omega

/-- Two components make an entry of the environment, however they are framed. -/
theorem reads_entry {reader : Reader SupervisorWireError Bytes} {write : Bytes → Bytes}
    {Good : Bytes → Prop} (reads : reader.Reads write Good)
    (short : ∀ part : Bytes, part.length ≤ maxComponentBytes → Good part) :
    Reader.Reads (do
        let key ← reader
        let value ← reader
        Reader.check (TargetEnvironmentEntry.new key value))
      (fun entry => write entry.key ++ write entry.value) fun _ => True := by
  intro bytes entry rest
  simp only [reads.bind_iff, Reader.check_eq_ok, new_eq_ok]
  constructor
  · rintro ⟨key, _, ⟨-, rfl⟩, value, _, ⟨-, rfl⟩, ⟨rfl, rfl⟩, rfl⟩
    exact ⟨trivial, (append_assoc _ _ _).symm⟩
  · rintro ⟨-, rfl⟩
    exact ⟨entry.key, _, ⟨short _ entry.length_key_le, append_assoc _ _ _⟩, entry.value, rest,
      ⟨short _ entry.length_value_le, rfl⟩, ⟨rfl, rfl⟩, rfl⟩

theorem reads_environmentEntry : environmentEntry.Reads image fun _ => True :=
  reads_entry reads_component fun _ => id

theorem spawnBody_eq_ok {policyLen argumentCount environmentCount : Nat} {rest : Bytes} :
    spawnBody policyLen argumentCount environmentCount bytes =
        .ok ((policyId, arguments, environment), rest) ↔
      (policyId.length = policyLen ∧ arguments.length = argumentCount ∧
        environment.length = environmentCount ∧
        ∀ argument ∈ arguments, argument.length ≤ maxComponentBytes) ∧
      bytes = policyId ++ arguments.flatMap componentImage ++
        environment.flatMap image ++ rest := by
  simp only [spawnBody, (Reader.reads_take _ _).bind_iff, (reads_component.times _).bind_iff,
    (reads_environmentEntry.times _).bind_iff, Reader.pure_eq_ok, Prod.mk.injEq]
  constructor
  · rintro ⟨_, _, ⟨len, rfl⟩, _, _, ⟨⟨count, short⟩, rfl⟩, _, _, ⟨⟨entries, -⟩, rfl⟩,
      ⟨rfl, rfl, rfl⟩, rfl⟩
    exact ⟨⟨len, count, entries, short⟩, by simp only [id_eq, append_assoc]⟩
  · rintro ⟨⟨len, count, entries, short⟩, rfl⟩
    simp only [append_assoc]
    exact ⟨policyId, _, ⟨len, rfl⟩, arguments, _, ⟨⟨count, short⟩, rfl⟩, environment, _,
      ⟨⟨entries, fun _ _ => trivial⟩, rfl⟩, ⟨rfl, rfl, rfl⟩, rfl⟩

theorem encodeSpawnPayload_eq_ok :
    encodeSpawnPayload request = .ok payload ↔
      headerLen + payload.length ≤ maxSupervisorRecordBytes ∧ payload = request.image := by
  obtain ⟨policy, arguments, environment, components⟩ := request.bounds
  simp only [maxPolicyIdBytes, maxArguments, maxEnvironment] at policy arguments environment
  have argumentsLoop (acc : Bytes) : request.arguments.foldlM pushComponent acc =
      .ok (acc ++ request.arguments.flatMap componentImage) := by
    refine Reader.foldlM_append (fun argument given acc => ?_) acc
    exact pushComponent_eq (components argument given)
  have environmentLoop (acc : Bytes) : request.environment.foldlM (fun payload entry => do
      let payload ← pushComponent payload entry.key
      pushComponent payload entry.value) acc =
        .ok (acc ++ request.environment.flatMap image) := by
    refine Reader.foldlM_append (fun entry _ acc => ?_) acc
    rw [pushComponent_eq entry.length_key_le, ok_bind, pushComponent_eq entry.length_value_le,
      image, append_assoc]
  rw [encodeSpawnPayload, lenTryFrom_eq_ok.mpr ⟨by omega, rfl⟩, ok_bind,
    lenTryFrom_eq_ok.mpr ⟨by omega, rfl⟩, ok_bind, lenTryFrom_eq_ok.mpr ⟨by omega, rfl⟩, ok_bind]
  dsimp only
  rw [argumentsLoop, ok_bind, environmentLoop, ok_bind]
  simp only [bind_eq_ok, rejectIf_eq_ok, pure_eq_ok, exists_iff, not_lt]
  have image : ofLe 8 request.deadline.wireValue.toNat ++ ofLe 2 request.policyId.length ++
      ofLe 2 request.arguments.length ++ ofLe 2 request.environment.length ++ ofLe 2 0 ++
      request.policyId ++ request.arguments.flatMap componentImage ++
      request.environment.flatMap image = request.image := by
    simp [SpawnRequest.image, SpawnRequest.fields, SpawnRequest.body, append_assoc]
  rw [image]
  constructor
  · rintro ⟨fits, rfl⟩
    exact ⟨fits, rfl⟩
  · rintro ⟨fits, rfl⟩
    exact ⟨fits, rfl⟩

theorem decodeSpawnPayload_eq_ok :
    decodeSpawnPayload payload = .ok request ↔ payload = request.image := by
  have body : payload.extract spawnPrefixLen payload.length = payload.drop spawnPrefixLen := by
    rw [extract_eq_take_drop, take_of_length_le (by rw [length_drop])]
  simp only [decodeSpawnPayload, bind_eq_ok, rejectIf_eq_ok, u64At_eq_ok, u16At_eq_ok, slice_eq_ok,
    SpawnRequest.new_eq_ok, exists_iff, Prod.exists, spawnBody_eq_ok, not_or, not_not,
    not_lt, body]
  rw [SpawnRequest.image, eq_flatten_append_iff request.length_fields]
  constructor
  · rintro ⟨long, deadline, hdeadline, policyLen, hpolicy, argumentCount, harguments,
      environmentCount, henvironment, reserved, hreserved, ⟨rfl, -, -, -⟩, _, ⟨-, rfl⟩, _, _, _,
      left, ⟨⟨policy, count, entries, -⟩, taken⟩, rfl, same, rfl, rfl, rfl⟩
    rw [← policy] at hpolicy
    rw [← count] at harguments
    rw [← entries] at henvironment
    have fields : FieldsAt payload 0 request.fields := by
      simp only [SpawnRequest.fields, FieldsAt, length_ofLe, reduceAdd, and_true, ← same]
      exact ⟨hdeadline, hpolicy, harguments, henvironment, hreserved⟩
    rw [append_nil] at taken
    exact ⟨long, fields, taken⟩
  · rintro ⟨long, fields, rest⟩
    simp only [SpawnRequest.fields, FieldsAt, length_ofLe, reduceAdd, and_true] at fields
    obtain ⟨deadline, policy, arguments, environment, reserved⟩ := fields
    obtain ⟨policyLe, argumentsLt, environmentLe, components⟩ := request.bounds
    simp only [spawnPrefixLen] at long
    have word {n : Nat} (small : n ≤ 128) : (UInt16.ofNat n).toNat = n :=
      UInt16.toNat_ofNat_of_lt' (lt_of_le_of_lt small (by decide))
    have policyWord := word policyLe
    have argumentsWord := word (Nat.le_of_lt (argumentsLt.trans (by decide)))
    have environmentWord := word (environmentLe.trans (by decide))
    refine ⟨long, request.deadline.wireValue, deadline, UInt16.ofNat request.policyId.length,
      by rw [policyWord]; exact policy, UInt16.ofNat request.arguments.length,
      by rw [argumentsWord]; exact arguments, UInt16.ofNat request.environment.length,
      by rw [environmentWord]; exact environment, 0, reserved, ?_⟩
    rw [policyWord, argumentsWord, environmentWord, rest]
    refine ⟨⟨rfl, policyLe, Nat.le_of_lt argumentsLt, environmentLe⟩, _, ⟨⟨long, le_refl _⟩, rfl⟩,
      request.policyId, request.arguments, request.environment, [], ⟨⟨rfl, rfl, rfl, components⟩,
      ?_⟩, rfl, rfl, rfl, rfl, rfl⟩
    rw [append_nil]
    rfl

/-- A spawn payload that was written reads back, and no other payload is accepted. -/
theorem decodeSpawnPayload_of_encode (encoded : encodeSpawnPayload request = .ok payload) :
    decodeSpawnPayload payload = .ok request :=
  decodeSpawnPayload_eq_ok.mpr (encodeSpawnPayload_eq_ok.mp encoded).2

/-! ### Hellos, requests and results -/

/-- `[0; 32]`. -/
def zero32 : FixedBytes 32 := FixedBytes.zero 32

/-- Lines 897-912. -/
def encodeClientHello (clientNonce : FixedBytes 32) : Run SupervisorWireError Bytes := do
  rejectIf (clientNonce = zero32) .replayOrSubstitution
  encodeRecord { kind := .clientHello, payloadLen := 0, generation := 0, sequence := 0,
                 clientNonce, serviceNonce := zero32 } []

/-- Lines 915-918. -/
structure ServiceHelloFacts where
  generation : UInt64
  serviceNonce : FixedBytes 32
  deriving DecidableEq, Repr

/-- Lines 931-953. -/
def decodeServiceHello (bytes : Bytes) (expectedClientNonce : FixedBytes 32) :
    Run SupervisorWireError ServiceHelloFacts := do
  rejectIf (expectedClientNonce = zero32) .replayOrSubstitution
  let header ← decodeHeader bytes
  rejectIf (header.kind ≠ .serviceHello ∨ header.payloadLen ≠ 0 ∨ header.generation = 0 ∨
    header.sequence ≠ 0 ∨ header.clientNonce ≠ expectedClientNonce ∨
    header.serviceNonce = zero32 ∨ header.serviceNonce = expectedClientNonce)
    .replayOrSubstitution
  pure { generation := header.generation, serviceNonce := header.serviceNonce }

/-- Lines 955-976. -/
def encodeSpawnRequest (request : SpawnRequest) (generation : UInt64)
    (clientNonce serviceNonce : FixedBytes 32) : Run SupervisorWireError Bytes := do
  rejectIf (generation = 0 ∨ clientNonce = zero32 ∨ serviceNonce = zero32) .replayOrSubstitution
  let payload ← encodeSpawnPayload request
  encodeRecord { kind := .spawn, payloadLen := payload.length, generation, sequence := 1,
                 clientNonce, serviceNonce } payload

/-- Lines 274-279. -/
inductive SpawnFailure where
  | denied
  | busy
  | deadlineExpired
  | launchFailed
  deriving DecidableEq, Repr

/-- `failure as u16`. -/
def SpawnFailure.code : SpawnFailure → UInt16
  | .denied => 1
  | .busy => 2
  | .deadlineExpired => 3
  | .launchFailed => 4

/-- Lines 282-290. -/
def SpawnFailure.decode (value : UInt16) : Run SupervisorWireError SpawnFailure :=
  if value = 1 then .ok .denied
  else if value = 2 then .ok .busy
  else if value = 3 then .ok .deadlineExpired
  else if value = 4 then .ok .launchFailed
  else fail .malformed

open SpawnFailure

theorem SpawnFailure.decode_eq_ok {failure : SpawnFailure} :
    decode value = .ok failure ↔ value = failure.code := by
  constructor
  · intro decoded
    unfold decode fail at decoded
    repeat' split at decoded
    all_goals first | (cases decoded; assumption) | cases decoded
  · rintro rfl
    cases failure <;> rfl

/-- Lines 295-298. -/
inductive DecodedSpawnResult where
  | ready (handle : FixedBytes 32)
  | rejected (failure : SpawnFailure)
  deriving DecidableEq, Repr

/-- The words of a result: outcome, detail and handle. -/
def DecodedSpawnResult.words : DecodedSpawnResult → UInt16 × UInt16 × FixedBytes 32
  | .ready handle => (1, 0, handle)
  | .rejected failure => (2, failure.code, zero32)

/-- Lines 979-1013. -/
def decodeSpawnResult (bytes : Bytes) (generation : UInt64)
    (clientNonce serviceNonce : FixedBytes 32) : Run SupervisorWireError DecodedSpawnResult := do
  rejectIf (generation = 0 ∨ clientNonce = zero32 ∨ serviceNonce = zero32) .replayOrSubstitution
  let header ← decodeHeader bytes
  rejectIf (header.kind ≠ .spawnResult ∨ header.payloadLen ≠ spawnResultLen ∨
    header.generation ≠ generation ∨ header.sequence ≠ 1 ∨ header.clientNonce ≠ clientNonce ∨
    header.serviceNonce ≠ serviceNonce) .replayOrSubstitution
  let payload ← slice bytes headerLen bytes.length
  let outcome ← u16At payload 0
  let detail ← u16At payload 2
  let reserved ← u32At payload 4
  rejectIf (reserved ≠ 0) .malformed
  let handle ← arrayAt 32 payload 8
  if outcome = 1 ∧ detail = 0 ∧ handle ≠ zero32 then pure (.ready handle)
  else if outcome = 2 ∧ handle = zero32 then
    let failure ← SpawnFailure.decode detail
    pure (.rejected failure)
  else fail .malformed

/-- Lines 1015-1045, with `Ok(handle)` as `ready handle` and
    `Err(failure)` as `rejected failure`. -/
def encodeSpawnResult (result : DecodedSpawnResult) (generation : UInt64)
    (clientNonce serviceNonce : FixedBytes 32) : Run SupervisorWireError Bytes := do
  rejectIf (generation = 0 ∨ clientNonce = zero32 ∨ serviceNonce = zero32) .replayOrSubstitution
  rejectIf (result = .ready zero32) .malformed
  let (outcome, detail, handle) := result.words
  let payload := ofLe 2 outcome.toNat ++ ofLe 2 detail.toNat ++ ofLe 4 0 ++ handle.list
  encodeRecord { kind := .spawnResult, payloadLen := payload.length, generation, sequence := 1,
                 clientNonce, serviceNonce } payload

/-- Lines 1047-1054. -/
def encodeReadySpawnResult (handle : FixedBytes 32) (generation : UInt64)
    (clientNonce serviceNonce : FixedBytes 32) : Run SupervisorWireError Bytes :=
  encodeSpawnResult (.ready handle) generation clientNonce serviceNonce

/-- The fields of a result in the order of their offsets. -/
def DecodedSpawnResult.fields (result : DecodedSpawnResult) : List Bytes :=
  [ofLe 2 result.words.1.toNat, ofLe 2 result.words.2.1.toNat, ofLe 4 0, result.words.2.2.list]

theorem DecodedSpawnResult.length_fields (result : DecodedSpawnResult) :
    result.fields.flatten.length = spawnResultLen := by
  simp [fields, result.words.2.2.length_eq, spawnResultLen]

variable {result : DecodedSpawnResult}

theorem encodeSpawnRequest_eq_ok :
    encodeSpawnRequest request generation clientNonce serviceNonce = .ok bytes ↔
      (generation ≠ 0 ∧ clientNonce ≠ zero32 ∧ serviceNonce ≠ zero32) ∧
        encodeSpawnPayload request = .ok request.image ∧
        encodeRecord { kind := .spawn, payloadLen := request.image.length, generation,
                       sequence := 1, clientNonce, serviceNonce } request.image = .ok bytes := by
  simp only [encodeSpawnRequest, bind_eq_ok, rejectIf_eq_ok, exists_iff, not_or]
  refine and_congr_right fun _ => ?_
  constructor
  · rintro ⟨payload, written, encoded⟩
    obtain ⟨-, rfl⟩ := encodeSpawnPayload_eq_ok.mp written
    exact ⟨written, encoded⟩
  · rintro ⟨written, encoded⟩
    exact ⟨_, written, encoded⟩

/-- A request that was written reads back: its header, and its payload. -/
theorem decode_of_encodeSpawnRequest
    (encoded : encodeSpawnRequest request generation clientNonce serviceNonce = .ok bytes) :
    decodeHeader bytes = .ok { kind := .spawn, payloadLen := request.image.length, generation,
                               sequence := 1, clientNonce, serviceNonce } ∧
      decodeSpawnPayload (bytes.drop headerLen) = .ok request := by
  obtain ⟨-, -, record⟩ := encodeSpawnRequest_eq_ok.mp encoded
  obtain ⟨header, payload⟩ := decodeHeader_of_encodeRecord record
  exact ⟨header, decodeSpawnPayload_eq_ok.mpr payload⟩

theorem encodeSpawnResult_eq_ok :
    encodeSpawnResult result generation clientNonce serviceNonce = .ok bytes ↔
      (generation ≠ 0 ∧ clientNonce ≠ zero32 ∧ serviceNonce ≠ zero32) ∧
        result ≠ .ready zero32 ∧
        encodeRecord { kind := .spawnResult, payloadLen := spawnResultLen, generation,
                       sequence := 1, clientNonce, serviceNonce } result.fields.flatten =
          .ok bytes := by
  have payload : ofLe 2 result.words.1.toNat ++ ofLe 2 result.words.2.1.toNat ++ ofLe 4 0 ++
      result.words.2.2.list = result.fields.flatten := by
    simp [DecodedSpawnResult.fields, append_assoc]
  simp only [encodeSpawnResult, bind_eq_ok, rejectIf_eq_ok, exists_iff, not_or, payload,
    result.length_fields, ne_eq]

/-- The checks on the words of a result pass exactly on those of a result. -/
theorem spawnResult_words {outcome detail : UInt16} {handle : FixedBytes 32} :
    ((if outcome = 1 ∧ detail = 0 ∧ handle ≠ zero32 then pure (.ready handle)
      else if outcome = 2 ∧ handle = zero32 then do
        let failure ← decode detail
        pure (.rejected failure)
      else fail .malformed : Run SupervisorWireError DecodedSpawnResult) = .ok result) ↔
      result ≠ .ready zero32 ∧ (outcome, detail, handle) = result.words := by
  constructor
  · intro decoded
    split at decoded
    · rename_i ready
      obtain ⟨rfl, rfl, handle⟩ := ready
      obtain rfl := pure_eq_ok.mp decoded
      exact ⟨fun same => handle (DecodedSpawnResult.ready.inj same), rfl⟩
    · split at decoded
      · rename_i rejected
        obtain ⟨rfl, rfl⟩ := rejected
        obtain ⟨failure, known, same⟩ := bind_eq_ok.mp decoded
        obtain rfl := pure_eq_ok.mp same
        obtain rfl := decode_eq_ok.mp known
        exact ⟨nofun, rfl⟩
      · cases decoded
  · rintro ⟨proper, words⟩
    cases result with
    | ready handle =>
      obtain ⟨rfl, rfl, rfl⟩ := by simpa only [DecodedSpawnResult.words, Prod.mk.injEq] using words
      have nonzero : handle ≠ zero32 := fun same => proper (by rw [same])
      rw [if_pos ⟨rfl, rfl, nonzero⟩]
      rfl
    | rejected failure =>
      obtain ⟨rfl, rfl, rfl⟩ := by simpa only [DecodedSpawnResult.words, Prod.mk.injEq] using words
      rw [if_neg (by simp), if_pos ⟨rfl, rfl⟩, decode_eq_ok.mpr rfl]
      rfl

/-- A result is read exactly from the record that is written for it. -/
theorem decodeSpawnResult_eq_ok :
    decodeSpawnResult bytes generation clientNonce serviceNonce = .ok result ↔
      encodeSpawnResult result generation clientNonce serviceNonce = .ok bytes := by
  have body : bytes.extract headerLen bytes.length = bytes.drop headerLen := by
    rw [extract_eq_take_drop, take_of_length_le (by rw [length_drop])]
  rw [encodeSpawnResult_eq_ok]
  simp only [decodeSpawnResult, bind_eq_ok, rejectIf_eq_ok, exists_iff, not_or, not_not,
    slice_eq_ok, u16At_eq_ok, u32At_eq_ok, arrayAt_eq_ok, spawnResult_words, body]
  constructor
  · rintro ⟨fresh, header, decoded, ⟨kind, len, hgeneration, sequence, client, service⟩, payload,
      ⟨-, rfl⟩, outcome, houtcome, detail, hdetail, reserved, hreserved, rfl, handle, hhandle,
      proper, words⟩
    cases header
    subst kind len hgeneration sequence client service
    have whole := decodeHeader_iff_encodeRecord.mp decoded
    have long := (encodeRecord_eq_ok.mp whole).1
    have stands : FieldsAt (bytes.drop headerLen) 0 result.fields := by
      simp only [DecodedSpawnResult.fields, ← words, FieldsAt, length_ofLe, handle.length_eq,
        reduceAdd, and_true]
      exact ⟨houtcome, hdetail, hreserved, hhandle⟩
    have fields := (eq_flatten_iff (by rw [result.length_fields]; exact long.symm)).mpr stands
    rw [fields] at whole
    exact ⟨fresh, proper, whole⟩
  · rintro ⟨fresh, proper, whole⟩
    obtain ⟨decoded, payload⟩ := decodeHeader_of_encodeRecord whole
    have long : (bytes.drop headerLen).length = 40 := by rw [payload]; exact result.length_fields
    have total := long
    rw [length_drop] at total
    have stands := (eq_flatten_iff (by rw [payload])).mp payload
    simp only [DecodedSpawnResult.fields, FieldsAt, length_ofLe, result.words.2.2.length_eq,
      reduceAdd, and_true] at stands
    obtain ⟨outcome, detail, reserved, handle⟩ := stands
    exact ⟨fresh, _, decoded, ⟨rfl, rfl, rfl, rfl, rfl, rfl⟩, _, ⟨⟨by omega, le_refl _⟩, rfl⟩, _,
      outcome, _, detail, 0, reserved, rfl, _, handle, proper, rfl⟩

theorem decodeHeader_of_encodeClientHello {nonce : FixedBytes 32}
    (encoded : encodeClientHello nonce = .ok bytes) :
    decodeHeader bytes = .ok { kind := .clientHello, payloadLen := 0, generation := 0,
                               sequence := 0, clientNonce := nonce, serviceNonce := zero32 } := by
  obtain ⟨_, -, record⟩ := bind_eq_ok.mp encoded
  exact (decodeHeader_of_encodeRecord record).1

theorem decodeHeader_of_encodeSpawnResult
    (encoded : encodeSpawnResult result generation clientNonce serviceNonce = .ok bytes) :
    decodeHeader bytes = .ok { kind := .spawnResult, payloadLen := spawnResultLen, generation,
                               sequence := 1, clientNonce, serviceNonce } :=
  (decodeHeader_of_encodeRecord (encodeSpawnResult_eq_ok.mp encoded).2.2).1

/-- The spawn codec is exact. A request that fits is written and reads back as it was; whatever
    the decoders accept is what the encoders write for the values they return, and nothing may
    follow it; and the same holds of the results. -/
theorem spawn_codec_exact :
    (∀ (deadline : SupervisorDeadline) (policyId : Bytes) (arguments : List Bytes)
        (environment : List TargetEnvironmentEntry) (request : SpawnRequest) (generation : UInt64)
        (clientNonce serviceNonce : FixedBytes 32),
      SpawnRequest.new deadline policyId arguments environment = .ok request →
      generation ≠ 0 → clientNonce ≠ zero32 → serviceNonce ≠ zero32 →
      headerLen + request.image.length ≤ maxSupervisorRecordBytes →
      ∃ bytes, encodeSpawnRequest request generation clientNonce serviceNonce = .ok bytes ∧
        decodeHeader bytes = .ok { kind := .spawn, payloadLen := request.image.length, generation,
                                   sequence := 1, clientNonce, serviceNonce } ∧
        ∃ decoded, decodeSpawnPayload (bytes.drop headerLen) = .ok decoded ∧
          decoded.deadline = deadline ∧ decoded.policyId = policyId ∧
          decoded.arguments = arguments ∧ decoded.environment = environment) ∧
    (∀ (bytes : Bytes) (header : Header) (request : SpawnRequest),
      decodeHeader bytes = .ok header →
      decodeSpawnPayload (bytes.drop headerLen) = .ok request →
      encodeSpawnPayload request = .ok (bytes.drop headerLen) ∧
      encodeRecord header (bytes.drop headerLen) = .ok bytes ∧
      (encodeSpawnRequest request header.generation header.clientNonce header.serviceNonce =
          .ok bytes ↔
        header.kind = .spawn ∧ header.sequence = 1 ∧ header.generation ≠ 0 ∧
          header.clientNonce ≠ zero32 ∧ header.serviceNonce ≠ zero32)) ∧
    (∀ (bytes extra : Bytes) (header longer : Header),
      decodeHeader bytes = .ok header → decodeHeader (bytes ++ extra) = .ok longer → extra = []) ∧
    (∀ (first second : SpawnRequest) (payload : Bytes),
      encodeSpawnPayload first = .ok payload → encodeSpawnPayload second = .ok payload →
      first = second) ∧
    (∀ (result : DecodedSpawnResult) (generation : UInt64)
        (clientNonce serviceNonce : FixedBytes 32),
      generation ≠ 0 → clientNonce ≠ zero32 → serviceNonce ≠ zero32 → result ≠ .ready zero32 →
      ∃ bytes, encodeSpawnResult result generation clientNonce serviceNonce = .ok bytes) ∧
    ∀ (bytes : Bytes) (result : DecodedSpawnResult) (generation : UInt64)
        (clientNonce serviceNonce : FixedBytes 32),
      decodeSpawnResult bytes generation clientNonce serviceNonce = .ok result ↔
        encodeSpawnResult result generation clientNonce serviceNonce = .ok bytes := by
  refine ⟨?_, ?_, fun _ _ _ _ => decodeHeader_no_trailing, ?_, ?_,
    fun _ _ _ _ _ => decodeSpawnResult_eq_ok⟩
  · intro deadline policyId arguments environment request generation clientNonce serviceNonce made
      hgeneration hclient hservice fits
    obtain ⟨rfl, rfl, rfl, rfl⟩ := SpawnRequest.new_eq_ok.mp made
    have written : encodeSpawnPayload request = .ok request.image :=
      encodeSpawnPayload_eq_ok.mpr ⟨fits, rfl⟩
    obtain ⟨bytes, encoded⟩ : ∃ bytes,
        encodeSpawnRequest request generation clientNonce serviceNonce = .ok bytes :=
      ⟨_, encodeSpawnRequest_eq_ok.mpr ⟨⟨hgeneration, hclient, hservice⟩, written,
        encodeRecord_eq_ok.mpr ⟨rfl, fits, rfl⟩⟩⟩
    obtain ⟨header, payload⟩ := decode_of_encodeSpawnRequest encoded
    exact ⟨bytes, encoded, header, request, payload, rfl, rfl, rfl, rfl⟩
  · intro bytes header request decoded payload
    have image := decodeSpawnPayload_eq_ok.mp payload
    have record := decodeHeader_iff_encodeRecord.mp decoded
    obtain ⟨len, fits, -⟩ := encodeRecord_eq_ok.mp record
    have written : encodeSpawnPayload request = .ok (bytes.drop headerLen) :=
      encodeSpawnPayload_eq_ok.mpr ⟨fits, image⟩
    refine ⟨written, record, ?_⟩
    constructor
    · intro encoded
      have header' := (decode_of_encodeSpawnRequest encoded).1
      have same := Except.ok.inj (decoded.symm.trans header')
      obtain ⟨⟨hgeneration, hclient, hservice⟩, -, -⟩ := encodeSpawnRequest_eq_ok.mp encoded
      exact ⟨congrArg Header.kind same, congrArg Header.sequence same, hgeneration, hclient,
        hservice⟩
    · rintro ⟨kind, sequence, hgeneration, hclient, hservice⟩
      rw [image] at written record len
      cases header
      subst kind sequence len
      exact encodeSpawnRequest_eq_ok.mpr ⟨⟨hgeneration, hclient, hservice⟩, written, record⟩
  · intro first second payload one two
    have image := (encodeSpawnPayload_eq_ok.mp one).2
    have decoded := decodeSpawnPayload_of_encode two
    exact Except.ok.inj ((decodeSpawnPayload_eq_ok.mpr image).symm.trans decoded)
  · intro result generation clientNonce serviceNonce hgeneration hclient hservice proper
    refine ⟨_, encodeSpawnResult_eq_ok.mpr ⟨⟨hgeneration, hclient, hservice⟩, proper,
      encodeRecord_eq_ok.mpr ⟨result.length_fields.symm, ?_, rfl⟩⟩⟩
    rw [result.length_fields]
    decide

def Staged.assigned : TargetEnvironmentEntry := ⟨[0x43], [0x64], by decide⟩

def Staged.asked : SpawnRequest := ⟨⟨1⟩, [0x61], [[0x65]], [assigned], by decide⟩

theorem spawn_codec_exact_request :
    headerLen + Staged.asked.image.length ≤ maxSupervisorRecordBytes ∧
      (∃ bytes header decoded,
        encodeSpawnRequest Staged.asked 1 (.filled 32 4) (.filled 32 5) = .ok bytes ∧
        decodeHeader bytes = .ok header ∧ encodeRecord header (bytes.drop headerLen) = .ok bytes ∧
        decodeSpawnPayload (bytes.drop headerLen) = .ok decoded ∧
        decoded.arguments = [[0x65]] ∧ decoded.environment = [Staged.assigned]) ∧
      ∃ bytes, encodeSpawnResult (.ready (.filled 32 6)) 1 (.filled 32 4) (.filled 32 5) =
        .ok bytes := by
  obtain ⟨writes, reads, -, -, answers, -⟩ := spawn_codec_exact
  have fits : headerLen + Staged.asked.image.length ≤ maxSupervisorRecordBytes := by
    decide +kernel
  obtain ⟨bytes, encoded, header, decoded, payload, -, -, arguments, environment⟩ :=
    writes _ _ _ _ Staged.asked 1 (.filled 32 4) (.filled 32 5)
      (SpawnRequest.new_eq_ok.mpr ⟨rfl, rfl, rfl, rfl⟩) (by decide) (by decide) (by decide) fits
  exact ⟨fits, ⟨bytes, _, decoded, encoded, header, (reads _ _ _ header payload).2.1, payload,
    arguments, environment⟩, answers _ _ _ _ (by decide) (by decide) (by decide) (by decide)⟩

end NativeIpc.Supervisor
