import NativeIpc.Supervisor.Wire

/-!
# The trace report of a broker

The one report that a broker sends when its target is held at the exec trap: 224
bytes that repeat the binding of the launch plan and the digest of its frame. The
decoder accepts exactly what the encoder writes.
Lines are those of `supervisor_broker_report.rs`.
-/

namespace NativeIpc.Supervisor

open NativeIpc.Lib Bytes Run List

/-- `MAGIC`, line 11: `NIPCBTR1`. -/
def reportMagic : Bytes := [0x4e, 0x49, 0x50, 0x43, 0x42, 0x54, 0x52, 0x31]

/-- `VERSION`, line 12. -/
def reportVersion : UInt16 := 1

def execTrapHeld : UInt16 := 2

def brokerTraceReportBytes : Nat := 224

/-- Lines 303-309. -/
inductive BrokerTraceReportError where
  | malformed
  | binding
  | deadlineExpired
  | invalidTransition
  | io (errno : Int)
  deriving DecidableEq, Repr

/-- Lines 19-30. -/
structure BrokerTraceReportBinding where
  deadline : SupervisorDeadline
  connectionGeneration : UInt64
  sequence : UInt64
  effectiveUid : UInt32
  effectiveGid : UInt32
  session : FixedBytes 32
  clientNonce : FixedBytes 32
  serviceNonce : FixedBytes 32
  targetIdentity : FixedBytes 32
  planDigest : FixedBytes 32
  deriving DecidableEq, Repr

namespace BrokerTraceReportBinding

/-- Lines 64-81. -/
def validate (binding : BrokerTraceReportBinding) : Run BrokerTraceReportError Unit :=
  rejectIf (binding.deadline.wireValue = 0 ∨ binding.connectionGeneration = 0 ∨
    binding.sequence ≠ 1 ∨ binding.effectiveUid = 0 ∨ binding.effectiveGid = 0 ∨
    binding.session = zero32 ∨ binding.clientNonce = zero32 ∨ binding.serviceNonce = zero32 ∨
    binding.clientNonce = binding.serviceNonce ∨ binding.targetIdentity = zero32 ∨
    binding.planDigest = zero32) .malformed

/-- The fields of a report before its reserved bytes, in the order of their offsets. -/
def fields (binding : BrokerTraceReportBinding) : List Bytes :=
  [reportMagic, ofLe 2 reportVersion.toNat, ofLe 2 execTrapHeld.toNat,
    ofLe 4 brokerTraceReportBytes, ofLe 8 binding.deadline.wireValue.toNat,
    ofLe 8 binding.connectionGeneration.toNat, ofLe 8 binding.sequence.toNat,
    ofLe 4 binding.effectiveUid.toNat, ofLe 4 binding.effectiveGid.toNat, binding.session.list,
    binding.clientNonce.list, binding.serviceNonce.list, binding.targetIdentity.list,
    binding.planDigest.list]

/-- The report of a binding. -/
def image (binding : BrokerTraceReportBinding) : Bytes :=
  binding.fields.flatten ++ List.replicate 16 0

end BrokerTraceReportBinding

/-- Lines 311-331. -/
def encodeBrokerTraceReport (binding : BrokerTraceReportBinding) :
    Run BrokerTraceReportError (FixedBytes brokerTraceReportBytes) := do
  binding.validate
  let bytes ← putFields (List.replicate brokerTraceReportBytes 0) 0 binding.fields
  toFixed brokerTraceReportBytes bytes

/-- `array.copy_from_slice(&bytes[offset..offset + 32])`. -/
def copied (bytes : Bytes) (offset : Nat) : Run BrokerTraceReportError (FixedBytes 32) := do
  let part ← slice bytes offset (offset + 32)
  toFixed 32 part

/-- `ReceivedBrokerTraceReport::decode`, lines 187-222. -/
def decodeBrokerTraceReport (report : FixedBytes brokerTraceReportBytes) :
    Run BrokerTraceReportError BrokerTraceReportBinding := do
  let bytes := report.list
  let magic ← slice bytes 0 8
  let version ← getU16 bytes 8
  let kind ← getU16 bytes 10
  let length ← getU32 bytes 12
  let reserved ← slice bytes 208 224
  rejectIf (magic ≠ reportMagic ∨ version ≠ reportVersion ∨ kind ≠ execTrapHeld ∨
    length ≠ 224 ∨ reserved.any fun byte => byte ≠ 0) .malformed
  let session ← copied bytes 48
  let clientNonce ← copied bytes 80
  let serviceNonce ← copied bytes 112
  let targetIdentity ← copied bytes 144
  let planDigest ← copied bytes 176
  let deadline ← getU64 bytes 16
  let connectionGeneration ← getU64 bytes 24
  let sequence ← getU64 bytes 32
  let effectiveUid ← getU32 bytes 40
  let effectiveGid ← getU32 bytes 44
  let binding : BrokerTraceReportBinding :=
    { deadline := ⟨deadline⟩, connectionGeneration, sequence, effectiveUid, effectiveGid, session,
      clientNonce, serviceNonce, targetIdentity, planDigest }
  binding.validate
  pure binding

namespace BrokerTraceReportBinding

theorem length_fields (binding : BrokerTraceReportBinding) :
    binding.fields.flatten.length = 208 := by
  simp [fields, reportMagic, binding.session.length_eq, binding.clientNonce.length_eq,
    binding.serviceNonce.length_eq, binding.targetIdentity.length_eq, binding.planDigest.length_eq]

theorem length_image (binding : BrokerTraceReportBinding) :
    binding.image.length = brokerTraceReportBytes := by
  rw [image, length_append, binding.length_fields, length_replicate]
  rfl

end BrokerTraceReportBinding

variable {binding : BrokerTraceReportBinding} {report : FixedBytes brokerTraceReportBytes}

theorem encodeBrokerTraceReport_eq_ok :
    encodeBrokerTraceReport binding = .ok report ↔
      binding.validate = .ok () ∧ report.list = binding.image := by
  have written : (putFields (List.replicate brokerTraceReportBytes 0) 0 binding.fields :
      Run BrokerTraceReportError Bytes) = .ok binding.image := by
    have fits : binding.fields.flatten.length ≤
        (List.replicate brokerTraceReportBytes (0 : UInt8)).length := by
      rw [binding.length_fields, length_replicate]
      decide
    have put := putFields_append (ε := BrokerTraceReportError) [] _ fits
    rw [binding.length_fields, drop_replicate] at put
    exact put
  rw [encodeBrokerTraceReport, bind_eq_ok]
  simp only [Unique.exists_iff, written, ok_bind, toFixed_eq_ok]
  exact and_congr_right fun _ => eq_comm

variable {bytes : Bytes}

theorem copied_eq_ok {offset : Nat} {value : FixedBytes 32} :
    copied bytes offset = .ok value ↔ bytes.extract offset (offset + 32) = value.list :=
  slice_toFixed_eq_ok

/-- The reserved end of a report is zero exactly when no byte of it is set. -/
theorem reserved_eq_zero (long : bytes.length = 224) :
    ¬ ((bytes.extract 208 224).any fun byte => byte ≠ 0) = true ↔
      bytes.extract 208 224 = List.replicate 16 0 := by
  have length : (bytes.extract 208 224).length = 16 := by
    rw [length_extract_of_le (by omega)]
  rw [eq_replicate_iff]
  simp [length]

theorem decodeBrokerTraceReport_eq_ok :
    decodeBrokerTraceReport report = .ok binding ↔
      binding.validate = .ok () ∧ report.list = binding.image := by
  have long : report.list.length = 224 := report.length_eq
  have widths : (binding.fields ++ [List.replicate 16 0]).flatten.length = 224 := by
    rw [flatten_append, length_append, binding.length_fields]
    rfl
  have whole : report.list = binding.image ↔
      FieldsAt report.list 0 (binding.fields ++ [List.replicate 16 0]) := by
    rw [← eq_flatten_iff (by rw [long, widths]), flatten_append]
    simp [BrokerTraceReportBinding.image]
  have width : reportMagic.length = 8 := rfl
  rw [whole]
  simp only [decodeBrokerTraceReport, bind_eq_ok, rejectIf_eq_ok, slice_eq_ok, getU16_eq_ok,
    getU32_eq_ok, getU64_eq_ok, copied_eq_ok, pure_eq_ok, Unique.exists_iff, not_or, not_not,
    BrokerTraceReportBinding.fields, cons_append, nil_append, FieldsAt, width,
    length_ofLe, FixedBytes.length_eq, length_replicate, Nat.reduceAdd, and_true]
  constructor
  · rintro ⟨_, ⟨-, rfl⟩, _, version, _, kind, _, length, _, ⟨-, rfl⟩, ⟨magic, rfl, rfl, rfl,
      reserved⟩, session, hsession, client, hclient, service, hservice, target, htarget, digest,
      hdigest, deadline, hdeadline, generation, hgeneration, sequence, hsequence, uid, huid, gid,
      hgid, valid, rfl⟩
    exact ⟨valid, magic, version, kind, length, hdeadline, hgeneration, hsequence, huid, hgid,
      hsession, hclient, hservice, htarget, hdigest, (reserved_eq_zero long).mp reserved⟩
  · rintro ⟨valid, magic, version, kind, length, deadline, generation, sequence, uid, gid, session,
      client, service, target, digest, reserved⟩
    exact ⟨_, ⟨by decide, rfl⟩, _, version, _, kind, 224, length, _, ⟨by decide, rfl⟩, ⟨magic, rfl,
      rfl, rfl, (reserved_eq_zero long).mpr reserved⟩, _, session, _, client, _, service, _, target,
      _, digest, _, deadline, _, generation, _, sequence, _, uid, _, gid, valid, rfl⟩

/-- A report reads back as a binding exactly when it was written from it. -/
theorem decode_iff_encodeBrokerTraceReport :
    decodeBrokerTraceReport report = .ok binding ↔
      encodeBrokerTraceReport binding = .ok report := by
  rw [decodeBrokerTraceReport_eq_ok, encodeBrokerTraceReport_eq_ok]

end NativeIpc.Supervisor
