import NativeIpc.Supervisor.Report

/-!
# Launch plans across an exec

The service stages a launch plan to its dormant broker, and the broker hands the
part that an exec needs to its launcher. Both frames have a magic, a version, the
length of the whole frame and counted components. Each decoder accepts exactly
what its encoder writes, so that a frame stands for one plan and a plan for one
frame.
Lines are those of `supervisor_broker_plan.rs`.
-/

namespace NativeIpc.Supervisor

open NativeIpc.Lib Bytes Run List
open List (replicate)
open Unique

/-- `MAGIC`, line 17: `NIPCBP01`. -/
def planMagic : Bytes := [0x4e, 0x49, 0x50, 0x43, 0x42, 0x50, 0x30, 0x31]

/-- `VERSION`, line 18. -/
def planVersion : UInt16 := 1

/-- `HEADER_BYTES`, line 19. -/
def planHeaderBytes : Nat := 256

/-- Line 20: `NIPCLP01`. -/
def launcherMagic : Bytes := [0x4e, 0x49, 0x50, 0x43, 0x4c, 0x50, 0x30, 0x31]

def launcherVersion : UInt16 := 1

def launcherHeaderBytes : Nat := 40

def maxBrokerPlanBytes : Nat := 80 * 1024

/-! ### Plans and their checks -/

/-- Lines 32-48. -/
structure BrokerLaunchPlan where
  deadline : SupervisorDeadline
  connectionGeneration : UInt64
  sequence : UInt64
  effectiveUid : UInt32
  effectiveGid : UInt32
  session : FixedBytes 32
  auditIdentity : FixedBytes 32
  codeIdentity : FixedBytes 32
  targetIdentity : FixedBytes 32
  clientNonce : FixedBytes 32
  serviceNonce : FixedBytes 32
  policyId : Bytes
  installedExecutable : Bytes
  arguments : List Bytes
  environment : List TargetEnvironmentEntry
  deriving DecidableEq

/-- Lines 98-105. -/
structure LauncherExecPlan where
  deadline : SupervisorDeadline
  effectiveUid : UInt32
  effectiveGid : UInt32
  installedExecutable : Bytes
  arguments : List Bytes
  environment : List TargetEnvironmentEntry
  deriving DecidableEq

/-- supervisor.rs:1228-1241. -/
def validateInstalledExecutable (path : Bytes) : Run SupervisorWireError Unit :=
  rejectIf (path = [] ∨ path.length > maxComponentBytes ∨ path.head? ≠ some 0x2f ∨ 0 ∈ path ∨
    ((path.splitOn 0x2f).drop 1).any fun component =>
      component = [] ∨ component = [0x2e] ∨ component = [0x2e, 0x2e]) .invalidPolicy

/-- The loops of both `validate` over the arguments and the environment,
    lines 613-624 and 732-742. -/
def validateComponents (arguments : List Bytes) (environment : List TargetEnvironmentEntry) :
    Run SupervisorWireError Unit := do
  forM arguments validateComponent
  let _ ← environment.foldlM (fun keys entry => do
    validateEnvironmentKey entry.key
    validateComponent entry.value
    rejectIf (entry.key ∈ keys) .invalidTargetInput
    pure (entry.key :: keys)) []
  pure ()

/-- Lines 588-626. -/
def BrokerLaunchPlan.validate (plan : BrokerLaunchPlan) : Run SupervisorWireError Unit := do
  rejectIf (plan.deadline.wireValue = 0 ∨ plan.connectionGeneration = 0 ∨ plan.sequence ≠ 1 ∨
    plan.effectiveUid = 0 ∨ plan.effectiveUid = 0xffffffff ∨
    plan.effectiveGid = 0 ∨ plan.effectiveGid = 0xffffffff ∨
    zero32 ∈ [plan.session, plan.auditIdentity, plan.codeIdentity, plan.targetIdentity,
      plan.clientNonce, plan.serviceNonce] ∨
    plan.clientNonce = plan.serviceNonce ∨ plan.arguments = [] ∨
    plan.arguments.length > maxArguments ∨ plan.environment.length > maxEnvironment) .malformed
  validatePolicyId plan.policyId
  validateInstalledExecutable plan.installedExecutable
  validateComponents plan.arguments plan.environment

/-- Lines 719-744. -/
def LauncherExecPlan.validate (plan : LauncherExecPlan) : Run SupervisorWireError Unit := do
  rejectIf (plan.deadline.wireValue = 0 ∨ plan.effectiveUid = 0 ∨
    plan.effectiveUid = 0xffffffff ∨ plan.effectiveGid = 0 ∨ plan.effectiveGid = 0xffffffff ∨
    plan.arguments = [] ∨ plan.arguments.length > maxArguments ∨
    plan.environment.length > maxEnvironment) .malformed
  validateInstalledExecutable plan.installedExecutable
  validateComponents plan.arguments plan.environment

/-! ### Encoders -/

/-- Lines 747-751. -/
def appendComponent (bytes component : Bytes) : Run SupervisorWireError Bytes := do
  let length ← lenTryFrom 32 component.length
  pure (bytes ++ ofLe 4 length ++ component)

/-- What both `encode` do once their plan is valid: the magic and the version, the fields from
    offset 16 on, the parts after the header and last the length at offset 12,
    lines 488-520 and 643-665. -/
def encodeFrame (headerBytes : Nat) (magic : Bytes) (version : UInt16) (fields : List Bytes)
    (start : Bytes) (arguments : List Bytes) (environment : List TargetEnvironmentEntry) :
    Run SupervisorWireError Bytes := do
  let bytes ← putFields (List.replicate headerBytes 0) 0 [magic, ofLe 2 version.toNat]
  let bytes ← putFields bytes 16 fields
  let bytes := bytes ++ start
  let bytes ← arguments.foldlM appendComponent bytes
  let bytes ← environment.foldlM (fun bytes entry => do
    let bytes ← appendComponent bytes entry.key
    appendComponent bytes entry.value) bytes
  rejectIf (bytes.length > maxBrokerPlanBytes) .limitExceeded
  let length ← lenTryFrom 32 bytes.length
  put bytes 12 (ofLe 4 length)

/-- Lines 486-521. -/
def BrokerLaunchPlan.encode (plan : BrokerLaunchPlan) : Run SupervisorWireError Bytes := do
  plan.validate
  let policyLen ← lenTryFrom 32 plan.policyId.length
  let executableLen ← lenTryFrom 32 plan.installedExecutable.length
  let argumentCount ← lenTryFrom 16 plan.arguments.length
  let environmentCount ← lenTryFrom 16 plan.environment.length
  encodeFrame planHeaderBytes planMagic planVersion
    [ofLe 8 plan.deadline.wireValue.toNat, ofLe 8 plan.connectionGeneration.toNat,
      ofLe 8 plan.sequence.toNat, ofLe 4 plan.effectiveUid.toNat, ofLe 4 plan.effectiveGid.toNat,
      plan.session.list, plan.auditIdentity.list, plan.codeIdentity.list,
      plan.targetIdentity.list, plan.clientNonce.list, plan.serviceNonce.list,
      ofLe 4 policyLen, ofLe 4 executableLen, ofLe 2 argumentCount, ofLe 2 environmentCount]
    (plan.policyId ++ plan.installedExecutable) plan.arguments plan.environment

/-- Lines 641-666. -/
def LauncherExecPlan.encode (plan : LauncherExecPlan) : Run SupervisorWireError Bytes := do
  plan.validate
  let executableLen ← lenTryFrom 32 plan.installedExecutable.length
  let argumentCount ← lenTryFrom 16 plan.arguments.length
  let environmentCount ← lenTryFrom 16 plan.environment.length
  encodeFrame launcherHeaderBytes launcherMagic launcherVersion
    [ofLe 8 plan.deadline.wireValue.toNat, ofLe 4 plan.effectiveUid.toNat,
      ofLe 4 plan.effectiveGid.toNat, ofLe 4 executableLen, ofLe 2 argumentCount,
      ofLe 2 environmentCount]
    plan.installedExecutable plan.arguments plan.environment

/-- Lines 630-639. -/
def LauncherExecPlan.fromBroker (plan : BrokerLaunchPlan) : LauncherExecPlan where
  deadline := plan.deadline
  effectiveUid := plan.effectiveUid
  effectiveGid := plan.effectiveGid
  installedExecutable := plan.installedExecutable
  arguments := plan.arguments
  environment := plan.environment

/-! ### Decoders -/

/-- Lines 753-758; with 64-bit `usize` neither conversion
    nor `checked_add` fails. -/
def takeComponent : Reader SupervisorWireError Bytes :=
  Reader.framed .malformed 4 fun _ => .ok ()

/-- One turn of the loops over the environment, lines 558-563. -/
def takeEntry : Reader SupervisorWireError TargetEnvironmentEntry := do
  let key ← takeComponent
  let value ← takeComponent
  Reader.check (TargetEnvironmentEntry.new key value)

/-- The checks of both `decode_untrusted` on the first 16 bytes,
    lines 524-533 and 669-677. -/
def frameHeader (headerBytes : Nat) (magic : Bytes) (version : UInt16) (bytes : Bytes) :
    Run SupervisorWireError Unit := do
  rejectIf (bytes.length < headerBytes ∨ bytes.length > maxBrokerPlanBytes) .malformed
  let foundMagic ← slice bytes 0 8
  let foundVersion ← u16At bytes 8
  let reserved ← slice bytes 10 12
  let length ← u32At bytes 12
  rejectIf (foundMagic ≠ magic ∨ foundVersion ≠ version ∨ reserved ≠ [0, 0] ∨
    length.toNat ≠ bytes.length) .malformed

/-- The parts of a plan after its header, from the cursor on, lines 550-566. -/
def planBody (policyLen executableLen argumentCount environmentCount : Nat) :
    Reader SupervisorWireError (Bytes × Bytes × List Bytes × List TargetEnvironmentEntry) := do
  let policyId ← Reader.take .malformed policyLen
  let installedExecutable ← Reader.take .malformed executableLen
  let arguments ← takeComponent.times argumentCount
  let environment ← takeEntry.times environmentCount
  pure (policyId, installedExecutable, arguments, environment)

/-- Lines 523-586. -/
def BrokerLaunchPlan.decodeUntrusted (bytes : Bytes) :
    Run SupervisorWireError BrokerLaunchPlan := do
  frameHeader planHeaderBytes planMagic planVersion bytes
  let reserved ← slice bytes 252 256
  rejectIf (reserved ≠ [0, 0, 0, 0]) .malformed
  let policyLen ← u32At bytes 240
  let executableLen ← u32At bytes 244
  let argumentCount ← u16At bytes 248
  let environmentCount ← u16At bytes 250
  rejectIf (policyLen.toNat > maxPolicyIdBytes ∨ executableLen.toNat > maxComponentBytes ∨
    argumentCount = 0 ∨ argumentCount.toNat > maxArguments ∨
    environmentCount.toNat > maxEnvironment) .limitExceeded
  let ((policyId, installedExecutable, arguments, environment), left) ←
    planBody policyLen.toNat executableLen.toNat argumentCount.toNat environmentCount.toNat
      (bytes.drop planHeaderBytes)
  rejectIf (left ≠ []) .malformed
  let deadline ← u64At bytes 16
  let connectionGeneration ← u64At bytes 24
  let sequence ← u64At bytes 32
  let effectiveUid ← u32At bytes 40
  let effectiveGid ← u32At bytes 44
  let session ← arrayAt 32 bytes 48
  let auditIdentity ← arrayAt 32 bytes 80
  let codeIdentity ← arrayAt 32 bytes 112
  let targetIdentity ← arrayAt 32 bytes 144
  let clientNonce ← arrayAt 32 bytes 176
  let serviceNonce ← arrayAt 32 bytes 208
  let plan : BrokerLaunchPlan :=
    { deadline := ⟨deadline⟩, connectionGeneration, sequence, effectiveUid, effectiveGid, session,
      auditIdentity, codeIdentity, targetIdentity, clientNonce, serviceNonce, policyId,
      installedExecutable, arguments, environment }
  plan.validate
  pure plan

/-- Lines 668-717. -/
def LauncherExecPlan.decodeUntrusted (bytes : Bytes) :
    Run SupervisorWireError LauncherExecPlan := do
  frameHeader launcherHeaderBytes launcherMagic launcherVersion bytes
  let executableLen ← u32At bytes 32
  let argumentCount ← u16At bytes 36
  let environmentCount ← u16At bytes 38
  rejectIf (executableLen.toNat > maxComponentBytes ∨ argumentCount = 0 ∨
    argumentCount.toNat > maxArguments ∨ environmentCount.toNat > maxEnvironment) .limitExceeded
  let ((_, installedExecutable, arguments, environment), left) ←
    planBody 0 executableLen.toNat argumentCount.toNat environmentCount.toNat
      (bytes.drop launcherHeaderBytes)
  rejectIf (left ≠ []) .malformed
  let deadline ← u64At bytes 16
  let effectiveUid ← u32At bytes 24
  let effectiveGid ← u32At bytes 28
  let plan : LauncherExecPlan :=
    { deadline := ⟨deadline⟩, effectiveUid, effectiveGid, installedExecutable, arguments,
      environment }
  plan.validate
  pure plan

/-! ### Frames stand for plans -/

/-- A component after its length. -/
def longComponentImage (part : Bytes) : Bytes := ofLe 4 part.length ++ part

/-- An entry of the environment in a plan. -/
def TargetEnvironmentEntry.planImage (entry : TargetEnvironmentEntry) : Bytes :=
  longComponentImage entry.key ++ longComponentImage entry.value

/-- The counted components at the end of a plan. -/
def componentsImage (arguments : List Bytes) (environment : List TargetEnvironmentEntry) : Bytes :=
  arguments.flatMap longComponentImage ++ environment.flatMap TargetEnvironmentEntry.planImage

/-- The first fields of a frame. -/
def frameFields (magic : Bytes) (version : UInt16) (length : Nat) : List Bytes :=
  [magic, ofLe 2 version.toNat, ofLe 2 0, ofLe 4 length]

/-- The fields of a broker plan from offset 16 on. -/
def BrokerLaunchPlan.fields (plan : BrokerLaunchPlan) : List Bytes :=
  [ofLe 8 plan.deadline.wireValue.toNat, ofLe 8 plan.connectionGeneration.toNat,
    ofLe 8 plan.sequence.toNat, ofLe 4 plan.effectiveUid.toNat, ofLe 4 plan.effectiveGid.toNat,
    plan.session.list, plan.auditIdentity.list, plan.codeIdentity.list,
    plan.targetIdentity.list, plan.clientNonce.list, plan.serviceNonce.list,
    ofLe 4 plan.policyId.length, ofLe 4 plan.installedExecutable.length,
    ofLe 2 plan.arguments.length, ofLe 2 plan.environment.length]

/-- What follows the header of a broker plan. -/
def BrokerLaunchPlan.body (plan : BrokerLaunchPlan) : Bytes :=
  plan.policyId ++ plan.installedExecutable ++ componentsImage plan.arguments plan.environment

/-- The header of a broker plan. -/
def BrokerLaunchPlan.header (plan : BrokerLaunchPlan) : List Bytes :=
  frameFields planMagic planVersion (planHeaderBytes + plan.body.length) ++ plan.fields ++
    [List.replicate 4 0]

/-- The frame of a broker plan. -/
def BrokerLaunchPlan.image (plan : BrokerLaunchPlan) : Bytes := plan.header.flatten ++ plan.body

/-- The fields of a launcher plan from offset 16 on. -/
def LauncherExecPlan.fields (plan : LauncherExecPlan) : List Bytes :=
  [ofLe 8 plan.deadline.wireValue.toNat, ofLe 4 plan.effectiveUid.toNat,
    ofLe 4 plan.effectiveGid.toNat, ofLe 4 plan.installedExecutable.length,
    ofLe 2 plan.arguments.length, ofLe 2 plan.environment.length]

/-- What follows the header of a launcher plan. -/
def LauncherExecPlan.body (plan : LauncherExecPlan) : Bytes :=
  plan.installedExecutable ++ componentsImage plan.arguments plan.environment

/-- The header of a launcher plan. -/
def LauncherExecPlan.header (plan : LauncherExecPlan) : List Bytes :=
  frameFields launcherMagic launcherVersion (launcherHeaderBytes + plan.body.length) ++ plan.fields

/-- The frame of a launcher plan. -/
def LauncherExecPlan.image (plan : LauncherExecPlan) : Bytes := plan.header.flatten ++ plan.body

theorem BrokerLaunchPlan.length_fields (plan : BrokerLaunchPlan) :
    plan.fields.flatten.length = 236 := by
  simp [fields, FixedBytes.length_eq]

theorem BrokerLaunchPlan.length_header (plan : BrokerLaunchPlan) :
    plan.header.flatten.length = planHeaderBytes := by
  rw [header, flatten_append, flatten_append, length_append, length_append, plan.length_fields]
  simp [frameFields, planMagic, planHeaderBytes]

theorem LauncherExecPlan.length_fields (plan : LauncherExecPlan) :
    plan.fields.flatten.length = 24 := by
  simp [fields]

theorem LauncherExecPlan.length_header (plan : LauncherExecPlan) :
    plan.header.flatten.length = launcherHeaderBytes := by
  rw [header, flatten_append, length_append, plan.length_fields]
  simp [frameFields, launcherMagic, launcherHeaderBytes]

/-- The bounds on the parts that both kinds of plan carry. -/
structure ComponentBounds (executable : Bytes) (arguments : List Bytes)
    (environment : List TargetEnvironmentEntry) : Prop where
  executable_le : executable.length ≤ maxComponentBytes
  arguments_ne : arguments ≠ []
  arguments_le : arguments.length ≤ maxArguments
  environment_le : environment.length ≤ maxEnvironment
  components_le : ∀ argument ∈ arguments, argument.length ≤ maxComponentBytes

theorem length_le_of_validateInstalledExecutable {path : Bytes}
    (valid : validateInstalledExecutable path = .ok ()) : path.length ≤ maxComponentBytes := by
  rw [validateInstalledExecutable, rejectIf_eq_ok, not_or, not_or, Nat.not_lt] at valid
  exact valid.2.1

variable {arguments : List Bytes} {environment : List TargetEnvironmentEntry}
    {plan : BrokerLaunchPlan} {bytes : Bytes} {headerBytes : Nat} {version : UInt16}

theorem length_le_of_validateComponents
    (valid : validateComponents arguments environment = .ok ()) :
    ∀ argument ∈ arguments, argument.length ≤ maxComponentBytes := by
  obtain ⟨⟨⟩, components, -⟩ := bind_eq_ok.mp valid
  intro argument given
  exact (validateComponent_eq_ok.mp (forM_eq_ok.mp components argument given)).1

theorem BrokerLaunchPlan.bounds_of_validate (valid : plan.validate = .ok ()) :
    plan.policyId.length ≤ maxPolicyIdBytes ∧
      ComponentBounds plan.installedExecutable plan.arguments plan.environment := by
  simp only [validate, bind_eq_ok, rejectIf_eq_ok, exists_iff, not_or, Nat.not_lt] at valid
  obtain ⟨⟨-, -, -, -, -, -, -, -, -, some, arguments, environment⟩, policy, executable,
    components⟩ := valid
  rw [validatePolicyId, rejectIf_eq_ok, not_or, not_or, Nat.not_lt] at policy
  exact ⟨policy.2.1, length_le_of_validateInstalledExecutable executable, some, arguments,
    environment, length_le_of_validateComponents components⟩

theorem LauncherExecPlan.bounds_of_validate {plan : LauncherExecPlan}
    (valid : plan.validate = .ok ()) :
    ComponentBounds plan.installedExecutable plan.arguments plan.environment := by
  simp only [validate, bind_eq_ok, rejectIf_eq_ok, exists_iff, not_or, Nat.not_lt] at valid
  obtain ⟨⟨-, -, -, -, -, some, arguments, environment⟩, executable, components⟩ := valid
  exact ⟨length_le_of_validateInstalledExecutable executable, some, arguments, environment,
    length_le_of_validateComponents components⟩

theorem appendComponent_eq {part : Bytes} (short : part.length ≤ maxComponentBytes) :
    appendComponent bytes part = .ok (bytes ++ longComponentImage part) := by
  have fits : part.length < 2 ^ 32 := by
    simp only [maxComponentBytes] at short
    omega
  rw [appendComponent, lenTryFrom_eq_ok.mpr ⟨fits, rfl⟩, ok_bind, pure_eq_ok, longComponentImage,
    append_assoc]

variable {magic : Bytes} {fields : List Bytes}

/-- The header of a frame before its length is written: the magic and the version, six zeros, the
    fields and zeros to its end. -/
theorem putFields_frame
    (width : magic.length = 8) (fits : 16 + fields.flatten.length ≤ headerBytes) :
    (do
      let bytes ← putFields (replicate headerBytes 0) 0 [magic, ofLe 2 version.toNat]
      putFields bytes 16 fields : Run SupervisorWireError Bytes) =
      .ok (magic ++ ofLe 2 version.toNat ++ replicate 2 0 ++ replicate 4 0 ++
        fields.flatten ++ replicate (headerBytes - 16 - fields.flatten.length) 0) := by
  have first : (putFields (replicate headerBytes 0) 0 [magic, ofLe 2 version.toNat] :
      Run SupervisorWireError Bytes) =
        .ok (magic ++ ofLe 2 version.toNat ++ replicate 2 0 ++ replicate 4 0 ++
          replicate (headerBytes - 16) 0) := by
    have room : [magic, ofLe 2 version.toNat].flatten.length ≤
        (replicate headerBytes (0 : UInt8)).length := by
      simp [width]
      omega
    have zeros : replicate (headerBytes - 10) (0 : UInt8) =
        replicate 2 0 ++ (replicate 4 0 ++ replicate (headerBytes - 16) 0) := by
      rw [replicate_append_replicate, replicate_append_replicate]
      congr 1
      omega
    have written := putFields_append (ε := SupervisorWireError) [] _ room
    simpa [width, zeros] using written
  have room : fields.flatten.length ≤ (replicate (headerBytes - 16) (0 : UInt8)).length := by
    rw [length_replicate]
    omega
  have written := putFields_append (ε := SupervisorWireError)
    (magic ++ ofLe 2 version.toNat ++ replicate 2 0 ++ replicate 4 0) _ room
  have start : (magic ++ ofLe 2 version.toNat ++ replicate 2 0 ++
      replicate 4 0).length = 16 := by simp [width]
  rw [start, drop_replicate] at written
  rw [first, ok_bind, written]

/-- The length goes between the first fields of a frame and the rest of it. -/
theorem put_length {rest : Bytes} {length : Nat} (width : magic.length = 8) :
    (put (magic ++ ofLe 2 version.toNat ++ replicate 2 0 ++ (replicate 4 0 ++ rest)) 12
      (ofLe 4 length) : Run SupervisorWireError Bytes) =
      .ok ((frameFields magic version length).flatten ++ rest) := by
  rw [put_append (by simp [width]) (by simp)]
  simp [frameFields, ofLe_zero]

open TargetEnvironmentEntry

theorem encodeFrame_eq_ok {start : Bytes}
    (width : magic.length = 8) (fits : 16 + fields.flatten.length ≤ headerBytes)
    (components : ∀ argument ∈ arguments, argument.length ≤ maxComponentBytes) :
    encodeFrame headerBytes magic version fields start arguments environment = .ok bytes ↔
      bytes.length ≤ maxBrokerPlanBytes ∧
        bytes = (frameFields magic version (headerBytes +
            (start ++ componentsImage arguments environment).length)).flatten ++
          (fields.flatten ++ replicate (headerBytes - 16 - fields.flatten.length) 0 ++
            (start ++ componentsImage arguments environment)) := by
  have argumentsLoop (acc : Bytes) : arguments.foldlM appendComponent acc =
      .ok (acc ++ arguments.flatMap longComponentImage) := by
    refine Reader.foldlM_append (fun argument given acc => ?_) acc
    exact appendComponent_eq (components argument given)
  have environmentLoop (acc : Bytes) : environment.foldlM (fun bytes entry => do
      let bytes ← appendComponent bytes entry.key
      appendComponent bytes entry.value) acc =
        .ok (acc ++ environment.flatMap planImage) := by
    refine Reader.foldlM_append (fun entry _ acc => ?_) acc
    rw [appendComponent_eq entry.length_key_le, ok_bind,
      appendComponent_eq entry.length_value_le, planImage,
      append_assoc]
  let rest := fields.flatten ++ replicate (headerBytes - 16 - fields.flatten.length) 0 ++
    (start ++ componentsImage arguments environment)
  let total := headerBytes + (start ++ componentsImage arguments environment).length
  have joined : magic ++ ofLe 2 version.toNat ++ replicate 2 0 ++ replicate 4 0 ++
      fields.flatten ++ replicate (headerBytes - 16 - fields.flatten.length) 0 ++ start ++
      arguments.flatMap longComponentImage ++
      environment.flatMap planImage =
        magic ++ ofLe 2 version.toNat ++ replicate 2 0 ++ (replicate 4 0 ++ rest) := by
    simp [rest, componentsImage, append_assoc]
  have long : 16 + rest.length = total := by
    simp only [rest, total, length_append, length_replicate]
    omega
  have before : (magic ++ ofLe 2 version.toNat ++ replicate 2 0 ++
      (replicate 4 0 ++ rest)).length = total := by
    rw [← long]
    simp [width]
    omega
  have after : ((frameFields magic version total).flatten ++ rest).length = total := by
    rw [← long]
    simp [frameFields, width]
    omega
  rw [encodeFrame, ← bind_assoc, putFields_frame width fits, ok_bind]
  dsimp only
  rw [argumentsLoop, ok_bind, environmentLoop, ok_bind, joined, before]
  simp only [bind_eq_ok, rejectIf_eq_ok, exists_iff, Nat.not_lt, lenTryFrom_eq_ok]
  constructor
  · rintro ⟨small, _, ⟨-, rfl⟩, ended⟩
    rw [put_length width, Except.ok.injEq] at ended
    subst ended
    exact ⟨by rw [after]; exact small, rfl⟩
  · rintro ⟨small, rfl⟩
    rw [after] at small
    exact ⟨small, _, ⟨lt_of_le_of_lt small (by decide), rfl⟩, put_length width⟩

theorem BrokerLaunchPlan.encode_eq_ok :
    plan.encode = .ok bytes ↔
      plan.validate = .ok () ∧ bytes.length ≤ maxBrokerPlanBytes ∧ bytes = plan.image := by
  rw [encode, bind_eq_ok]
  simp only [exists_iff]
  refine and_congr_right fun valid => ?_
  obtain ⟨policy, bounds⟩ := bounds_of_validate valid
  obtain ⟨executable, -, arguments, environment, components⟩ := bounds
  simp only [maxPolicyIdBytes, maxComponentBytes, maxArguments, maxEnvironment]
    at policy executable arguments environment
  rw [lenTryFrom_eq_ok.mpr ⟨by omega, rfl⟩, ok_bind, lenTryFrom_eq_ok.mpr ⟨by omega, rfl⟩, ok_bind,
    lenTryFrom_eq_ok.mpr ⟨by omega, rfl⟩, ok_bind, lenTryFrom_eq_ok.mpr ⟨by omega, rfl⟩, ok_bind]
  change encodeFrame planHeaderBytes planMagic planVersion plan.fields _ _ _ = _ ↔ _
  have fits : 16 + plan.fields.flatten.length ≤ planHeaderBytes := by
    rw [plan.length_fields]
    decide
  rw [encodeFrame_eq_ok rfl fits components, plan.length_fields]
  have image : plan.image = (frameFields planMagic planVersion (planHeaderBytes +
      plan.body.length)).flatten ++ (plan.fields.flatten ++ replicate 4 0 ++ plan.body) := by
    simp [BrokerLaunchPlan.image, header, append_assoc]
  rw [image]
  rfl

theorem LauncherExecPlan.encode_eq_ok {plan : LauncherExecPlan} :
    plan.encode = .ok bytes ↔
      plan.validate = .ok () ∧ bytes.length ≤ maxBrokerPlanBytes ∧ bytes = plan.image := by
  rw [encode, bind_eq_ok]
  simp only [exists_iff]
  refine and_congr_right fun valid => ?_
  obtain ⟨executable, -, arguments, environment, components⟩ := bounds_of_validate valid
  simp only [maxComponentBytes, maxArguments, maxEnvironment] at executable arguments environment
  rw [lenTryFrom_eq_ok.mpr ⟨by omega, rfl⟩, ok_bind, lenTryFrom_eq_ok.mpr ⟨by omega, rfl⟩, ok_bind,
    lenTryFrom_eq_ok.mpr ⟨by omega, rfl⟩, ok_bind]
  change encodeFrame launcherHeaderBytes launcherMagic launcherVersion plan.fields _ _ _ = _ ↔ _
  have fits : 16 + plan.fields.flatten.length ≤ launcherHeaderBytes := by
    rw [plan.length_fields]
    decide
  rw [encodeFrame_eq_ok rfl fits components, plan.length_fields]
  have image : plan.image = (frameFields launcherMagic launcherVersion (launcherHeaderBytes +
      plan.body.length)).flatten ++ (plan.fields.flatten ++ replicate 0 0 ++ plan.body) := by
    simp [LauncherExecPlan.image, header, append_assoc]
  rw [image]
  rfl

theorem frameHeader_eq_ok (width : magic.length = 8) (fits : 16 ≤ headerBytes) :
    frameHeader headerBytes magic version bytes = .ok () ↔
      headerBytes ≤ bytes.length ∧ bytes.length ≤ maxBrokerPlanBytes ∧
        FieldsAt bytes 0 (frameFields magic version bytes.length) := by
  simp only [frameHeader, bind_eq_ok, rejectIf_eq_ok, slice_eq_ok, u16At_eq_ok, u32At_eq_ok,
    exists_iff, not_or, not_not, Nat.not_lt, frameFields, FieldsAt, width, length_ofLe,
    Nat.reduceAdd, and_true]
  constructor
  · rintro ⟨⟨long, small⟩, _, ⟨-, rfl⟩, _, found, _, ⟨-, rfl⟩, length, stands, hmagic, rfl,
      hreserved, hlength⟩
    rw [hlength] at stands
    exact ⟨long, small, hmagic, found, hreserved, stands⟩
  · rintro ⟨long, small, hmagic, found, hreserved, stands⟩
    have word : (UInt32.ofNat bytes.length).toNat = bytes.length :=
      UInt32.toNat_ofNat_of_lt' (lt_of_le_of_lt small (by decide))
    exact ⟨⟨long, small⟩, _, ⟨by omega, rfl⟩, _, found, _, ⟨by omega, rfl⟩,
      UInt32.ofNat bytes.length, by rw [word]; exact stands, hmagic, rfl, hreserved, word⟩

theorem reads_takeComponent :
    takeComponent.Reads longComponentImage fun part => part.length < 2 ^ 32 := by
  intro bytes part rest
  rw [takeComponent, Reader.reads_framed]
  dsimp only
  rw [and_iff_left (rfl : (Except.ok () : Run SupervisorWireError Unit) = .ok ())]
  exact Iff.rfl

theorem reads_takeEntry : takeEntry.Reads planImage fun _ => True :=
  reads_entry reads_takeComponent fun _ short => lt_of_le_of_lt short (by decide)

theorem planBody_eq_ok {policyLen executableLen argumentCount environmentCount : Nat}
    {rest policyId executable : Bytes} :
    planBody policyLen executableLen argumentCount environmentCount bytes =
        .ok ((policyId, executable, arguments, environment), rest) ↔
      (policyId.length = policyLen ∧ executable.length = executableLen ∧
        arguments.length = argumentCount ∧ environment.length = environmentCount ∧
        ∀ argument ∈ arguments, argument.length < 2 ^ 32) ∧
      bytes = policyId ++ executable ++ componentsImage arguments environment ++ rest := by
  simp only [planBody, (Reader.reads_take _ _).bind_iff,
    (reads_takeComponent.times _).bind_iff, (reads_takeEntry.times _).bind_iff,
    Reader.pure_eq_ok, Prod.mk.injEq, componentsImage, append_assoc]
  constructor
  · rintro ⟨_, _, ⟨len, rfl⟩, _, _, ⟨len', rfl⟩, _, _, ⟨⟨count, short⟩, rfl⟩, _, _,
      ⟨⟨entries, -⟩, rfl⟩, ⟨rfl, rfl, rfl, rfl⟩, rfl⟩
    exact ⟨⟨len, len', count, entries, short⟩, rfl⟩
  · rintro ⟨⟨len, len', count, entries, short⟩, rfl⟩
    exact ⟨policyId, _, ⟨len, rfl⟩, executable, _, ⟨len', rfl⟩, arguments, _, ⟨⟨count, short⟩, rfl⟩,
      environment, _, ⟨⟨entries, fun _ _ => trivial⟩, rfl⟩, ⟨rfl, rfl, rfl, rfl⟩, rfl⟩

/-- A frame is an image exactly when its first fields, with the length it has, and the plan's stand
    in its header and the body follows. -/
theorem eq_frame_iff {body : Bytes}
    (width : magic.length = 8) (total : 16 + fields.flatten.length = headerBytes) :
    bytes = (frameFields magic version (headerBytes + body.length) ++ fields).flatten ++ body ↔
      headerBytes ≤ bytes.length ∧ FieldsAt bytes 0 (frameFields magic version bytes.length) ∧
        FieldsAt bytes 16 fields ∧ bytes.drop headerBytes = body := by
  have start : (frameFields magic version (headerBytes + body.length)).flatten.length = 16 := by
    simp [frameFields, width]
  have long : (frameFields magic version (headerBytes + body.length) ++
      fields).flatten.length = headerBytes := by
    rw [flatten_append, length_append, start, total]
  have whole (fits : headerBytes ≤ bytes.length) :
      headerBytes + (bytes.drop headerBytes).length = bytes.length := by
    rw [length_drop]
    omega
  rw [eq_flatten_append_iff long, fieldsAt_append_iff, start, Nat.zero_add, and_assoc]
  constructor
  · rintro ⟨fits, first, rest, rfl⟩
    rw [whole fits] at first
    exact ⟨fits, first, rest, rfl⟩
  · rintro ⟨fits, first, rest, rfl⟩
    rw [whole fits]
    exact ⟨fits, first, rest, rfl⟩

theorem BrokerLaunchPlan.eq_image_iff :
    bytes = plan.image ↔ planHeaderBytes ≤ bytes.length ∧
      FieldsAt bytes 0 (frameFields planMagic planVersion bytes.length) ∧
        FieldsAt bytes 16 (plan.fields ++ [replicate 4 0]) ∧
          bytes.drop planHeaderBytes = plan.body := by
  rw [image, header, append_assoc]
  refine eq_frame_iff rfl ?_
  rw [flatten_append, length_append, plan.length_fields]
  rfl

theorem LauncherExecPlan.eq_image_iff {plan : LauncherExecPlan} :
    bytes = plan.image ↔ launcherHeaderBytes ≤ bytes.length ∧
      FieldsAt bytes 0 (frameFields launcherMagic launcherVersion bytes.length) ∧
        FieldsAt bytes 16 plan.fields ∧ bytes.drop launcherHeaderBytes = plan.body :=
  eq_frame_iff rfl (by rw [plan.length_fields]; rfl)

theorem u32_of_le {n : Nat} (small : n ≤ 4096) : (UInt32.ofNat n).toNat = n :=
  UInt32.toNat_ofNat_of_lt' (lt_of_le_of_lt small (by decide))

/-- The counts of a bounded plan in the words of its header. -/
theorem ComponentBounds.words {executable : Bytes}
    (bounds : ComponentBounds executable arguments environment) :
    (UInt32.ofNat executable.length).toNat = executable.length ∧
      (UInt16.ofNat arguments.length).toNat = arguments.length ∧
      UInt16.ofNat arguments.length ≠ 0 ∧
      (UInt16.ofNat environment.length).toNat = environment.length ∧
      ∀ argument ∈ arguments, argument.length < 2 ^ 32 := by
  have word {n : Nat} (small : n ≤ 64) : (UInt16.ofNat n).toNat = n :=
    UInt16.toNat_ofNat_of_lt' (lt_of_le_of_lt small (by decide))
  have counted := word bounds.arguments_le
  refine ⟨u32_of_le bounds.executable_le, counted, ?_, word bounds.environment_le, ?_⟩
  · intro zero
    rw [zero] at counted
    exact bounds.arguments_ne (length_eq_zero_iff.mp counted.symm)
  · intro argument given
    exact lt_of_le_of_lt (bounds.components_le argument given) (by decide)

theorem BrokerLaunchPlan.decodeUntrusted_eq_ok :
    decodeUntrusted bytes = .ok plan ↔
      plan.validate = .ok () ∧ bytes.length ≤ maxBrokerPlanBytes ∧ bytes = plan.image := by
  simp only [decodeUntrusted, bind_eq_ok, rejectIf_eq_ok, slice_eq_ok, u16At_eq_ok, u32At_eq_ok,
    u64At_eq_ok, arrayAt_eq_ok, pure_eq_ok, exists_iff, Prod.exists, planBody_eq_ok, not_or,
    not_not, Nat.not_lt]
  rw [eq_image_iff]
  simp only [fields, cons_append, nil_append, FieldsAt, length_ofLe,
    FixedBytes.length_eq, Nat.reduceAdd, length_replicate, and_true]
  constructor
  · rintro ⟨header, _, ⟨-, rfl⟩, reserved, policyLen, hpolicyLen, executableLen, hexecutableLen,
      argumentCount, hargumentCount, environmentCount, henvironmentCount, -, policyId, executable,
      arguments, environment, left, ⟨⟨hpolicy, hexecutable, harguments, henvironment, -⟩, taken⟩,
      rfl, deadline, hdeadline, generation, hgeneration, sequence, hsequence, uid, huid, gid, hgid,
      session, hsession, audit, haudit, code, hcode, target, htarget, client, hclient, service,
      hservice, valid, rfl⟩
    obtain ⟨long, small, start⟩ := (frameHeader_eq_ok rfl (by decide)).mp header
    rw [← hpolicy] at hpolicyLen
    rw [← hexecutable] at hexecutableLen
    rw [← harguments] at hargumentCount
    rw [← henvironment] at henvironmentCount
    rw [append_nil] at taken
    exact ⟨valid, small, long, start, ⟨hdeadline, hgeneration, hsequence, huid, hgid, hsession,
      haudit, hcode, htarget, hclient, hservice, hpolicyLen, hexecutableLen, hargumentCount,
      henvironmentCount, reserved⟩, taken⟩
  · rintro ⟨valid, small, long, start, ⟨hdeadline, hgeneration, hsequence, huid, hgid, hsession,
      haudit, hcode, htarget, hclient, hservice, hpolicyLen, hexecutableLen, hargumentCount,
      henvironmentCount, reserved⟩, rest⟩
    obtain ⟨policy, bounds⟩ := bounds_of_validate valid
    have policyWord := u32_of_le (policy.trans (by decide))
    obtain ⟨executableWord, argumentsWord, counted, environmentWord, short⟩ := bounds.words
    refine ⟨(frameHeader_eq_ok rfl (by decide)).mpr ⟨long, small, start⟩, ?_⟩
    simp only [planHeaderBytes] at long
    refine ⟨_, ⟨by omega, rfl⟩, reserved, UInt32.ofNat plan.policyId.length,
      by rw [policyWord]; exact hpolicyLen, UInt32.ofNat plan.installedExecutable.length,
      by rw [executableWord]; exact hexecutableLen, UInt16.ofNat plan.arguments.length,
      by rw [argumentsWord]; exact hargumentCount, UInt16.ofNat plan.environment.length,
      by rw [environmentWord]; exact henvironmentCount, ?_⟩
    rw [policyWord, executableWord, argumentsWord, environmentWord, rest]
    refine ⟨⟨policy, bounds.executable_le, counted, bounds.arguments_le, bounds.environment_le⟩,
      plan.policyId, plan.installedExecutable, plan.arguments, plan.environment, [], ⟨⟨rfl, rfl,
      rfl, rfl, short⟩, ?_⟩, rfl, _, hdeadline, _, hgeneration, _, hsequence, _, huid, _, hgid, _,
      hsession, _, haudit, _, hcode, _, htarget, _, hclient, _, hservice, valid, rfl⟩
    rw [append_nil]
    rfl

theorem LauncherExecPlan.decodeUntrusted_eq_ok {plan : LauncherExecPlan} :
    decodeUntrusted bytes = .ok plan ↔
      plan.validate = .ok () ∧ bytes.length ≤ maxBrokerPlanBytes ∧ bytes = plan.image := by
  simp only [decodeUntrusted, bind_eq_ok, rejectIf_eq_ok, u16At_eq_ok, u32At_eq_ok, u64At_eq_ok,
    pure_eq_ok, exists_iff, Prod.exists, planBody_eq_ok, not_or, not_not, Nat.not_lt]
  rw [eq_image_iff]
  simp only [fields, FieldsAt, length_ofLe, Nat.reduceAdd, and_true]
  constructor
  · rintro ⟨header, executableLen, hexecutableLen, argumentCount, hargumentCount, environmentCount,
      henvironmentCount, -, policyId, executable, arguments, environment, left, ⟨⟨hpolicy,
      hexecutable, harguments, henvironment, -⟩, taken⟩, rfl, deadline, hdeadline, uid, huid, gid,
      hgid, valid, rfl⟩
    obtain ⟨long, small, start⟩ := (frameHeader_eq_ok rfl (by decide)).mp header
    rw [← hexecutable] at hexecutableLen
    rw [← harguments] at hargumentCount
    rw [← henvironment] at henvironmentCount
    rw [length_eq_zero_iff.mp hpolicy, nil_append, append_nil] at taken
    exact ⟨valid, small, long, start, ⟨hdeadline, huid, hgid, hexecutableLen, hargumentCount,
      henvironmentCount⟩, taken⟩
  · rintro ⟨valid, small, long, start, ⟨hdeadline, huid, hgid, hexecutableLen, hargumentCount,
      henvironmentCount⟩, rest⟩
    have bounds := bounds_of_validate valid
    obtain ⟨executableWord, argumentsWord, counted, environmentWord, short⟩ := bounds.words
    refine ⟨(frameHeader_eq_ok rfl (by decide)).mpr ⟨long, small, start⟩, ?_⟩
    simp only [launcherHeaderBytes] at long
    refine ⟨UInt32.ofNat plan.installedExecutable.length,
      by rw [executableWord]; exact hexecutableLen, UInt16.ofNat plan.arguments.length,
      by rw [argumentsWord]; exact hargumentCount, UInt16.ofNat plan.environment.length,
      by rw [environmentWord]; exact henvironmentCount, ?_⟩
    rw [executableWord, argumentsWord, environmentWord, rest]
    refine ⟨⟨bounds.executable_le, counted, bounds.arguments_le, bounds.environment_le⟩, [],
      plan.installedExecutable, plan.arguments, plan.environment, [], ⟨⟨rfl, rfl, rfl, rfl, short⟩,
      ?_⟩, rfl, _, hdeadline, _, huid, _, hgid, valid, rfl⟩
    rw [append_nil]
    rfl

/-- A frame reads back as a broker plan exactly when it was written from it. -/
theorem BrokerLaunchPlan.decode_iff_encode :
    decodeUntrusted bytes = .ok plan ↔ plan.encode = .ok bytes := by
  rw [decodeUntrusted_eq_ok, encode_eq_ok]

/-- A frame reads back as a launcher plan exactly when it was written from it. -/
theorem LauncherExecPlan.decode_iff_encode {plan : LauncherExecPlan} :
    decodeUntrusted bytes = .ok plan ↔ plan.encode = .ok bytes := by
  rw [decodeUntrusted_eq_ok, encode_eq_ok]

/-- The projection of a valid broker plan passes the launcher's own checks. -/
theorem LauncherExecPlan.validate_fromBroker
    (valid : plan.validate = .ok ()) : (fromBroker plan).validate = .ok () := by
  simp only [BrokerLaunchPlan.validate, bind_eq_ok, rejectIf_eq_ok, exists_iff, not_or] at valid
  obtain ⟨⟨deadline, -, -, uid, uidMax, gid, gidMax, -, -, some, arguments, environment⟩, -,
    executable, components⟩ := valid
  refine bind_eq_ok.mpr ⟨(), rejectIf_eq_ok.mpr ?_, bind_eq_ok.mpr ⟨(), executable, components⟩⟩
  simp only [fromBroker, not_or]
  exact ⟨deadline, uid, uidMax, gid, gidMax, some, arguments, environment⟩

/-- The projection is shorter than the plan. -/
theorem LauncherExecPlan.length_image_fromBroker (plan : BrokerLaunchPlan) :
    (fromBroker plan).image.length ≤ plan.image.length := by
  rw [image, BrokerLaunchPlan.image, length_append, length_append, length_header,
    plan.length_header]
  simp only [body, fromBroker, BrokerLaunchPlan.body, length_append, launcherHeaderBytes,
    planHeaderBytes]
  omega

/-! ### Acknowledged plans -/

/-- Lines 65-69, and the two types with the same
    fields that it becomes, `AcknowledgedBrokerLaunchPlan` and `ExactParentBrokerLaunchPlan`. -/
structure ReceivedBrokerLaunchPlan where
  plan : BrokerLaunchPlan
  deadline : SupervisorDeadlineBinding
  digest : FixedBytes 32
  deriving DecidableEq

/-- `ExactParentBrokerLaunchPlan::launcher_frame`, lines 372-376. -/
def ReceivedBrokerLaunchPlan.launcherFrame (received : ReceivedBrokerLaunchPlan) :
    Run SupervisorWireError Bytes :=
  (LauncherExecPlan.fromBroker received.plan).encode

/-! ### The launcher's part of a plan -/

/-- Lines 91-94. -/
structure ReceivedLauncherExecPlan where
  plan : LauncherExecPlan
  deadline : SupervisorDeadlineBinding
  deriving DecidableEq

/-- Lines 108-115. -/
structure LauncherExecParts where
  deadline : SupervisorDeadlineBinding
  effectiveUid : UInt32
  effectiveGid : UInt32
  installedExecutable : Bytes
  arguments : List Bytes
  environment : List TargetEnvironmentEntry
  deriving DecidableEq

/-- Lines 382-391. -/
def ReceivedLauncherExecPlan.decodeWithDeadline (frame : Bytes)
    (deadline : SupervisorDeadlineBinding) : Run SupervisorWireError ReceivedLauncherExecPlan := do
  let plan ← LauncherExecPlan.decodeUntrusted frame
  rejectIf (plan.deadline ≠ deadline.wire) .replayOrSubstitution
  pure { plan, deadline }

/-- Lines 393-402. -/
def ReceivedLauncherExecPlan.intoParts (received : ReceivedLauncherExecPlan) :
    LauncherExecParts where
  deadline := received.deadline
  effectiveUid := received.plan.effectiveUid
  effectiveGid := received.plan.effectiveGid
  installedExecutable := received.plan.installedExecutable
  arguments := received.plan.arguments
  environment := received.plan.environment

/-- Both codecs are exact: a valid plan whose frame fits is written and read back, and what is
    read is the frame of the plan that was read. The projection of a valid plan is valid, and the
    launcher reads out of its frame what the broker's plan says. -/
theorem plan_codecs_exact :
    (∀ plan : BrokerLaunchPlan, plan.validate = .ok () →
      plan.image.length ≤ maxBrokerPlanBytes →
      ∃ bytes, plan.encode = .ok bytes ∧ BrokerLaunchPlan.decodeUntrusted bytes = .ok plan) ∧
    (∀ bytes plan, BrokerLaunchPlan.decodeUntrusted bytes = .ok plan → plan.encode = .ok bytes) ∧
    (∀ plan : LauncherExecPlan, plan.validate = .ok () →
      plan.image.length ≤ maxBrokerPlanBytes →
      ∃ bytes, plan.encode = .ok bytes ∧ LauncherExecPlan.decodeUntrusted bytes = .ok plan) ∧
    (∀ bytes plan, LauncherExecPlan.decodeUntrusted bytes = .ok plan → plan.encode = .ok bytes) ∧
    (∀ plan : BrokerLaunchPlan, plan.validate = .ok () →
      (LauncherExecPlan.fromBroker plan).validate = .ok ()) ∧
    ∀ received : ReceivedBrokerLaunchPlan, received.plan.validate = .ok () →
      received.plan.image.length ≤ maxBrokerPlanBytes →
      ∃ frame, received.launcherFrame = .ok frame ∧
        ∀ deadline : SupervisorDeadlineBinding, deadline.wire = received.plan.deadline →
          ∃ launcher, ReceivedLauncherExecPlan.decodeWithDeadline frame deadline = .ok launcher ∧
            launcher.intoParts =
              { deadline, effectiveUid := received.plan.effectiveUid,
                effectiveGid := received.plan.effectiveGid,
                installedExecutable := received.plan.installedExecutable,
                arguments := received.plan.arguments,
                environment := received.plan.environment } := by
  refine ⟨?_, ?_, ?_, ?_, fun _ => LauncherExecPlan.validate_fromBroker, ?_⟩
  · intro plan valid fits
    have encoded := BrokerLaunchPlan.encode_eq_ok.mpr ⟨valid, fits, rfl⟩
    exact ⟨plan.image, encoded, BrokerLaunchPlan.decode_iff_encode.mpr encoded⟩
  · intro bytes plan decoded
    exact BrokerLaunchPlan.decode_iff_encode.mp decoded
  · intro plan valid fits
    have encoded := LauncherExecPlan.encode_eq_ok.mpr ⟨valid, fits, rfl⟩
    exact ⟨plan.image, encoded, LauncherExecPlan.decode_iff_encode.mpr encoded⟩
  · intro bytes plan decoded
    exact LauncherExecPlan.decode_iff_encode.mp decoded
  · intro received valid fits
    have encoded := LauncherExecPlan.encode_eq_ok.mpr ⟨LauncherExecPlan.validate_fromBroker valid,
        (LauncherExecPlan.length_image_fromBroker received.plan).trans fits, rfl⟩
    refine ⟨_, encoded, fun deadline same =>
      ⟨⟨LauncherExecPlan.fromBroker received.plan, deadline⟩, ?_, rfl⟩⟩
    have decoded := LauncherExecPlan.decode_iff_encode.mpr encoded
    rw [ReceivedLauncherExecPlan.decodeWithDeadline, decoded, ok_bind]
    refine bind_eq_ok.mpr ⟨(), rejectIf_eq_ok.mpr (not_not.mpr ?_), rfl⟩
    exact same.symm

/-- The policy `a` runs `/b` with one more argument and the variable `C`. -/
def Staged.launch : BrokerLaunchPlan :=
  ⟨⟨1⟩, 11, 1, 501, 20, .filled 32 6, .filled 32 1, .filled 32 2, .filled 32 7, .filled 32 4,
    .filled 32 5, [0x61], [0x2f, 0x62], [[0x62], [0x65]], [assigned]⟩

theorem plan_codecs_exact_staged :
    Staged.launch.validate = .ok () ∧ Staged.launch.image.length ≤ maxBrokerPlanBytes ∧
      (∃ bytes, Staged.launch.encode = .ok bytes ∧
        BrokerLaunchPlan.decodeUntrusted bytes = .ok Staged.launch) ∧
      ∃ frame launcher,
        ReceivedBrokerLaunchPlan.launcherFrame ⟨Staged.launch, ⟨⟨1⟩, 1⟩, zero32⟩ = .ok frame ∧
        ReceivedLauncherExecPlan.decodeWithDeadline frame ⟨⟨1⟩, 1⟩ = .ok launcher ∧
        launcher.intoParts.arguments = [[0x62], [0x65]] := by
  obtain ⟨writes, -, -, -, -, launches⟩ := plan_codecs_exact
  have valid : Staged.launch.validate = .ok () := by decide +kernel
  have fits : Staged.launch.image.length ≤ maxBrokerPlanBytes := by decide +kernel
  obtain ⟨frame, projected, reads⟩ := launches ⟨Staged.launch, ⟨⟨1⟩, 1⟩, zero32⟩ valid fits
  obtain ⟨launcher, decoded, parts⟩ := reads ⟨⟨1⟩, 1⟩ rfl
  exact ⟨valid, fits, writes _ valid fits, frame, launcher, projected, decoded, by rw [parts]; rfl⟩

end NativeIpc.Supervisor
