import NativeIpc.Lib.Bytes
import NativeIpc.Lib.Words

/-!
# The ancillary data of a packet

`recvmsg` leaves a chain of control records, each a header and a payload padded to the alignment
of the header. The walk over them goes on after an objection, so that every descriptor that was
installed has an owner before the chain is judged.
-/

namespace NativeIpc.Linux

open NativeIpc.Lib Bytes List

/-- The errors of `PacketError` that are raised here. -/
inductive PacketError where
  | malformedAncillary
  | recordTooLarge
  | wrongPeer
  | wrongDescriptorCount
  deriving DecidableEq, Repr

structure PacketCredentials where
  pid : UInt32
  uid : UInt32
  gid : UInt32
  deriving DecidableEq, Repr

/-- linux_vnext.rs:116-121. -/
structure ReceivedAncillary where
  descriptors : List Nat
  credentials : Option PacketCredentials
  rightsRecords : Nat
  valid : Bool
  deriving DecidableEq, Repr

/-- linux_vnext.rs:124-145. -/
def ReceivedAncillary.validate (self : ReceivedAncillary) (expectedPeer : PacketCredentials)
    (expectedDescriptors : Nat) : Except PacketError (List Nat × PacketCredentials) :=
  if self.valid = false then .error .malformedAncillary
  else
    match self.credentials with
    | none => .error .malformedAncillary
    | some credentials =>
      if credentials ≠ expectedPeer then .error .wrongPeer
      else if self.descriptors.length ≠ expectedDescriptors then .error .wrongDescriptorCount
      else if expectedDescriptors = 0 ∧ self.rightsRecords ≠ 0 ∨
          expectedDescriptors ≠ 0 ∧ self.rightsRecords ≠ 1 then .error .malformedAncillary
      else .ok (self.descriptors, credentials)

/-- `SOL_SOCKET`, `SCM_RIGHTS` and `SCM_CREDENTIALS`. -/
def solSocket : UInt32 := 1
def scmRights : UInt32 := 1
def scmCredentials : UInt32 := 2

section Walk

variable (t : Target)

/-- `align_of::<cmsghdr>()`. -/
def cmsgAlignment : Nat := t.bits / 8

/-- `CMSG_ALIGN`. -/
def cmsgAlign (length : Nat) : Nat :=
  (length + (cmsgAlignment t - 1)) / cmsgAlignment t * cmsgAlignment t

/-- `size_of::<cmsghdr>()`, a length and two `int`s. -/
def cmsgHeader : Nat := cmsgAlignment t + 8

theorem le_cmsgAlign (length : Nat) : length ≤ cmsgAlign t length := by
  rcases t.supported with bits | bits <;> simp [cmsgAlign, cmsgAlignment, bits] <;> omega

theorem cmsgAlign_mod (length : Nat) : cmsgAlign t length % cmsgAlignment t = 0 :=
  Nat.mul_mod_left _ _

theorem cmsgHeader_pos : 0 < cmsgHeader t := Nat.lt_add_left _ (by decide)

/-- `cmsg_len`, `cmsg_level` and `cmsg_type` of the header at the front. -/
def cmsgLen (rest : Bytes) : Nat := toLe (rest.take (cmsgAlignment t))
def cmsgLevel (rest : Bytes) : UInt32 := .ofNat (toLe ((rest.drop (cmsgAlignment t)).take 4))
def cmsgType (rest : Bytes) : UInt32 := .ofNat (toLe ((rest.drop (cmsgAlignment t + 4)).take 4))

/-- A credentials record, linux_vnext.rs:479-497. -/
def adoptCredentials (payload : Bytes) (ancillary : ReceivedAncillary) : ReceivedAncillary :=
  match words 4 3 payload with
  | [pid, uid, gid] =>
    if payload.length ≠ 12 ∨ ancillary.credentials.isSome then { ancillary with valid := false }
    -- `native.pid <= 0`
    else if pid = 0 ∨ 2 ^ 31 ≤ pid then { ancillary with valid := false }
    else { ancillary with credentials := some ⟨.ofNat pid, .ofNat uid, .ofNat gid⟩ }
  | _ => ancillary

/-- A rights record, linux_vnext.rs:498-522. -/
def adoptRights (payload : Bytes) (ancillary : ReceivedAncillary) : ReceivedAncillary :=
  let raw := words 4 (payload.length / 4) payload
  { ancillary with
    descriptors := ancillary.descriptors ++ raw.filter (· < 2 ^ 31)
    rightsRecords := ancillary.rightsRecords + 1
    valid := ancillary.valid && decide (¬ ancillary.rightsRecords + 1 > 1) &&
      decide (¬ (payload.length = 0 ∨ payload.length % 4 ≠ 0)) && raw.all (· < 2 ^ 31) }

/-- The records by level and type, linux_vnext.rs:478-524. -/
def adoptRecord (level type : UInt32) (payload : Bytes) (ancillary : ReceivedAncillary) :
    ReceivedAncillary :=
  if level = solSocket ∧ type = scmCredentials then adoptCredentials payload ancillary
  else if level = solSocket ∧ type = scmRights then adoptRights payload ancillary
  else { ancillary with valid := false }

/-- The loop of `adopt_received_ancillary`, linux_vnext.rs:454-527, from the header at an address
    on; the rest of the control range starts with it. -/
def adoptFrom (address : Nat) (rest : Bytes) (ancillary : ReceivedAncillary) : ReceivedAncillary :=
  if address % cmsgAlignment t ≠ 0 ∨ rest.length < cmsgHeader t then
    { ancillary with valid := false }
  else if cmsgLen t rest < cmsgHeader t ∨ rest.length < cmsgLen t rest then
    { ancillary with valid := false }
  else
    let payload := (rest.take (cmsgLen t rest)).drop (cmsgHeader t)
    let adopted := adoptRecord (cmsgLevel t rest) (cmsgType t rest) payload ancillary
    -- `CMSG_NXTHDR`
    let next := rest.drop (cmsgAlign t (cmsgLen t rest))
    if next.length < cmsgHeader t ∨ next.length < cmsgAlign t (cmsgLen t next) then adopted
    else adoptFrom (address + cmsgAlign t (cmsgLen t rest)) next adopted
termination_by rest.length
decreasing_by
  have := le_cmsgAlign t (cmsgLen t rest)
  simp only [cmsgHeader, not_or, Nat.not_lt] at *
  rw [List.length_drop]
  omega

/-- linux_vnext.rs:435-529. -/
def adoptReceivedAncillary (controlStart : Nat) (control : Bytes) (controlCapacity : Nat) :
    Except PacketError ReceivedAncillary :=
  if controlCapacity < control.length then .error .malformedAncillary
  else if 2 ^ t.bits ≤ controlStart + control.length then .error .malformedAncillary
  else
    let ancillary : ReceivedAncillary := ⟨[], none, 0, true⟩
    -- `CMSG_FIRSTHDR`
    .ok (if control.length < cmsgHeader t then ancillary
      else adoptFrom t controlStart control ancillary)

/-- The descriptors that got an owner, those that were closed again, and the result. -/
structure AncillaryOutcome where
  owned : List Nat
  closed : List Nat
  result : Except PacketError (List Nat × PacketCredentials)
  deriving DecidableEq

/-- What `receive_bounded` does with the ancillary data, linux_vnext.rs:363-387, without its checks
    of the length that was received: the flags are `MSG_CTRUNC` and `MSG_TRUNC`. -/
def receiveAncillary (controlStart : Nat) (control : Bytes) (controlCapacity : Nat)
    (controlTruncated truncated : Bool) (expectedPeer : PacketCredentials)
    (expectedDescriptors : Nat) : AncillaryOutcome :=
  match adoptReceivedAncillary t controlStart control controlCapacity with
  | .error error => ⟨[], [], .error error⟩
  | .ok ancillary =>
    let result :=
      if controlTruncated then .error .malformedAncillary
      else if truncated then .error .recordTooLarge
      else ancillary.validate expectedPeer expectedDescriptors
    { owned := ancillary.descriptors
      -- an error drops the descriptors
      closed := if result.isOk then [] else ancillary.descriptors
      result }

end Walk

/-! ### Chains -/

/-- A control record, with the bytes up to the next one. -/
structure ControlRecord where
  level : UInt32
  type : UInt32
  payload : Bytes
  padding : Bytes
  deriving DecidableEq, Repr

namespace ControlRecord

variable (t : Target)

/-- `CMSG_LEN` of the payload. -/
def length (record : ControlRecord) : Nat := cmsgHeader t + record.payload.length

def image (record : ControlRecord) : Bytes :=
  ofLe (cmsgAlignment t) (record.length t) ++ ofLe 4 record.level.toNat ++
    ofLe 4 record.type.toNat ++ record.payload ++ record.padding

/-- The padding fills the record up. -/
def Padded (record : ControlRecord) : Prop :=
  record.length t + record.padding.length = cmsgAlign t (record.length t)

def adopt (ancillary : ReceivedAncillary) (record : ControlRecord) : ReceivedAncillary :=
  adoptRecord record.level record.type record.payload ancillary

variable {t} {record : ControlRecord} {records : List ControlRecord} {address : Nat}
  {rest : Bytes} {ancillary : ReceivedAncillary}

theorem length_image (padded : record.Padded t) :
    (record.image t).length = cmsgAlign t (record.length t) := by
  rw [← padded, length, cmsgHeader]
  simp only [image, length_append, length_ofLe]

theorem cmsgLen_image (short : record.length t < 2 ^ t.bits) :
    cmsgLen t (record.image t ++ rest) = record.length t := by
  have range : 256 ^ cmsgAlignment t = 2 ^ t.bits := by
    rcases t.supported with bits | bits <;> simp [cmsgAlignment, bits]
  rw [cmsgLen, image]
  simp only [append_assoc]
  rw [take_left' (length_ofLe _ _), toLe_ofLe, range, Nat.mod_eq_of_lt short]

theorem ofNat_toLe_ofLe (n : UInt32) : UInt32.ofNat (toLe (ofLe 4 n.toNat)) = n := by
  rw [toLe_ofLe, Nat.mod_eq_of_lt (lt_of_lt_of_eq n.toNat_lt (by decide)), UInt32.ofNat_toNat]

theorem cmsgLevel_image : cmsgLevel t (record.image t ++ rest) = record.level := by
  rw [cmsgLevel, image]
  simp only [append_assoc]
  rw [drop_left' (length_ofLe _ _), take_left' (length_ofLe _ _), ofNat_toLe_ofLe]

theorem cmsgType_image : cmsgType t (record.image t ++ rest) = record.type := by
  rw [cmsgType, image, ← drop_drop]
  simp only [append_assoc]
  rw [drop_left' (length_ofLe _ _), drop_left' (length_ofLe _ _),
    take_left' (length_ofLe _ _), ofNat_toLe_ofLe]

theorem payload_image :
    ((record.image t ++ rest).take (record.length t)).drop (cmsgHeader t) = record.payload := by
  rw [image, append_assoc, take_left', drop_left']
  · simp only [length_append, length_ofLe, cmsgHeader]
  · simp only [length_append, length_ofLe, length, cmsgHeader]

/-- The walk over the first record of a chain. -/
theorem adoptFrom_image (aligned : address % cmsgAlignment t = 0) (padded : record.Padded t)
    (short : record.length t < 2 ^ t.bits) :
    adoptFrom t address (record.image t ++ rest) ancillary =
      if rest.length < cmsgHeader t ∨ rest.length < cmsgAlign t (cmsgLen t rest) then
        adopt ancillary record
      else adoptFrom t (address + cmsgAlign t (record.length t)) rest (adopt ancillary record) := by
  have size := length_image padded
  have long : record.length t ≤ (record.image t ++ rest).length := by
    rw [length_append, size]
    exact (le_cmsgAlign t _).trans (Nat.le_add_right _ _)
  have header : cmsgHeader t ≤ record.length t := Nat.le_add_right _ _
  rw [adoptFrom, cmsgLen_image short, cmsgLevel_image, cmsgType_image, payload_image,
    if_neg (by omega), if_neg (by omega)]
  simp only [drop_left' size]
  rfl

/-- The walk over a chain visits every record. -/
theorem adoptFrom_chain (aligned : address % cmsgAlignment t = 0)
    (padded : ∀ record ∈ records, record.Padded t)
    (short : (records.flatMap (image t)).length < 2 ^ t.bits) :
    (if (records.flatMap (image t)).length < cmsgHeader t then ancillary
      else adoptFrom t address (records.flatMap (image t)) ancillary) =
        records.foldl adopt ancillary := by
  have long {record : ControlRecord} (padded : record.Padded t) (rest : Bytes) :
      cmsgHeader t ≤ record.length t ∧
        cmsgAlign t (record.length t) ≤ (record.image t ++ rest).length ∧
        record.length t ≤ cmsgAlign t (record.length t) := by
    rw [length_append, length_image padded]
    exact ⟨Nat.le_add_right _ _, Nat.le_add_right _ _, le_cmsgAlign t _⟩
  induction records generalizing address ancillary with
  | nil => exact if_pos (cmsgHeader_pos t)
  | cons record rest ih =>
    obtain ⟨first, others⟩ := forall_mem_cons.mp padded
    rw [flatMap_cons] at short ⊢
    have whole := long first (rest.flatMap (image t))
    have aligned' : (address + cmsgAlign t (record.length t)) % cmsgAlignment t = 0 := by
      rw [Nat.add_mod, aligned, cmsgAlign_mod, Nat.zero_add, Nat.zero_mod]
    rw [if_neg (by omega), adoptFrom_image aligned first (by omega), foldl_cons,
      ← ih aligned' others (by rw [length_append] at short; omega)]
    refine if_congr (or_iff_left_of_imp fun cut => ?_) rfl rfl
    cases rest with
    | nil => exact cmsgHeader_pos t
    | cons next rest =>
      rw [flatMap_cons] at cut short ⊢
      have whole' := long (others next mem_cons_self) (rest.flatMap (image t))
      rw [length_append] at short
      rw [cmsgLen_image (by omega)] at cut
      omega

/-! ### What the records say -/

/-- The record is a `ucred` with a positive pid. -/
structure IsCredentials (peer : PacketCredentials) (record : ControlRecord) : Prop where
  level : record.level = solSocket
  type : record.type = scmCredentials
  length : record.payload.length = 12
  fields : words 4 3 record.payload = [peer.pid.toNat, peer.uid.toNat, peer.gid.toNat]
  positive : 0 < peer.pid.toNat ∧ peer.pid.toNat < 2 ^ 31

/-- The record is these descriptors, at least one and none of them negative. -/
structure IsRights (fds : List Nat) (record : ControlRecord) : Prop where
  level : record.level = solSocket
  type : record.type = scmRights
  length : record.payload.length = fds.length * 4
  fields : words 4 fds.length record.payload = fds
  some : fds ≠ []
  nonnegative : ∀ fd ∈ fds, fd < 2 ^ 31

/-- The nonnegative descriptor words of a record. -/
def descriptors (record : ControlRecord) : List Nat :=
  if record.level = solSocket ∧ record.type = scmRights then
    (words 4 (record.payload.length / 4) record.payload).filter (· < 2 ^ 31)
  else []

theorem toNat_ofNat_toLe (bytes : Bytes) :
    (UInt32.ofNat (toLe (bytes.take 4))).toNat = toLe (bytes.take 4) := by
  have less := toLe_lt (bytes.take 4)
  have short : 256 ^ (bytes.take 4).length ≤ 256 ^ 4 :=
    Nat.pow_le_pow_right (by decide) (length_take_le 4 bytes)
  exact UInt32.toNat_ofNat_of_lt' (lt_of_lt_of_eq (less.trans_le short) (by decide))

theorem adoptCredentials_cases (payload : Bytes) (ancillary : ReceivedAncillary) :
    adoptCredentials payload ancillary = { ancillary with valid := false } ∨
      ancillary.credentials = none ∧ ∃ peer : PacketCredentials,
        (payload.length = 12 ∧
          words 4 3 payload = [peer.pid.toNat, peer.uid.toNat, peer.gid.toNat] ∧
          0 < peer.pid.toNat ∧ peer.pid.toNat < 2 ^ 31) ∧
        adoptCredentials payload ancillary = { ancillary with credentials := some peer } := by
  simp only [adoptCredentials, words]
  split_ifs with refused negative
  · exact .inl rfl
  · exact .inl rfl
  · rw [not_or, not_not, Bool.not_eq_true, Option.isSome_eq_false_iff,
      Option.isNone_iff_eq_none] at refused
    refine .inr ⟨refused.2, _, ⟨refused.1, ?_, ?_⟩, rfl⟩
    · simp only [toNat_ofNat_toLe]
    · rw [toNat_ofNat_toLe]
      omega

theorem descriptors_adopt :
    (adopt ancillary record).descriptors = ancillary.descriptors ++ record.descriptors := by
  unfold adopt adoptRecord descriptors
  by_cases rights : record.level = solSocket ∧ record.type = scmRights
  · rw [if_pos rights, if_pos rights, rights.2, if_neg fun sent => absurd sent.2 (by decide)]
    rfl
  · rw [if_neg rights, if_neg rights, append_nil]
    split
    · obtain same | ⟨-, _, -, same⟩ := adoptCredentials_cases record.payload ancillary <;>
        rw [same]
    · rfl

/-- Whatever the records are, each of their descriptors gets an owner. -/
theorem descriptors_foldl : (records.foldl adopt ancillary).descriptors =
    ancillary.descriptors ++ records.flatMap descriptors := by
  induction records generalizing ancillary with
  | nil => exact (append_nil _).symm
  | cons record rest ih =>
    rw [foldl_cons, ih, descriptors_adopt, flatMap_cons, append_assoc]

theorem adopt_credentials {peer : PacketCredentials} (is : record.IsCredentials peer)
    (first : ancillary.credentials = none) :
    adopt ancillary record = { ancillary with credentials := some peer } := by
  have positive : ¬ (peer.pid.toNat = 0 ∨ 2 ^ 31 ≤ peer.pid.toNat) := by
    have := is.positive
    omega
  rw [adopt, adoptRecord, if_pos ⟨is.level, is.type⟩, adoptCredentials, is.fields]
  simp only [is.length, first, positive, UInt32.ofNat_toNat]
  rfl

theorem adopt_rights {fds : List Nat} (is : record.IsRights fds)
    (first : ancillary.rightsRecords = 0) :
    adopt ancillary record =
      { ancillary with descriptors := ancillary.descriptors ++ fds, rightsRecords := 1 } := by
  have count := length_pos_iff.mpr is.some
  have kept : fds.filter (· < 2 ^ 31) = fds :=
    filter_eq_self.mpr fun fd member => decide_eq_true (is.nonnegative fd member)
  have all : fds.all (· < 2 ^ 31) = true := by simpa using is.nonnegative
  have whole : ¬ (fds.length * 4 = 0 ∨ fds.length * 4 % 4 ≠ 0) := by omega
  rw [adopt, adoptRecord, is.level, is.type, if_neg (by decide), if_pos ⟨rfl, rfl⟩, adoptRights,
    is.length, Nat.mul_div_cancel _ (by decide), is.fields, kept, first, all,
    decide_eq_true whole]
  simp

/-- What a record is that the walk does not object to. -/
theorem of_valid_adopt (valid : (adopt ancillary record).valid = true) :
    ancillary.valid = true ∧
      (ancillary.credentials = none ∧ (∃ peer, record.IsCredentials peer) ∨
        ancillary.rightsRecords = 0 ∧ ∃ fds, record.IsRights fds) := by
  unfold adopt adoptRecord at valid
  split_ifs at valid with sent rights
  · obtain same | ⟨first, peer, ⟨length, fields, positive⟩, same⟩ :=
      adoptCredentials_cases record.payload ancillary
    · rw [same] at valid
      cases valid
    · rw [same] at valid
      exact ⟨valid, .inl ⟨first, peer, sent.1, sent.2, length, fields, positive⟩⟩
  · simp only [adoptRights, Bool.and_eq_true, decide_eq_true_eq, not_or, not_not,
      all_eq_true] at valid
    obtain ⟨⟨⟨valid, first⟩, some, whole⟩, fit⟩ := valid
    have count := length_words 4 (record.payload.length / 4) record.payload
    refine ⟨valid, .inr ⟨by omega, _, rights.1, rights.2, ?_, ?_, ?_, fit⟩⟩
    · rw [count]
      omega
    · rw [count]
    · rw [← length_pos_iff, count]
      omega

theorem valid_of_foldl (valid : (records.foldl adopt ancillary).valid = true) :
    ancillary.valid = true := by
  induction records generalizing ancillary with
  | nil => exact valid
  | cons record rest ih => exact (of_valid_adopt (ih valid)).1

/-- The chain is one credentials record of the peer and, if there are descriptors, one rights
    record, in either order. -/
def Exact (records : List ControlRecord) (peer : PacketCredentials) (fds : List Nat) : Prop :=
  ∃ credentials : ControlRecord, credentials.IsCredentials peer ∧
    (fds = [] ∧ records = [credentials] ∨
      ∃ rights : ControlRecord, rights.IsRights fds ∧
        (records = [credentials, rights] ∨ records = [rights, credentials]))

theorem nil_of_full (valid : (records.foldl adopt ancillary).valid = true)
    (sent : ancillary.credentials ≠ none) (rights : ancillary.rightsRecords ≠ 0) :
    records = [] := by
  cases records with
  | nil => rfl
  | cons record rest =>
    obtain ⟨-, ⟨none, -⟩ | ⟨zero, -⟩⟩ := of_valid_adopt (valid_of_foldl valid)
    · exact absurd none sent
    · exact absurd zero rights

/-- A chain without objections that has credentials. -/
theorem exact_of_valid {final : ReceivedAncillary} {peer : PacketCredentials}
    (walked : records.foldl adopt ⟨[], none, 0, true⟩ = final) (valid : final.valid = true)
    (sent : final.credentials = some peer) : Exact records peer final.descriptors := by
  subst walked
  cases records with
  | nil => cases sent
  | cons first rest =>
    obtain ⟨-, ⟨-, own, is⟩ | ⟨-, fds, is⟩⟩ := of_valid_adopt (valid_of_foldl valid)
    · rw [foldl_cons, adopt_credentials is rfl] at valid sent ⊢
      cases rest with
      | nil =>
        cases sent
        exact ⟨first, is, .inl ⟨rfl, rfl⟩⟩
      | cons second rest =>
        obtain ⟨-, ⟨none, -⟩ | ⟨-, fds, is'⟩⟩ := of_valid_adopt (valid_of_foldl valid)
        · cases none
        rw [foldl_cons, adopt_rights is' rfl] at valid sent ⊢
        obtain rfl := nil_of_full valid nofun nofun
        cases sent
        exact ⟨first, is, .inr ⟨second, is', .inl rfl⟩⟩
    · rw [foldl_cons, adopt_rights is rfl] at valid sent ⊢
      cases rest with
      | nil => cases sent
      | cons second rest =>
        obtain ⟨-, ⟨-, own, is'⟩ | ⟨none, -⟩⟩ := of_valid_adopt (valid_of_foldl valid)
        · rw [foldl_cons, adopt_credentials is' rfl] at valid sent ⊢
          obtain rfl := nil_of_full valid nofun nofun
          cases sent
          exact ⟨second, is', .inr ⟨first, is, .inr rfl⟩⟩
        · cases none

theorem foldl_of_exact {peer : PacketCredentials} {fds : List Nat} (is : Exact records peer fds) :
    records.foldl adopt ⟨[], none, 0, true⟩ =
      ⟨fds, some peer, if fds = [] then 0 else 1, true⟩ := by
  obtain ⟨credentials, sent, ⟨rfl, rfl⟩ | ⟨rights, given, rfl | rfl⟩⟩ := is
  · exact adopt_credentials sent rfl
  · rw [if_neg given.some, foldl_cons, adopt_credentials sent rfl]
    exact adopt_rights given rfl
  · rw [if_neg given.some, foldl_cons, adopt_rights given rfl]
    exact adopt_credentials sent rfl

end ControlRecord

section Accepted

open ControlRecord

variable {t : Target} {controlStart controlCapacity : Nat} {control : Bytes}
  {records : List ControlRecord}

/-- A structurally traversable chain is adopted record by record. -/
theorem adoptReceivedAncillary_chain (fits : control.length ≤ controlCapacity)
    (live : controlStart + control.length < 2 ^ t.bits)
    (aligned : controlStart % cmsgAlignment t = 0) (chain : control = records.flatMap (image t))
    (padded : ∀ record ∈ records, record.Padded t) :
    adoptReceivedAncillary t controlStart control controlCapacity =
      .ok (records.foldl adopt ⟨[], none, 0, true⟩) := by
  rw [adoptReceivedAncillary, if_neg (by omega), if_neg (by omega)]
  subst chain
  exact congrArg Except.ok (adoptFrom_chain aligned padded (by omega))

theorem validate_eq_ok {ancillary : ReceivedAncillary} {peer credentials : PacketCredentials}
    {count : Nat} {fds : List Nat} :
    ancillary.validate peer count = .ok (fds, credentials) ↔
      ancillary.valid = true ∧ ancillary.credentials = some peer ∧ credentials = peer ∧
        ancillary.descriptors = fds ∧ fds.length = count ∧
        ancillary.rightsRecords = if count = 0 then 0 else 1 := by
  unfold ReceivedAncillary.validate
  cases valid : ancillary.valid with
  | false => simp
  | true =>
    cases ancillary.credentials with
    | none => simp
    | some own =>
      by_cases same : own = peer
      · subst same
        by_cases length : ancillary.descriptors.length = count <;> by_cases zero : count = 0 <;>
          grind
      · simp [same]

/-- The ancillary data of a packet is accepted exactly and never leaks: every nonnegative
    descriptor word of the chain gets an owner, which is returned with the result and dropped with
    an error, and it is accepted exactly if nothing was cut off and the chain is what was
    expected. -/
theorem ancillary_exact (t : Target) (controlStart controlCapacity : Nat) (control : Bytes)
    (records : List ControlRecord) (controlTruncated truncated : Bool) (peer : PacketCredentials)
    (count : Nat) (fits : control.length ≤ controlCapacity)
    (live : controlStart + control.length < 2 ^ t.bits)
    (aligned : controlStart % cmsgAlignment t = 0) (chain : control = records.flatMap (image t))
    (padded : ∀ record ∈ records, record.Padded t) (outcome : AncillaryOutcome)
    (received : receiveAncillary t controlStart control controlCapacity controlTruncated truncated
      peer count = outcome) :
    outcome.owned = records.flatMap descriptors ∧
    (∀ error, outcome.result = .error error → outcome.closed = outcome.owned) ∧
    (∀ fds credentials, outcome.result = .ok (fds, credentials) →
      fds = outcome.owned ∧ outcome.closed = []) ∧
    ∀ fds credentials, outcome.result = .ok (fds, credentials) ↔
      controlTruncated = false ∧ truncated = false ∧ credentials = peer ∧ fds.length = count ∧
        Exact records peer fds := by
  rw [receiveAncillary, adoptReceivedAncillary_chain fits live aligned chain padded] at received
  subst received
  have owned := @descriptors_foldl records ⟨[], none, 0, true⟩
  rw [nil_append] at owned
  generalize walked : records.foldl adopt ⟨[], none, 0, true⟩ = final at owned
  dsimp only
  generalize judged : (if controlTruncated = true then Except.error PacketError.malformedAncillary
    else if truncated = true then .error .recordTooLarge else final.validate peer count) = result
  have accepted (fds : List Nat) (credentials : PacketCredentials) :
      result = .ok (fds, credentials) ↔ controlTruncated = false ∧ truncated = false ∧
        final.validate peer count = .ok (fds, credentials) := by
    rw [← judged]
    cases controlTruncated <;> cases truncated <;> simp
  refine ⟨owned, ?_, ?_, fun fds credentials => (accepted fds credentials).trans ?_⟩
  · rintro error rfl
    rfl
  · rintro fds credentials rfl
    obtain ⟨-, -, valid⟩ := (accepted fds credentials).mp rfl
    exact ⟨(validate_eq_ok.mp valid).2.2.2.1.symm, rfl⟩
  · refine and_congr_right fun _ => and_congr_right fun _ => validate_eq_ok.trans ?_
    constructor
    · rintro ⟨valid, sent, same, rfl, length, -⟩
      exact ⟨same, length, exact_of_valid walked valid sent⟩
    · rintro ⟨same, length, shape⟩
      obtain rfl := walked.symm.trans (foldl_of_exact shape)
      refine ⟨rfl, rfl, same, rfl, length, if_congr ?_ rfl rfl⟩
      rw [← length, length_eq_zero_iff]

/-- One descriptor behind the credentials. -/
theorem ancillary_exact_one : ∃ control,
    (receiveAncillary .w64 0 control 256 false false ⟨7, 0, 0⟩ 1).result =
      .ok ([3], ⟨7, 0, 0⟩) := by
  have settled := ancillary_exact .w64 0 256 _
    [⟨1, 2, ofLe 4 7 ++ ofLe 8 0, ofLe 4 0⟩, ⟨1, 1, ofLe 4 3, ofLe 4 0⟩] false false ⟨7, 0, 0⟩ 1
    (by decide) (by decide) rfl rfl (by unfold Padded; decide) _ rfl
  exact ⟨_, (settled.2.2.2 [3] ⟨7, 0, 0⟩).mpr ⟨rfl, rfl, rfl, rfl, _,
    ⟨rfl, rfl, rfl, by decide, by decide⟩, .inr ⟨_,
      ⟨rfl, rfl, rfl, by decide, by decide, by decide⟩, .inl rfl⟩⟩⟩

end Accepted

end NativeIpc.Linux
