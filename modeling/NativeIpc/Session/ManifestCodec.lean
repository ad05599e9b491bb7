import NativeIpc.Session.Manifest

/-!
# The manifest codec is exact

A frame is its head, the records of its entries and zeros. It reads back to the
manifest it was encoded from, no other bytes are accepted, and the frames
derived from a capability frame are the encodings under the magic of the phase.
-/

namespace NativeIpc.Session

open NativeIpc.Lib Bytes List Option

variable {m : TransferManifest}

namespace TransferManifest

variable (m) (magic : FixedBytes 8)

/-! ### The image of a frame -/

/-- The fields of the head in the order of their offsets. -/
def headFields : List Bytes :=
  [magic.list, ofLe 4 controlVersion.toNat, ofLe 4 m.entries.length, m.nonce.list,
    ofLe 4 m.parentPid.toNat, ofLe 4 m.childPid.toNat, ofLe 8 m.transferId.toNat,
    magic.list.extract 4 8, ofLe 4 manifestFlagCanonical.toNat, ofLe 4 controlFrameLen,
    ofLe 4 m.authorityProfile.toNat, ofLe 8 m.totalLogical.toNat, ofLe 8 m.totalMapped.toNat]

variable (entry : ManifestEntry)

/-- The fields of an entry in the order of their offsets. -/
def entryFields : List Bytes :=
  [ofLe 16 entry.regionId.toNat, entry.incarnation.list, ofLe 8 entry.logicalLen.toNat,
    ofLe 8 entry.mappedLen.toNat, ofLe 4 entry.writer.toNat, ofLe 4 entry.access.toNat,
    ofLe 2 entry.ordinal.toNat, ofLe 2 entry.flags.toNat]

/-- The record of an entry: its fields and four zero bytes. -/
def entryImage : Bytes :=
  (entryFields entry).flatten ++ List.replicate 4 0

theorem length_magicKind : (magic.list.extract 4 8).length = 4 := by
  rw [length_extract_of_le (by rw [magic.length_eq])]

theorem length_headFields : (m.headFields magic).flatten.length = 96 := by
  simp [headFields, magic.length_eq, m.nonce.length_eq]

theorem length_entryFields : (entryFields entry).flatten.length = 60 := by
  simp [entryFields, entry.incarnation.length_eq]

theorem length_entryImage : (entryImage entry).length = 64 := by
  rw [entryImage, length_append, length_entryFields, length_replicate]

theorem length_flatMap_entryImage (entries : List ManifestEntry) :
    (entries.flatMap entryImage).length = entries.length * 64 := by
  simp [length_flatMap, length_entryImage]

theorem writeHead_eq (frame : Bytes) :
    m.writeHead magic frame = (m.headFields magic).flatten ++ frame.drop 96 := by
  have hkind : ofLe 4 (toLe (magic.list.extract 4 8)) = magic.list.extract 4 8 := by
    have h := ofLe_toLe (magic.list.extract 4 8)
    rwa [length_magicKind] at h
  have hfields : m.writeHead magic frame = frame.overwriteFields 0 (m.headFields magic) := by
    simp only [writeHead, headFields, overwriteFields, hkind, magic.length_eq, m.nonce.length_eq,
      length_ofLe, length_magicKind, Nat.reduceAdd]
  have happend := overwriteFields_append [] frame (m.headFields magic)
  rw [length_headFields] at happend
  rw [hfields]
  exact happend

theorem writeEntry_eq (head tail : Bytes) (entry : ManifestEntry) :
    writeEntry (head ++ tail) head.length entry =
      head ++ (entryFields entry).flatten ++ tail.drop 60 := by
  have hfields (frame : Bytes) (start : Nat) :
      writeEntry frame start entry = frame.overwriteFields start (entryFields entry) := by
    simp only [writeEntry, entryFields, overwriteFields, entry.incarnation.length_eq,
      length_ofLe, Nat.add_assoc, Nat.reduceAdd]
  rw [hfields, overwriteFields_append, length_entryFields]

/-- The entries fill the zeros after the head from the left. -/
theorem foldl_writeEntry (entries : List ManifestEntry) (index zeros : Nat) (head : Bytes)
    (hhead : head.length = 96 + index * entryLen) (hzeros : entries.length * 64 ≤ zeros) :
    (entries.zipIdx index).foldl
        (fun frame (entry, index) => writeEntry frame (96 + index * entryLen) entry)
        (head ++ replicate zeros 0) =
      head ++ entries.flatMap entryImage ++ replicate (zeros - entries.length * 64) 0 := by
  induction entries generalizing index zeros head with
  | nil => simp
  | cons entry entries ih =>
    rw [length_cons, Nat.add_mul] at hzeros
    have hrecord : writeEntry (head ++ replicate zeros 0) (96 + index * entryLen) entry =
        (head ++ entryImage entry) ++ replicate (zeros - 64) 0 := by
      have hsplit : zeros - 60 = 4 + (zeros - 64) := by omega
      rw [← hhead, writeEntry_eq, drop_replicate, hsplit, replicate_add, entryImage]
      simp only [append_assoc]
    have hnext : (head ++ entryImage entry).length = 96 + (index + 1) * entryLen := by
      rw [length_append, hhead, length_entryImage, entryLen]
      omega
    rw [zipIdx_cons, foldl_cons]
    dsimp only
    rw [hrecord, ih (index + 1) (zeros - 64) _ hnext (by omega), flatMap_cons, length_cons]
    have hcount : zeros - 64 - entries.length * 64 = zeros - (entries.length + 1) * 64 := by omega
    rw [hcount]
    simp only [append_assoc]

/-- An encoded frame: the head, the records of the entries, zeros. -/
theorem encode_eq :
    m.encode magic = (m.headFields magic).flatten ++ m.entries.flatMap entryImage ++
      replicate (1024 - m.entries.length * 64) 0 := by
  have hle : m.entries.length ≤ 16 := m.length_le
  have hdrop : (replicate controlFrameLen (0 : UInt8)).drop 96 = replicate 1024 0 := by
    rw [drop_replicate]
    rfl
  rw [encode, writeHead_eq, hdrop]
  exact foldl_writeEntry m.entries 0 1024 _ (by rw [length_headFields]; rfl) (by omega)

theorem length_encode : (m.encode magic).length = controlFrameLen := by
  have hle : m.entries.length ≤ 16 := m.length_le
  rw [encode_eq, length_append, length_append, length_headFields,
    length_flatMap_entryImage, length_replicate, controlFrameLen, maxTransferEntries, entryLen]
  omega

/-! ### Reading back -/

section Reading

variable {frame : Bytes} {start stop : Nat}

theorem readLe_eq {width value : Nat} (stands : frame.extract start stop = ofLe width value)
    (hstop : stop = start + width) (fits : value < 256 ^ width) :
    readLe frame start width = value := by
  rw [readLe, ← hstop, stands, toLe_ofLe, Nat.mod_eq_of_lt fits]

theorem readU16_eq {value : UInt16} (stands : frame.extract start stop = ofLe 2 value.toNat)
    (hstop : stop = start + 2) : UInt16.ofNat (readLe frame start 2) = value := by
  rw [readLe_eq stands hstop value.toNat_lt, UInt16.ofNat_toNat]

theorem readU32_eq {value : UInt32} (stands : frame.extract start stop = ofLe 4 value.toNat)
    (hstop : stop = start + 4) : UInt32.ofNat (readLe frame start 4) = value := by
  rw [readLe_eq stands hstop value.toNat_lt, UInt32.ofNat_toNat]

theorem readU64_eq {value : UInt64} (stands : frame.extract start stop = ofLe 8 value.toNat)
    (hstop : stop = start + 8) : UInt64.ofNat (readLe frame start 8) = value := by
  rw [readLe_eq stands hstop value.toNat_lt, UInt64.ofNat_toNat]

theorem readU128_eq {value : BitVec 128} (stands : frame.extract start stop = ofLe 16 value.toNat)
    (hstop : stop = start + 16) : BitVec.ofNat 128 (readLe frame start 16) = value := by
  have hlt : value.toNat < 256 ^ 16 := value.isLt
  rw [readLe_eq stands hstop hlt, BitVec.ofNat_toNat, BitVec.setWidth_eq]

theorem readFixed_eq {n : Nat} {value : FixedBytes n}
    (stands : frame.extract start stop = value.list) (hstop : stop = start + n) :
    readFixed n frame start = some value := by
  subst hstop
  rw [readFixed, dif_pos (by rw [stands, value.length_eq])]
  exact congrArg some (FixedBytes.ext_list stands)

theorem readProfile_eq {profile : NativeAuthorityProfile}
    (stands : frame.extract 76 80 = ofLe 4 profile.toNat) : readProfile frame = some profile := by
  have hle : profile.toNat ≤ 3 := by cases profile <;> decide
  have hlt : profile.toNat < 256 ^ 4 := by omega
  rw [readProfile, readLe_eq stands rfl hlt]
  cases profile <;> rfl

theorem readAccess_eq {access : PeerAccess}
    (stands : frame.extract (start + 52) stop = ofLe 4 access.toNat)
    (hstop : stop = start + 52 + 4) : readAccess frame start = some access := by
  have hle : access.toNat ≤ 2 := by cases access <;> decide
  have hlt : access.toNat < 256 ^ 4 := by omega
  have hread : readLe frame (start + 52) 4 = access.toNat := readLe_eq stands hstop hlt
  unfold readAccess
  rw [hread]
  cases access with
  | readOnly => rfl
  | soleWriter => rfl

end Reading

variable {m magic} {frame : Bytes}

/-- An entry is read where its fields stand. -/
theorem decodeEntry_eq {index : Nat} {entry : ManifestEntry}
    (stands : FieldsAt frame (96 + index * entryLen) (entryFields entry)) :
    decodeEntry frame index = some entry := by
  generalize hstart : 96 + index * entryLen = start at stands
  simp only [entryFields, FieldsAt, length_ofLe, entry.incarnation.length_eq, Nat.add_assoc,
    Nat.reduceAdd, and_true] at stands
  obtain ⟨hid, hincarnation, hlogical, hmapped, hwriter, haccess, hordinal, hflags⟩ := stands
  rw [decodeEntry, hstart]
  simp only [readAccess_eq haccess rfl, readFixed_eq hincarnation rfl, readU128_eq hid rfl,
    readU64_eq hlogical rfl, readU64_eq hmapped rfl, readU32_eq hwriter rfl,
    readU16_eq hordinal rfl, readU16_eq hflags rfl]
  rfl

/-- The fields of each entry stand at its place in the frame. -/
theorem entryFields_stand (m : TransferManifest) (magic : FixedBytes 8) {i : Nat}
    (hi : i < m.entries.length) :
    FieldsAt (m.encode magic) (96 + i * entryLen) (entryFields m.entries[i]) := by
  have hsplit : m.entries = m.entries.take i ++ m.entries[i] :: m.entries.drop (i + 1) := by
    rw [← drop_eq_getElem_cons hi, take_append_drop]
  have himages : m.entries.flatMap entryImage = (m.entries.take i).flatMap entryImage ++
      (entryFields m.entries[i]).flatten ++
        (replicate 4 0 ++ (m.entries.drop (i + 1)).flatMap entryImage) := by
    conv_lhs => rw [hsplit]
    rw [flatMap_append, flatMap_cons, entryImage]
    simp only [append_assoc]
  have hstart : ((m.headFields magic).flatten ++ (m.entries.take i).flatMap entryImage).length =
      96 + i * entryLen := by
    rw [length_append, length_headFields, length_flatMap_entryImage, length_take,
      Nat.min_eq_left (Nat.le_of_lt hi), entryLen]
  rw [encode_eq, himages, ← hstart]
  have hstands := fieldsAt_append
    ((m.headFields magic).flatten ++ (m.entries.take i).flatMap entryImage)
    ((replicate 4 0 ++ (m.entries.drop (i + 1)).flatMap entryImage) ++
      replicate (1024 - m.entries.length * 64) 0) (entryFields m.entries[i])
  simpa only [append_assoc] using hstands

theorem mapM_eq_some_of_forall₂ {α β : Type} {f : α → Option β} {xs : List α} {ys : List β}
    (h : Forall₂ (fun x y => f x = some y) xs ys) : xs.mapM f = some ys := by
  induction h with
  | nil => rfl
  | cons head _ ih => rw [mapM_cons, head, ih]; rfl

theorem mapM_decodeEntry (m : TransferManifest) (magic : FixedBytes 8) :
    (range m.entries.length).mapM (decodeEntry (m.encode magic)) = some m.entries := by
  apply mapM_eq_some_of_forall₂
  rw [forall₂_iff_get]
  refine ⟨length_range, ?_⟩
  intro i hi hi'
  rw [get_eq_getElem, get_eq_getElem, getElem_range]
  exact decodeEntry_eq (m.entryFields_stand magic hi')

/-- Decoding inverts encoding under the same magic. -/
theorem decode_encode (m : TransferManifest) (magic : FixedBytes 8) :
    decode magic (m.encode magic) = some m := by
  have hle : m.entries.length ≤ 16 := m.length_le
  have hpos : 0 < m.entries.length := length_pos_iff.mpr m.entries_ne_nil
  have hstands : FieldsAt (m.encode magic) 0 (m.headFields magic) := by
    have h := fieldsAt_append [] (m.entries.flatMap entryImage ++
      replicate (1024 - m.entries.length * 64) 0) (m.headFields magic)
    rw [encode_eq, append_assoc]
    rwa [nil_append] at h
  simp only [headFields, FieldsAt, length_ofLe, length_magicKind, magic.length_eq,
    m.nonce.length_eq, Nat.reduceAdd, Nat.zero_add, and_true] at hstands
  obtain ⟨hmagic, hversion, hcount, hnonce, hparent, hchild, hid, -, -, -, hprofile, -, -⟩ := hstands
  have hcount' : readLe (m.encode magic) 12 4 = m.entries.length :=
    readLe_eq hcount rfl (by omega)
  rw [decode, if_neg (by
    rw [not_or, not_or, not_not, not_not, not_not]
    exact ⟨m.length_encode magic, hmagic, readLe_eq hversion rfl (by decide)⟩)]
  dsimp only
  rw [hcount', if_neg (not_not.mpr ⟨hpos, hle⟩)]
  simp only [readProfile_eq hprofile, mapM_decodeEntry, readFixed_eq hnonce rfl,
    readU32_eq hparent rfl, readU32_eq hchild rfl, readU64_eq hid rfl]
  simp [m.newWithAuthority_self]

/-- Only encodings are accepted. -/
theorem encode_of_decode (h : decode magic frame = some m) : m.encode magic = frame := by
  unfold decode at h
  split at h
  · cases h
  · dsimp only at h
    split at h
    · cases h
    · simp only [bind_eq_bind, bind_eq_some_iff] at h
      obtain ⟨_, _, _, _, _, _, n, _, hn⟩ := h
      split at hn
      · cases hn
        assumption
      · cases hn

theorem decode_eq_some : decode magic frame = some m ↔ m.encode magic = frame := by
  constructor
  · exact encode_of_decode
  · rintro rfl
    exact m.decode_encode magic

variable {magic' : FixedBytes 8}

/-- A frame determines its manifest and its magic. -/
theorem encode_inj {n : TransferManifest} :
    m.encode magic = n.encode magic' ↔ m = n ∧ magic = magic' := by
  constructor
  · intro h
    have hmagic (m : TransferManifest) (magic : FixedBytes 8) :
        (m.encode magic).take 8 = magic.list := by
      rw [encode_eq, headFields, flatten_cons]
      simp only [append_assoc]
      exact take_left' magic.length_eq
    have heq : magic = magic' := by
      apply FixedBytes.ext_list
      rw [← hmagic m, h, hmagic n]
    subst heq
    have hm := m.decode_encode magic
    rw [h, n.decode_encode magic] at hm
    exact ⟨(some.inj hm).symm, rfl⟩
  · rintro ⟨rfl, rfl⟩
    rfl

/-- A frame is not accepted under another magic. -/
theorem decode_encode_of_ne (m : TransferManifest)
    (h : magic ≠ magic') : decode magic' (m.encode magic) = none := by
  rw [eq_none_iff_forall_ne_some]
  intro n hn
  exact h (encode_inj.mp (decode_eq_some.mp hn)).2.symm

/-- The frames that are accepted under a magic. -/
def AcceptedFrame (magic : FixedBytes 8) : Type := { frame : Bytes // (decode magic frame).isSome }

/-- The manifest of an accepted frame. -/
def AcceptedFrame.manifest {magic : FixedBytes 8} (frame : AcceptedFrame magic) :
    TransferManifest :=
  (decode magic frame.1).get frame.2

theorem AcceptedFrame.decode_eq (frame : AcceptedFrame magic) :
    decode magic frame.1 = some frame.manifest :=
  (some_get frame.2).symm

theorem AcceptedFrame.bijective_manifest (magic : FixedBytes 8) :
    Function.Bijective (manifest : AcceptedFrame magic → TransferManifest) := by
  constructor
  · intro a b h
    apply Subtype.ext
    rw [← encode_of_decode a.decode_eq, ← encode_of_decode b.decode_eq, h]
  · intro m
    have accepted : (decode magic (m.encode magic)).isSome := by rw [m.decode_encode]; rfl
    refine ⟨⟨m.encode magic, accepted⟩, ?_⟩
    exact get_of_eq_some _ (m.decode_encode magic)

/-- The codec is exact: what the constructor builds reads back, an accepted frame is the encoding
    of a manifest the constructor accepts, no frame is accepted under two magics, and the order of
    the given entries does not matter. -/
theorem manifest_codec_exact :
    (∀ nonce parentPid childPid transferId authorityProfile entries m,
      newWithAuthority nonce parentPid childPid transferId authorityProfile entries = some m →
        ∀ magic, decode magic (m.encode magic) = some m) ∧
    (∀ magic frame m, decode magic frame = some m →
      m.encode magic = frame ∧
        newWithAuthority m.nonce m.parentPid m.childPid m.transferId m.authorityProfile m.entries =
          some m) ∧
    (∀ magic, Function.Bijective (AcceptedFrame.manifest : AcceptedFrame magic → TransferManifest)) ∧
    (∀ (m : TransferManifest) magic magic', magic ≠ magic' →
      decode magic' (m.encode magic) = none) ∧
    ∀ nonce parentPid childPid transferId authorityProfile entries entries',
      List.Perm entries entries' →
        newWithAuthority nonce parentPid childPid transferId authorityProfile entries =
          newWithAuthority nonce parentPid childPid transferId authorityProfile entries' := by
  refine ⟨?_, ?_, AcceptedFrame.bijective_manifest, ?_, ?_⟩
  · intro _ _ _ _ _ _ m _ magic
    exact m.decode_encode magic
  · intro magic frame m h
    exact ⟨encode_of_decode h, m.newWithAuthority_self⟩
  · intro m magic magic' h
    exact m.decode_encode_of_ne h
  · intro _ _ _ _ _ _ _ perm
    exact newWithAuthority_of_perm perm

end TransferManifest

/-! ### Derived frames -/

theorem CoordinatorCapacityStatus.magic_injective {a b : CoordinatorCapacityStatus}
    (h : a.magic = b.magic) : a = b := by
  revert h
  cases a <;> cases b <;> decide

namespace CapabilityFrame

open TransferManifest

section

variable (m : TransferManifest)

/-- The magic and the kind are the only bytes that depend on the phase. -/
theorem exists_encode_eq :
    ∃ before after : Bytes, before.length = 56 ∧ ∀ magic : FixedBytes 8,
      m.encode magic = (magic.list ++ before) ++ (magic.list.extract 4 8 ++ after) := by
  refine ⟨ofLe 4 controlVersion.toNat ++ ofLe 4 m.entries.length ++ m.nonce.list ++
    ofLe 4 m.parentPid.toNat ++ ofLe 4 m.childPid.toNat ++ ofLe 8 m.transferId.toNat,
    ofLe 4 manifestFlagCanonical.toNat ++ ofLe 4 controlFrameLen ++
    ofLe 4 m.authorityProfile.toNat ++ ofLe 8 m.totalLogical.toNat ++ ofLe 8 m.totalMapped.toNat ++
    m.entries.flatMap entryImage ++ replicate (1024 - m.entries.length * 64) 0,
    by simp [m.nonce.length_eq], ?_⟩
  intro magic
  rw [encode_eq, headFields]
  simp only [flatten_cons, flatten_nil, append_nil, append_assoc]

/-- A derived phase frame is the encoding under the magic of its phase. -/
theorem phaseFrameBytes_fromManifest (magic : FixedBytes 8) :
    (fromManifest m).phaseFrameBytes magic = m.encode magic := by
  obtain ⟨before, after, hbefore, hencode⟩ := exists_encode_eq m
  have hfirst : (m.encode capabilityMagic).overwrite 0 magic.list =
      (magic.list ++ before) ++ (capabilityMagic.list.extract 4 8 ++ after) := by
    have h := overwrite_append [] (m.encode capabilityMagic) magic.list
    rw [nil_append, nil_append, length_nil, magic.length_eq] at h
    rw [h, hencode, append_assoc, drop_left' capabilityMagic.length_eq, append_assoc]
  have hstart : (magic.list ++ before).length = 64 := by
    rw [length_append, magic.length_eq, hbefore]
  have hsecond := overwrite_append (magic.list ++ before)
    (capabilityMagic.list.extract 4 8 ++ after) (magic.list.extract 4 8)
  rw [hstart, length_magicKind, drop_left' (length_magicKind capabilityMagic)] at hsecond
  rw [phaseFrameBytes, fromManifest, hfirst, hsecond, hencode magic, append_assoc]

theorem coordinatorCapacityFrame_fromManifest (status : CoordinatorCapacityStatus) :
    (fromManifest m).coordinatorCapacityFrame status = m.encode status.magic :=
  phaseFrameBytes_fromManifest m _

theorem receiverCapacityFrame_fromManifest (ready : Bool) :
    (fromManifest m).receiverCapacityFrame ready =
      m.encode (if ready then receiverCapacityReadyMagic else receiverCapacityRejectMagic) :=
  phaseFrameBytes_fromManifest m _

theorem preparationFrame_fromManifest (kind : PreparationFrameKind) :
    (fromManifest m).preparationFrame kind = m.encode kind.magic :=
  phaseFrameBytes_fromManifest m _

theorem completionFrame_fromManifest (kind : CompletionFrameKind) :
    (fromManifest m).completionFrame kind = m.encode kind.magic :=
  phaseFrameBytes_fromManifest m _

end

variable {frame : CapabilityFrame}
  {bytes : Bytes}

theorem decode_eq_some_iff :
    decode bytes = some (frame, m) ↔ bytes = m.encode capabilityMagic ∧ frame = fromManifest m := by
  simp only [decode, bind_eq_bind, bind_eq_some_iff, some.injEq, Prod.mk.injEq, decode_eq_some]
  constructor
  · rintro ⟨_, rfl, rfl, rfl⟩
    exact ⟨rfl, rfl⟩
  · rintro ⟨rfl, rfl⟩
    exact ⟨m, rfl, rfl, rfl⟩

theorem decodeStatus_encode (m : TransferManifest) (status tried : CoordinatorCapacityStatus) :
    decodeStatus (m.encode status.magic) tried =
      if tried = status then some (fromManifest m, m, status) else none := by
  split
  · rename_i h
    rw [h, decodeStatus, m.decode_encode]
    rfl
  · rename_i h
    rw [decodeStatus, m.decode_encode_of_ne fun heq =>
      h (CoordinatorCapacityStatus.magic_injective heq).symm]
    rfl

/-- The status and manifest of a capacity offer are those it was encoded from. -/
theorem decodeCoordinatorCapacity_eq_some {status : CoordinatorCapacityStatus} :
    decodeCoordinatorCapacity bytes = some (frame, m, status) ↔
      bytes = m.encode status.magic ∧ frame = fromManifest m := by
  constructor
  · intro h
    obtain ⟨tried, -, htried⟩ := exists_of_findSome?_eq_some h
    simp only [decodeStatus, bind_eq_bind, bind_eq_some_iff, some.injEq,
      Prod.mk.injEq, decode_eq_some] at htried
    obtain ⟨_, rfl, rfl, rfl, rfl⟩ := htried
    exact ⟨rfl, rfl⟩
  · rintro ⟨rfl, rfl⟩
    simp only [decodeCoordinatorCapacity, findSome?_cons, decodeStatus_encode]
    cases status <;> rfl

/-- The phases whose frames are derived from a capability frame. -/
inductive Phase where
  | coordinatorCapacity (status : CoordinatorCapacityStatus)
  | receiverCapacity (ready : Bool)
  | preparation (kind : PreparationFrameKind)
  | completion (kind : CompletionFrameKind)
  deriving DecidableEq, Repr

/-- The magic of a phase. -/
def Phase.magic : Phase → FixedBytes 8
  | .coordinatorCapacity status => status.magic
  | .receiverCapacity ready =>
    if ready then receiverCapacityReadyMagic else receiverCapacityRejectMagic
  | .preparation kind => kind.magic
  | .completion kind => kind.magic

/-- The frame that the builder of a phase derives. -/
def phaseFrame (frame : CapabilityFrame) : Phase → Bytes
  | .coordinatorCapacity status => frame.coordinatorCapacityFrame status
  | .receiverCapacity ready => frame.receiverCapacityFrame ready
  | .preparation kind => frame.preparationFrame kind
  | .completion kind => frame.completionFrame kind

theorem phaseFrame_fromManifest (m : TransferManifest) (phase : Phase) :
    (fromManifest m).phaseFrame phase = m.encode phase.magic := by
  cases phase with
  | coordinatorCapacity status => exact coordinatorCapacityFrame_fromManifest m status
  | receiverCapacity ready => exact receiverCapacityFrame_fromManifest m ready
  | preparation kind => exact preparationFrame_fromManifest m kind
  | completion kind => exact completionFrame_fromManifest m kind

/-- All phases, in the order in which a batch passes through them. -/
def Phase.all : List Phase :=
  [.coordinatorCapacity .ready, .coordinatorCapacity .activeLimit,
    .coordinatorCapacity .preparationFailed, .receiverCapacity true, .receiverCapacity false,
    .preparation .imported, .preparation .sealed, .completion .ready, .completion .commit]

theorem Phase.mem_all (phase : Phase) : phase ∈ all := by
  cases phase with
  | coordinatorCapacity status => cases status <;> decide
  | receiverCapacity ready => cases ready <;> decide
  | preparation kind => cases kind <;> decide
  | completion kind => cases kind <;> decide

theorem Phase.magic_injective {a b : Phase} (h : a.magic = b.magic) : a = b := by
  have distinct : (all.map magic).Nodup := by decide
  exact inj_on_of_nodup_map distinct a.mem_all b.mem_all h

/-- The derived frames are the direct encodings, a coordinator capacity frame reads back to the
    manifest and status it was made from, and no two manifests or phases share a frame. -/
theorem phase_frames_canonical :
    (∀ m phase, (fromManifest m).phaseFrame phase = m.encode phase.magic) ∧
    (∀ bytes frame m status, decodeCoordinatorCapacity bytes = some (frame, m, status) ↔
      bytes = (fromManifest m).coordinatorCapacityFrame status ∧ frame = fromManifest m) ∧
    ∀ m m' phase phase',
      (fromManifest m).phaseFrame phase = (fromManifest m').phaseFrame phase' →
        m = m' ∧ phase = phase' := by
  refine ⟨phaseFrame_fromManifest, ?_, ?_⟩
  · intro bytes frame m status
    rw [coordinatorCapacityFrame_fromManifest]
    exact decodeCoordinatorCapacity_eq_some
  · intro m m' phase phase' h
    rw [phaseFrame_fromManifest, phaseFrame_fromManifest] at h
    obtain ⟨rfl, hmagic⟩ := encode_inj.mp h
    exact ⟨rfl, Phase.magic_injective hmagic⟩

end CapabilityFrame

end NativeIpc.Session
