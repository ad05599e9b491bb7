import Mathlib.Data.List.Count
import NativeIpc.Session.Environment

/-!
# Adopting the handles of a capability record

A capability record is the expected frame and the numeric values of handles that the
coordinator has installed in this process. Every handle value in it has to be owned before the
record is judged, once even if it is repeated, and closed again if the record is refused.
-/

namespace NativeIpc.Windows

open NativeIpc.Lib Bytes NativeIpc.Session List

/-- `MAX_CAPABILITY_COUNT`, transport.rs:25. -/
def maxHandles : Nat := 16

/-- transport.rs:26-27. -/
def maxCapabilityRecordBytes : Nat := controlFrameLen + maxHandles * 8

/-- `OwnedHandle::new` and `CloseHandle`. -/
inductive HandleEvent where
  | own (handle : Nat)
  | close (handle : Nat)
  deriving DecidableEq, Repr

inductive WindowsBatchError where
  | invalidHandle
  | wrongObject
  | wrongAccess
  deriving DecidableEq, Repr

/-- What the system says of a handle value: its flags, unless it refuses to tell them, and whether
    they can be cleared. -/
structure HandleTable where
  flags : Nat → Option UInt32
  cleared : Nat → Bool

section Adopt

variable (t : Target) (table : HandleTable)

/-- `WindowsReceivedHandle::from_raw`, memory.rs:599-613, with `OwnedHandle::new`,
    windows.rs:1483-1489: a handle that is refused once it is owned is dropped. -/
def fromRaw (handle : Nat) : List HandleEvent × Except WindowsBatchError Nat :=
  if handle = 0 ∨ handle = 2 ^ t.bits - 1 then ([], .error .invalidHandle)
  else
    match table.flags handle with
    | none => ([.own handle, .close handle], .error .wrongObject)
    | some flags =>
      if flags = 0 then ([.own handle], .ok handle)
      else ([.own handle, .close handle],
        .error (if table.cleared handle then .wrongAccess else .wrongObject))

/-- A turn of the loop over the words, transport.rs:428-439: whether the record is malformed, and
    the values found so far. -/
def collectWord (found : Bool × List Nat) (word : Nat) : Bool × List Nat :=
  if 2 ^ t.bits ≤ word ∨ word = 0 ∨ word ∈ found.2 then (true, found.2)
  else (found.1, found.2 ++ [word])

/-- transport.rs:420-464: what is owned and closed, and the result. -/
def adoptCapabilityRecord (record : Bytes) (expected : CapabilityFrame) :
    List HandleEvent × Except SessionTransportError (List Nat) :=
  let tail := record.drop controlFrameLen
  let start := decide (record.length < controlFrameLen ∨ (record.length - controlFrameLen) % 8 ≠ 0)
  -- `chunks_exact(8)`
  let found := ((words 8 (tail.length / 8) tail).take maxHandles).foldl (collectWord t)
    (start, [])
  let adopted := found.2.map (fromRaw t table)
  let handles := adopted.filterMap fun handle => handle.2.toOption
  let events := adopted.flatMap Prod.fst
  if found.1 = true ∨ tail.length / 8 > maxHandles ∨
      (∃ handle ∈ adopted, handle.2.toOption = none) ∨
      record.length ≠ controlFrameLen + expected.capabilityCount * 8 ∨
      handles.length ≠ expected.capabilityCount ∨
      record.take controlFrameLen ≠ expected.bytes then
    -- the handles are dropped with the error
    (events ++ handles.map .close, .error .malformedRecord)
  else (events, .ok handles)

end Adopt

/-! ### The words of a record -/

section Collect

variable {t : Target} {words : List Nat} {found : Bool × List Nat}

/-- The loop finds each value of a word once. -/
theorem mem_collect (distinct : found.2.Nodup) :
    (words.foldl (collectWord t) found).2.Nodup ∧
      ∀ handle, handle ∈ (words.foldl (collectWord t) found).2 ↔
        handle ∈ found.2 ∨ handle ∈ words ∧ handle < 2 ^ t.bits ∧ handle ≠ 0 := by
  induction words generalizing found with
  | nil => exact ⟨distinct, by simp⟩
  | cons word rest ih =>
    rw [foldl_cons]
    by_cases skipped : 2 ^ t.bits ≤ word ∨ word = 0 ∨ word ∈ found.2
    · rw [collectWord, if_pos skipped]
      obtain ⟨nodup, same⟩ := @ih (true, found.2) distinct
      refine ⟨nodup, fun handle => (same handle).trans ?_⟩
      rw [mem_cons]
      grind
    · rw [collectWord, if_neg skipped]
      have fresh : (found.2 ++ [word]).Nodup := by
        rw [← concat_eq_append]
        exact distinct.concat fun member => skipped (.inr (.inr member))
      obtain ⟨nodup, same⟩ := @ih (found.1, found.2 ++ [word]) fresh
      refine ⟨nodup, fun handle => (same handle).trans ?_⟩
      rw [mem_cons, mem_append, mem_singleton]
      grind

/-- The loop has nothing to object to exactly if the words are distinct handle values. -/
theorem collect_wellFormed (distinct : found.2.Nodup) :
    (words.foldl (collectWord t) found).1 = false ↔
      found.1 = false ∧ (∀ word ∈ words, word < 2 ^ t.bits ∧ word ≠ 0) ∧
        (found.2 ++ words).Nodup := by
  induction words generalizing found with
  | nil => simp [distinct]
  | cons word rest ih =>
    rw [foldl_cons]
    by_cases skipped : 2 ^ t.bits ≤ word ∨ word = 0 ∨ word ∈ found.2
    · rw [collectWord, if_pos skipped, @ih (true, found.2) distinct]
      refine ⟨fun holds => absurd holds.1 (by simp), ?_⟩
      rintro ⟨-, fit, nodup⟩
      have first := fit word mem_cons_self
      rcases skipped with large | zero | seen
      · omega
      · exact absurd zero first.2
      · exact absurd (nodup_append.mp nodup).2.2 (by grind)
    · rw [collectWord, if_neg skipped]
      have fresh : (found.2 ++ [word]).Nodup := by
        rw [← concat_eq_append]
        exact distinct.concat fun member => skipped (.inr (.inr member))
      rw [@ih (found.1, found.2 ++ [word]) fresh]
      simp only [append_assoc, singleton_append, forall_mem_cons]
      rw [not_or, not_or, not_le] at skipped
      exact and_congr_right fun _ =>
        and_congr_left fun _ => (and_iff_right ⟨skipped.1, skipped.2.1⟩).symm

/-- Then it finds all of them in their order. -/
theorem collect_all (fit : ∀ word ∈ words, word < 2 ^ t.bits ∧ word ≠ 0)
    (distinct : (found.2 ++ words).Nodup) :
    (words.foldl (collectWord t) found).2 = found.2 ++ words := by
  induction words generalizing found with
  | nil => simp
  | cons word rest ih =>
    have first := fit word mem_cons_self
    have fresh : word ∉ found.2 := fun member =>
      (nodup_append.mp distinct).2.2 word member word mem_cons_self rfl
    have taken : ¬ (2 ^ t.bits ≤ word ∨ word = 0 ∨ word ∈ found.2) := by
      simp [first, fresh]
    rw [foldl_cons, collectWord, if_neg taken,
      @ih (found.1, found.2 ++ [word]) (fun other member => fit other (.tail _ member))
        (by simpa using distinct)]
    simp

end Collect

/-! ### Ownership -/

section Ownership

variable (t : Target) (table : HandleTable)

/-- `from_raw` makes itself the owner of the handle. -/
def Takes (handle : Nat) : Prop := handle ≠ 0 ∧ handle ≠ 2 ^ t.bits - 1

/-- `from_raw` returns the handle. -/
def Accepts (handle : Nat) : Prop := Takes t handle ∧ table.flags handle = some 0

instance (handle : Nat) : Decidable (Takes t handle) := inferInstanceAs (Decidable (_ ∧ _))

instance (handle : Nat) : Decidable (Accepts t table handle) := inferInstanceAs (Decidable (_ ∧ _))

variable {t table} {found : List Nat}

theorem fromRaw_eq (handle : Nat) :
    (fromRaw t table handle).2.toOption = (if Accepts t table handle then some handle else none) ∧
      (fromRaw t table handle).1 =
        (if Takes t handle then [.own handle] else []) ++
          (if Takes t handle ∧ ¬ Accepts t table handle then [.close handle] else []) := by
  unfold fromRaw
  by_cases takes : Takes t handle
  · have valid : ¬ (handle = 0 ∨ handle = 2 ^ t.bits - 1) := not_or.mpr takes
    rw [if_neg valid]
    cases known : table.flags handle with
    | none => simp [Accepts, takes, known, Except.toOption]
    | some flags =>
      by_cases plain : flags = 0 <;> simp [Accepts, takes, known, plain, Except.toOption]
  · have invalid : handle = 0 ∨ handle = 2 ^ t.bits - 1 := by
      simpa only [Takes, not_and_or, not_not] using takes
    rw [if_pos invalid]
    simp [Accepts, takes, Except.toOption]

/-- An event of one of several distinct handles. -/
theorem count_flatMap_distinct {events : Nat → List HandleEvent} {event : HandleEvent}
    {handle : Nat} (count : Nat) (distinct : found.Nodup)
    (each : ∀ other, (events other).count event = if other = handle then count else 0) :
    (found.flatMap events).count event = if handle ∈ found then count else 0 := by
  induction found with
  | nil => simp
  | cons other rest ih =>
    obtain ⟨fresh, distinct⟩ := nodup_cons.mp distinct
    rw [flatMap_cons, count_append, each, ih distinct]
    by_cases same : other = handle
    · subst same
      simp [fresh]
    · simp [same, Ne.symm same]

/-- The handles that are kept are those that are accepted. -/
theorem filterMap_fromRaw (found : List Nat) :
    (found.map (fromRaw t table)).filterMap (fun handle => handle.2.toOption) =
      found.filter fun handle => Accepts t table handle := by
  induction found with
  | nil => rfl
  | cons handle rest ih =>
    rw [map_cons, filterMap_cons, (fromRaw_eq handle).1, ih, filter_cons]
    by_cases accepted : Accepts t table handle <;> simp [accepted]

theorem count_own (distinct : found.Nodup) (handle : Nat) :
    ((found.map (fromRaw t table)).flatMap Prod.fst).count (.own handle) =
      if handle ∈ found ∧ Takes t handle then 1 else 0 := by
  have each : ∀ other, ((fromRaw t table other).1).count (.own handle) =
      if other = handle then (if Takes t handle then 1 else 0) else 0 := by
    intro other
    rw [(fromRaw_eq other).2, count_append]
    by_cases same : other = handle
    · subst same
      by_cases takes : Takes t other <;> simp [takes, apply_ite (List.count _)]
    · simp [same, apply_ite (List.count _)]
  rw [flatMap_map, count_flatMap_distinct _ distinct each, ite_and]

theorem count_close (distinct : found.Nodup) (handle : Nat) :
    ((found.map (fromRaw t table)).flatMap Prod.fst).count (.close handle) =
      if handle ∈ found ∧ Takes t handle ∧ ¬ Accepts t table handle then 1 else 0 := by
  have each : ∀ other, ((fromRaw t table other).1).count (.close handle) =
      if other = handle then (if Takes t handle ∧ ¬ Accepts t table handle then 1 else 0)
        else 0 := by
    intro other
    rw [(fromRaw_eq other).2, count_append]
    by_cases same : other = handle
    · subst same
      simp [apply_ite (List.count _)]
    · simp [same, apply_ite (List.count _)]
  rw [flatMap_map, count_flatMap_distinct _ distinct each]
  by_cases member : handle ∈ found <;> simp [member]

theorem count_close_kept (distinct : found.Nodup) (handle : Nat) :
    ((found.filter fun handle => Accepts t table handle).map HandleEvent.close).count
        (.close handle) = if handle ∈ found ∧ Accepts t table handle then 1 else 0 := by
  rw [count_map_of_injective _ _ fun _ _ same => HandleEvent.close.inj same,
    (distinct.filter _).count]
  simp

end Ownership

/-! ### Adopting a record -/

section Record

/-- The complete handle words behind the frame area. -/
def recordWords (record : Bytes) : List Nat :=
  words 8 ((record.length - controlFrameLen) / 8) (record.drop controlFrameLen)

variable {t : Target} {table : HandleTable} {record : Bytes} {expected : CapabilityFrame}

/-- The values the loop finds in a record, and whether it objects to it. -/
def foundIn (t : Target) (record : Bytes) : Bool × List Nat :=
  (recordWords record).foldl (collectWord t)
    (decide (record.length < controlFrameLen ∨ (record.length - controlFrameLen) % 8 ≠ 0), [])

/-- The conditions under which a record is returned. -/
structure Adopted (t : Target) (table : HandleTable) (record : Bytes) (expected : CapabilityFrame) :
    Prop where
  wellFormed : (foundIn t record).1 = false
  accepted : ∀ handle ∈ (foundIn t record).2, Accepts t table handle
  length : record.length = controlFrameLen + expected.capabilityCount * 8
  count : (foundIn t record).2.length = expected.capabilityCount
  frame : record.take controlFrameLen = expected.bytes

/-- What becomes of a record no longer than the longest. -/
theorem adoptCapabilityRecord_eq (short : record.length ≤ maxCapabilityRecordBytes) :
    (Adopted t table record expected ∧
      adoptCapabilityRecord t table record expected =
        (((foundIn t record).2.map (fromRaw t table)).flatMap Prod.fst,
          .ok (foundIn t record).2)) ∨
    (¬ Adopted t table record expected ∧
      adoptCapabilityRecord t table record expected =
        (((foundIn t record).2.map (fromRaw t table)).flatMap Prod.fst ++
          ((foundIn t record).2.filter fun handle => Accepts t table handle).map .close,
          .error .malformedRecord)) := by
  have few : (record.length - controlFrameLen) / 8 ≤ maxHandles := by
    unfold maxCapabilityRecordBytes at short
    omega
  have all : (words 8 ((record.length - controlFrameLen) / 8)
      (record.drop controlFrameLen)).take maxHandles = recordWords record :=
    take_of_length_le ((length_words _ _ _).trans_le few)
  have refused : (∃ handle ∈ (foundIn t record).2.map (fromRaw t table),
      handle.2.toOption = none) ↔ ¬ ∀ handle ∈ (foundIn t record).2, Accepts t table handle := by
    simp [(fromRaw_eq _).1]
  have kept (accepted : ∀ handle ∈ (foundIn t record).2, Accepts t table handle) :
      (foundIn t record).2.filter (fun handle => Accepts t table handle) = (foundIn t record).2 :=
    filter_eq_self.mpr fun handle member => decide_eq_true (accepted handle member)
  unfold adoptCapabilityRecord
  simp only [length_drop, filterMap_fromRaw, all]
  rw [show (recordWords record).foldl (collectWord t) _ = foundIn t record from rfl]
  by_cases adopted : Adopted t table record expected
  · obtain ⟨wellFormed, accepted, length, count, frame⟩ := adopted
    refine .inl ⟨⟨wellFormed, accepted, length, count, frame⟩, ?_⟩
    rw [kept accepted, if_neg]
    rintro (objected | many | some | long | other | wrong)
    · exact Bool.false_ne_true (wellFormed.symm.trans objected)
    · omega
    · exact refused.mp some accepted
    · exact long length
    · exact other count
    · exact wrong frame
  · refine .inr ⟨adopted, if_pos ?_⟩
    by_contra fine
    simp only [not_or, refused, not_not, Bool.not_eq_true] at fine
    obtain ⟨wellFormed, -, accepted, length, count, frame⟩ := fine
    exact adopted ⟨wellFormed, accepted, length, kept accepted ▸ count, frame⟩

/-- A record is adopted exactly if it is the frame and the values of accepted handles. -/
theorem adopted_iff (frame : expected.bytes.length = controlFrameLen) (handles : List Nat) :
    Adopted t table record expected ∧ (foundIn t record).2 = handles ↔
      record = expected.bytes ++ handles.flatMap (ofLe 8) ∧
        handles.length = expected.capabilityCount ∧ handles.Nodup ∧
        ∀ handle ∈ handles, handle < 2 ^ t.bits ∧ Accepts t table handle := by
  constructor
  · rintro ⟨adopted, rfl⟩
    obtain ⟨-, fit, distinct⟩ := (collect_wellFormed nodup_nil).mp adopted.wellFormed
    have found : (foundIn t record).2 = recordWords record := collect_all fit distinct
    have count : (record.length - controlFrameLen) / 8 = expected.capabilityCount := by
      have := adopted.length
      omega
    rw [found]
    refine ⟨?_, (length_words _ _ _).trans count, distinct, fun handle member =>
      ⟨(fit handle member).1, adopted.accepted handle (found ▸ member)⟩⟩
    have tail : (recordWords record).flatMap (ofLe 8) = record.drop controlFrameLen :=
      flatMap_words (by rw [length_drop, count, adopted.length]; omega)
    rw [tail, ← adopted.frame, take_append_drop]
  · rintro ⟨rfl, count, distinct, handled⟩
    have size := length_flatMap_ofLe 8 handles
    have tail : (expected.bytes ++ handles.flatMap (ofLe 8)).drop controlFrameLen =
        handles.flatMap (ofLe 8) := drop_left' frame
    have words : recordWords (expected.bytes ++ handles.flatMap (ofLe 8)) = handles := by
      rw [recordWords, tail, length_append, size, frame, Nat.add_sub_cancel_left,
        Nat.mul_div_cancel _ (by decide)]
      exact words_flatMap fun handle member =>
        lt_of_lt_of_eq (t.fits_u64 (handled handle member).1) (by decide)
    have fit : ∀ word ∈ recordWords (expected.bytes ++ handles.flatMap (ofLe 8)),
        word < 2 ^ t.bits ∧ word ≠ 0 := by
      rw [words]
      exact fun word member => ⟨(handled word member).1, (handled word member).2.1.1⟩
    have found : (foundIn t (expected.bytes ++ handles.flatMap (ofLe 8))).2 = handles :=
      (collect_all fit (by rwa [words])).trans words
    refine ⟨⟨(collect_wellFormed nodup_nil).mpr ⟨?_, fit, by rwa [words]⟩, ?_, ?_, ?_, ?_⟩, found⟩
    · rw [length_append, size, frame]
      simp
    · rw [found]
      exact fun handle member => (handled handle member).2
    · rw [length_append, size, frame, count]
    · rw [found, count]
    · exact take_left' frame

/-- Handles of a capability record neither leak nor are owned twice: each handle value among the
    complete words of a record is owned once, and closed once if the record is refused. It is
    accepted exactly if it is the frame and as many distinct handles as expected, which are then
    returned in their order. -/
theorem capability_record_owned (t : Target) (table : HandleTable) (record : Bytes)
    (expected : CapabilityFrame) (short : record.length ≤ maxCapabilityRecordBytes)
    (frame : expected.bytes.length = controlFrameLen) :
    (∀ handle, (adoptCapabilityRecord t table record expected).1.count (.own handle) =
      if handle ∈ recordWords record ∧ handle < 2 ^ t.bits ∧ Takes t handle then 1 else 0) ∧
    (∀ error, (adoptCapabilityRecord t table record expected).2 = .error error →
      ∀ handle, (adoptCapabilityRecord t table record expected).1.count (.close handle) =
        (adoptCapabilityRecord t table record expected).1.count (.own handle)) ∧
    (∀ handles, (adoptCapabilityRecord t table record expected).2 = .ok handles →
      ∀ handle, (adoptCapabilityRecord t table record expected).1.count (.own handle) =
          handles.count handle ∧
        (adoptCapabilityRecord t table record expected).1.count (.close handle) = 0) ∧
    ∀ handles, (adoptCapabilityRecord t table record expected).2 = .ok handles ↔
      record = expected.bytes ++ handles.flatMap (ofLe 8) ∧
        handles.length = expected.capabilityCount ∧ handles.Nodup ∧
        ∀ handle ∈ handles, handle < 2 ^ t.bits ∧ Accepts t table handle := by
  obtain ⟨distinct, member⟩ : (foundIn t record).2.Nodup ∧ ∀ handle,
      handle ∈ (foundIn t record).2 ↔ handle ∈ [] ∨ handle ∈ recordWords record ∧ _ :=
    mem_collect nodup_nil
  have owned (handle : Nat) : (handle ∈ (foundIn t record).2 ∧ Takes t handle) ↔
      (handle ∈ recordWords record ∧ handle < 2 ^ t.bits ∧ Takes t handle) := by
    rw [member]
    simp only [Takes, not_mem_nil, false_or]
    tauto
  obtain ⟨adopted, run⟩ | ⟨refused, run⟩ := @adoptCapabilityRecord_eq t table record expected short
  · rw [run]
    refine ⟨fun handle => ?_, by simp, ?_, fun handles => ?_⟩
    · rw [count_own distinct, if_congr (owned handle) rfl rfl]
    · rintro _ ⟨rfl⟩ handle
      rw [count_own distinct, count_close distinct, distinct.count]
      have accepted := adopted.accepted handle
      refine ⟨if_congr (and_iff_left_of_imp fun found => (accepted found).1) rfl rfl, if_neg ?_⟩
      exact fun closed => closed.2.2 (accepted closed.1)
    · rw [← adopted_iff frame, Except.ok.injEq, and_iff_right adopted]
  · rw [run]
    have none (handle : Nat) : HandleEvent.own handle ∉
        ((foundIn t record).2.filter fun handle => Accepts t table handle).map .close := by simp
    refine ⟨fun handle => ?_, fun _ _ handle => ?_, by simp, fun handles => ?_⟩
    · rw [count_append, count_eq_zero.mpr (none handle), count_own distinct,
        if_congr (owned handle) rfl rfl, Nat.add_zero]
    · rw [count_append, count_append, count_eq_zero.mpr (none handle),
        count_own distinct, count_close distinct, count_close_kept distinct]
      -- a handle that is owned is closed at once or with the others
      by_cases takes : Takes t handle <;> by_cases accepts : Accepts t table handle
      · simp [takes, accepts]
      · simp [takes, accepts]
      · exact absurd accepts.1 takes
      · simp [takes, accepts]
    · rw [← adopted_iff frame]
      simp [refused]

/-- Two handles behind a frame of zeros. -/
theorem capability_record_owned_pair :
    (adoptCapabilityRecord .w64 ⟨fun _ => some 0, fun _ => true⟩
      (List.replicate controlFrameLen 0 ++ [4, 8].flatMap (ofLe 8))
      ⟨List.replicate controlFrameLen 0, 2⟩).2 = .ok [4, 8] :=
  ((capability_record_owned .w64 ⟨fun _ => some 0, fun _ => true⟩
    (List.replicate controlFrameLen 0 ++ [4, 8].flatMap (ofLe 8))
    ⟨List.replicate controlFrameLen 0, 2⟩ (by simp [maxCapabilityRecordBytes, maxHandles])
    List.length_replicate).2.2.2 [4, 8]).mpr
    ⟨rfl, rfl, by decide, by decide⟩

end Record

end NativeIpc.Windows
