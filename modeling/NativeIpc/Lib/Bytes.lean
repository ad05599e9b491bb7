import Mathlib.Data.List.Basic
import Mathlib.Data.Nat.Log
import Mathlib.Tactic.Ring
import NativeIpc.Lib.Run

/-!
# Byte buffers

Slices, overwrites and little-endian integers in a buffer of bytes. A buffer
is a list; an access outside it faults. The lemmas about `put` cover the two
ways an encoder is used: writing fields one after the other, where the buffer
stays a written head and an unwritten tail, and writing records at computed
offsets, where single bytes are looked up.
-/

namespace NativeIpc.Lib

open List

abbrev Bytes := List UInt8

/-- `[u8; n]`. -/
structure FixedBytes (n : Nat) where
  list : Bytes
  length_eq : list.length = n
  deriving DecidableEq, Repr

theorem FixedBytes.ext_list {n : Nat} {a b : FixedBytes n} (h : a.list = b.list) : a = b := by
  cases a
  cases b
  simp_all

/-- `[0; n]`. -/
def FixedBytes.zero (n : Nat) : FixedBytes n := ⟨List.replicate n 0, List.length_replicate⟩

/-- `[byte; n]`. -/
def FixedBytes.filled (n : Nat) (byte : UInt8) : FixedBytes n :=
  ⟨List.replicate n byte, List.length_replicate⟩

instance : LawfulBEq Bytes := inferInstance

variable {bytes : Bytes} {start width offset : Nat} {fields : List Bytes}

namespace Bytes

variable {ε : Type}

/-! ### Slices -/

/-- `&bytes[start..stop]`. -/
def slice (bytes : Bytes) (start stop : Nat) : Run ε Bytes :=
  Run.assume (start ≤ stop ∧ stop ≤ bytes.length) (bytes.extract start stop)

/-- `array.copy_from_slice(bytes)` into an array of `n` bytes. -/
def toFixed (n : Nat) (bytes : Bytes) : Run ε (FixedBytes n) :=
  if h : bytes.length = n then .ok ⟨bytes, h⟩ else Run.fault

variable {part : Bytes} {stop : Nat} {fields' : List Bytes}

theorem slice_eq_ok :
    (slice bytes start stop : Run ε Bytes) = .ok part ↔
      (start ≤ stop ∧ stop ≤ bytes.length) ∧ bytes.extract start stop = part :=
  Run.assume_eq_ok

theorem toFixed_eq_ok {n : Nat} {fixed : FixedBytes n} :
    (toFixed n bytes : Run ε (FixedBytes n)) = .ok fixed ↔ bytes = fixed.list := by
  unfold toFixed Run.fault
  split
  · constructor
    · intro h
      cases h
      rfl
    · intro h
      exact congrArg _ (FixedBytes.ext_list h)
  · rename_i h
    simp only [reduceCtorEq, false_iff]
    rintro rfl
    exact h fixed.length_eq

theorem length_extract_of_le (h : stop ≤ bytes.length) :
    (bytes.extract start stop).length = stop - start := by
  simp only [extract_eq_take_drop, length_take, length_drop]
  omega

/-- Adjacent slices join. -/
theorem extract_append_extract {a b c : Nat} (hab : a ≤ b) (hbc : b ≤ c) :
    bytes.extract a b ++ bytes.extract b c = bytes.extract a c := by
  simp only [extract_eq_take_drop]
  have hdrop : bytes.drop b = (bytes.drop a).drop (b - a) := by
    rw [drop_drop]
    congr 1
    omega
  rw [hdrop, ← take_add]
  congr 1
  omega

theorem getElem?_extract {i : Nat} :
    (bytes.extract start stop)[i]? = if i < stop - start then bytes[start + i]? else none := by
  rw [extract_eq_take_drop, getElem?_take]
  split <;> simp

/-- A slice is all zero when every byte in its range is. -/
theorem all_zero_extract (start : Nat) (hstop : stop ≤ bytes.length) :
    (∀ b ∈ bytes.extract start stop, b = 0) ↔
      ∀ i, start ≤ i → i < stop → bytes[i]? = some 0 := by
  constructor
  · intro hz i hi hlt
    have hget : (bytes.extract start stop)[i - start]? = bytes[i]? := by
      rw [getElem?_extract, if_pos (by omega), Nat.add_sub_cancel' hi]
    obtain ⟨b, hb⟩ : ∃ b, bytes[i]? = some b := ⟨_, getElem?_eq_getElem (by omega)⟩
    rw [hb] at hget
    rw [hb, hz b (mem_of_getElem? hget)]
  · intro hz b hb
    obtain ⟨j, hj⟩ := mem_iff_getElem?.mp hb
    rw [getElem?_extract] at hj
    split at hj
    · rw [hz (start + j) (by omega) (by omega)] at hj
      exact (Option.some.inj hj).symm
    · cases hj

/-- Equality of a slice with given bytes, byte by byte. -/
theorem extract_eq_iff (bytes part : Bytes) (start : Nat) :
    bytes.extract start (start + part.length) = part ↔
      ∀ inner < part.length, bytes[start + inner]? = part[inner]? := by
  constructor
  · intro h inner hinner
    rw [← h, getElem?_extract, if_pos (by omega)]
  · intro h
    apply ext_getElem?
    intro inner
    rw [getElem?_extract]
    by_cases hinner : inner < part.length
    · rw [if_pos (by omega), h inner hinner]
    · rw [if_neg (by omega), getElem?_eq_none (by omega)]

/-! ### Overwrites -/

/-- `bytes` with `part` written from `start` on. -/
def overwrite (bytes : Bytes) (start : Nat) (part : Bytes) : Bytes :=
  bytes.take start ++ part ++ bytes.drop (start + part.length)

/-- `bytes[start..start + part.len()].copy_from_slice(part)`. -/
def put (bytes : Bytes) (start : Nat) (part : Bytes) : Run ε Bytes :=
  Run.assume (start + part.length ≤ bytes.length) (bytes.overwrite start part)

theorem put_eq_ok {result : Bytes} :
    (put bytes start part : Run ε Bytes) = .ok result ↔
      start + part.length ≤ bytes.length ∧ bytes.overwrite start part = result :=
  Run.assume_eq_ok

theorem length_overwrite
    (h : start + part.length ≤ bytes.length) : (bytes.overwrite start part).length = bytes.length := by
  simp only [overwrite, length_append, length_take, length_drop]
  omega

theorem getElem?_overwrite {i : Nat} (h : start + part.length ≤ bytes.length) :
    (bytes.overwrite start part)[i]? =
      if start ≤ i ∧ i < start + part.length then part[i - start]? else bytes[i]? := by
  have htake : (bytes.take start).length = start := by
    rw [length_take]
    omega
  unfold overwrite
  by_cases hlow : i < start
  · rw [append_assoc, getElem?_append_left (by omega), getElem?_take_of_lt hlow, if_neg (by omega)]
  · by_cases hmid : i < start + part.length
    · rw [getElem?_append_left (by simp only [length_append]; omega),
        getElem?_append_right (by omega), htake, if_pos (by omega)]
    · rw [getElem?_append_right (by simp only [length_append]; omega),
        length_append, htake, getElem?_drop, if_neg (by omega)]
      congr 1
      omega

/-- A byte written before the part that follows it. -/
theorem overwrite_set (inside : start < bytes.length) (byte : UInt8) (part : Bytes) :
    overwrite (bytes.set start byte) (start + 1) part = bytes.overwrite start (byte :: part) := by
  have first : (bytes.set start byte).take (start + 1) = bytes.take start ++ [byte] := by
    rw [take_add_one, take_set_of_le (Nat.le_refl start), getElem?_set_self inside]
    rfl
  simp only [overwrite, first, length_cons, drop_set, append_assoc, singleton_append]
  rw [if_pos (by omega), Nat.add_right_comm, Nat.add_assoc]

/-- A slice outside the written range is unchanged. -/
theorem extract_overwrite_of_disjoint {a b : Nat}
    (fits : start + part.length ≤ bytes.length) (outside : b ≤ start ∨ start + part.length ≤ a) :
    (bytes.overwrite start part).extract a b = bytes.extract a b := by
  apply ext_getElem?
  intro i
  rw [getElem?_extract, getElem?_extract, getElem?_overwrite fits]
  by_cases hi : i < b - a
  · rw [if_pos hi, if_pos hi, if_neg (by omega)]
  · rw [if_neg hi, if_neg hi]

/-- The written range reads back. -/
theorem extract_overwrite_same (bytes part : Bytes) (start : Nat)
    (fits : start + part.length ≤ bytes.length) :
    (bytes.overwrite start part).extract start (start + part.length) = part := by
  rw [extract_eq_iff]
  intro i hi
  rw [getElem?_overwrite fits, if_pos (by omega), Nat.add_sub_cancel_left]

/-- Writing the next field after a written head. -/
theorem put_append {head tail : Bytes} (hstart : start = head.length)
    (hfit : part.length ≤ tail.length) :
    (put (head ++ tail) start part : Run ε Bytes) =
      .ok ((head ++ part) ++ tail.drop part.length) := by
  subst hstart
  rw [put_eq_ok]
  refine ⟨by simp only [length_append]; omega, ?_⟩
  simp [overwrite, drop_append]

/-! ### Consecutive fields -/

/-- Writes of consecutive fields from `start` on. -/
def putFields (bytes : Bytes) (start : Nat) : List Bytes → Run ε Bytes
  | [] => pure bytes
  | field :: fields => do
    let bytes ← put bytes start field
    putFields bytes (start + field.length) fields

/-- The fields stand one after the other from `start` on. -/
def FieldsAt (bytes : Bytes) : Nat → List Bytes → Prop
  | _, [] => True
  | start, field :: fields =>
    bytes.extract start (start + field.length) = field ∧
      FieldsAt bytes (start + field.length) fields

theorem putFields_append (head tail : Bytes) (fits : fields.flatten.length ≤ tail.length) :
    (putFields (head ++ tail) head.length fields : Run ε Bytes) =
      .ok ((head ++ fields.flatten) ++ tail.drop fields.flatten.length) := by
  induction fields generalizing head tail with
  | nil => simp [putFields, pure, Except.pure]
  | cons field fields ih =>
    rw [flatten_cons, length_append] at fits
    have hlen : head.length + field.length = (head ++ field).length := by simp
    rw [putFields, put_append rfl (by omega)]
    change putFields (head ++ field ++ List.drop field.length tail) _ fields = _
    rw [hlen, ih _ _ (by rw [length_drop]; omega)]
    simp [append_assoc]

/-- Fields that fill a buffer replace it. -/
theorem putFields_full (full : fields.flatten.length = bytes.length) :
    (putFields bytes 0 fields : Run ε Bytes) = .ok fields.flatten := by
  simpa [full] using putFields_append [] bytes (le_of_eq full)

/-- A part written ahead of the fields before it and after it. -/
theorem putFields_gap (gap : Bytes) {before after : List Bytes}
    (hstart : before.flatten.length = start)
    (fits : start + gap.length + after.flatten.length ≤ bytes.length) :
    (do
      let bytes ← put bytes start gap
      let bytes ← putFields bytes 0 before
      putFields bytes (start + gap.length) after : Run ε Bytes) =
      .ok (before.flatten ++ gap ++ after.flatten ++
        bytes.drop (start + gap.length + after.flatten.length)) := by
  have htake : (bytes.take start).length = start := by
    rw [length_take]
    omega
  have hgap : (put bytes start gap : Run ε Bytes) =
      .ok (bytes.take start ++ (gap ++ bytes.drop (start + gap.length))) := by
    rw [put_eq_ok]
    exact ⟨by omega, append_assoc _ _ _⟩
  have hbefore : (putFields (bytes.take start ++ (gap ++ bytes.drop (start + gap.length))) 0
      before : Run ε Bytes) = .ok (before.flatten ++ gap ++ bytes.drop (start + gap.length)) := by
    have h := putFields_append (ε := ε) []
      (bytes.take start ++ (gap ++ bytes.drop (start + gap.length)))
      (show before.flatten.length ≤ _ by rw [length_append]; omega)
    simpa [hstart, drop_left' htake] using h
  have hafter := putFields_append (ε := ε) (before.flatten ++ gap) (bytes.drop (start + gap.length))
    (show after.flatten.length ≤ _ by rw [length_drop]; omega)
  rw [length_append, hstart, drop_drop] at hafter
  rw [hgap]
  change (putFields _ 0 before >>= _) = _
  rw [hbefore]
  exact hafter

/-- A slice is a concatenation exactly when its parts stand in their places. -/
theorem fieldsAt_iff (fits : start + fields.flatten.length ≤ bytes.length) :
    FieldsAt bytes start fields ↔
      bytes.extract start (start + fields.flatten.length) = fields.flatten := by
  induction fields generalizing start with
  | nil => simp [FieldsAt]
  | cons field fields ih =>
    rw [flatten_cons, length_append, ← Nat.add_assoc] at fits ⊢
    have hfield : (bytes.extract start (start + field.length)).length = field.length := by
      rw [length_extract_of_le (by omega)]
      omega
    have hjoin : bytes.extract start (start + field.length) ++ bytes.extract (start + field.length)
        (start + field.length + fields.flatten.length) =
          bytes.extract start (start + field.length + fields.flatten.length) :=
      extract_append_extract (by omega) (by omega)
    rw [FieldsAt, ih fits, ← hjoin]
    constructor
    · rintro ⟨hhead, htail⟩
      rw [hhead, htail]
    · intro h
      exact append_inj h hfield

/-- A buffer begins with fields exactly when they stand at its start, and goes on with the rest. -/
theorem eq_flatten_append_iff {rest : Bytes} (hwidth : fields.flatten.length = width) :
    bytes = fields.flatten ++ rest ↔
      width ≤ bytes.length ∧ FieldsAt bytes 0 fields ∧ bytes.drop width = rest := by
  have stand (fits : width ≤ bytes.length) :
      FieldsAt bytes 0 fields ↔ bytes.take width = fields.flatten := by
    rw [fieldsAt_iff (by omega), hwidth, extract_eq_take_drop, drop_zero, Nat.zero_add,
      Nat.sub_zero]
  constructor
  · rintro rfl
    have fits : width ≤ (fields.flatten ++ rest).length := by
      rw [length_append]
      omega
    exact ⟨fits, (stand fits).mpr (take_left' hwidth), drop_left' hwidth⟩
  · rintro ⟨fits, head, rfl⟩
    rw [← (stand fits).mp head, take_append_drop]

theorem fieldsAt_append_iff :
    FieldsAt bytes start (fields ++ fields') ↔
      FieldsAt bytes start fields ∧ FieldsAt bytes (start + fields.flatten.length) fields' := by
  induction fields generalizing start with
  | nil => simp [FieldsAt]
  | cons field fields ih =>
    rw [cons_append, FieldsAt, FieldsAt, ih, flatten_cons, length_append, Nat.add_assoc, and_assoc]

/-- A buffer is the concatenation of fields exactly when they stand in it from its start. -/
theorem eq_flatten_iff (hlen : bytes.length = fields.flatten.length) :
    bytes = fields.flatten ↔ FieldsAt bytes 0 fields := by
  rw [fieldsAt_iff (by omega), ← hlen, Nat.zero_add, extract_eq_take_drop, drop_zero,
    Nat.sub_zero, take_length]

/-- Overwrites of consecutive fields from `start` on. -/
def overwriteFields (bytes : Bytes) (start : Nat) : List Bytes → Bytes
  | [] => bytes
  | field :: fields => (bytes.overwrite start field).overwriteFields (start + field.length) fields

theorem overwrite_append (head tail part : Bytes) :
    (head ++ tail).overwrite head.length part = head ++ part ++ tail.drop part.length := by
  simp [overwrite, drop_append]

theorem overwriteFields_append (head tail : Bytes) (fields : List Bytes) :
    (head ++ tail).overwriteFields head.length fields =
      head ++ fields.flatten ++ tail.drop fields.flatten.length := by
  induction fields generalizing head tail with
  | nil => simp [overwriteFields]
  | cons field fields ih =>
    have hlen : head.length + field.length = (head ++ field).length := length_append.symm
    rw [overwriteFields, overwrite_append, hlen, ih]
    simp [append_assoc]

/-- Concatenated fields stand one after the other. -/
theorem fieldsAt_append (head tail : Bytes) (fields : List Bytes) :
    FieldsAt (head ++ fields.flatten ++ tail) head.length fields := by
  rw [fieldsAt_iff (by simp only [length_append]; omega), extract_eq_take_drop,
    append_assoc, drop_left, Nat.add_sub_cancel_left, take_left]

/-- Fields of the same widths and what follows them can be read off a concatenation. -/
theorem flatten_append_inj {rest rest' : Bytes}
    (widths : fields.map List.length = fields'.map List.length)
    (h : fields.flatten ++ rest = fields'.flatten ++ rest') : fields = fields' ∧ rest = rest' := by
  induction fields generalizing fields' with
  | nil =>
    cases fields' with
    | nil => exact ⟨rfl, h⟩
    | cons field' fields' => simp at widths
  | cons field fields ih =>
    cases fields' with
    | nil => simp at widths
    | cons field' fields' =>
      obtain ⟨first, others⟩ := List.cons.inj widths
      rw [flatten_cons, flatten_cons, append_assoc, append_assoc] at h
      obtain ⟨hfield, hrest⟩ := append_inj h first
      obtain ⟨hfields, hrest⟩ := ih others hrest
      exact ⟨by rw [hfield, hfields], hrest⟩

/-! ### Little-endian integers -/

/-- The low `8 * width` bits of `n`, least significant byte first. -/
def ofLe : Nat → Nat → Bytes
  | 0, _ => []
  | width + 1, n => UInt8.ofNat n :: ofLe width (n / 256)

/-- The natural with these little-endian bytes. -/
def toLe : Bytes → Nat
  | [] => 0
  | b :: bytes => b.toNat + 256 * toLe bytes

@[simp] theorem length_ofLe (width n : Nat) : (ofLe width n).length = width := by
  induction width generalizing n with
  | zero => rfl
  | succ width ih => simp [ofLe, ih]

theorem toLe_ofLe (width n : Nat) : toLe (ofLe width n) = n % 256 ^ width := by
  induction width generalizing n with
  | zero => simp [ofLe, toLe, Nat.mod_one]
  | succ width ih =>
    have hmod : 256 ^ (width + 1) = 256 * 256 ^ width := pow_succ' 256 width
    rw [ofLe, toLe, ih, UInt8.toNat_ofNat', hmod, Nat.mod_mul]

theorem toLe_lt (bytes : Bytes) : toLe bytes < 256 ^ bytes.length := by
  induction bytes with
  | nil => simp [toLe]
  | cons b bytes ih =>
    have hb : b.toNat < 256 := b.toNat_lt
    rw [toLe, length_cons, pow_succ]
    omega

theorem ofLe_toLe (bytes : Bytes) : ofLe bytes.length (toLe bytes) = bytes := by
  induction bytes with
  | nil => rfl
  | cons b bytes ih =>
    have hb : b.toNat < 256 := b.toNat_lt
    have hhead : UInt8.ofNat (b.toNat + 256 * toLe bytes) = b := by
      apply UInt8.toNat_inj.mp
      rw [UInt8.toNat_ofNat']
      omega
    have htail : (b.toNat + 256 * toLe bytes) / 256 = toLe bytes := by omega
    rw [length_cons, toLe, ofLe, hhead, htail, ih]

/-- Reading gives `n` exactly when the bytes are the encoding of `n`. -/
theorem toLe_eq_iff {n : Nat} (hlen : bytes.length = width)
    (hn : n < 256 ^ width) : toLe bytes = n ↔ bytes = ofLe width n := by
  constructor
  · rintro rfl
    rw [← hlen, ofLe_toLe]
  · rintro rfl
    rw [toLe_ofLe, Nat.mod_eq_of_lt hn]

theorem ofLe_inj {a b : Nat} (ha : a < 256 ^ width) (hb : b < 256 ^ width) :
    ofLe width a = ofLe width b ↔ a = b := by
  constructor
  · intro h
    rw [← Nat.mod_eq_of_lt ha, ← Nat.mod_eq_of_lt hb, ← toLe_ofLe, ← toLe_ofLe, h]
  · exact congrArg _

theorem ofLe_u16_inj {a b : UInt16} : ofLe 2 a.toNat = ofLe 2 b.toNat ↔ a = b :=
  (ofLe_inj a.toNat_lt b.toNat_lt).trans UInt16.toNat_inj

theorem ofLe_u32_inj {a b : UInt32} : ofLe 4 a.toNat = ofLe 4 b.toNat ↔ a = b :=
  (ofLe_inj a.toNat_lt b.toNat_lt).trans UInt32.toNat_inj

theorem ofLe_u64_inj {a b : UInt64} : ofLe 8 a.toNat = ofLe 8 b.toNat ↔ a = b :=
  (ofLe_inj a.toNat_lt b.toNat_lt).trans UInt64.toNat_inj

theorem ofLe_zero (width : Nat) : ofLe width 0 = List.replicate width 0 := by
  induction width with
  | zero => rfl
  | succ width ih => simp [ofLe, ih, replicate_succ]

/-- The little-endian words at the front of a buffer. -/
def words (width : Nat) : Nat → Bytes → List Nat
  | 0, _ => []
  | count + 1, bytes => toLe (bytes.take width) :: words width count (bytes.drop width)

theorem length_words (width count : Nat) (bytes : Bytes) :
    (words width count bytes).length = count := by
  induction count generalizing bytes with
  | zero => rfl
  | succ count ih => rw [words, length_cons, ih]

theorem flatMap_words {count : Nat} (length : bytes.length = count * width) :
    (words width count bytes).flatMap (ofLe width) = bytes := by
  induction count generalizing bytes with
  | zero => exact (length_eq_zero_iff.mp (length.trans (Nat.zero_mul width))).symm
  | succ count ih =>
    rw [Nat.succ_mul] at length
    have first : (bytes.take width).length = width := by
      rw [length_take]
      omega
    rw [words, flatMap_cons, ih (by rw [length_drop]; omega)]
    conv_rhs => rw [← take_append_drop width bytes, ← ofLe_toLe (bytes.take width), first]

theorem words_flatMap {values : List Nat} (fit : ∀ value ∈ values, value < 256 ^ width) :
    words width values.length (values.flatMap (ofLe width)) = values := by
  induction values with
  | nil => rfl
  | cons value rest ih =>
    rw [flatMap_cons, length_cons, words, take_left' (length_ofLe width value),
      drop_left' (length_ofLe width value), toLe_ofLe,
      Nat.mod_eq_of_lt (fit value mem_cons_self),
      ih fun other member => fit other (mem_cons_of_mem _ member)]

theorem length_flatMap_ofLe (width : Nat) (values : List Nat) :
    (values.flatMap (ofLe width)).length = values.length * width := by
  simp [length_flatMap]

/-- `put_u16`. -/
def putU16 (bytes : Bytes) (offset : Nat) (value : UInt16) : Run ε Bytes :=
  put bytes offset (ofLe 2 value.toNat)

/-- `put_u32`. -/
def putU32 (bytes : Bytes) (offset : Nat) (value : UInt32) : Run ε Bytes :=
  put bytes offset (ofLe 4 value.toNat)

/-- `put_u64`. -/
def putU64 (bytes : Bytes) (offset : Nat) (value : UInt64) : Run ε Bytes :=
  put bytes offset (ofLe 8 value.toNat)

/-- The integer in `width` bytes at `offset`, converted to a word type. -/
def getWord {τ : Type} (width : Nat) (ofNat : Nat → τ) (bytes : Bytes) (offset : Nat) :
    Run ε τ := do
  let part ← slice bytes offset (offset + width)
  pure (ofNat (toLe part))

/-- `get_u16`. -/
def getU16 (bytes : Bytes) (offset : Nat) : Run ε UInt16 := getWord 2 UInt16.ofNat bytes offset

/-- `get_u32`. -/
def getU32 (bytes : Bytes) (offset : Nat) : Run ε UInt32 := getWord 4 UInt32.ofNat bytes offset

/-- `get_u64`. -/
def getU64 (bytes : Bytes) (offset : Nat) : Run ε UInt64 := getWord 8 UInt64.ofNat bytes offset

/-- Bytes stand only inside the range they are cut from. -/
theorem le_of_extract_eq [NeZero width] (length : part.length = width)
    (stands : bytes.extract start (start + width) = part) : start + width ≤ bytes.length := by
  have cut := congrArg List.length stands
  have pos := NeZero.pos width
  simp only [extract_eq_take_drop, length_take, length_drop, length] at cut
  omega

/-- An array is read exactly where it stands. -/
theorem slice_toFixed_eq_ok {n : Nat} [NeZero n] {fixed : FixedBytes n} :
    (slice bytes offset (offset + n) >>= toFixed n : Run ε (FixedBytes n)) = .ok fixed ↔
      bytes.extract offset (offset + n) = fixed.list := by
  simp only [Run.bind_eq_ok, slice_eq_ok, toFixed_eq_ok]
  constructor
  · rintro ⟨_, ⟨-, rfl⟩, stands⟩
    exact stands
  · intro stands
    exact ⟨_, ⟨⟨by omega, le_of_extract_eq fixed.length_eq stands⟩, rfl⟩, stands⟩

/-- A word is read exactly where its encoding stands. -/
theorem getWord_eq_ok [NeZero width] {τ : Type} {ofNat : Nat → τ} {toNat : τ → Nat}
    (toNat_lt : ∀ v, toNat v < 256 ^ width) (ofNat_toNat : ∀ v, ofNat (toNat v) = v)
    (toNat_ofNat : ∀ n < 256 ^ width, toNat (ofNat n) = n) {v : τ} :
    (getWord width ofNat bytes offset : Run ε τ) = .ok v ↔
      bytes.extract offset (offset + width) = ofLe width (toNat v) := by
  simp only [getWord, Run.bind_eq_ok, slice_eq_ok, Run.pure_eq_ok]
  constructor
  · rintro ⟨_, ⟨⟨_, hfit⟩, rfl⟩, rfl⟩
    have hlen : (bytes.extract offset (offset + width)).length = width := by
      rw [length_extract_of_le hfit, Nat.add_sub_cancel_left]
    have hlt := toLe_lt (bytes.extract offset (offset + width))
    rw [hlen] at hlt
    rw [toNat_ofNat _ hlt]
    exact (toLe_eq_iff hlen hlt).mp rfl
  · intro heq
    refine ⟨_, ⟨⟨by omega, le_of_extract_eq (length_ofLe _ _) heq⟩, rfl⟩, ?_⟩
    rw [heq, toLe_ofLe, Nat.mod_eq_of_lt (toNat_lt v), ofNat_toNat]

theorem getU16_eq_ok {v : UInt16} :
    (getU16 bytes offset : Run ε UInt16) = .ok v ↔
      bytes.extract offset (offset + 2) = ofLe 2 v.toNat :=
  getWord_eq_ok UInt16.toNat_lt (fun _ => UInt16.ofNat_toNat)
    (fun _ h => UInt16.toNat_ofNat_of_lt' h)

theorem getU32_eq_ok {v : UInt32} :
    (getU32 bytes offset : Run ε UInt32) = .ok v ↔
      bytes.extract offset (offset + 4) = ofLe 4 v.toNat :=
  getWord_eq_ok UInt32.toNat_lt (fun _ => UInt32.ofNat_toNat)
    (fun _ h => UInt32.toNat_ofNat_of_lt' h)

theorem getU64_eq_ok {v : UInt64} :
    (getU64 bytes offset : Run ε UInt64) = .ok v ↔
      bytes.extract offset (offset + 8) = ofLe 8 v.toNat :=
  getWord_eq_ok UInt64.toNat_lt (fun _ => UInt64.ofNat_toNat)
    (fun _ h => UInt64.toNat_ofNat_of_lt' h)

/-- `bytes[offset]`. -/
def getU8 (bytes : Bytes) (offset : Nat) : Run ε UInt8 :=
  match bytes[offset]? with
  | some byte => .ok byte
  | none => Run.fault

theorem getU8_eq_ok {v : UInt8} :
    (getU8 bytes offset : Run ε UInt8) = .ok v ↔ bytes.extract offset (offset + 1) = [v] := by
  rw [extract_eq_take_drop, Nat.add_sub_cancel_left, getU8]
  cases h : bytes[offset]? with
  | none =>
    have hlen := List.getElem?_eq_none_iff.mp h
    simp [Run.fault, drop_eq_nil_of_le hlen]
  | some byte =>
    obtain ⟨hlt, hbyte⟩ := List.getElem?_eq_some_iff.mp h
    rw [drop_eq_getElem_cons hlt, hbyte, take_succ_cons, take_zero]
    simp

/-! ### Accesses that do not fault -/

theorem noFault_slice (hle : start ≤ stop)
    (hstop : stop ≤ bytes.length) : Run.NoFault (slice bytes start stop : Run ε Bytes) :=
  Run.noFault_assume ⟨hle, hstop⟩

theorem noFault_getWord {τ : Type} {ofNat : Nat → τ} (fits : offset + width ≤ bytes.length) :
    Run.NoFault (getWord width ofNat bytes offset : Run ε τ) :=
  Run.noFault_bind (noFault_slice (by omega) fits) fun _ _ => Run.noFault_pure _

end Bytes

end NativeIpc.Lib
