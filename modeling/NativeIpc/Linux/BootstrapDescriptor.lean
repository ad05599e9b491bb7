import Mathlib.Data.List.TakeWhile
import Mathlib.Data.Nat.Digits.Lemmas
import NativeIpc.Session.Bootstrap
import NativeIpc.Supervisor.Wire

/-!
# The bootstrap descriptor in the environment

The coordinator hands the number of the inherited socket to the receiver as an entry of its
environment. The receiver reads the entry before any constructor runs, with a digit loop of its
own.
-/

namespace NativeIpc.Linux

open NativeIpc.Lib Run NativeIpc.Session List
open NativeIpc.Supervisor (isAsciiDigit)

/-- spawn.rs:59. -/
def bootstrapEnv : Bytes :=
  [0x4e, 0x41, 0x54, 0x49, 0x56, 0x45, 0x5f, 0x49, 0x50, 0x43, 0x5f, 0x56, 0x4e, 0x45, 0x58,
   0x54, 0x5f, 0x42, 0x4f, 0x4f, 0x54, 0x53, 0x54, 0x52, 0x41, 0x50, 0x5f, 0x46, 0x44]

/-- session.rs:23. -/
def receiverBootstrapEnvPrefix : Bytes := bootstrapEnv ++ [0x3d]

/-- The decimal digits of a number as bytes; zero has none. -/
def digitBytes (n : Nat) : Bytes := (Nat.digits 10 n).reverse.map fun digit => .ofNat (48 + digit)

/-- `Display` of a descriptor. -/
def decimal (fd : Nat) : Bytes := if fd = 0 then [0x30] else digitBytes fd

/-- `CString::new`: the bytes before the terminator. -/
def newCString (bytes : Bytes) : Option Bytes := if 0 ∈ bytes then none else some bytes

/-- A turn of the loop over the environment, spawn.rs:3104-3119. -/
def encodeEntry (encoded : List Bytes) (entry : Bytes × Bytes) :
    Run LinuxSpawnError (List Bytes) := do
  let (key, value) := entry
  rejectIf (key = [] ∨ 0 ∈ key ∨ 0x3d ∈ key ∨ key = bootstrapEnv ∨ 0 ∈ value) .invalidInput
  let entry ← okOr (newCString (key ++ [0x3d] ++ value)) .invalidInput
  pure (encoded ++ [entry])

/-- spawn.rs:3099-3129. -/
def encodeEnvironment (environment : List (Bytes × Bytes)) (inheritedFd : Nat) :
    Run LinuxSpawnError (List Bytes) := do
  let encoded ← environment.foldlM encodeEntry []
  match newCString (bootstrapEnv ++ [0x3d] ++ decimal inheritedFd) with
  | none => fault
  | some entry => pure (encoded ++ [entry])

/-- The value of the first entry with the prefix, session.rs:105-136. -/
def bootstrapValue (environment : List Bytes) : Option Bytes :=
  (environment.find? fun entry => receiverBootstrapEnvPrefix.isPrefixOf entry).map
    fun entry => entry.drop receiverBootstrapEnvPrefix.length

/-- The digit loop, session.rs:137-161, from a byte on; behind the last byte stands a zero. -/
def readDigits (length raw : Nat) : Bytes → Option (Nat × Nat)
  | [] => if length = 10 then none else some (length, raw)
  | byte :: rest =>
    if length = 10 then none
    else if byte = 0 then some (length, raw)
    else if ¬ isAsciiDigit byte ∨ length = 0 ∧ byte = 0x30 then none
    else
      match (checkedMul 31 raw 10).bind fun current =>
          checkedAdd 31 current (byte - 0x30).toNat with
      | none => none
      | some next => readDigits (length + 1) next rest

/-- The descriptor of a value, unless it is `BOOTSTRAP_INVALID`, session.rs:137-165. -/
def parseDescriptor (value : Bytes) : Option Nat :=
  match readDigits 0 0 value with
  | none => none
  | some (length, raw) => if length = 0 ∨ raw < 3 then none else some raw

/-! ### Digits -/

section Digits

variable {n m digit : Nat} {byte : UInt8}

theorem toNat_digit (small : digit < 10) : (UInt8.ofNat (48 + digit)).toNat = 48 + digit :=
  UInt8.toNat_ofNat_of_lt' (by change _ < 2 ^ 8; omega)

theorem digitBytes_concat (small : digit < 10) (some : digit ≠ 0 ∨ n ≠ 0) :
    digitBytes n ++ [.ofNat (48 + digit)] = digitBytes (digit + 10 * n) := by
  rw [digitBytes, digitBytes, Nat.digits_add 10 (by decide) digit n small some, reverse_cons,
    map_append, map_singleton]

theorem length_digitBytes_le_iff (k : Nat) : (digitBytes n).length ≤ k ↔ n < 10 ^ k := by
  rw [digitBytes, length_map, length_reverse, Nat.digits_length_le_iff (by decide)]

theorem isAsciiDigit_iff : isAsciiDigit byte = true ↔ 48 ≤ byte.toNat ∧ byte.toNat ≤ 57 := by
  simp [isAsciiDigit, UInt8.le_iff_toNat_le]

theorem isAsciiDigit_of_mem (member : byte ∈ digitBytes n) : isAsciiDigit byte = true := by
  obtain ⟨digit, drawn, rfl⟩ := mem_map.mp member
  have small := Nat.digits_lt_base (by decide) (mem_reverse.mp drawn)
  rw [isAsciiDigit_iff, toNat_digit small]
  omega

theorem digits_eq (n : Nat) :
    Nat.digits 10 n = (digitBytes n).reverse.map fun byte => byte.toNat - 48 := by
  rw [digitBytes, ← map_reverse, reverse_reverse, map_map]
  conv_lhs => rw [← map_id (Nat.digits 10 n)]
  refine map_congr_left fun digit drawn => ?_
  rw [Function.comp_apply, toNat_digit (Nat.digits_lt_base (by decide) drawn),
    Nat.add_sub_cancel_left, id]

theorem digitBytes_inj : digitBytes n = digitBytes m ↔ n = m := by
  refine ⟨fun same => (Nat.digits_inj_iff (b := 10)).mp ?_, congrArg digitBytes⟩
  rw [digits_eq n, same, ← digits_eq]

/-- There is no leading zero. -/
theorem zero_cons_ne_digitBytes (rest : Bytes) : 0x30 :: rest ≠ digitBytes n := by
  intro same
  have ended := digits_eq n
  rw [← same, reverse_cons, map_append, map_singleton] at ended
  have nonzero : n ≠ 0 := by
    rintro rfl
    simp at ended
  apply Nat.getLast_digit_ne_zero 10 nonzero
  simp [ended]

theorem zero_not_mem_decimal (fd : Nat) : 0 ∉ decimal fd := by
  unfold decimal
  split
  · decide
  · exact fun member => absurd (isAsciiDigit_of_mem member) (by decide)

end Digits

/-! ### The parser -/

open Option

section Parser

variable {length raw next : Nat} {value : Bytes} {byte : UInt8}

/-- The digit a byte stands for. -/
theorem digit_eq (digit : isAsciiDigit byte = true) :
    (byte - 0x30).toNat < 10 ∧ byte = .ofNat (48 + (byte - 0x30).toNat) := by
  obtain ⟨low, high⟩ := isAsciiDigit_iff.mp digit
  have difference : (byte - 0x30).toNat = byte.toNat - 48 :=
    UInt8.toNat_sub_of_le _ _ (UInt8.le_iff_toNat_le.mpr low)
  rw [difference, Nat.add_sub_cancel' low, UInt8.ofNat_toNat]
  exact ⟨by omega, rfl⟩

theorem checked_eq (digit : Nat) :
    ((checkedMul 31 raw 10).bind fun current => checkedAdd 31 current digit) =
      if digit + 10 * raw < 2 ^ 31 then some (digit + 10 * raw) else none := by
  unfold checkedMul checkedAdd
  rw [Nat.mul_comm raw 10, Nat.add_comm digit]
  by_cases small : 10 * raw < 2 ^ 31
  · rw [if_pos small, bind_some]
  · rw [if_neg small, if_neg (by omega), bind_none]

/-- What is left to do at the zero. -/
theorem stopped_iff (few : (digitBytes raw).length ≤ 10) :
    (if (digitBytes raw).length = 10 then none else some ((digitBytes raw).length, raw)) =
        some (length, next) ↔
      digitBytes raw ++ [] = digitBytes next ∧ (digitBytes next).length = length ∧
        length < 10 := by
  rw [append_nil, digitBytes_inj, ite_none_left_eq_some, some.injEq, Prod.mk.injEq]
  constructor
  · rintro ⟨short, rfl, rfl⟩
    exact ⟨rfl, rfl, by omega⟩
  · rintro ⟨rfl, rfl, less⟩
    exact ⟨by omega, rfl, rfl⟩

/-- Behind the digits of a number the loop reads on to the zero, and gives up if ten digits stand
    before it. -/
theorem readDigits_eq_some (few : (digitBytes raw).length ≤ 10) :
    readDigits (digitBytes raw).length raw value = some (length, next) ↔
      digitBytes raw ++ value.takeWhile (· ≠ 0) = digitBytes next ∧
        (digitBytes next).length = length ∧ length < 10 := by
  induction value generalizing raw with
  | nil => exact stopped_iff few
  | cons byte rest ih =>
    rw [readDigits]
    by_cases zero : byte = 0
    · rw [if_pos zero, takeWhile_cons_of_neg (by simpa using zero)]
      exact stopped_iff few
    rw [if_neg zero, takeWhile_cons_of_pos (by simpa using zero)]
    by_cases full : (digitBytes raw).length = 10
    · rw [if_pos full]
      refine ⟨nofun, fun ⟨same, count, less⟩ => ?_⟩
      rw [← same, length_append] at count
      omega
    rw [if_neg full]
    by_cases refused : ¬ isAsciiDigit byte ∨ (digitBytes raw).length = 0 ∧ byte = 0x30
    · rw [if_pos refused]
      refine ⟨nofun, fun ⟨written, _, _⟩ => ?_⟩
      rcases refused with other | ⟨first, rfl⟩
      · exact absurd (isAsciiDigit_of_mem (written ▸ mem_append_right _ mem_cons_self)) other
      · rw [length_eq_zero_iff.mp first] at written
        exact absurd written (zero_cons_ne_digitBytes _)
    · rw [if_neg refused, checked_eq]
      rw [not_or, not_not, not_and'] at refused
      obtain ⟨small, same⟩ := digit_eq refused.1
      have some : (byte - 0x30).toNat ≠ 0 ∨ raw ≠ 0 := by
        by_contra zeros
        rw [not_or, not_not, not_not] at zeros
        rw [zeros.1] at same
        exact refused.2 same (by rw [zeros.2]; rfl)
      have longer := digitBytes_concat small some
      rw [← same] at longer
      have count : (digitBytes raw).length + 1 =
          (digitBytes ((byte - 0x30).toNat + 10 * raw)).length := by
        rw [← longer, length_append, length_singleton]
      by_cases fits : (byte - 0x30).toNat + 10 * raw < 2 ^ 31
      · rw [if_pos fits]
        dsimp only
        rw [count, ih (by omega), ← longer, append_assoc, singleton_append]
      · -- the number has ten digits
        rw [if_neg fits]
        refine ⟨nofun, fun ⟨written, counted, less⟩ => ?_⟩
        have many := (length_digitBytes_le_iff 9).not.mpr
          (show ¬ (byte - 0x30).toNat + 10 * raw < 10 ^ 9 by omega)
        rw [← written, append_cons, longer, length_append] at counted
        omega

/-- The parser accepts the decimal texts of the numbers from three on with fewer than ten
    digits. -/
theorem parseDescriptor_eq_some :
    parseDescriptor value = some raw ↔
      value.takeWhile (· ≠ 0) = decimal raw ∧ 3 ≤ raw ∧ raw < 10 ^ 9 := by
  have read (length next : Nat) : readDigits 0 0 value = some (length, next) ↔
      value.takeWhile (· ≠ 0) = digitBytes next ∧ (digitBytes next).length = length ∧
        length < 10 := @readDigits_eq_some length 0 next value (Nat.zero_le 10)
  have nine (n : Nat) := @length_digitBytes_le_iff n 9
  unfold parseDescriptor decimal
  constructor
  · intro parsed
    split at parsed
    · cases parsed
    · rename_i length next found
      obtain ⟨written, rfl, less⟩ := (read length next).mp found
      rw [ite_none_left_eq_some, some.injEq] at parsed
      obtain ⟨large, rfl⟩ := parsed
      exact ⟨by rwa [if_neg (by omega)], by omega, (nine next).mp (by omega)⟩
  · rintro ⟨written, three, below⟩
    rw [if_neg (by omega)] at written
    have some : ¬ (digitBytes raw).length ≤ 0 := by
      rw [length_digitBytes_le_iff]
      omega
    have short := (nine raw).mpr below
    rw [(read _ raw).mpr ⟨written, rfl, by omega⟩]
    exact if_neg (by omega)

end Parser

/-! ### From the coordinator to the receiver -/

section Environment

variable {environment : List (Bytes × Bytes)} {encoded : List Bytes} {fd : Nat}

/-- Another entry does not start with the prefix. -/
theorem isPrefixOf_other {key value : Bytes} (free : 0x3d ∉ key) (other : key ≠ bootstrapEnv) :
    receiverBootstrapEnvPrefix.isPrefixOf (key ++ [0x3d] ++ value) = false := by
  rw [Bool.eq_false_iff, ne_eq, isPrefixOf_iff_prefix]
  rintro ⟨rest, same⟩
  have cut (name tail : Bytes) (free : 0x3d ∉ name) :
      (name ++ [0x3d] ++ tail).takeWhile (· ≠ 0x3d) = name := by
    rw [append_assoc, takeWhile_append_of_pos fun byte member => by
      simpa using fun equals : byte = 0x3d => free (equals ▸ member)]
    simp
  have names := congrArg (List.takeWhile (· ≠ 0x3d)) same
  rw [receiverBootstrapEnvPrefix, cut _ _ (by decide), cut _ _ free] at names
  exact other names.symm

/-- The receiver finds the entry of the coordinator. -/
theorem bootstrapValue_encodeEnvironment
    (written : encodeEnvironment environment fd = .ok encoded) :
    bootstrapValue encoded = some (decimal fd) := by
  obtain ⟨others, entered, ended⟩ := bind_eq_ok.mp written
  have passed : ∀ entry ∈ others, receiverBootstrapEnvPrefix.isPrefixOf entry = false := by
    refine foldlM_invariant
      (P := fun _ others => ∀ entry ∈ others, receiverBootstrapEnvPrefix.isPrefixOf entry = false)
      entered nofun ?_
    rintro _ ⟨key, value⟩ _ _ before turn
    simp only [encodeEntry, bind_eq_ok, rejectIf_eq_ok, okOr_eq_ok, pure_eq_ok, newCString,
      ite_none_left_eq_some, some.injEq, not_or] at turn
    obtain ⟨_, ⟨-, -, free, other, -⟩, _, ⟨-, rfl⟩, rfl⟩ := turn
    intro entry member
    rcases mem_append.mp member with member | member
    · exact before entry member
    · rw [mem_singleton.mp member]
      exact isPrefixOf_other free other
  have own : 0 ∉ bootstrapEnv ++ [0x3d] ++ decimal fd := by
    rw [mem_append, not_or]
    exact ⟨by decide, zero_not_mem_decimal fd⟩
  rw [newCString, if_neg own] at ended
  obtain rfl := pure_eq_ok.mp ended
  have missed : others.find? (fun entry => receiverBootstrapEnvPrefix.isPrefixOf entry) = none :=
    find?_eq_none.mpr fun entry member => Bool.eq_false_iff.mp (passed entry member)
  have found : receiverBootstrapEnvPrefix.isPrefixOf (bootstrapEnv ++ [0x3d] ++ decimal fd) :=
    isPrefixOf_iff_prefix.mpr (prefix_append _ _)
  rw [bootstrapValue, find?_append, missed, none_or, find?_cons_of_pos found]
  exact congrArg some drop_left

/-- The number of the bootstrap descriptor survives the environment exactly if it has fewer than
    ten digits, and what the parser accepts is the decimal text of a number from three on. -/
theorem bootstrap_descriptor_iff (environment : List (Bytes × Bytes)) (fd : Nat) :
    (∀ encoded, 3 ≤ fd → fd < 2 ^ 31 →
      encodeEnvironment environment fd = .ok encoded →
        bootstrapValue encoded = some (decimal fd) ∧
          (parseDescriptor (decimal fd) = some fd ↔ fd < 10 ^ 9)) ∧
    ∀ value raw, parseDescriptor value = some raw →
      value.takeWhile (· ≠ 0) = decimal raw ∧ 3 ≤ raw := by
  refine ⟨fun encoded low _ written =>
    ⟨bootstrapValue_encodeEnvironment written, ?_⟩, fun value raw parsed => ?_⟩
  · have whole : (decimal fd).takeWhile (· ≠ 0) = decimal fd := by
      rw [takeWhile_eq_self_iff]
      intro byte member
      simpa using fun zero : byte = 0 => zero_not_mem_decimal fd (zero ▸ member)
    rw [parseDescriptor_eq_some, and_iff_right whole, and_iff_right low]
  · obtain ⟨written, three, -⟩ := parseDescriptor_eq_some.mp parsed
    exact ⟨written, three⟩

/-- The least number with ten digits. -/
theorem bootstrap_descriptor_ten_digits :
    ∃ encoded, encodeEnvironment [] 1000000000 = .ok encoded ∧
      (bootstrapValue encoded).bind parseDescriptor = none :=
  ⟨_, rfl, by decide⟩

end Environment

end NativeIpc.Linux
