import Mathlib.Data.Nat.Bitwise
import Mathlib.Tactic.Ring
import NativeIpc.Lib.Run

/-!
# Machine words

Arithmetic on words of `w` bits, as naturals with the bound `2 ^ w` stated
where an operation depends on it. Checked operations return `none` when the
exact result does not fit; unchecked ones fault.
-/

namespace NativeIpc.Lib

/-- The width in bits of `usize` on a target. -/
structure Target where
  bits : Nat
  supported : bits = 32 ∨ bits = 64

/-- A target whose `usize` is a `u32`. -/
def Target.w32 : Target := ⟨32, .inl rfl⟩

/-- A target whose `usize` is a `u64`. -/
def Target.w64 : Target := ⟨64, .inr rfl⟩

theorem Target.u32_fits (t : Target) {n : Nat} (h : n < 2 ^ 32) : n < 2 ^ t.bits := by
  rcases t.supported with hb | hb <;> rw [hb] <;> omega

theorem Target.fits_u64 (t : Target) {n : Nat} (h : n < 2 ^ t.bits) : n < 2 ^ 64 := by
  rcases t.supported with hb | hb <;> rw [hb] at h <;> omega

/-- `a.checked_add(b)` on words of `w` bits. -/
def checkedAdd (w a b : Nat) : Option Nat := if a + b < 2 ^ w then some (a + b) else none

/-- `a.checked_mul(b)` on words of `w` bits. -/
def checkedMul (w a b : Nat) : Option Nat := if a * b < 2 ^ w then some (a * b) else none

theorem checkedAdd_eq_some {w a b c : Nat} :
    checkedAdd w a b = some c ↔ a + b < 2 ^ w ∧ a + b = c := by
  unfold checkedAdd
  split <;> simp [*]

theorem checkedMul_eq_some {w a b c : Nat} :
    checkedMul w a b = some c ↔ a * b < 2 ^ w ∧ a * b = c := by
  unfold checkedMul
  split <;> simp [*]

/-- `a.checked_add(b)` on `u64`. -/
def checkedAddU64 (a b : UInt64) : Option UInt64 :=
  if a.toNat + b.toNat < 2 ^ 64 then some (a + b) else none

theorem checkedAddU64_eq_some {a b c : UInt64} :
    checkedAddU64 a b = some c ↔ a.toNat + b.toNat = c.toNat := by
  unfold checkedAddU64
  split
  · rename_i fits
    rw [Option.some.injEq, ← UInt64.toNat_inj, UInt64.toNat_add, Nat.mod_eq_of_lt fits]
  · rename_i large
    refine ⟨nofun, fun h => absurd ?_ large⟩
    rw [h]
    exact c.toNat_lt

/-- `u32::checked_sub`. -/
def checkedSubU32 (a b : UInt32) : Option UInt32 := if b ≤ a then some (a - b) else none

theorem checkedSubU32_eq_some {a b c : UInt32} :
    checkedSubU32 a b = some c ↔ c.toNat + b.toNat = a.toNat := by
  unfold checkedSubU32
  by_cases fits : b ≤ a
  · have exact := UInt32.toNat_sub_of_le a b fits
    have low := UInt32.le_iff_toNat_le.mp fits
    rw [if_pos fits, Option.some.injEq, ← UInt32.toNat_inj, exact]
    omega
  · have high := UInt32.lt_iff_toNat_lt.mp (UInt32.not_le.mp fits)
    rw [if_neg fits]
    simp only [reduceCtorEq, false_iff]
    omega

/-- `value & !mask` on words of `w` bits. -/
def andNot (w value mask : Nat) : Nat := value &&& (2 ^ w - 1 - mask)

/-- Clearing the low `k` bits rounds down to a multiple of `2 ^ k`. -/
theorem andNot_two_pow_sub_one {w k n : Nat} (hk : k ≤ w) (hn : n < 2 ^ w) :
    andNot w n (2 ^ k - 1) = n / 2 ^ k * 2 ^ k := by
  have hle : 2 ^ k ≤ 2 ^ w := Nat.pow_le_pow_right (by omega) hk
  have hpow : 2 ^ k - 1 < 2 ^ w := by omega
  apply Nat.eq_of_testBit_eq
  intro i
  rw [andNot, Nat.testBit_and, show 2 ^ w - 1 - (2 ^ k - 1) = 2 ^ w - (2 ^ k - 1 + 1) by omega,
    Nat.testBit_two_pow_sub_succ hpow, Nat.testBit_two_pow_sub_one, Nat.testBit_mul_two_pow,
    Nat.testBit_div_two_pow]
  by_cases hik : k ≤ i
  · have hsub : i - k + k = i := Nat.sub_add_cancel hik
    by_cases hiw : i < w
    · simp [hik, hiw, hsub]
    · have hbit : n.testBit i = false :=
        Nat.testBit_lt_two_pow (lt_of_lt_of_le hn (Nat.pow_le_pow_right (by omega) (by omega)))
      simp [hik, hiw, hsub, hbit]
  · simp [hik, Nat.lt_of_not_le hik]

/-- `value.checked_add(alignment - 1).map(|sum| sum & !(alignment - 1))` on `u64`. -/
def alignUp (value alignment : Nat) : Option Nat :=
  (checkedAdd 64 value (alignment - 1)).map fun sum => andNot 64 sum (alignment - 1)

/-- Rounding up to a multiple of 64, exactly when the sum fits. -/
theorem alignUp_64_eq_some {value c : Nat} :
    alignUp value 64 = some c ↔ value + 63 < 2 ^ 64 ∧ (value + 63) / 64 * 64 = c := by
  simp only [alignUp, Option.map_eq_some_iff, checkedAdd_eq_some]
  constructor
  · rintro ⟨_, ⟨hfit, rfl⟩, rfl⟩
    exact ⟨hfit, (andNot_two_pow_sub_one (k := 6) (by omega) hfit).symm⟩
  · rintro ⟨hfit, rfl⟩
    exact ⟨_, ⟨hfit, rfl⟩, andNot_two_pow_sub_one (k := 6) (by omega) hfit⟩

/-- An unchecked `a + b` on words of `w` bits. -/
def plainAdd {ε : Type} (w a b : Nat) : Run ε Nat := Run.assume (a + b < 2 ^ w) (a + b)

/-- An unchecked `a * b` on words of `w` bits. -/
def plainMul {ε : Type} (w a b : Nat) : Run ε Nat := Run.assume (a * b < 2 ^ w) (a * b)

/-- `a as T` for a word type `T` of `w` bits, where truncation is a fault. -/
def castTo {ε : Type} (w a : Nat) : Run ε Nat := Run.assume (a < 2 ^ w) a

variable {ε : Type} {w a b c : Nat}

theorem plainAdd_eq_ok : (plainAdd w a b : Run ε Nat) = .ok c ↔ a + b < 2 ^ w ∧ a + b = c :=
  Run.assume_eq_ok

theorem plainMul_eq_ok : (plainMul w a b : Run ε Nat) = .ok c ↔ a * b < 2 ^ w ∧ a * b = c :=
  Run.assume_eq_ok

theorem castTo_eq_ok : (castTo w a : Run ε Nat) = .ok c ↔ a < 2 ^ w ∧ a = c :=
  Run.assume_eq_ok

end NativeIpc.Lib
