import Mathlib.Tactic.Common

/-!
# UTF-16

Wide strings are sequences of 16-bit units in which surrogates need not be paired. A
text is a sequence of Unicode scalar values. The lossy conversion of a wide string to a
text replaces every unpaired surrogate; it is undone by the encoding exactly when there
is none.
-/

namespace NativeIpc.Lib.Utf16

/-- The first unit of a surrogate pair. -/
def isHighSurrogate (unit : UInt16) : Bool := 0xD800 ≤ unit.toNat ∧ unit.toNat < 0xDC00

/-- The second unit of a surrogate pair. -/
def isLowSurrogate (unit : UInt16) : Bool := 0xDC00 ≤ unit.toNat ∧ unit.toNat < 0xE000

/-- `U+FFFD`. -/
def replacement : Char := Char.ofNat 0xFFFD

/-- The scalar value of a surrogate pair. -/
def ofPair (high low : UInt16) : Char :=
  Char.ofNat (0x10000 + (high.toNat - 0xD800) * 0x400 + (low.toNat - 0xDC00))

/-- A unit that is not part of a pair. -/
def ofUnit (unit : UInt16) : Char :=
  if isHighSurrogate unit || isLowSurrogate unit then replacement else Char.ofNat unit.toNat

/-- The text of a wide string, with a replacement for every unpaired surrogate. -/
def decodeLossy : List UInt16 → List Char
  | [] => []
  | [unit] => [ofUnit unit]
  | first :: second :: rest =>
    if isHighSurrogate first && isLowSurrogate second then ofPair first second :: decodeLossy rest
    else ofUnit first :: decodeLossy (second :: rest)

/-- The units of a scalar value. -/
def encodeChar (c : Char) : List UInt16 :=
  if c.toNat < 0x10000 then [UInt16.ofNat c.toNat]
  else [UInt16.ofNat (0xD800 + (c.toNat - 0x10000) / 0x400),
    UInt16.ofNat (0xDC00 + (c.toNat - 0x10000) % 0x400)]

/-- The units of a text. -/
def encode (text : List Char) : List UInt16 := text.flatMap encodeChar

@[simp] theorem encode_nil : encode [] = [] := rfl

@[simp] theorem encode_cons (c : Char) (text : List Char) :
    encode (c :: text) = encodeChar c ++ encode text := List.flatMap_cons

/-- Every surrogate is part of a pair. -/
def WellFormed : List UInt16 → Bool
  | [] => true
  | [unit] => !(isHighSurrogate unit || isLowSurrogate unit)
  | first :: second :: rest =>
    if isHighSurrogate first && isLowSurrogate second then WellFormed rest
    else !(isHighSurrogate first || isLowSurrogate first) && WellFormed (second :: rest)

theorem toNat_ofNat {n : Nat} (valid : n.isValidChar) : (Char.ofNat n).toNat = n := by
  unfold Char.ofNat
  rw [dif_pos valid]
  rfl

theorem isValidChar_toNat (c : Char) : c.toNat.isValidChar := c.valid

variable {unit : UInt16}

theorem toNat_ofUnit (single : (isHighSurrogate unit || isLowSurrogate unit) = false) :
    (ofUnit unit).toNat = unit.toNat := by
  have small := unit.toNat_lt
  have away : ¬ (0xD800 ≤ unit.toNat ∧ unit.toNat < 0xE000) := by
    simp only [isHighSurrogate, isLowSurrogate, Bool.or_eq_false_iff, decide_eq_false_iff_not]
      at single
    omega
  unfold ofUnit
  rw [if_neg (by simp [single]), toNat_ofNat]
  unfold Nat.isValidChar
  omega

theorem toNat_ofPair {high low : UInt16} (first : isHighSurrogate high = true)
    (second : isLowSurrogate low = true) :
    (ofPair high low).toNat = 0x10000 + (high.toNat - 0xD800) * 0x400 + (low.toNat - 0xDC00) := by
  simp only [isHighSurrogate, isLowSurrogate, decide_eq_true_eq] at first second
  refine toNat_ofNat ?_
  unfold Nat.isValidChar
  omega

/-- Decoding reads the units of a scalar value as that value. -/
theorem decodeLossy_encodeChar (c : Char) (rest : List UInt16) :
    decodeLossy (encodeChar c ++ rest) = c :: decodeLossy rest := by
  have valid := isValidChar_toNat c
  unfold Nat.isValidChar at valid
  unfold encodeChar
  split
  · rename_i small
    have unit : (UInt16.ofNat c.toNat).toNat = c.toNat := UInt16.toNat_ofNat_of_lt' small
    have high : isHighSurrogate (UInt16.ofNat c.toNat) = false := by
      simp only [isHighSurrogate, unit, decide_eq_false_iff_not]
      omega
    have low : isLowSurrogate (UInt16.ofNat c.toNat) = false := by
      simp only [isLowSurrogate, unit, decide_eq_false_iff_not]
      omega
    have same : ofUnit (UInt16.ofNat c.toNat) = c := by
      simp [ofUnit, high, low, unit, Char.ofNat_toNat]
    cases rest with
    | nil => simp [decodeLossy, same]
    | cons second rest => simp [decodeLossy, same, high]
  · rename_i large
    have first : (UInt16.ofNat (0xD800 + (c.toNat - 0x10000) / 0x400)).toNat =
        0xD800 + (c.toNat - 0x10000) / 0x400 :=
      UInt16.toNat_ofNat_of_lt' (by simp only [UInt16.size]; omega)
    have second : (UInt16.ofNat (0xDC00 + (c.toNat - 0x10000) % 0x400)).toNat =
        0xDC00 + (c.toNat - 0x10000) % 0x400 :=
      UInt16.toNat_ofNat_of_lt' (by simp only [UInt16.size]; omega)
    have pair : (isHighSurrogate (UInt16.ofNat (0xD800 + (c.toNat - 0x10000) / 0x400)) &&
        isLowSurrogate (UInt16.ofNat (0xDC00 + (c.toNat - 0x10000) % 0x400))) = true := by
      simp only [isHighSurrogate, isLowSurrogate, first, second, Bool.and_eq_true,
        decide_eq_true_eq]
      omega
    have same : 0x10000 + (0xD800 + (c.toNat - 0x10000) / 0x400 - 0xD800) * 0x400 +
        (0xDC00 + (c.toNat - 0x10000) % 0x400 - 0xDC00) = c.toNat := by
      omega
    rw [List.cons_append, List.cons_append, List.nil_append, decodeLossy, if_pos pair, ofPair,
      first, second, same, Char.ofNat_toNat]

/-- A text that was encoded reads back. -/
theorem decodeLossy_encode (text : List Char) : decodeLossy (encode text) = text := by
  induction text with
  | nil => rfl
  | cons c text ih =>
    rw [encode_cons, decodeLossy_encodeChar, ih]

theorem encodeChar_ofUnit (single : (isHighSurrogate unit || isLowSurrogate unit) = false) :
    encodeChar (ofUnit unit) = [unit] := by
  unfold encodeChar
  rw [toNat_ofUnit single, if_pos unit.toNat_lt, UInt16.ofNat_toNat]

theorem encodeChar_ofPair {high low : UInt16} (first : isHighSurrogate high = true)
    (second : isLowSurrogate low = true) : encodeChar (ofPair high low) = [high, low] := by
  unfold encodeChar
  rw [toNat_ofPair first second]
  simp only [isHighSurrogate, isLowSurrogate, decide_eq_true_eq] at first second
  have one : 0xD800 + (0x10000 + (high.toNat - 0xD800) * 0x400 + (low.toNat - 0xDC00) - 0x10000) /
      0x400 = high.toNat := by omega
  have two : 0xDC00 + (0x10000 + (high.toNat - 0xD800) * 0x400 + (low.toNat - 0xDC00) - 0x10000) %
      0x400 = low.toNat := by omega
  rw [if_neg (by omega), one, two, UInt16.ofNat_toNat, UInt16.ofNat_toNat]

/-- An unpaired surrogate is not among the units that take its place. -/
theorem encodeChar_replaced (surrogate : (isHighSurrogate unit || isLowSurrogate unit) = true) :
    encodeChar (ofUnit unit) = [0xFFFD] ∧ unit ≠ 0xFFFD := by
  unfold ofUnit
  rw [if_pos surrogate]
  refine ⟨by decide, ?_⟩
  rintro rfl
  revert surrogate
  decide

/-- The lossy conversion loses nothing exactly when every surrogate is paired. -/
theorem wellFormed_iff (units : List UInt16) :
    WellFormed units = true ↔ encode (decodeLossy units) = units := by
  fun_induction decodeLossy units with
  | case1 => exact ⟨fun _ => rfl, fun _ => rfl⟩
  | case2 unit =>
    cases surrogate : isHighSurrogate unit || isLowSurrogate unit with
    | false => simp [WellFormed, surrogate, encodeChar_ofUnit surrogate]
    | true =>
      obtain ⟨replaced, other⟩ := encodeChar_replaced surrogate
      simp [WellFormed, surrogate, replaced, Ne.symm other]
  | case3 first second rest pair ih =>
    have both := (Bool.and_eq_true _ _).mp pair
    rw [WellFormed, if_pos pair, ih, encode_cons, encodeChar_ofPair both.1 both.2]
    simp
  | case4 first second rest unpaired ih =>
    rw [WellFormed, if_neg unpaired, Bool.and_eq_true, ih, encode_cons]
    cases surrogate : isHighSurrogate first || isLowSurrogate first with
    | false => simp [encodeChar_ofUnit surrogate]
    | true =>
      obtain ⟨replaced, other⟩ := encodeChar_replaced surrogate
      simp [replaced, Ne.symm other]

theorem wellFormed_encode (text : List Char) : WellFormed (encode text) = true := by
  rw [wellFormed_iff, decodeLossy_encode]

/-- An ASCII character stands in the text where its unit stands in the wide string. -/
theorem mem_decodeLossy {c : Char} (ascii : c.toNat < 0x80) (units : List UInt16) :
    c ∈ decodeLossy units ↔ UInt16.ofNat c.toNat ∈ units := by
  have unit : (UInt16.ofNat c.toNat).toNat = c.toNat :=
    UInt16.toNat_ofNat_of_lt' (by simp only [UInt16.size]; omega)
  have single (other : UInt16) : c = ofUnit other ↔ UInt16.ofNat c.toNat = other := by
    cases surrogate : isHighSurrogate other || isLowSurrogate other with
    | false =>
      rw [← Char.toNat_inj, toNat_ofUnit surrogate, ← UInt16.toNat_inj, unit]
    | true =>
      have large : 0xD800 ≤ other.toNat := by
        simp only [isHighSurrogate, isLowSurrogate, Bool.or_eq_true, decide_eq_true_eq] at surrogate
        omega
      have far : (ofUnit other).toNat = 0xFFFD := by
        unfold ofUnit
        rw [if_pos surrogate]
        rfl
      constructor
      · rintro rfl
        omega
      · rintro rfl
        omega
  fun_induction decodeLossy units with
  | case1 => simp
  | case2 other => simp [single other]
  | case3 first second rest pair ih =>
    have both := (Bool.and_eq_true _ _).mp pair
    have value := toNat_ofPair both.1 both.2
    have notPair : c ≠ ofPair first second := by
      intro same
      rw [same] at ascii
      omega
    simp only [isHighSurrogate, isLowSurrogate, decide_eq_true_eq] at both
    have notFirst : UInt16.ofNat c.toNat ≠ first := by
      intro same
      rw [same] at unit
      omega
    have notSecond : UInt16.ofNat c.toNat ≠ second := by
      intro same
      rw [same] at unit
      omega
    simp [notPair, notFirst, notSecond, ih]
  | case4 first second rest unpaired ih =>
    rw [List.mem_cons, List.mem_cons, single first]
    exact or_congr_right ih

theorem mem_encode {c : Char} (ascii : c.toNat < 0x80) (text : List Char) :
    UInt16.ofNat c.toNat ∈ encode text ↔ c ∈ text := by
  rw [← mem_decodeLossy ascii, decodeLossy_encode]

theorem decodeLossy_eq_nil {units : List UInt16} : decodeLossy units = [] ↔ units = [] := by
  fun_cases decodeLossy units with
  | case1 => simp
  | case2 => simp
  | case3 => simp
  | case4 => simp

end NativeIpc.Lib.Utf16
