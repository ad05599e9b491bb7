import NativeIpc.Lib.Words
import NativeIpc.Windows.Environment

/-!
# The nonce in the environment

The coordinator of a Windows or macOS session hands its nonce to the receiver as hexadecimal
text. Both receivers read it in pairs of bytes with `u8::from_str_radix`, which also takes a sign
and one digit. The one for Windows slices the text, and a slice that ends inside a character
faults.
-/

namespace NativeIpc

open Lib Run List
open Windows (Text WindowsError)
open Option

/-! ### The standard library -/

/-- `str::as_bytes`. -/
def asBytes (text : Text) : Bytes := text.flatMap String.utf8EncodeChar

/-- `char::to_digit(16)`. -/
def toDigit (byte : UInt8) : Option Nat :=
  if 0x30 ≤ byte ∧ byte ≤ 0x39 then some (byte.toNat - 0x30)
  else if 0x61 ≤ byte ∧ byte ≤ 0x66 then some (byte.toNat - 0x57)
  else if 0x41 ≤ byte ∧ byte ≤ 0x46 then some (byte.toNat - 0x37)
  else none

/-- A turn of the digit loop of `u8::from_str_radix`. -/
def pushDigit (value : Nat) (byte : UInt8) : Option Nat := do
  let digit ← toDigit byte
  let shifted ← checkedMul 8 value 16
  checkedAdd 8 shifted digit

/-- `u8::from_str_radix(source, 16)`: a plus sign in front of the digits is skipped. -/
def fromStrRadix (source : Bytes) : Option UInt8 :=
  let digits := if source.head? = some 0x2b then source.tail else source
  if digits = [] then none else (digits.foldlM pushDigit 0).map .ofNat

/-- A byte of a character behind its first. -/
def isContinuation (byte : UInt8) : Bool := 0x80 ≤ byte ∧ byte < 0xc0

/-- `str::is_char_boundary`. -/
def isCharBoundary (bytes : Bytes) (index : Nat) : Bool :=
  index = 0 || match bytes[index]? with
    | none => index = bytes.length
    | some byte => !isContinuation byte

/-- The bytes of `&text[start..stop]`. -/
def sliceStr {ε : Type} (bytes : Bytes) (start stop : Nat) : Run ε Bytes :=
  Run.assume (start ≤ stop ∧ isCharBoundary bytes start ∧ isCharBoundary bytes stop)
    (bytes.extract start stop)

/-- `str::from_utf8`. -/
def fromUtf8 (bytes : Bytes) : Option Bytes :=
  if bytes.toByteArray.IsValidUTF8 then some bytes else none

/-- `{byte:02x}`. -/
def lowerHex (byte : UInt8) : Text :=
  [Nat.digitChar (byte.toNat / 16), Nat.digitChar (byte.toNat % 16)]

/-! ### The codecs -/

namespace Windows

/-- windows.rs:2146-2153. -/
def hex (bytes : FixedBytes 32) : Text :=
  bytes.list.foldl (fun output byte => output ++ lowerHex byte) []

/-- The loop of `parse_nonce`, windows.rs:2160-2163, from an index on. -/
def parseBytes (value : Bytes) : (count index : Nat) → Run WindowsError Bytes
  | 0, _ => pure []
  | count + 1, index => do
    let pair ← sliceStr value (index * 2) (index * 2 + 2)
    let output ← okOr (fromStrRadix pair) .invalidBootstrap
    let rest ← parseBytes value count (index + 1)
    pure (output :: rest)

/-- windows.rs:2155-2168. -/
def parseNonce (value : Text) : Run WindowsError (FixedBytes 32) := do
  rejectIf ((asBytes value).length ≠ 64) .invalidBootstrap
  let bytes ← parseBytes (asBytes value) 32 0
  let nonce ← Bytes.toFixed 32 bytes
  rejectIf (nonce = .zero 32) .invalidBootstrap
  pure nonce

end Windows

namespace MacOs

/-- `BootstrapError`, as far as the nonce returns it. -/
inductive BootstrapError where
  | invalidEnvironment
  deriving DecidableEq, Repr

/-- bootstrap.rs:2871-2873. -/
def hex (bytes : Bytes) : Text := bytes.flatMap lowerHex

/-- The loop of `parse_nonce`, bootstrap.rs:2879-2882, over the chunks of two bytes. -/
def parseBytes : Bytes → Run BootstrapError Bytes
  | first :: second :: chunks => do
    let pair ← okOr (fromUtf8 [first, second]) .invalidEnvironment
    let output ← okOr (fromStrRadix pair) .invalidEnvironment
    let rest ← parseBytes chunks
    pure (output :: rest)
  | _ => pure []

/-- bootstrap.rs:2874-2884. -/
def parseNonce (encoded : Text) : Run BootstrapError (FixedBytes 32) := do
  rejectIf ((asBytes encoded).length ≠ 64) .invalidEnvironment
  let bytes ← parseBytes (asBytes encoded)
  Bytes.toFixed 32 bytes

end MacOs

/-! ### Texts in pairs -/

/-- Two digits spell a byte. -/
def DigitsOf (first second byte : UInt8) : Prop :=
  toDigit first = some (byte.toNat / 16) ∧ toDigit second = some (byte.toNat % 16)

/-- What is read as a byte: its two digits, or a sign and its one digit. -/
def ReadsAs (first second byte : UInt8) : Prop :=
  DigitsOf first second byte ∨ first = 0x2b ∧ toDigit second = some byte.toNat

/-- A text of pairs, one for each byte. -/
inductive InPairs (R : UInt8 → UInt8 → UInt8 → Prop) : Bytes → Bytes → Prop
  | nil : InPairs R [] []
  | cons {first second byte : UInt8} {text bytes : Bytes} (pair : R first second byte)
      (rest : InPairs R text bytes) : InPairs R (first :: second :: text) (byte :: bytes)

/-- A text begins inside a character. -/
def continues (text : Bytes) : Bool := text.head?.any isContinuation

/-- A pair ends inside a character, behind pairs that are read. -/
inductive Cut : Bytes → Prop
  | here {first second : UInt8} {text : Bytes} (inside : continues text) :
      Cut (first :: second :: text)
  | later {first second byte : UInt8} {text : Bytes} (reads : ReadsAs first second byte)
      (cut : Cut text) : Cut (first :: second :: text)

/-- At one text: the parser does not fault, and a nonce that it returns is spelled there. -/
def Exact {ε : Type} (parse : Text → Run ε (FixedBytes 32)) (value : Text) : Prop :=
  NoFault (parse value) ∧
    ∀ nonce, parse value = .ok nonce → InPairs DigitsOf (asBytes value) nonce.list

section Pairs

variable {first second byte : UInt8} {text bytes : Bytes} {R : UInt8 → UInt8 → UInt8 → Prop}

theorem toDigit_lt {digit : Nat} (read : toDigit byte = some digit) : digit < 16 ∧ byte < 0x80 := by
  unfold toDigit at read
  simp only [UInt8.le_iff_toNat_le, UInt8.lt_iff_toNat_lt, UInt8.reduceToNat] at read ⊢
  grind

theorem pushDigit_eq_some {value next : Nat} :
    pushDigit value byte = some next ↔
      ∃ digit, toDigit byte = some digit ∧ value * 16 + digit < 256 ∧
        value * 16 + digit = next := by
  simp only [pushDigit, bind_eq_bind, bind_eq_some_iff, checkedMul_eq_some, checkedAdd_eq_some]
  grind

theorem fromStrRadix_eq_some :
    fromStrRadix [first, second] = some byte ↔ ReadsAs first second byte := by
  have small := byte.toNat_lt
  have same (n : Nat) (fits : n < 256) : UInt8.ofNat n = byte ↔ n = byte.toNat := by
    rw [← UInt8.toNat_inj, UInt8.toNat_ofNat_of_lt' fits]
  have unread : toDigit 0x2b = none := by decide
  have digit := @toDigit_lt second
  by_cases sign : first = 0x2b <;>
    simp only [fromStrRadix, sign, head?_cons, if_true, tail_cons, reduceCtorEq, if_false,
      foldlM_cons, foldlM_nil, map_eq_some_iff, bind_pure, pushDigit_eq_some,
      some.injEq, bind_eq_bind, bind_eq_some_iff, ReadsAs, DigitsOf, unread]
  · grind
  · grind

theorem ReadsAs.ascii (reads : ReadsAs first second byte) : first < 0x80 ∧ second < 0x80 := by
  rcases reads with ⟨high, low⟩ | ⟨rfl, low⟩
  · exact ⟨(toDigit_lt high).2, (toDigit_lt low).2⟩
  · exact ⟨by decide, (toDigit_lt low).2⟩

theorem inPairs_cons_iff :
    InPairs R (first :: second :: text) bytes ↔
      ∃ byte, R first second byte ∧ ∃ rest, InPairs R text rest ∧ byte :: rest = bytes := by
  constructor
  · rintro (_ | ⟨pair, rest⟩)
    exact ⟨_, pair, _, rest, rfl⟩
  · rintro ⟨byte, pair, rest, pairs, rfl⟩
    exact .cons pair pairs

theorem InPairs.length_eq (pairs : InPairs R text bytes) : text.length = bytes.length * 2 := by
  induction pairs with
  | nil => rfl
  | cons _ _ ih => simp only [length_cons, ih]; omega

/-- What is read is spelled exactly when there is no sign. -/
theorem InPairs.digits_iff (pairs : InPairs ReadsAs text bytes) :
    InPairs DigitsOf text bytes ↔ 0x2b ∉ text := by
  have unread : toDigit 0x2b = none := by decide
  induction pairs with
  | nil => exact ⟨fun _ => not_mem_nil, fun _ => .nil⟩
  | cons pair _ ih =>
    constructor
    · rintro (_ | ⟨⟨high, low⟩, rest⟩) member
      rcases mem_cons.mp member with rfl | member
      · rw [unread] at high; cases high
      rcases mem_cons.mp member with rfl | member
      · rw [unread] at low; cases low
      exact ih.mp rest member
    · intro unsigned
      simp only [mem_cons, not_or] at unsigned
      exact .cons (pair.resolve_right fun sign => unsigned.1 sign.1.symm) (ih.mpr unsigned.2.2)

end Pairs

/-! ### The parsers -/

section Parsers

variable {first second byte : UInt8} {front text bytes : Bytes} {index count : Nat}

theorem utf8EncodeChar_ascii (ascii : byte < 0x80) :
    String.utf8EncodeChar (.ofNat byte.toNat) = [byte] := by
  have below : byte.toNat < 0x80 := UInt8.lt_iff_toNat_lt.mp ascii
  have value : (Char.ofNat byte.toNat).val.toNat = byte.toNat :=
    Utf16.toNat_ofNat (.inl (by omega))
  rw [String.utf8EncodeChar, value, if_pos (by omega), UInt8.ofNat_toNat]

theorem fromUtf8_pair (reads : ReadsAs first second byte) :
    fromUtf8 [first, second] = some [first, second] := by
  refine if_pos (.intro [.ofNat first.toNat, .ofNat second.toNat] (congrArg List.toByteArray ?_))
  rw [flatMap_cons, flatMap_singleton, utf8EncodeChar_ascii reads.ascii.1,
    utf8EncodeChar_ascii reads.ascii.2, singleton_append]

theorem inPairs_nil_iff : InPairs ReadsAs [] bytes ↔ [] = bytes := by
  constructor
  · rintro ⟨⟩
    rfl
  · rintro rfl
    exact .nil

theorem MacOs.noFault_parseBytes : NoFault (parseBytes text) := by
  induction text using parseBytes.induct with
  | case1 first second chunks ih =>
    simp only [parseBytes, noFault_bind_iff, noFault_okOr, noFault_pure, ih, implies_true, and_self]
  | case2 text short => rw [parseBytes.eq_2 text short]; exact noFault_pure []

theorem MacOs.parseBytes_eq_ok (even : text.length % 2 = 0) :
    parseBytes text = .ok bytes ↔ InPairs ReadsAs text bytes := by
  induction text using parseBytes.induct generalizing bytes with
  | case1 first second chunks ih =>
    simp only [length_cons, Nat.add_assoc, Nat.add_mod_right] at even
    simp only [parseBytes, bind_eq_ok, okOr_eq_ok, pure_eq_ok, ih even, inPairs_cons_iff]
    constructor
    · rintro ⟨pair, valid, byte, read, found⟩
      cases (ite_none_right_eq_some.mp valid).2
      exact ⟨byte, fromStrRadix_eq_some.mp read, found⟩
    · rintro ⟨byte, reads, found⟩
      exact ⟨_, fromUtf8_pair reads, byte, fromStrRadix_eq_some.mpr reads, found⟩
  | case2 text short =>
    obtain _ | ⟨first, _ | ⟨second, text⟩⟩ := text
    · rw [inPairs_nil_iff]
      exact pure_eq_ok
    · cases even
    · exact (short _ _ _ rfl).elim

theorem cut_cons_iff :
    Cut (first :: second :: text) ↔
      continues text ∨ (∃ byte, ReadsAs first second byte) ∧ Cut text := by
  constructor
  · rintro (inside | ⟨reads, cut⟩)
    · exact .inl inside
    · exact .inr ⟨⟨_, reads⟩, cut⟩
  · rintro (inside | ⟨⟨byte, reads⟩, cut⟩)
    · exact .here inside
    · exact .later reads cut

theorem isCharBoundary_append :
    isCharBoundary (front ++ text) front.length = true ↔ front = [] ∨ ¬ continues text := by
  cases text <;> simp [isCharBoundary, continues]

theorem InPairs.not_continues (pairs : InPairs ReadsAs text bytes) : ¬ continues text := by
  cases pairs with
  | nil => exact Bool.false_ne_true
  | cons pair rest =>
    have ascii := pair.ascii.1
    simp only [continues, head?_cons, any_some, isContinuation, decide_eq_true_eq]
    exact fun inside => absurd ascii (UInt8.not_lt.mpr inside.1)

/-- The slice of a turn. -/
theorem sliceStr_pair {ε : Type} (starts : front = [] ∨ ¬ continues (first :: text)) :
    (sliceStr (front ++ first :: second :: text) front.length (front.length + 2) : Run ε Bytes) =
      Run.assume (¬ continues text) [first, second] := by
  have start : isCharBoundary (front ++ first :: second :: text) front.length :=
    isCharBoundary_append.mpr starts
  have stop : isCharBoundary (front ++ first :: second :: text) (front.length + 2) ↔
      ¬ continues text := by
    have := @isCharBoundary_append (front ++ [first, second]) text
    simpa using this
  simp [sliceStr, start, stop, extract_eq_take_drop]

/-- The turns from an index on: behind what was read they see the rest of the text. -/
theorem Windows.parseBytes_spec (ahead : front.length = index * 2)
    (length : text.length = count * 2) (starts : front = [] ∨ ¬ continues text) :
    (NoFault (parseBytes (front ++ text) count index) ↔ ¬ Cut text) ∧
      ∀ bytes, parseBytes (front ++ text) count index = .ok bytes ↔ InPairs ReadsAs text bytes := by
  induction count generalizing front text index with
  | zero =>
    obtain rfl := length_eq_zero_iff.mp (length.trans (Nat.zero_mul 2))
    refine ⟨iff_of_true (noFault_pure _) ?_, fun bytes => pure_eq_ok.trans inPairs_nil_iff.symm⟩
    rintro ⟨⟩
  | succ count ih =>
    obtain _ | ⟨first, _ | ⟨second, text⟩⟩ := text
    · simp at length
    · simp at length; omega
    have slice := @sliceStr_pair first second front text WindowsError starts
    rw [ahead] at slice
    by_cases inside : continues text
    · have stops : parseBytes (front ++ first :: second :: text) (count + 1) index = fault := by
        rw [parseBytes, slice, Run.assume, if_neg (not_not.mpr inside)]
        rfl
      rw [stops]
      refine ⟨iff_of_false (· rfl) (not_not.mpr (.here inside)), fun bytes => iff_of_false ?_ ?_⟩
      · rintro ⟨⟩
      · rintro (_ | ⟨_, rest⟩)
        exact rest.not_continues inside
    · obtain ⟨safe, returned⟩ := @ih (front ++ [first, second]) text (index + 1)
        (by simp [ahead, Nat.succ_mul]) (by simp at length; omega) (.inr inside)
      rw [append_assoc] at safe returned
      rw [parseBytes, slice, Run.assume, if_pos inside, ok_bind, cut_cons_iff]
      simp only [noFault_bind_iff, noFault_okOr, noFault_pure, implies_true, and_true, true_and,
        bind_eq_ok, okOr_eq_ok, pure_eq_ok, inPairs_cons_iff, fromStrRadix_eq_some]
      refine ⟨?_, fun bytes => ?_⟩
      · simp only [cons_append, nil_append] at safe
        rw [safe]
        simp [inside]
      · simp only [cons_append, nil_append] at returned
        simp only [returned]

end Parsers

section Nonce

variable {ε : Type} {text bytes : Bytes} {nonce : FixedBytes 32} {value : Text}

theorem InPairs.noFault_toFixed (pairs : InPairs ReadsAs text bytes) (whole : text.length = 64) :
    NoFault (Bytes.toFixed 32 bytes : Run ε (FixedBytes 32)) := by
  have length : bytes.length = 32 := by have := pairs.length_eq; omega
  rw [Bytes.toFixed, dif_pos length]
  exact noFault_ok _

theorem InPairs.whole (pairs : InPairs ReadsAs text nonce.list) : text.length = 64 := by
  rw [pairs.length_eq, nonce.length_eq]

theorem Windows.noFault_parseNonce :
    NoFault (parseNonce value) ↔ ¬ ((asBytes value).length = 64 ∧ Cut (asBytes value)) := by
  rw [parseNonce, noFault_bind_iff, and_iff_right (noFault_rejectIf _ _), not_and]
  simp only [rejectIf_eq_ok, not_not, forall_const]
  refine forall_congr' fun whole => ?_
  obtain ⟨safe, returned⟩ := @parseBytes_spec [] (asBytes value) 0 32 rfl whole (.inl rfl)
  rw [nil_append] at safe returned
  rw [noFault_bind_iff, safe, and_iff_left]
  intro bytes parsed
  refine noFault_bind (((returned bytes).mp parsed).noFault_toFixed whole) fun nonce _ => ?_
  exact noFault_rejectIf_bind fun _ => noFault_pure nonce

theorem Windows.parseNonce_eq_ok :
    parseNonce value = .ok nonce ↔
      nonce ≠ .zero 32 ∧ InPairs ReadsAs (asBytes value) nonce.list := by
  have spec (whole : (asBytes value).length = 64) :=
    (@parseBytes_spec [] (asBytes value) 0 32 rfl whole (.inl rfl)).2 nonce.list
  simp only [parseNonce, bind_eq_ok, rejectIf_eq_ok, Bytes.toFixed_eq_ok, not_not, exists_const,
    pure_eq_ok]
  constructor
  · rintro ⟨whole, bytes, parsed, found, rfl, nonzero, rfl⟩
    exact ⟨nonzero, (spec whole).mp parsed⟩
  · rintro ⟨nonzero, pairs⟩
    exact ⟨pairs.whole, _, (spec pairs.whole).mpr pairs, nonce, rfl, nonzero, rfl⟩

theorem MacOs.noFault_parseNonce : NoFault (parseNonce value) := by
  refine noFault_rejectIf_bind fun whole => noFault_bind noFault_parseBytes fun bytes parsed => ?_
  exact ((parseBytes_eq_ok (by omega)).mp parsed).noFault_toFixed (not_not.mp whole)

theorem MacOs.parseNonce_eq_ok :
    parseNonce value = .ok nonce ↔ InPairs ReadsAs (asBytes value) nonce.list := by
  simp only [parseNonce, bind_eq_ok, rejectIf_eq_ok, Bytes.toFixed_eq_ok, exists_eq_right, not_not,
    exists_const]
  constructor
  · rintro ⟨whole, parsed⟩
    exact (parseBytes_eq_ok (by omega)).mp parsed
  · intro pairs
    exact ⟨pairs.whole, (parseBytes_eq_ok (by rw [pairs.whole])).mpr pairs⟩

theorem digitChar_spells : ∀ digit < 16,
    String.utf8EncodeChar (Nat.digitChar digit) = [.ofNat (Nat.digitChar digit).toNat] ∧
      toDigit (.ofNat (Nat.digitChar digit).toNat) = some digit := by
  decide

theorem inPairs_hex (bytes : Bytes) : InPairs ReadsAs (asBytes (MacOs.hex bytes)) bytes := by
  induction bytes with
  | nil => exact .nil
  | cons byte bytes ih =>
    have small := byte.toNat_lt
    obtain ⟨high, readHigh⟩ := digitChar_spells (byte.toNat / 16) (by omega)
    obtain ⟨low, readLow⟩ := digitChar_spells (byte.toNat % 16) (by omega)
    have text : asBytes (MacOs.hex (byte :: bytes)) =
        .ofNat (Nat.digitChar (byte.toNat / 16)).toNat ::
          .ofNat (Nat.digitChar (byte.toNat % 16)).toNat :: asBytes (MacOs.hex bytes) := by
      simp [asBytes, MacOs.hex, lowerHex, high, low]
    rw [text]
    exact .cons (.inl ⟨readHigh, readLow⟩) ih

end Nonce

/-- Both parsers return the nonce that `hex` wrote. At any text, the one for Windows is exact
    unless a pair ends inside a character or a sign stands in what it accepts, the one for macOS
    unless a sign does. -/
theorem nonce_text_exact_iff (value : Text) :
    (Exact Windows.parseNonce value ↔ ¬ ((asBytes value).length = 64 ∧ Cut (asBytes value)) ∧
      ∀ nonce : FixedBytes 32, nonce ≠ .zero 32 →
        InPairs ReadsAs (asBytes value) nonce.list → 0x2b ∉ asBytes value) ∧
    (Exact MacOs.parseNonce value ↔ ∀ nonce : FixedBytes 32,
      InPairs ReadsAs (asBytes value) nonce.list → 0x2b ∉ asBytes value) ∧
    ∀ nonce, nonce ≠ .zero 32 → Windows.parseNonce (Windows.hex nonce) = .ok nonce ∧
      MacOs.parseNonce (MacOs.hex nonce.list) = .ok nonce := by
  refine ⟨?_, ?_, fun nonce nonzero => ?_⟩
  · refine and_congr Windows.noFault_parseNonce (forall_congr' fun nonce => ?_)
    rw [Windows.parseNonce_eq_ok, and_imp]
    exact imp_congr_right fun _ => forall_congr' fun pairs => pairs.digits_iff
  · refine (and_iff_right MacOs.noFault_parseNonce).trans (forall_congr' fun nonce => ?_)
    rw [MacOs.parseNonce_eq_ok]
    exact forall_congr' fun pairs => pairs.digits_iff
  · have pairs := inPairs_hex nonce.list
    have same : Windows.hex nonce = MacOs.hex nonce.list := List.flatMap_eq_foldl.symm
    rw [same]
    exact ⟨Windows.parseNonce_eq_ok.mpr ⟨nonzero, pairs⟩, MacOs.parseNonce_eq_ok.mpr pairs⟩

/-- A character over the end of the first pair, and a sign for its first digit. -/
theorem nonce_text_cut_or_signed :
    Windows.parseNonce ('€' :: List.replicate 61 '0') = fault ∧
    ∃ nonce, Windows.parseNonce ('+' :: '1' :: List.replicate 62 '0') = .ok nonce ∧
      MacOs.parseNonce ('+' :: '1' :: List.replicate 62 '0') = .ok nonce ∧
        ¬ InPairs DigitsOf (asBytes ('+' :: '1' :: List.replicate 62 '0')) nonce.list := by
  refine ⟨by decide +kernel, ⟨1 :: List.replicate 31 0, rfl⟩, by decide +kernel,
    by decide +kernel, ?_⟩
  rintro (_ | ⟨⟨sign, _⟩, _⟩)
  exact absurd sign (by decide)

end NativeIpc
