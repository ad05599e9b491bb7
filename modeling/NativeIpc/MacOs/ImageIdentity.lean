import NativeIpc.Lib.Sound

/-!
# The code-directory hashes of a held image

`held_image_cdhashes` (backend/macos_vnext/image_identity.rs:71-125) walks a thin or fat
Mach-O file that it does not trust: fat header, load commands, superblob index and code
directories each name the offset and the length of the next level. The file is read
through `read_exact_at`, which fills the buffer from inside the file or fails, and whose
failures are the environment's. The two digests are left open.

What the walk is meant to collect is stated first, over the bytes of the file alone and
without its checks: `Directory file bytes` says that some slice of the file is a signed
64-bit executable whose superblob lists the code directory `bytes`.
Lines are those of `image_identity.rs`.
-/

namespace NativeIpc.MacOs.ImageIdentity

open Lib Op.Sound List
open Op (Sound)
open Option (some)

/-! ### Words of a file -/

/-- `from_be_bytes`. -/
def toBe (bytes : Bytes) : Nat := Bytes.toLe bytes.reverse

/-- The word of `width` bytes at `offset`, if it lies inside `bytes`. -/
def wordAt (decode : Bytes → Nat) (width : Nat) (bytes : Bytes) (offset : Nat) : Option Nat :=
  if offset + width ≤ bytes.length then some (decode (bytes.extract offset (offset + width)))
  else none

abbrev be32At := wordAt toBe 4

abbrev be64At := wordAt toBe 8

variable {decode : Bytes → Nat} {index : Nat} {blob : Bytes}

open Bytes

/-- The kernel's code-directory hash; longer digests are truncated. -/
abbrev CdHash := FixedBytes 20

/-- A part of the file that is an image of its own. -/
structure Slice where
  offset : Nat
  len : Nat
  deriving DecidableEq

def fatMagic : Nat := 0xcafebabe
def fatMagic64 : Nat := 0xcafebabf
def csmagicCodeDirectory : Nat := 0xfade0c02

variable (file : Bytes)

/-- The fat header's entry `index` gives the slice. -/
def FatEntry (index : Nat) (slice : Slice) : Prop :=
  (be32At file 0 = some fatMagic ∧ be32At file (8 + index * 20 + 8) = some slice.offset ∧
      be32At file (8 + index * 20 + 12) = some slice.len) ∨
    (be32At file 0 = some fatMagic64 ∧ be64At file (8 + index * 32 + 8) = some slice.offset ∧
      be64At file (8 + index * 32 + 16) = some slice.len)

def Fat : Prop :=
  be32At file 0 = some fatMagic ∨ be32At file 0 = some fatMagic64

/-- The images in the file: the fat header's entries, or the file itself. -/
def IsSlice (slice : Slice) : Prop :=
  (∃ count index, be32At file 4 = some count ∧ index < count ∧ FatEntry file index slice) ∨
    (¬ Fat file ∧ slice = ⟨0, file.length⟩)

/-- The superblob's index entry `index` names a code directory. -/
def DirectoryEntry (blob : Bytes) (index start length : Nat) : Prop :=
  be32At blob (12 + index * 8 + 4) = some start ∧
    be32At blob start = some csmagicCodeDirectory ∧ be32At blob (start + 4) = some length

inductive ImageIdentityError where
  | unsupportedImage
  | malformedImage
  | native (code : Option Int32)
  deriving DecidableEq

inductive Call where
  | readExactAt (offset len : Nat)
  | metadata

/-- What `read_exact_at` can answer: a buffer is filled only from inside the file. -/
inductive ReadReply (file : Bytes) (offset len : Nat) where
  | filled (inside : len = 0 ∨ offset + len ≤ file.length)
  | unexpectedEof
  | failed (code : Option Int32)

/-- `metadata` fails, or the length it gives is that of the content. -/
def Reply : Call → Type
  | .readExactAt offset len => ReadReply file offset len
  | .metadata => Except (Option Int32) Unit

abbrev Scan (file : Bytes) (α : Type) : Type :=
  Op Call (Reply file) Unit ImageIdentityError α

section Walk

variable {file : Bytes} {α : Type}

/-- `.ok_or(ImageIdentityError::MalformedImage)?`. -/
def orMalformed (value : Option α) : Scan file α := Op.ofRun (Run.okOr value .malformedImage)

def malformedIf (bad : Prop) [Decidable bad] : Scan file Unit :=
  Op.ofRun (Run.rejectIf bad .malformedImage)

/-- `from_.._bytes(slice4(bytes, offset)?)` and the same with `slice8`
    (lines 378-400). -/
def word (decode : Bytes → Nat) (width : Nat) (bytes : Bytes) (offset : Nat) : Scan file Nat := do
  let stop ← orMalformed (checkedAdd 64 offset width)
  malformedIf (bytes.length < stop)
  pure (decode (bytes.extract offset stop))

variable (digests : Digests)

end Walk

/-! ### Rules for the two kinds of reads -/

section Rules

variable {file : Bytes} {β : Type} {guard : Call → Prop} {made : β → Prop}

end Rules

/-! ### Collecting without duplicates -/

/-- Exactly the hashes in `P` were added to the list, none of them twice. -/
structure Gathers (P : CdHash → Prop) (before after : List CdHash) : Prop where
  nodup : before.Nodup → after.Nodup
  mem : ∀ hash, hash ∈ after ↔ hash ∈ before ∨ P hash

namespace Gathers

variable {P P' : CdHash → Prop} {before between after hashes : List CdHash}

theorem none (no : ∀ hash, ¬ P hash) : Gathers P hashes hashes :=
  ⟨id, fun hash => by simp [no hash]⟩

theorem one (hash : CdHash) :
    Gathers (· = hash) hashes (if hash ∈ hashes then hashes else hashes ++ [hash]) := by
  by_cases known : hash ∈ hashes
  · rw [if_pos known]
    refine ⟨id, fun other => ⟨.inl, ?_⟩⟩
    rintro (old | rfl)
    · exact old
    · exact known
  · rw [if_neg known]
    refine ⟨fun nodup => ?_, fun other => by simp⟩
    refine nodup_append.mpr ⟨nodup, by simp, fun old member new fresh => ?_⟩
    obtain rfl := mem_singleton.mp fresh
    rintro rfl
    exact known member

theorem congr (gathers : Gathers P before after) (same : ∀ hash, P' hash ↔ P hash) :
    Gathers P' before after :=
  ⟨gathers.nodup, fun hash => by rw [gathers.mem, same]⟩

/-- One more turn of a loop that gathers. -/
theorem next {each : Nat → CdHash → Prop}
    (first : Gathers (fun hash => ∃ i < index, each i hash) before between)
    (second : Gathers (each index) between after) :
    Gathers (fun hash => ∃ i < index + 1, each i hash) before after := by
  refine ⟨second.nodup ∘ first.nodup, fun hash => ?_⟩
  simp only [second.mem, first.mem, Nat.lt_succ_iff_lt_or_eq, or_and_right, exists_or,
    exists_eq_left, or_assoc]

end Gathers

section Levels

variable {file : Bytes} {digests : Digests} {guard : Call → Prop}

/-- An index entry names one range. -/
theorem DirectoryEntry.unique {start length start' length' : Nat}
    (one : DirectoryEntry blob index start length)
    (other : DirectoryEntry blob index start' length') : start' = start ∧ length' = length := by
  obtain ⟨startAt, -, lengthAt⟩ := one
  obtain ⟨startAt', -, lengthAt'⟩ := other
  obtain rfl := some.inj (startAt'.symm.trans startAt)
  exact ⟨rfl, some.inj (lengthAt'.symm.trans lengthAt)⟩

variable {hash : CdHash} {directory : Bytes} {slice : Slice} {insideFat : Bool}
  {hashes : List CdHash}

/-- The load commands and the signature data lie inside the slice. -/
def Within (slice : Slice) : Call → Prop
  | .readExactAt offset len => slice.offset ≤ offset ∧ offset + len ≤ slice.offset + slice.len
  | .metadata => False

/-- The calls of a walk over the file: its header, the fat header's entries, and whatever
    lies inside a slice that the file names. Only a thin file is asked for its length. -/
inductive Reads (file : Bytes) : Call → Prop where
  | header : Reads file (.readExactAt 0 8)
  | fatEntry {count index entryLen : Nat} (countAt : be32At file 4 = some count)
      (before : index < count)
      (format : be32At file 0 = some fatMagic ∧ entryLen = 20 ∨
        be32At file 0 = some fatMagic64 ∧ entryLen = 32) :
      Reads file (.readExactAt (8 + index * entryLen) entryLen)
  | metadata (thin : ¬ Fat file) : Reads file .metadata
  | inside {slice : Slice} {call : Call} (isSlice : IsSlice file slice)
      (within : Within slice call) : Reads file call

/-- The fat header's entry is one slice. -/
theorem FatEntry.unique {slice' : Slice} (one : FatEntry file index slice)
    (other : FatEntry file index slice') : slice' = slice := by
  obtain ⟨offset, len⟩ := slice
  obtain ⟨offset', len'⟩ := slice'
  simp only [FatEntry] at one other
  have distinct : fatMagic ≠ fatMagic64 := by decide
  grind

end Levels

/-! ### The held image -/

end NativeIpc.MacOs.ImageIdentity
