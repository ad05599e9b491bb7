import NativeIpc.Lib.Reader
import NativeIpc.Lib.Utf16
import NativeIpc.Windows.CommandLine
import Mathlib.Data.List.Lex
import Mathlib.Data.List.Sort
import Mathlib.Data.Char

/-!
# The environment block of a Windows child

The pairs that a caller gives and those of the bootstrap are checked, sorted and written
as one block of `key=value` entries. Keys and values pass through `to_string_lossy` on
the way, so the block holds them unit for unit exactly when they are well formed.
-/

namespace NativeIpc.Windows

open NativeIpc.Lib Run Utf16 List

/-- A `str`: Unicode scalar values. -/
abbrev Text : Type := List Char

/-- A key with its value, as `OsString`s. -/
abbrev Pair : Type := WideString × WideString

/-- `WindowsError`, as far as the block returns it. -/
inductive WindowsError where
  | invalidBootstrap
  deriving DecidableEq, Repr

/-- `OsStr::to_string_lossy`. -/
def toStringLossy (value : WideString) : Text := decodeLossy value

/-- `str::encode_utf16`, and `OsString::from` of a `str`. -/
def encodeUtf16 (text : Text) : WideString := encode text

/-- `str::to_ascii_lowercase`. -/
def toAsciiLowercase (text : Text) : Text := text.map Char.toLower

/-- `str::eq_ignore_ascii_case`. -/
def eqIgnoreAsciiCase (left right : Text) : Bool := toAsciiLowercase left = toAsciiLowercase right

/-- This and the next three, windows.rs:444-447. -/
def pipeEnv : Text := "NATIVE_IPC_WINDOWS_PIPE".toList

def nonceEnv : Text := "NATIVE_IPC_WINDOWS_NONCE".toList

def parentEnv : Text := "NATIVE_IPC_PARENT_PID".toList

def publicBootstrapEnv : Text := "NATIVE_IPC_VNEXT_PUBLIC_BOOTSTRAP".toList

/-- The names that only the bootstrap may use, windows.rs:1838. -/
def reserved : List Text := [pipeEnv, nonceEnv, parentEnv, publicBootstrapEnv]

/-- Whether a wide string has a `NUL`, windows.rs:1834. -/
def hasNul (value : WideString) : Bool := value.any (· = 0)

/-- The checks on one pair, with the pairs before it, windows.rs:1840-1852. -/
def pairIsValid (before : List Pair) (pair : Pair) : Bool :=
  let (key, value) := pair
  let keyText := toStringLossy key
  !(key.isEmpty || hasNul key || decide ('=' ∈ keyText) || hasNul value ||
    reserved.any (eqIgnoreAsciiCase keyText) ||
    before.any fun (existing, _) => eqIgnoreAsciiCase (toStringLossy existing) keyText)

/-- windows.rs:1829-1856. -/
def publicCommandStringsAreValid (path : WideString) (arguments : List WideString)
    (environment : List Pair) : Bool :=
  if hasNul path || arguments.any hasNul then false
  else environment.zipIdx.all fun (pair, index) => pairIsValid (environment.take index) pair

/-- One turn of the loop that adds the bootstrap, windows.rs:1863-1871. -/
def addBootstrap (values : List Pair) (entry : Text × Text) : Run WindowsError (List Pair) := do
  let (name, value) := entry
  rejectIf (values.any fun (key, _) => eqIgnoreAsciiCase (toStringLossy key) name)
    .invalidBootstrap
  pure (values ++ [(encodeUtf16 name, encodeUtf16 value)])

/-- The key of a pair as it is compared. -/
def foldedKey (pair : Pair) : Text := toAsciiLowercase (toStringLossy pair.1)

/-- `values.sort_by(..)`, windows.rs:1872-1877. The order of two texts is that of their scalar
    values, as it is for their bytes. -/
def sortPairs (values : List Pair) : List Pair :=
  values.insertionSort fun left right => foldedKey left ≤ foldedKey right

/-- `values.windows(2).any(..)`, windows.rs:1878-1885. -/
def hasEqualNeighbours (values : List Pair) : Bool :=
  (values.zip values.tail).any fun (left, right) =>
    eqIgnoreAsciiCase (toStringLossy left.1) (toStringLossy right.1)

/-- One turn of the loop that writes the block, windows.rs:1887-1900. -/
def writePair (block : WideString) (pair : Pair) : Run WindowsError WideString := do
  let key := toStringLossy pair.1
  rejectIf (key = [] ∨ '=' ∈ key ∨ '\x00' ∈ key) .invalidBootstrap
  let value := toStringLossy pair.2
  rejectIf ('\x00' ∈ value) .invalidBootstrap
  pure (block ++ encodeUtf16 key ++ [0x3d] ++ encodeUtf16 value ++ [0])

/-- windows.rs:1858-1903. -/
def environmentBlockExact (explicit : List Pair) (bootstrap : List (Text × Text)) :
    Run WindowsError WideString := do
  let values ← bootstrap.foldlM addBootstrap explicit
  let values := sortPairs values
  rejectIf (hasEqualNeighbours values) .invalidBootstrap
  let block ← values.foldlM writePair []
  pure (block ++ [0])

/-! ### Reading a block -/

/-- The entries of a block, each up to its `NUL`. An empty one ends the block, and nothing may
    follow it. -/
def blockEntries : WideString → WideString → Option (List WideString)
  | _, [] => none
  | entry, unit :: rest =>
    if unit = 0 then
      if entry = [] then (if rest = [] then some [] else none)
      else (blockEntries [] rest).map (entry :: ·)
    else blockEntries (entry ++ [unit]) rest

/-- An entry split at its first `=`. -/
def splitEntry (entry : WideString) : Pair :=
  (entry.takeWhile (· ≠ 0x3d), (entry.dropWhile (· ≠ 0x3d)).tail)

/-- The pairs of a block. -/
def blockPairs (block : WideString) : Option (List Pair) :=
  (blockEntries [] block).map (List.map splitEntry)

/-- The bootstrap as pairs. -/
def widePair (entry : Text × Text) : Pair := (encodeUtf16 entry.1, encodeUtf16 entry.2)

/-- The block holds the given pairs, each once and unit for unit, in strict order of their keys
    without regard to case. -/
def Faithful (explicit : List Pair) (bootstrap : List (Text × Text)) (block : WideString) : Prop :=
  ∃ pairs, blockPairs block = some pairs ∧ pairs.Perm (explicit ++ bootstrap.map widePair) ∧
    (pairs.map foldedKey).Pairwise (· < ·)

/-- A pair as it stands in the block. -/
def lossyPair (pair : Pair) : Pair :=
  (encodeUtf16 (toStringLossy pair.1), encodeUtf16 (toStringLossy pair.2))

/-! ### What the checks establish -/

/-- What the block needs of a pair. -/
structure Writable (pair : Pair) : Prop where
  named : pair.1 ≠ []
  noNul : (0 : UInt16) ∉ pair.1
  noEquals : '=' ∉ toStringLossy pair.1
  valueNoNul : (0 : UInt16) ∉ pair.2

variable {value : WideString} {bootstrap : List (Text × Text)}

theorem hasNul_eq_false : hasNul value = false ↔ (0 : UInt16) ∉ value := by
  unfold hasNul
  rw [any_eq_false]
  constructor
  · intro none member
    exact none 0 member (by simp)
  · intro absent unit member
    simpa using fun same : unit = 0 => absent (same ▸ member)

variable {pair : Pair} {values : List Pair}

theorem pairIsValid_iff {before : List Pair} :
    pairIsValid before pair = true ↔
      Writable pair ∧ (∀ name ∈ reserved, foldedKey pair ≠ toAsciiLowercase name) ∧
        ∀ existing ∈ before, foldedKey existing ≠ foldedKey pair := by
  obtain ⟨key, value⟩ := pair
  simp only [pairIsValid, Bool.not_eq_true', Bool.or_eq_false_iff, hasNul_eq_false,
    isEmpty_eq_false_iff, decide_eq_false_iff_not, any_eq_false, eqIgnoreAsciiCase,
    decide_eq_true_eq]
  constructor
  · rintro ⟨⟨⟨⟨⟨named, noNul⟩, noEquals⟩, valueNoNul⟩, unreserved⟩, fresh⟩
    exact ⟨⟨named, noNul, noEquals, valueNoNul⟩, unreserved, fun existing => fresh existing⟩
  · rintro ⟨⟨named, noNul, noEquals, valueNoNul⟩, unreserved, fresh⟩
    exact ⟨⟨⟨⟨⟨named, noNul⟩, noEquals⟩, valueNoNul⟩, unreserved⟩, fun existing => fresh existing⟩

/-- Pairs that were accepted can be written, have distinct keys, and leave the reserved names. -/
theorem accepted {path : WideString} {arguments : List WideString} {environment : List Pair}
    (valid : publicCommandStringsAreValid path arguments environment = true) :
    (∀ pair ∈ environment, Writable pair ∧
      ∀ name ∈ reserved, foldedKey pair ≠ toAsciiLowercase name) ∧
    (environment.map foldedKey).Nodup := by
  unfold publicCommandStringsAreValid at valid
  split at valid
  · cases valid
  · rw [all_eq_true] at valid
    have each (index : Nat) (bound : index < environment.length) :
        pairIsValid (environment.take index) environment[index] = true :=
      valid (environment[index], index) (mk_mem_zipIdx_iff_getElem?.mpr (by simp [bound]))
    refine ⟨?_, ?_⟩
    · intro pair member
      obtain ⟨index, bound, rfl⟩ := getElem_of_mem member
      obtain ⟨writable, unreserved, -⟩ := pairIsValid_iff.mp (each index bound)
      exact ⟨writable, unreserved⟩
    · rw [List.Nodup, pairwise_map, pairwise_iff_getElem]
      intro i j hi hj earlier
      obtain ⟨-, -, fresh⟩ := pairIsValid_iff.mp (each j hj)
      refine fresh environment[i] ?_
      rw [mem_take_iff_getElem]
      exact ⟨i, by omega, rfl⟩

/-! ### The steps of the block -/

theorem foldedKey_widePair (entry : Text × Text) :
    foldedKey (widePair entry) = toAsciiLowercase entry.1 := by
  unfold foldedKey widePair toStringLossy encodeUtf16
  rw [decodeLossy_encode]

theorem foldedKey_lossyPair (pair : Pair) : foldedKey (lossyPair pair) = foldedKey pair := by
  unfold foldedKey lossyPair toStringLossy encodeUtf16
  rw [decodeLossy_encode]

/-- The bootstrap is added when no key is used twice. -/
theorem foldlM_addBootstrap (distinct : ((values ++ bootstrap.map widePair).map foldedKey).Nodup) :
    bootstrap.foldlM addBootstrap values = .ok (values ++ bootstrap.map widePair) := by
  induction bootstrap generalizing values with
  | nil => simp [pure, Except.pure]
  | cons entry bootstrap ih =>
    have fresh : ¬ (values.any fun (key, _) =>
        eqIgnoreAsciiCase (toStringLossy key) entry.1) = true := by
      intro used
      obtain ⟨pair, member, same⟩ := any_eq_true.mp used
      have same : foldedKey pair = foldedKey (widePair entry) := by
        rw [foldedKey_widePair]
        exact of_decide_eq_true same
      rw [map_append, nodup_append] at distinct
      exact distinct.2.2 _ (mem_map_of_mem member) (foldedKey (widePair entry)) (by simp) same
    have added : addBootstrap values entry = .ok (values ++ [widePair entry]) := by
      unfold addBootstrap
      rw [bind_eq_ok]
      exact ⟨(), rejectIf_eq_ok.mpr fresh, rfl⟩
    rw [foldlM_cons, added, ok_bind, ih]
    · simp
    · simpa using distinct

theorem sortPairs_perm (values : List Pair) : (sortPairs values).Perm values :=
  perm_insertionSort _ _

/-- Distinct keys are strictly increasing after sorting. -/
theorem increasing_sortPairs (distinct : (values.map foldedKey).Nodup) :
    ((sortPairs values).map foldedKey).Pairwise (· < ·) := by
  let r : Pair → Pair → Prop := fun left right => foldedKey left ≤ foldedKey right
  have : Std.Total r := ⟨fun _ _ => le_total _ _⟩
  have : IsTrans Pair r := ⟨fun _ _ _ => le_trans⟩
  have sorted : (sortPairs values).Pairwise r := pairwise_insertionSort r values
  have nodup : ((sortPairs values).map foldedKey).Nodup :=
    ((sortPairs_perm values).map foldedKey).nodup_iff.mpr distinct
  rw [pairwise_map]
  refine (sorted.and (pairwise_map.mp nodup)).imp ?_
  rintro left right ⟨below, other⟩
  exact lt_of_le_of_ne below other

theorem hasEqualNeighbours_eq_false
    (increasing : (values.map foldedKey).Pairwise (· < ·)) : hasEqualNeighbours values = false := by
  induction values with
  | nil => rfl
  | cons first values ih =>
    rw [map_cons, pairwise_cons] at increasing
    cases values with
    | nil => rfl
    | cons second values =>
      have below : foldedKey first < foldedKey second := increasing.1 _ (by simp)
      have other : eqIgnoreAsciiCase (toStringLossy first.1) (toStringLossy second.1) = false := by
        exact decide_eq_false (ne_of_lt below)
      have later := ih increasing.2
      simp only [hasEqualNeighbours, tail_cons, zip_cons_cons, any_cons, other,
        Bool.false_or] at later ⊢
      exact later

/-- The units of an entry, up to its `NUL`. -/
def entryOf (pair : Pair) : WideString := (lossyPair pair).1 ++ 0x3d :: (lossyPair pair).2

theorem writePair_eq (writable : Writable pair) (block : WideString) :
    writePair block pair = .ok (block ++ (entryOf pair ++ [0])) := by
  have named : toStringLossy pair.1 ≠ [] :=
    fun empty => writable.named (decodeLossy_eq_nil.mp empty)
  have nul (value : WideString) : '\x00' ∈ toStringLossy value ↔ (0 : UInt16) ∈ value :=
    mem_decodeLossy (by decide) value
  have key : ¬ (toStringLossy pair.1 = [] ∨ '=' ∈ toStringLossy pair.1 ∨
      '\x00' ∈ toStringLossy pair.1) := by
    rw [nul]
    rintro (empty | equals | zero)
    · exact named empty
    · exact writable.noEquals equals
    · exact writable.noNul zero
  have value : ¬ '\x00' ∈ toStringLossy pair.2 := by
    rw [nul]
    exact writable.valueNoNul
  unfold writePair
  simp only [bind_eq_ok, rejectIf_eq_ok, pure_eq_ok, Unique.exists_iff]
  refine ⟨key, value, ?_⟩
  simp [entryOf, lossyPair, append_assoc]

/-! ### Reading the block back -/

theorem zero_notMem_lossy (noNul : (0 : UInt16) ∉ value) :
    (0 : UInt16) ∉ encodeUtf16 (toStringLossy value) := by
  have nul : (0 : UInt16) ∈ encode (decodeLossy value) ↔ '\x00' ∈ decodeLossy value :=
    mem_encode (c := '\x00') (by decide) _
  have zero : '\x00' ∈ decodeLossy value ↔ (0 : UInt16) ∈ value := mem_decodeLossy (by decide) value
  exact fun member => noNul (zero.mp (nul.mp member))

theorem zero_notMem_entryOf (writable : Writable pair) : (0 : UInt16) ∉ entryOf pair := by
  unfold entryOf lossyPair
  simp [zero_notMem_lossy writable.noNul, zero_notMem_lossy writable.valueNoNul]

theorem splitEntry_entryOf (writable : Writable pair) :
    splitEntry (entryOf pair) = lossyPair pair := by
  have noEquals : (0x3d : UInt16) ∉ (lossyPair pair).1 := by
    have equals : (0x3d : UInt16) ∈ encode (toStringLossy pair.1) ↔ '=' ∈ toStringLossy pair.1 :=
      mem_encode (c := '=') (by decide) _
    exact fun member => writable.noEquals (equals.mp member)
  have plain : ∀ unit ∈ (lossyPair pair).1, decide (unit ≠ 0x3d) = true := by
    intro unit member
    simpa using fun same : unit = 0x3d => noEquals (same ▸ member)
  unfold splitEntry entryOf
  rw [takeWhile_append_of_pos plain, dropWhile_append_of_pos plain,
    takeWhile_cons_of_neg (by simp), dropWhile_cons_of_neg (by simp), append_nil,
    tail_cons]

/-- An entry is read up to its `NUL`. -/
theorem blockEntries_append {entry units rest : WideString} (noNul : (0 : UInt16) ∉ units)
    (nonempty : entry ++ units ≠ []) :
    blockEntries entry (units ++ 0 :: rest) =
      (blockEntries [] rest).map ((entry ++ units) :: ·) := by
  induction units generalizing entry with
  | nil =>
    rw [append_nil] at nonempty ⊢
    rw [nil_append, blockEntries, if_pos rfl, if_neg nonempty]
  | cons unit units ih =>
    obtain ⟨first, others⟩ : (0 : UInt16) ≠ unit ∧ (0 : UInt16) ∉ units := by
      simpa [mem_cons, not_or] using noNul
    rw [cons_append, blockEntries, if_neg (Ne.symm first), ih others (by simp)]
    simp

theorem blockEntries_block (writable : ∀ pair ∈ values, Writable pair) :
    blockEntries [] (values.flatMap (fun pair => entryOf pair ++ [0]) ++ [0]) =
      some (values.map entryOf) := by
  induction values with
  | nil => rfl
  | cons pair values ih =>
    obtain ⟨first, others⟩ := forall_mem_cons.mp writable
    have nonempty : [] ++ entryOf pair ≠ [] := by simp [entryOf]
    have shape : (pair :: values).flatMap (fun pair => entryOf pair ++ [0]) ++ [0] =
        entryOf pair ++ 0 :: (values.flatMap (fun pair => entryOf pair ++ [0]) ++ [0]) := by
      simp [append_assoc]
    rw [shape, blockEntries_append (zero_notMem_entryOf first) nonempty, ih others]
    rfl

theorem blockPairs_block (writable : ∀ pair ∈ values, Writable pair) :
    blockPairs (values.flatMap (fun pair => entryOf pair ++ [0]) ++ [0]) =
      some (values.map lossyPair) := by
  unfold blockPairs
  rw [blockEntries_block writable, Option.map_some, map_map]
  refine congrArg some (map_congr_left ?_)
  intro pair member
  exact splitEntry_entryOf (writable pair member)

theorem writable_widePair {entry : Text × Text} (isReserved : entry.1 ∈ reserved)
    (noNul : '\x00' ∉ entry.2) : Writable (widePair entry) := by
  have nul (text : Text) : (0 : UInt16) ∈ encode text ↔ '\x00' ∈ text :=
    mem_encode (c := '\x00') (by decide) _
  have plain : ∀ name ∈ reserved, name ≠ [] ∧ '\x00' ∉ name ∧ '=' ∉ name := by decide
  obtain ⟨named, clean, noEquals⟩ := plain entry.1 isReserved
  refine ⟨?_, ?_, ?_, ?_⟩
  · intro empty
    have back := decodeLossy_encode entry.1
    rw [show encode entry.1 = [] from empty] at back
    exact named back.symm
  · exact fun member => clean ((nul _).mp member)
  · unfold toStringLossy widePair encodeUtf16
    rw [decodeLossy_encode]
    exact noEquals
  · exact fun member => noNul ((nul _).mp member)

/-- Accepted pairs and a bootstrap of reserved names have distinct keys. -/
theorem distinct_keys {explicit : List Pair}
    (unreserved : ∀ pair ∈ explicit, ∀ name ∈ reserved, foldedKey pair ≠ toAsciiLowercase name)
    (fresh : (explicit.map foldedKey).Nodup) (names : ∀ entry ∈ bootstrap, entry.1 ∈ reserved)
    (distinct : (bootstrap.map Prod.fst).Nodup) :
    ((explicit ++ bootstrap.map widePair).map foldedKey).Nodup := by
  have apart : ∀ name ∈ reserved, ∀ other ∈ reserved,
      toAsciiLowercase name = toAsciiLowercase other → name = other := by decide
  rw [map_append, nodup_append, map_map]
  refine ⟨fresh, ?_, ?_⟩
  · refine (nodup_map_iff_inj_on (List.Nodup.of_map _ distinct)).mpr ?_
    intro one member other given same
    simp only [Function.comp_apply, foldedKey_widePair] at same
    exact inj_on_of_nodup_map distinct member given
      (apart _ (names one member) _ (names other given) same)
  · intro key left other right same
    obtain ⟨pair, member, rfl⟩ := mem_map.mp left
    obtain ⟨entry, given, rfl⟩ := mem_map.mp right
    rw [Function.comp_apply, foldedKey_widePair] at same
    exact unreserved pair member entry.1 (names entry given) same

/-- The block of accepted pairs and a bootstrap is always written, and it holds them unit for unit
    exactly when no key and no value has an unpaired surrogate. -/
theorem environmentBlock_faithful (path : WideString) (arguments : List WideString)
    (explicit : List Pair) (bootstrap : List (Text × Text))
    (valid : publicCommandStringsAreValid path arguments explicit = true)
    (names : ∀ entry ∈ bootstrap, entry.1 ∈ reserved) (distinct : (bootstrap.map Prod.fst).Nodup)
    (noNul : ∀ entry ∈ bootstrap, '\x00' ∉ entry.2) :
    ∃ block, environmentBlockExact explicit bootstrap = .ok block ∧
      (Faithful explicit bootstrap block ↔
        ∀ pair ∈ explicit, WellFormed pair.1 = true ∧ WellFormed pair.2 = true) := by
  obtain ⟨each, fresh⟩ := accepted valid
  have keys := distinct_keys (fun pair member => (each pair member).2) fresh names distinct
  have perm := sortPairs_perm (explicit ++ bootstrap.map widePair)
  have increasing := increasing_sortPairs keys
  have writable : ∀ pair ∈ sortPairs (explicit ++ bootstrap.map widePair), Writable pair := by
    intro pair member
    rcases mem_append.mp (perm.mem_iff.mp member) with given | added
    · exact (each pair given).1
    · obtain ⟨entry, given, rfl⟩ := mem_map.mp added
      exact writable_widePair (names entry given) (noNul entry given)
  have block : environmentBlockExact explicit bootstrap =
      .ok ((sortPairs (explicit ++ bootstrap.map widePair)).flatMap
        (fun pair => entryOf pair ++ [0]) ++ [0]) := by
    have wrote := Reader.foldlM_append (fun pair member => writePair_eq (writable pair member)) []
    unfold environmentBlockExact
    rw [foldlM_addBootstrap keys, ok_bind]
    simp only [hasEqualNeighbours_eq_false increasing, wrote]
    rfl
  refine ⟨_, block, ?_⟩
  unfold Faithful
  rw [blockPairs_block writable]
  constructor
  · rintro ⟨pairs, same, together, -⟩
    obtain rfl := Option.some.inj same
    intro pair given
    have member := together.mem_iff.mpr (mem_append_left _ given)
    obtain ⟨source, -, rfl⟩ := mem_map.mp member
    exact ⟨wellFormed_encode _, wellFormed_encode _⟩
  · intro wellFormed
    refine ⟨_, rfl, ?_, ?_⟩
    · have unchanged : ∀ pair ∈ sortPairs (explicit ++ bootstrap.map widePair),
          lossyPair pair = pair := by
        intro pair member
        rcases mem_append.mp (perm.mem_iff.mp member) with given | added
        · obtain ⟨key, value⟩ := wellFormed pair given
          exact Prod.ext ((wellFormed_iff _).mp key) ((wellFormed_iff _).mp value)
        · obtain ⟨entry, -, rfl⟩ := mem_map.mp added
          exact Prod.ext (congrArg encode (decodeLossy_encode _))
            (congrArg encode (decodeLossy_encode _))
      rw [map_congr_left unchanged, map_id']
      exact perm
    · rw [map_map]
      have sameKeys : foldedKey ∘ lossyPair = foldedKey := funext foldedKey_lossyPair
      rw [sameKeys]
      exact increasing

/-- A caller's pair beside two of the bootstrap. -/
theorem environmentBlock_faithful_path :
    ∃ block, environmentBlockExact [([0x50], [0x2f])]
        [(parentEnv, ['7']), (publicBootstrapEnv, ['1'])] = .ok block ∧
      Faithful [([0x50], [0x2f])] [(parentEnv, ['7']), (publicBootstrapEnv, ['1'])] block := by
  obtain ⟨block, written, faithful⟩ := environmentBlock_faithful [0x70] [[0x70]]
    [([0x50], [0x2f])] [(parentEnv, ['7']), (publicBootstrapEnv, ['1'])] (by decide) (by decide)
    (by decide) (by decide)
  exact ⟨block, written, faithful.mpr (by decide)⟩

/-- A value that is one unpaired surrogate is accepted, and another value is written for it. -/
theorem environmentBlock_replaces_surrogate :
    publicCommandStringsAreValid [0x70] [[0x70]] [([0x41], [0xD800])] = true ∧
      environmentBlockExact [([0x41], [0xD800])] [] = .ok [0x41, 0x3d, 0xFFFD, 0, 0] ∧
      blockPairs [0x41, 0x3d, 0xFFFD, 0, 0] = some [([0x41], [0xFFFD])] ∧
      ¬ Faithful [([0x41], [0xD800])] [] [0x41, 0x3d, 0xFFFD, 0, 0] := by
  refine ⟨by decide, by decide, by decide, ?_⟩
  rintro ⟨pairs, read, together, -⟩
  have found : blockPairs [0x41, 0x3d, 0xFFFD, 0, 0] = some [([0x41], [0xFFFD])] := by decide
  obtain rfl := Option.some.inj (found.symm.trans read)
  exact absurd (together.mem_iff.mpr mem_cons_self) (by decide)

end NativeIpc.Windows
