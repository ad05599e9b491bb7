import NativeIpc.Lib.Bytes

/-!
# Writes in any order

An encoder that fills a buffer by writes at fixed offsets, in an order of its
own. Writes to ranges apart from each other commute, so writes that cover the
buffer without a gap leave the concatenation of what they write, and a write of
what already stands there can be left out.
-/

namespace NativeIpc.Lib.Bytes

open List

variable {ε : Type} {bytes : Bytes} {writes writes' : List (Nat × Bytes)}

/-- Writes one after the other, each an offset and what is written there. -/
def putAll (bytes : Bytes) : List (Nat × Bytes) → Run ε Bytes
  | [] => pure bytes
  | write :: writes => do
    let bytes ← put bytes write.1 write.2
    putAll bytes writes

/-- The buffer that the writes leave. -/
def overwriteAll (bytes : Bytes) : List (Nat × Bytes) → Bytes
  | [] => bytes
  | write :: writes => (bytes.overwrite write.1 write.2).overwriteAll writes

/-- Every write stays within `size` bytes. -/
def Fit (size : Nat) (writes : List (Nat × Bytes)) : Prop :=
  ∀ write ∈ writes, write.1 + write.2.length ≤ size

/-- The ranges of two writes do not meet. -/
def Apart (a b : Nat × Bytes) : Prop := a.1 + a.2.length ≤ b.1 ∨ b.1 + b.2.length ≤ a.1

/-- The writes of consecutive fields from `start` on. -/
def placed : Nat → List Bytes → List (Nat × Bytes)
  | _, [] => []
  | start, field :: fields => (start, field) :: placed (start + field.length) fields

/-! ### Composition -/

variable {write : Nat × Bytes} {start : Nat}

theorem fit_cons {size : Nat} :
    Fit size (write :: writes) ↔ write.1 + write.2.length ≤ size ∧ Fit size writes := by
  simp [Fit]

theorem overwriteAll_append (bytes : Bytes) (writes writes' : List (Nat × Bytes)) :
    bytes.overwriteAll (writes ++ writes') = (bytes.overwriteAll writes).overwriteAll writes' := by
  induction writes generalizing bytes with
  | nil => rfl
  | cons write writes ih => exact ih _

theorem putAll_append (bytes : Bytes) (writes writes' : List (Nat × Bytes)) :
    (putAll bytes (writes ++ writes') : Run ε Bytes) =
      putAll bytes writes >>= fun bytes => putAll bytes writes' := by
  induction writes generalizing bytes with
  | nil => rfl
  | cons write writes ih =>
    simp only [cons_append, putAll, bind_assoc]
    congr 1
    funext bytes
    exact ih bytes

/-- Writes that fit go through. -/
theorem putAll_eq (fit : Fit bytes.length writes) :
    (putAll bytes writes : Run ε Bytes) = .ok (bytes.overwriteAll writes) := by
  induction writes generalizing bytes with
  | nil => rfl
  | cons write writes ih =>
    rw [fit_cons] at fit
    have hput : (put bytes write.1 write.2 : Run ε Bytes) = .ok (bytes.overwrite write.1 write.2) :=
      put_eq_ok.mpr ⟨fit.1, rfl⟩
    rw [putAll, hput, Run.ok_bind, overwriteAll]
    exact ih ((length_overwrite fit.1).symm ▸ fit.2)

/-! ### Order -/

theorem Apart.symm {a b : Nat × Bytes} (h : Apart a b) : Apart b a := Or.symm h

/-- Writes to ranges apart from each other commute. -/
theorem overwrite_comm {a b : Nat × Bytes} (apart : Apart a b) (fit : Fit bytes.length [a, b]) :
    (bytes.overwrite a.1 a.2).overwrite b.1 b.2 = (bytes.overwrite b.1 b.2).overwrite a.1 a.2 := by
  simp only [fit_cons] at fit
  obtain ⟨ha, hb, -⟩ := fit
  have hla := length_overwrite ha
  have hlb := length_overwrite hb
  apply ext_getElem?
  intro i
  rw [getElem?_overwrite (by omega), getElem?_overwrite (by omega), getElem?_overwrite (by omega),
    getElem?_overwrite (by omega)]
  by_cases hia : a.1 ≤ i ∧ i < a.1 + a.2.length
  · have hib : ¬ (b.1 ≤ i ∧ i < b.1 + b.2.length) := by
      rcases apart with apart | apart <;> omega
    simp [hia, hib]
  · simp [hia]

/-- The order of writes to ranges apart from each other does not matter. -/
theorem overwriteAll_perm (perm : writes.Perm writes') (apart : writes.Pairwise Apart)
    (fit : Fit bytes.length writes) : bytes.overwriteAll writes = bytes.overwriteAll writes' := by
  induction perm generalizing bytes with
  | nil => rfl
  | cons write _ ih =>
    rw [fit_cons] at fit
    exact ih apart.of_cons ((length_overwrite fit.1).symm ▸ fit.2)
  | swap a b rest =>
    have hba : Apart b a := (pairwise_cons.mp apart).1 a mem_cons_self
    have hfit : Fit bytes.length [b, a] := fun write hwrite => fit write (by
      rcases mem_pair.mp hwrite with rfl | rfl <;> simp)
    exact congrArg (overwriteAll · rest) (overwrite_comm hba hfit)
  | trans first _ ih ih' =>
    have hapart := (first.pairwise_iff fun h => h.symm).mp apart
    rw [ih apart fit, ih' hapart fun write hwrite => fit write (first.mem_iff.mpr hwrite)]

/-! ### Writes that cover a buffer -/

theorem start_le_of_mem_placed {fields : List Bytes} :
    ∀ write ∈ placed start fields, start ≤ write.1 := by
  induction fields generalizing start with
  | nil => simp [placed]
  | cons field fields ih =>
    intro write hwrite
    rcases mem_cons.mp hwrite with rfl | hwrite
    · exact le_rfl
    · exact (Nat.le_add_right _ _).trans (ih write hwrite)

theorem apart_placed (start : Nat) (fields : List Bytes) :
    (placed start fields).Pairwise Apart := by
  induction fields generalizing start with
  | nil => exact .nil
  | cons field fields ih =>
    exact pairwise_cons.mpr ⟨fun write hwrite => .inl (start_le_of_mem_placed write hwrite), ih _⟩

theorem fit_placed (start : Nat) (fields : List Bytes) :
    Fit (start + fields.flatten.length) (placed start fields) := by
  induction fields generalizing start with
  | nil => simp [placed, Fit]
  | cons field fields ih =>
    rw [flatten_cons, length_append, ← Nat.add_assoc, placed, fit_cons]
    exact ⟨Nat.le_add_right _ _, ih _⟩

theorem overwriteAll_placed (bytes : Bytes) (start : Nat) (fields : List Bytes) :
    bytes.overwriteAll (placed start fields) = bytes.overwriteFields start fields := by
  induction fields generalizing start bytes with
  | nil => rfl
  | cons field fields ih => exact ih _ _

section Covering

variable {fields : List Bytes} (perm : writes.Perm (placed 0 fields))
  (room : fields.flatten.length ≤ bytes.length)
include perm room

theorem fit_of_covering : Fit bytes.length writes := by
  intro write hwrite
  have hfit := fit_placed 0 fields write (perm.mem_iff.mp hwrite)
  omega

/-- Writes that are those of consecutive fields in some order leave these fields. -/
theorem overwriteAll_covering :
    bytes.overwriteAll writes = fields.flatten ++ bytes.drop fields.flatten.length := by
  have fit : Fit bytes.length (placed 0 fields) := fit_of_covering (.refl _) room
  rw [← overwriteAll_perm perm.symm (apart_placed 0 fields) fit, overwriteAll_placed]
  simpa using overwriteFields_append [] bytes fields

end Covering

/-! ### Writes without effect -/

theorem overwrite_eq_self {part : Bytes}
    (stands : bytes.extract start (start + part.length) = part) :
    bytes.overwrite start part = bytes := by
  have htail : bytes.drop start = part ++ bytes.drop (start + part.length) := by
    rw [extract_eq_take_drop, Nat.add_sub_cancel_left] at stands
    conv_lhs => rw [← take_append_drop part.length (bytes.drop start)]
    rw [drop_drop, stands]
  rw [overwrite, append_assoc, ← htail, take_append_drop]

theorem overwriteAll_eq_self
    (stand : ∀ write ∈ writes, bytes.extract write.1 (write.1 + write.2.length) = write.2) :
    bytes.overwriteAll writes = bytes := by
  induction writes with
  | nil => rfl
  | cons write writes ih =>
    rw [forall_mem_cons] at stand
    rw [overwriteAll, overwrite_eq_self stand.1, ih stand.2]

theorem extract_overwriteAll_of_apart {stop : Nat} (fit : Fit bytes.length writes)
    (apart : ∀ write ∈ writes, stop ≤ write.1 ∨ write.1 + write.2.length ≤ start) :
    (bytes.overwriteAll writes).extract start stop = bytes.extract start stop := by
  induction writes generalizing bytes with
  | nil => rfl
  | cons write writes ih =>
    rw [fit_cons] at fit
    rw [forall_mem_cons] at apart
    rw [overwriteAll, ih ((length_overwrite fit.1).symm ▸ fit.2) apart.2]
    exact extract_overwrite_of_disjoint fit.1 apart.1

/-- A write of what already stands there, apart from the writes before it, can be left out. -/
theorem overwriteAll_skip (fit : Fit bytes.length (write :: writes))
    (apart : ∀ other ∈ writes, Apart write other)
    (stands : bytes.extract write.1 (write.1 + write.2.length) = write.2) :
    bytes.overwriteAll (writes ++ write :: writes') = bytes.overwriteAll (writes ++ writes') := by
  rw [fit_cons] at fit
  rw [overwriteAll_append, overwriteAll_append, overwriteAll, overwrite_eq_self]
  rw [extract_overwriteAll_of_apart fit.2 apart, stands]

end NativeIpc.Lib.Bytes
