import Mathlib.Order.Interval.Finset.Nat
import NativeIpc.Session.Liveness

/-!
# Prefaulting a range

`prefault` of a reader loads one byte in every page of a range, and that of a writer then
stores to the same bytes.
-/

namespace NativeIpc.Session

open NativeIpc.Lib Run List

/-! ### The touched offsets -/

/-- The first offset of the range in each of its pages. -/
def pageOffsets (pageSize start stop : Nat) : List Nat :=
  (List.range' (start / pageSize) ((stop - 1) / pageSize + 1 - start / pageSize)).map fun page =>
    max start (page * pageSize)

section Pages

variable {p start stop : Nat}

/-- The page of `start` ends behind it, and at most a page later. -/
theorem page_end (pos : 0 < p) (start : Nat) :
    start < (start / p + 1) * p ∧ (start / p + 1) * p ≤ start + p := by
  have split := Nat.div_add_mod start p
  have below := Nat.mod_lt start pos
  rw [Nat.add_mul, Nat.one_mul, Nat.mul_comm]
  omega

variable {page : Nat}

/-- In a page behind that of `start` the range begins at the page's own start. -/
theorem max_start (pos : 0 < p) (behind : start / p < page) : max start (page * p) = page * p :=
  max_eq_right ((Nat.div_lt_iff_lt_mul pos).mp behind).le

theorem max_start_same : max start (start / p * p) = start :=
  max_eq_left (Nat.div_mul_le_self start p)

/-- The first offset of the range in a page lies in that page. -/
theorem max_div (pos : 0 < p) (after : start / p ≤ page) : max start (page * p) / p = page := by
  rcases Nat.eq_or_lt_of_le after with rfl | behind
  · rw [max_start_same]
  · rw [max_start pos behind, Nat.mul_div_cancel _ pos]

/-- A range within one page has one offset. -/
theorem pageOffsets_last (pos : 0 < p) (before : start < stop) (last : stop ≤ (start / p + 1) * p) :
    pageOffsets p start stop = [start] := by
  have same : (stop - 1) / p = start / p := by
    have below : (stop - 1) / p < start / p + 1 := (Nat.div_lt_iff_lt_mul pos).mpr (by omega)
    exact Nat.le_antisymm (Nat.lt_succ_iff.mp below) (Nat.div_le_div_right (by omega))
  rw [pageOffsets, same, Nat.add_sub_cancel_left, List.range'_one, map_singleton, max_start_same]

/-- A longer range has its start, and the offsets of the range from the next page on. -/
theorem pageOffsets_next (pos : 0 < p) (more : (start / p + 1) * p < stop) :
    pageOffsets p start stop = start :: pageOffsets p ((start / p + 1) * p) stop := by
  have page : (start / p + 1) * p / p = start / p + 1 := Nat.mul_div_cancel _ pos
  have reached : start / p + 1 ≤ (stop - 1) / p := (Nat.le_div_iff_mul_le pos).mpr (by omega)
  have count : (stop - 1) / p + 1 - start / p = (stop - 1) / p + 1 - (start / p + 1) + 1 := by
    omega
  rw [pageOffsets, pageOffsets, page, count, List.range'_succ, map_cons, max_start_same]
  congr 1
  refine map_congr_left fun k member => ?_
  have behind : start / p + 1 ≤ k := (mem_range'_1.mp member).1
  rw [max_start pos behind, max_eq_right (Nat.mul_le_mul_right p behind)]

/-- The loop touches the offsets of the range, given a turn for each of its bytes. -/
theorem touchPages_eq {t : Target} {touch : Nat → Touch} {turns touches : Nat} (pos : 0 < p)
    (small : p < 2 ^ (t.bits - 1)) (fits : stop < 2 ^ (t.bits - 1)) (before : start < stop)
    (enough : stop - start ≤ turns) :
    touchPages t touch p stop turns touches start =
      ((pageOffsets p start stop).map touch,
        .ok (touches + (pageOffsets p start stop).length)) := by
  induction turns generalizing start touches with
  | zero => omega
  | succ turns ih =>
    obtain ⟨later, near⟩ := page_end pos start
    have double : 2 ^ t.bits = 2 ^ (t.bits - 1) + 2 ^ (t.bits - 1) := by
      rcases t.supported with width | width <;> simp [width]
    have page : checkedAdd t.bits (start / p) 1 = some (start / p + 1) := by
      refine checkedAdd_eq_some.mpr ⟨?_, rfl⟩
      have := Nat.div_le_self start p
      omega
    have next : checkedMul t.bits (start / p + 1) p = some ((start / p + 1) * p) :=
      checkedMul_eq_some.mpr ⟨by omega, rfl⟩
    simp only [touchPages, page, next, okOr, ok_bind]
    split
    · rename_i last
      rw [pageOffsets_last pos before last]
      rfl
    · rename_i more
      have offsets := pageOffsets_next pos (not_le.mp more)
      rw [ih (by omega) (by omega), offsets, map_cons, length_cons, Nat.add_assoc, Nat.add_comm 1]

/-- The touched offsets lie in the range, one in each page that meets it. -/
theorem pageOffsets_cover (pos : 0 < p) (before : start < stop) :
    (∀ offset ∈ pageOffsets p start stop, start ≤ offset ∧ offset < stop) ∧
      (pageOffsets p start stop).map (· / p) =
        List.range' (start / p) ((stop - 1) / p + 1 - start / p) := by
  constructor
  · intro offset member
    obtain ⟨page, inside, rfl⟩ := mem_map.mp member
    have bound := (mem_range'_1.mp inside).2
    have start_le : start / p ≤ (stop - 1) / p := Nat.div_le_div_right (by omega)
    have page_le : page * p ≤ stop - 1 := (Nat.le_div_iff_mul_le pos).mp (by omega)
    omega
  · rw [pageOffsets, map_map]
    refine (map_congr_left fun page member => ?_).trans (map_id _)
    exact max_div pos (mem_range'_1.mp member).1

/-- A page meets the range exactly if it is one of those from the first to the last. -/
theorem mem_pages (pos : 0 < p) (before : start < stop) :
    page ∈ List.range' (start / p) ((stop - 1) / p + 1 - start / p) ↔
      ∃ offset, start ≤ offset ∧ offset < stop ∧ offset / p = page := by
  rw [← (pageOffsets_cover pos before).2, mem_map]
  constructor
  · rintro ⟨offset, member, rfl⟩
    obtain ⟨from_, to_⟩ := (pageOffsets_cover pos before).1 offset member
    exact ⟨offset, from_, to_, rfl⟩
  · rintro ⟨offset, from_, to_, rfl⟩
    have member : offset / p ∈ List.range' (start / p) ((stop - 1) / p + 1 - start / p) := by
      have lower : start / p ≤ offset / p := Nat.div_le_div_right from_
      have upper : offset / p ≤ (stop - 1) / p := Nat.div_le_div_right (by omega)
      exact mem_range'_1.mpr (by omega)
    exact ⟨_, mem_map_of_mem member, max_div pos (mem_range'_1.mp member).1⟩

end Pages

/-- The range check refuses exactly the ranges that are reversed or end behind the limit. -/
theorem validateRange_cases {t : Target} {start stop limit : Nat} (fits : limit < 2 ^ t.bits) :
    ((stop < start ∨ limit < stop) → ∃ error, validateRange t start stop limit = fail error) ∧
      (¬ (stop < start ∨ limit < stop) → validateRange t start stop limit = .ok ()) := by
  by_cases reversed : stop < start
  · refine ⟨fun _ => ⟨.invalidRange, ?_⟩, fun good => absurd (.inl reversed) good⟩
    simp only [validateRange, rejectIf, if_pos reversed]
    rfl
  · simp only [validateRange, rejectIf, if_neg reversed, ok_bind, checkedEnd, checkedAdd,
      Nat.add_sub_cancel' (not_lt.mp reversed)]
    by_cases word : stop < 2 ^ t.bits
    · by_cases behind : limit < stop
      · refine ⟨fun _ => ⟨.outOfBounds, ?_⟩, fun good => absurd (.inr behind) good⟩
        simp only [if_pos word, if_pos behind, okOr, ok_bind]
        rfl
      · refine ⟨fun bad => absurd bad (not_or.mpr ⟨reversed, behind⟩), fun _ => ?_⟩
        simp only [if_pos word, if_neg behind, okOr, ok_bind]
        rfl
    · refine ⟨fun _ => ⟨.outOfBounds, ?_⟩, fun good => absurd (.inr (by omega)) good⟩
      simp only [if_neg word, okOr]
      rfl

/-- A range that is reversed or ends behind the region is refused before anything is touched.
    Otherwise both prefaults return, given a turn for each byte: the reader touches one offset in
    each page that meets the range, within the range, the writer touches the same offsets again,
    and the pages are counted. -/
theorem prefault_covers {t : Target} {turns : Nat} {mapping : ActiveMapping} {start stop : Nat}
    (page : mapping.pageSize < 2 ^ (t.bits - 1)) (region : mapping.logicalLen < 2 ^ (t.bits - 1))
    (enough : stop - start ≤ turns) :
    ((stop < start ∨ mapping.logicalLen < stop) →
      ∃ error, mapping.prefaultReader t turns .active start stop = ([], fail error) ∧
        mapping.prefaultWriter t turns .active start stop = ([], fail error)) ∧
    (¬ (stop < start ∨ mapping.logicalLen < stop) →
      ∃ offsets : List Nat,
        mapping.prefaultReader t turns .active start stop =
          (offsets.map .read, .ok ⟨stop - start, offsets.length⟩) ∧
        mapping.prefaultWriter t turns .active start stop =
          (offsets.map .read ++ offsets.map .write, .ok ⟨stop - start, offsets.length⟩) ∧
        (∀ offset ∈ offsets, start ≤ offset ∧ offset < stop) ∧
        (offsets.map (· / mapping.pageSize)).Nodup ∧
        (∀ k, k ∈ offsets.map (· / mapping.pageSize) ↔
          ∃ offset, start ≤ offset ∧ offset < stop ∧ k * mapping.pageSize ≤ offset ∧
            offset < (k + 1) * mapping.pageSize) ∧
        offsets.length = ((Finset.Ico start stop).image (· / mapping.pageSize)).card) := by
  have word : 2 ^ (t.bits - 1) ≤ 2 ^ t.bits := Nat.pow_le_pow_right Nat.two_pos (Nat.sub_le _ _)
  obtain ⟨refused, passed⟩ : ((stop < start ∨ mapping.logicalLen < stop) → _) ∧ (¬ _ → _) :=
    validateRange_cases (lt_of_lt_of_le region word)
  refine ⟨fun bad => ?_, fun good => ?_⟩
  · obtain ⟨error, result⟩ := refused bad
    refine ⟨error, ?_, ?_⟩ <;>
      simp only [ActiveMapping.prefaultReader, ActiveMapping.prefaultWriter, ensureActive,
        prefaultRead, result, fail]
  · simp only [ActiveMapping.prefaultReader, ActiveMapping.prefaultWriter, ensureActive,
      prefaultRead, passed good]
    by_cases before : start < stop
    · have pos := mapping.pageSize_pos
      have loop (touch : Nat → Touch) : touchPages t touch mapping.pageSize stop turns 0 start = _ :=
        touchPages_eq pos page (by omega) before enough
      obtain ⟨inside, pages⟩ := pageOffsets_cover pos before
      refine ⟨pageOffsets mapping.pageSize start stop, ?_, ?_, inside, ?_, fun k => ?_, ?_⟩
      · rw [if_neg (by omega), loop]
        simp [Except.map]
      · rw [if_neg (by omega), loop, loop]
        simp [Except.map, before]
      · rw [pages]
        exact List.nodup_range'
      · rw [pages, mem_pages pos before]
        refine exists_congr fun offset => and_congr_right fun _ => and_congr_right fun _ => ?_
        rw [Nat.div_eq_iff pos, Nat.add_mul, Nat.one_mul]
        omega
      · have cover : ((pageOffsets mapping.pageSize start stop).map (· / mapping.pageSize)).toFinset =
            (Finset.Ico start stop).image (· / mapping.pageSize) := by
          ext k
          rw [List.mem_toFinset, pages, mem_pages pos before]
          simp [and_assoc]
        rw [← cover, pages, List.toFinset_card_of_nodup List.nodup_range', ← pages, List.length_map]
    · obtain rfl : start = stop := by omega
      refine ⟨[], by simp, by simp, by simp, by simp, fun k => ⟨fun none => (by cases none), ?_⟩,
        by simp⟩
      rintro ⟨offset, from_, to_, -⟩
      omega

/-- A region of five pages. -/
def fivePages : ActiveMapping := ⟨List.replicate 20 0, 20, 4, ⟨20⟩, by decide, by decide, by decide⟩

/-- A range that begins and ends inside a page, and one that ends behind the region. -/
theorem prefault_covers_fivePages :
    (∃ offsets : List Nat, offsets.length = 3 ∧
      fivePages.prefaultWriter .w64 7 .active 3 10 =
        (offsets.map .read ++ offsets.map .write, .ok ⟨7, 3⟩)) ∧
    ∃ error, fivePages.prefaultWriter .w64 7 .active 15 21 = ([], fail error) := by
  have page : fivePages.pageSize < 2 ^ (Target.w64.bits - 1) := by decide
  have region : fivePages.logicalLen < 2 ^ (Target.w64.bits - 1) := by decide
  have whole : 10 - 3 ≤ 7 := by decide
  have behind : 21 - 15 ≤ 7 := by decide
  obtain ⟨offsets, -, writer, -, -, -, count⟩ := (prefault_covers page region whole).2 (by decide)
  have three : offsets.length = 3 := count.trans (by decide)
  rw [three] at writer
  obtain ⟨error, -, refused⟩ := (prefault_covers page region behind).1 (by decide)
  exact ⟨⟨offsets, three, writer⟩, error, refused⟩

end NativeIpc.Session
