import Mathlib.Data.List.Basic
import Mathlib.Order.Lattice
import Mathlib.Data.List.Pairwise

/-!
# Binary search

The halving loop of `slice::binary_search_by_key` over a list, and its
agreement with a linear search when the keys are strictly increasing. The
loop keeps a window `base .. base + size`; a midpoint whose key is not above
the sought one becomes the new base.
-/

namespace NativeIpc.Lib

open List

variable {α κ : Type} [LinearOrder κ]

/-- The halving loop: the base of the last window. -/
def narrow (xs : List α) (key : α → κ) (k : κ) : Nat → Nat → Nat → Nat
  | 0, base, _ => base
  | fuel + 1, base, size =>
    if size ≤ 1 then base
    else
      let mid := base + size / 2
      match xs[mid]? with
      | some x => narrow xs key k fuel (if k < key x then base else mid) (size - size / 2)
      | none => base

/-- `xs.binary_search_by_key(&k, key).ok()`. -/
def binarySearch (xs : List α) (key : α → κ) (k : κ) : Option Nat :=
  let base := narrow xs key k xs.length 0 xs.length
  (xs[base]?).bind fun x => if key x = k then some base else none

/-- Every position that holds the key lies in the window. -/
def Window (xs : List α) (key : α → κ) (k : κ) (base size : Nat) : Prop :=
  base + size ≤ xs.length ∧
    ∀ i x, xs[i]? = some x → key x = k → base ≤ i ∧ i < base + size

omit [LinearOrder κ] in
theorem window_full (xs : List α) (key : α → κ) (k : κ) : Window xs key k 0 xs.length := by
  refine ⟨by omega, ?_⟩
  intro i x hx _
  have := (List.getElem?_eq_some_iff.mp hx).1
  omega

variable {key : α → κ}
  {xs : List α}

/-- One turn of the loop keeps the window property. -/
theorem Window.halve {k : κ} {base size : Nat} {x : α}
    (sorted : xs.Pairwise fun a b => key a < key b) (window : Window xs key k base size)
    (large : 1 < size) (hx : xs[base + size / 2]? = some x) :
    Window xs key k (if k < key x then base else base + size / 2) (size - size / 2) := by
  obtain ⟨hfit, hin⟩ := window
  have hmono {i j : Nat} {a b : α} (ha : xs[i]? = some a) (hb : xs[j]? = some b) (hij : i < j) :
      key a < key b := by
    obtain ⟨hi, rfl⟩ := List.getElem?_eq_some_iff.mp ha
    obtain ⟨hj, rfl⟩ := List.getElem?_eq_some_iff.mp hb
    exact pairwise_iff_getElem.mp sorted i j hi hj hij
  split
  · rename_i hgt
    refine ⟨by omega, ?_⟩
    intro i y hy hk
    obtain ⟨hlow, _⟩ := hin i y hy hk
    -- the midpoint is above the key, so the key stands before it
    have hlt : i < base + size / 2 := by
      by_contra hge
      rcases Nat.lt_or_eq_of_le (Nat.le_of_not_lt hge) with hmid | hmid
      · exact absurd (hmono hx hy hmid) (by rw [hk]; exact not_lt_of_gt hgt)
      · rw [hmid, hy] at hx
        cases hx
        exact absurd hgt (by rw [hk]; exact lt_irrefl _)
    omega
  · rename_i hle
    refine ⟨by omega, ?_⟩
    intro i y hy hk
    obtain ⟨_, hhigh⟩ := hin i y hy hk
    have hge : base + size / 2 ≤ i := by
      by_contra hlt
      exact hle (by rw [← hk]; exact hmono hy hx (by omega))
    omega

/-- The loop ends on the only position that can hold the key. -/
theorem narrow_of_mem {k : κ} {fuel base size i : Nat} {x : α}
    (sorted : xs.Pairwise fun a b => key a < key b) (window : Window xs key k base size)
    (enough : size ≤ fuel) (hx : xs[i]? = some x) (hk : key x = k) :
    narrow xs key k fuel base size = i := by
  induction fuel generalizing base size with
  | zero =>
    have := window.2 i x hx hk
    omega
  | succ fuel ih =>
    have hi := window.2 i x hx hk
    rw [narrow]
    split
    · omega
    · rename_i large
      have hlt : base + size / 2 < xs.length := by
        have := window.1
        omega
      simp only [getElem?_eq_getElem hlt]
      exact ih (window.halve sorted (by omega) (getElem?_eq_getElem hlt)) (by omega)

/-- On strictly increasing keys binary search finds what a linear search finds. -/
theorem binarySearch_eq_find (k : κ) (sorted : xs.Pairwise fun a b => key a < key b) :
    (binarySearch xs key k).bind (xs[·]?) = xs.find? fun x => decide (key x = k) := by
  cases hfind : xs.find? fun x => decide (key x = k) with
  | some x =>
    have hk : key x = k := by simpa using find?_some hfind
    obtain ⟨i, hx⟩ := mem_iff_getElem?.mp (mem_of_find?_eq_some hfind)
    have hbase := narrow_of_mem sorted (window_full xs key k) (Nat.le_refl _) hx hk
    simp [binarySearch, hbase, hx, hk]
  | none =>
    have habsent : ∀ x ∈ xs, key x ≠ k := by
      intro x hx
      simpa using find?_eq_none.mp hfind x hx
    rw [Option.bind_eq_none_iff]
    intro i hi
    simp only [binarySearch, Option.bind_eq_some_iff] at hi
    obtain ⟨x, hx, hif⟩ := hi
    rw [if_neg (habsent x (mem_of_getElem? hx))] at hif
    cases hif

end NativeIpc.Lib
