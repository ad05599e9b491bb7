import Mathlib.Data.List.Sort

/-!
# Lists sorted by a key

`sortBy key` is a stable sort by a key. On lists whose keys are distinct
the result depends only on the members, and a sorted list has distinct keys iff
no two neighbours agree.
-/

namespace NativeIpc.Lib

open List

variable {α β κ : Type} [LinearOrder κ]

/-- `list.sort_by_key(key)`. -/
def sortBy (key : α → κ) (list : List α) : List α :=
  list.insertionSort fun a b => key a ≤ key b

/-- The first of two neighbours with the same key, as `windows(2).find(..)` finds it. -/
def equalNeighbour (key : α → κ) (list : List α) : Option α :=
  ((list.zip list.tail).find? fun pair => key pair.1 = key pair.2).map Prod.fst

variable {key : α → κ}

theorem sortBy_sorted (key : α → κ) (list : List α) :
    (sortBy key list).Pairwise fun a b => key a ≤ key b := by
  let r : α → α → Prop := fun a b => key a ≤ key b
  have : Std.Total r := ⟨fun a b => le_total _ _⟩
  have : IsTrans α r := ⟨fun _ _ _ => le_trans⟩
  exact pairwise_insertionSort r list

theorem sortBy_perm (key : α → κ) (list : List α) : (sortBy key list).Perm list :=
  perm_insertionSort _ _

theorem length_sortBy (key : α → κ) (list : List α) : (sortBy key list).length = list.length :=
  (sortBy_perm key list).length_eq

variable {list : List α}

theorem mem_sortBy {a : α} : a ∈ sortBy key list ↔ a ∈ list :=
  (sortBy_perm key list).mem_iff

/-- A list in order of its keys stays as it is. -/
theorem sortBy_eq_self (increasing : (list.map key).Pairwise (· < ·)) : sortBy key list = list := by
  let r : α → α → Prop := fun a b => key a ≤ key b
  exact List.Pairwise.insertionSort_eq (r := r)
    ((pairwise_map.mp increasing).imp fun h => le_of_lt h)

/-- Sorting looks at the keys only. -/
theorem map_sortBy {key' : β → κ} (f : α → β) (same : ∀ a, key' (f a) = key a)
    (list : List α) : (sortBy key list).map f = sortBy key' (list.map f) := by
  apply map_insertionSort
  intro a _ b _
  rw [same, same]

/-- Distinct keys are strictly increasing after sorting. -/
theorem increasing_sortBy (distinct : (list.map key).Nodup) :
    ((sortBy key list).map key).Pairwise (· < ·) := by
  have hnodup : ((sortBy key list).map key).Nodup :=
    ((sortBy_perm key list).map key).nodup_iff.mpr distinct
  rw [pairwise_map]
  refine ((sortBy_sorted key list).and (pairwise_map.mp hnodup)).imp ?_
  rintro a b ⟨hle, hne⟩
  exact lt_of_le_of_ne hle hne

variable {list' : List α}

/-- With distinct keys the sorted list depends only on the members. -/
theorem sortBy_eq_of_perm (perm : list.Perm list')
    (distinct : (list.map key).Nodup) : sortBy key list = sortBy key list' := by
  have hdistinct' : (list'.map key).Nodup := (perm.map key).nodup_iff.mp distinct
  have hperm := (sortBy_perm key list).trans (perm.trans (sortBy_perm key list').symm)
  refine hperm.eq_of_pairwise ?_ (pairwise_map.mp (increasing_sortBy distinct))
    (pairwise_map.mp (increasing_sortBy hdistinct'))
  intro a b _ _ hab hba
  exact absurd hab (lt_asymm hba)

/-- Lists with increasing keys are equal when they have the same members. -/
theorem eq_of_mem_iff (increasing : (list.map key).Pairwise (· < ·))
    (increasing' : (list'.map key).Pairwise (· < ·)) (same : ∀ a, a ∈ list ↔ a ∈ list') :
    list = list' := by
  have distinct : (list.map key).Nodup := increasing.imp fun hlt => ne_of_lt hlt
  have distinct' : (list'.map key).Nodup := increasing'.imp fun hlt => ne_of_lt hlt
  have perm : list.Perm list' :=
    (perm_ext_iff_of_nodup distinct.of_map distinct'.of_map).mpr same
  have sorted := sortBy_eq_of_perm perm distinct
  rwa [sortBy_eq_self increasing, sortBy_eq_self increasing'] at sorted

/-- On a sorted list, no equal neighbours means strictly increasing. -/
theorem equalNeighbour_eq_none (sorted : list.Pairwise fun a b => key a ≤ key b) :
    equalNeighbour key list = none ↔ (list.map key).Pairwise (· < ·) := by
  induction list with
  | nil => simp [equalNeighbour]
  | cons a rest ih =>
    cases rest with
    | nil => simp [equalNeighbour]
    | cons b rest =>
      obtain ⟨hall, hrest⟩ := pairwise_cons.mp sorted
      have hab := hall b mem_cons_self
      have hstep : equalNeighbour key (a :: b :: rest) = none ↔
          key a ≠ key b ∧ equalNeighbour key (b :: rest) = none := by
        simp [equalNeighbour]
      rw [hstep, ih hrest, map_cons (l := b :: rest), pairwise_cons]
      refine and_congr_left fun hlt => ?_
      obtain ⟨hleast, -⟩ := pairwise_cons.mp hlt
      constructor
      · intro hne k hk
        have hlt : key a < key b := lt_of_le_of_ne hab hne
        rcases mem_cons.mp hk with rfl | hk
        · exact hlt
        · exact hlt.trans (hleast k hk)
      · intro hbelow
        exact ne_of_lt (hbelow (key b) mem_cons_self)

end NativeIpc.Lib
