import Mathlib.Tactic.Common
import Mathlib.Data.List.Range

/-!
# Runs of checked code

`Run ε α` is the result of a computation that returns a value, returns an
error of type `ε`, or faults. A fault is whatever the source leaves unchecked:
an index outside a slice, an unchecked operation whose exact result does not
fit its type, or a reached `unreachable!()`. In a debug build these stop the
program and in a release build they continue with a wrapped value, so code that
never faults computes the same result in both.
-/

namespace NativeIpc.Lib

open List

/-- Why a computation stopped without a value. -/
inductive Stop (ε : Type) where
  | error (e : ε)
  | fault
  deriving DecidableEq, Repr

/-- A value, an error of the program's own, or a fault. -/
abbrev Run (ε α : Type) : Type := Except (Stop ε) α

instance {ε α : Type} [DecidableEq ε] [DecidableEq α] : DecidableEq (Run ε α)
  | .ok a, .ok b => decidable_of_iff (a = b) (by simp)
  | .error a, .error b => decidable_of_iff (a = b) (by simp)
  | .ok _, .error _ => isFalse (by simp)
  | .error _, .ok _ => isFalse (by simp)

namespace Run

variable {ε α β : Type}

/-- `return Err(e)`. -/
def fail (e : ε) : Run ε α := .error (.error e)

/-- An operation outside its domain. -/
def fault : Run ε α := .error .fault

/-- `if bad { return Err(e) }`. -/
def rejectIf (bad : Prop) [Decidable bad] (e : ε) : Run ε Unit :=
  if bad then fail e else .ok ()

/-- `value.ok_or(e)?`. -/
def okOr (value : Option α) (e : ε) : Run ε α :=
  match value with
  | some a => .ok a
  | none => fail e

/-- `?` with a conversion of the error. -/
def mapError {ε' : Type} (convert : ε → ε') : Run ε α → Run ε' α
  | .ok a => .ok a
  | .error (.error e) => .error (.error (convert e))
  | .error .fault => .error .fault

/-- Whether a run returned, failed or faulted. -/
def outcome : Run ε α → Run Unit Unit
  | .ok _ => .ok ()
  | .error (.error _) => .error (.error ())
  | .error .fault => .error .fault

/-- An unchecked operation: a fault unless the condition for its exact result holds. -/
def assume (fits : Prop) [Decidable fits] (a : α) : Run ε α :=
  if fits then .ok a else fault

/-- `x.expect(..)`: a fault for an error. -/
def expect {ε' : Type} : Run ε α → Run ε' α
  | .ok a => .ok a
  | .error _ => fault

variable {x : Run ε α} {xs : List α} {body : Nat → Run ε Unit}

theorem bind_eq_ok {f : α → Run ε β} {b : β} :
    (x >>= f) = .ok b ↔ ∃ a, x = .ok a ∧ f a = .ok b := by
  cases x <;> simp [bind, Except.bind]

theorem ok_bind (a : α) (f : α → Run ε β) : (.ok a >>= f) = f a := rfl

/-- A `mapM` that returns has every value of its function. -/
theorem forall₂_of_mapM {f : α → Run ε β} {ys : List β} (returned : xs.mapM f = .ok ys) :
    Forall₂ (fun x y => f x = .ok y) xs ys := by
  induction xs generalizing ys with
  | nil =>
    cases returned
    exact .nil
  | cons x xs ih =>
    rw [mapM_cons] at returned
    obtain ⟨y, first, resting⟩ := bind_eq_ok.mp returned
    obtain ⟨ys, later, built⟩ := bind_eq_ok.mp resting
    cases built
    exact .cons first (ih later)

/-- A `mapM` returns if its function does on each element. -/
theorem exists_mapM_of_forall₂ {γ : Type} {R : α → γ → Prop} {S : β → γ → Prop} {f : α → Run ε β}
    {zs : List γ} (all : Forall₂ R xs zs) (each : ∀ x z, R x z → ∃ y, f x = .ok y ∧ S y z) :
    ∃ ys, xs.mapM f = .ok ys ∧ Forall₂ S ys zs := by
  induction all with
  | nil => exact ⟨[], rfl, .nil⟩
  | @cons x z _ _ head _ ih =>
    obtain ⟨y, first, meets⟩ := each x z head
    obtain ⟨ys, later, rest⟩ := ih
    exact ⟨y :: ys, by rw [mapM_cons, first, later]; rfl, .cons meets rest⟩

/-- What related elements have in common, over the whole lists. -/
theorem map_eq_of_forall₂ {γ : Type} {R : α → β → Prop} {ys : List β} {f : α → γ} {g : β → γ}
    (all : Forall₂ R xs ys) (same : ∀ x y, R x y → g y = f x) : ys.map g = xs.map f := by
  induction all with
  | nil => rfl
  | cons head _ ih => rw [map_cons, map_cons, same _ _ head, ih]

theorem pure_eq_ok {a b : α} : (pure a : Run ε α) = .ok b ↔ a = b := by
  simp [pure, Except.pure]

theorem rejectIf_eq_ok {bad : Prop} [Decidable bad] {e : ε} {u : Unit} :
    rejectIf bad e = .ok u ↔ ¬ bad := by
  unfold rejectIf fail
  split <;> simp [*]

theorem okOr_eq_ok {value : Option α} {e : ε} {a : α} : okOr value e = .ok a ↔ value = some a := by
  cases value <;> simp [okOr, fail]

theorem assume_eq_ok {fits : Prop} [Decidable fits] {a b : α} :
    (assume fits a : Run ε α) = .ok b ↔ fits ∧ a = b := by
  unfold assume fault
  split <;> simp [*]

/-- A run that is known to return, at its result. -/
theorem eq_ok_get (returns : x.toOption.isSome) : x = .ok (x.toOption.get returns) := by
  cases x with
  | error stop => cases returns
  | ok a => rfl

theorem mapError_eq_ok {ε' : Type} {convert : ε → ε'} {a : α} :
    x.mapError convert = .ok a ↔ x = .ok a := by
  rcases x with (_ | _) | _ <;> simp [mapError]

theorem outcome_eq_ok : x.outcome = .ok () ↔ ∃ a, x = .ok a := by
  rcases x with (_ | _) | _ <;> simp [outcome]

/-! ### Loops -/

/-- `for i in 0..n { body(i)?; }`. -/
def forRange (n : Nat) (body : Nat → Run ε Unit) : Run ε Unit :=
  forM (List.range n) body

theorem forM_eq_ok {body : α → Run ε Unit} {u : Unit} :
    forM xs body = .ok u ↔ ∀ x ∈ xs, body x = .ok () := by
  induction xs with
  | nil => simp [pure, Except.pure]
  | cons x xs ih => simp [forM_cons, bind_eq_ok, ih, Unique.exists_iff]

theorem forRange_eq_ok {n : Nat} {u : Unit} :
    forRange n body = .ok u ↔ ∀ i < n, body i = .ok () := by
  simp [forRange, forM_eq_ok]

/-- A loop that carries a value: what holds of the start and is kept by each turn,
    as the processed items grow, holds of the result. -/
theorem foldlM_invariant {P : List α → β → Prop} {body : β → α → Run ε β} {init result : β}
    (run : xs.foldlM body init = .ok result) (start : P [] init)
    (turn : ∀ done x b b', P done b → body b x = .ok b' → P (done ++ [x]) b') : P xs result := by
  suffices general : ∀ (rest done : List α) (b : β), P done b →
      rest.foldlM body b = .ok result → P (done ++ rest) result by
    simpa using general xs [] init start run
  intro rest
  induction rest with
  | nil =>
    intro done b hb h
    rw [foldlM_nil, pure_eq_ok] at h
    rw [append_nil, ← h]
    exact hb
  | cons x rest ih =>
    intro done b hb h
    rw [foldlM_cons, bind_eq_ok] at h
    obtain ⟨b', hbody, hrest⟩ := h
    simpa using ih (done ++ [x]) b' (turn done x b b' hb hbody) hrest

/-- A counted loop that carries a value and never fails. -/
theorem foldRange_total {P : Nat → β → Prop} {body : β → Nat → Run ε β} {n : Nat} {init : β}
    (start : P 0 init) (turn : ∀ i < n, ∀ b, P i b → ∃ b', body b i = .ok b' ∧ P (i + 1) b') :
    ∃ result, (List.range n).foldlM body init = .ok result ∧ P n result := by
  induction n with
  | zero => exact ⟨init, rfl, start⟩
  | succ n ih =>
    obtain ⟨b, hrun, hb⟩ := ih fun i hi => turn i (by omega)
    obtain ⟨b', hbody, hb'⟩ := turn n (by omega) b hb
    refine ⟨b', ?_, hb'⟩
    rw [range_succ, foldlM_append, hrun]
    refine bind_eq_ok.mpr ⟨b, rfl, ?_⟩
    exact bind_eq_ok.mpr ⟨b', hbody, rfl⟩

/-- A loop that refuses a key it has seen, over items that it checks one by one. -/
theorem foldlM_distinct {κ : Type} {key : α → κ} {P : α → Prop} {body : List κ → α → Run ε (List κ)}
    (turn : ∀ seen x keys, body seen x = .ok keys ↔ P x ∧ key x ∉ seen ∧ key x :: seen = keys)
    {seen : List κ} :
    (∃ keys, xs.foldlM body seen = .ok keys) ↔
      (∀ x ∈ xs, P x) ∧ (xs.map key).Nodup ∧ ∀ x ∈ xs, key x ∉ seen := by
  induction xs generalizing seen with
  | nil => simp [pure, Except.pure]
  | cons x xs ih =>
    have first : (∃ keys, (x :: xs).foldlM body seen = .ok keys) ↔
        P x ∧ key x ∉ seen ∧ ∃ keys, xs.foldlM body (key x :: seen) = .ok keys := by
      simp only [foldlM_cons, bind_eq_ok, turn]
      constructor
      · rintro ⟨keys, _, ⟨holds, fresh, rfl⟩, rest⟩
        exact ⟨holds, fresh, keys, rest⟩
      · rintro ⟨holds, fresh, keys, rest⟩
        exact ⟨keys, _, ⟨holds, fresh, rfl⟩, rest⟩
    rw [first, ih]
    simp only [map_cons, nodup_cons, mem_map, mem_cons, not_or, not_exists, not_and]
    grind

/-! ### Absence of faults -/

/-- The run ended with a value or with an error of the program's own. -/
def NoFault (x : Run ε α) : Prop := x ≠ .error .fault

@[simp] theorem noFault_ok (a : α) : NoFault (.ok a : Run ε α) := by simp [NoFault]

@[simp] theorem noFault_pure (a : α) : NoFault (pure a : Run ε α) := noFault_ok a

@[simp] theorem noFault_fail (e : ε) : NoFault (fail e : Run ε α) := by simp [NoFault, fail]

@[simp] theorem noFault_rejectIf (bad : Prop) [Decidable bad] (e : ε) :
    NoFault (rejectIf bad e) := by
  unfold rejectIf
  split <;> simp

@[simp] theorem noFault_okOr (value : Option α) (e : ε) : NoFault (okOr value e) := by
  cases value <;> simp [okOr]

theorem noFault_assume {fits : Prop} [Decidable fits] {a : α} (holds : fits) :
    NoFault (assume fits a : Run ε α) := by simp [assume, holds]

theorem noFault_mapError {ε' : Type} {convert : ε → ε'} (h : NoFault x) :
    NoFault (x.mapError convert) := by
  rcases x with (_ | _) | _ <;> simp_all [NoFault, mapError]

theorem noFault_bind_iff {f : α → Run ε β} :
    NoFault (x >>= f) ↔ NoFault x ∧ ∀ a, x = .ok a → NoFault (f a) := by
  rcases x with (_ | _) | _ <;> simp [NoFault, bind, Except.bind]

theorem noFault_bind {f : α → Run ε β} (first : NoFault x)
    (rest : ∀ a, x = .ok a → NoFault (f a)) : NoFault (x >>= f) :=
  noFault_bind_iff.mpr ⟨first, rest⟩

theorem noFault_rejectIf_bind {bad : Prop} [Decidable bad] {e : ε} {f : Unit → Run ε β}
    (rest : ¬ bad → NoFault (f ())) : NoFault (rejectIf bad e >>= f) :=
  noFault_bind (noFault_rejectIf _ _) fun _ passed => rest (rejectIf_eq_ok.mp passed)

theorem noFault_forM {body : α → Run ε Unit}
    (each : ∀ x ∈ xs, NoFault (body x)) : NoFault (forM xs body) := by
  induction xs with
  | nil => exact noFault_pure ()
  | cons x xs ih =>
    rw [forM_cons]
    exact noFault_bind (each x (by simp)) fun _ _ => ih fun y hy => each y (by simp [hy])

theorem noFault_forRange {n : Nat} (each : ∀ i < n, NoFault (body i)) : NoFault (forRange n body) :=
  noFault_forM fun i hi => each i (mem_range.mp hi)

end Run

end NativeIpc.Lib
