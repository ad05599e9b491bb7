import NativeIpc.Lib.Bytes
import NativeIpc.Lib.Program
import NativeIpc.Lib.Words

/-!
# Readers of untrusted input

`Sound guard made x` is the specification of an operation that takes apart data it does not
trust: whatever is answered, every call is allowed, nothing faults, and a value that is
returned is as described. Errors are left free. The rules follow the way such a reader is
written, as a sequence of reads, checked steps and counted loops.
-/

namespace NativeIpc.Lib.Op

variable {C : Type} {R : C → Type} {σ ε α β : Type} {guard : C → Prop} {made : α → Prop}
  {made' : β → Prop}

/-- Every call is allowed, the operation does not fault, and a value it returns is as
    described. -/
def Sound (guard : C → Prop) (made : α → Prop) (x : Op C R σ ε α) : Prop :=
  ∀ history s, wp (fun _ call => guard call)
    (fun _ result _ => Run.NoFault result ∧ ∀ a, result = .ok a → made a) history s x

variable {x : Op C R σ ε α}

open Run

namespace Sound

theorem of_returns {s s' : σ} {log : Log C R} {result : Run ε α} (sound : Sound guard made x)
    (runs : Returns x s log result s') : NoFault result ∧ ∀ a, result = .ok a → made a :=
  runs.satisfies (sound [] s)

theorem callsOnly (sound : Sound guard made x) : CallsOnly guard x := by
  have calls : ∀ (post : Log C R → Run ε α × σ → Prop) history p,
      Proc.wp (fun _ call => guard call) post history p → p.CallsOnly guard := by
    intro post history p holds
    induction p generalizing history with
    | ret a => trivial
    | call c k ih => exact ⟨holds.1, fun r => ih r _ (holds.2 r)⟩
  exact fun s => calls _ _ _ (sound [] s)

theorem ofRun {run : Run ε α} (noFault : NoFault run) (holds : ∀ a, run = .ok a → made a) :
    Sound guard made (Op.ofRun run : Op C R σ ε α) :=
  fun _ _ => ⟨noFault, holds⟩

theorem pure {a : α} (holds : made a) : Sound guard made (Pure.pure a : Op C R σ ε α) := by
  refine ofRun (noFault_pure a) fun b same => ?_
  cases same
  exact holds

theorem fail (error : ε) : Sound guard made (Op.fail error : Op C R σ ε α) :=
  ofRun (noFault_fail error) fun _ same => by cases same

theorem mono {made' : α → Prop} (sound : Sound guard made x)
    (weaker : ∀ a, made a → made' a) : Sound guard made' x := by
  intro history s
  refine wp_mono (fun _ _ _ holds => ?_) (sound history s)
  exact ⟨holds.1, fun a same => weaker a (holds.2 a same)⟩

variable {f : α → Op C R σ ε β}

theorem bind (first : Sound guard made x)
    (second : ∀ a, made a → Sound guard made' (f a)) : Sound guard made' (x >>= f) := by
  intro history s
  rw [wp_bind]
  refine wp_mono ?_ (first history s)
  intro log result s' holds
  cases result with
  | ok a => exact second a (holds.2 a rfl) log s'
  | error stop =>
    refine ⟨fun faulted => ?_, fun _ same => by cases same⟩
    cases faulted
    exact holds.1 rfl

theorem perform_bind {c : C} {f : R c → Op C R σ ε β} (allowed : guard c)
    (next : ∀ reply, Sound guard made' (f reply)) : Sound guard made' (perform c >>= f) := by
  intro history s
  refine (wp_bind _ _).mpr (wp_perform.mpr ⟨allowed, fun reply => ?_⟩)
  exact next reply _ s

section

variable {w a b : Nat} {error : ε} {f : Nat → Op C R σ ε β}

end

/-- A counted loop that carries a value. -/
theorem range (invariant : Nat → α → Prop) {count : Nat} {body : α → Nat → Op C R σ ε α} {a : α}
    (start : invariant 0 a) (turn : ∀ index < count, ∀ a, invariant index a →
      Sound guard (invariant (index + 1)) (body a index)) :
    Sound guard (invariant count) ((List.range count).foldlM body a) := by
  -- From any turn on, by induction on the turns that remain.
  suffices rest : ∀ remaining first b, first + remaining = count → invariant first b →
      Sound guard (invariant count) ((List.range' first remaining).foldlM body b) by
    rw [List.range_eq_range']
    exact rest count 0 a (by omega) start
  intro remaining
  induction remaining with
  | zero =>
    intro first b reached holds
    obtain rfl : first = count := by omega
    exact pure holds
  | succ remaining ih =>
    intro first b reached holds
    rw [List.range'_succ, List.foldlM_cons]
    exact bind (turn first (by omega) b holds) fun c => ih (first + 1) c (by omega)

end Sound

end NativeIpc.Lib.Op
