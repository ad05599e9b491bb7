import NativeIpc.Lib.Run
import Mathlib.Order.Defs.Unbundled

/-!
# Programs that call their environment

A `Proc C R α` is a finite tree of calls `c : C`, each answered by some `R c`,
that ends in a value. Nothing is said about who answers. `Runs` follows a list of
answered calls, and `wp` is the weakest precondition under every answer: it
bounds the calls that are made, in terms of the calls answered before, and the
value that is returned.

An `Op` is a program over a state, whose changes stay when it returns an error.
-/

namespace NativeIpc.Lib

open List

variable {C : Type} {R : C → Type}

/-- A program with calls in `C`. -/
inductive Proc (C : Type) (R : C → Type) (α : Type) : Type where
  | ret (a : α)
  | call (c : C) (k : R c → Proc C R α)

/-- A call and its answer. -/
abbrev Answer (C : Type) (R : C → Type) : Type := (c : C) × R c

/-- The calls of a run with their answers. -/
abbrev Log (C : Type) (R : C → Type) : Type := List (Answer C R)

variable {c : C} {log : Log C R}

open Proc

namespace Proc

variable {α β : Type}

def bind : Proc C R α → (α → Proc C R β) → Proc C R β
  | .ret a, f => f a
  | .call c k, f => .call c fun r => (k r).bind f

/-! ### Following the answers -/

/-- `p.Runs log q`: when its calls are answered as in `log`, `p` goes on as `q`. -/
inductive Runs : Proc C R α → Log C R → Proc C R α → Prop
  | refl (p : Proc C R α) : Runs p [] p
  | step {c : C} {k : R c → Proc C R α} {r : R c} {log : Log C R} {q : Proc C R α}
      (rest : Runs (k r) log q) : Runs (.call c k) (⟨c, r⟩ :: log) q

namespace Runs

variable {p q : Proc C R α} {log : Log C R}

theorem trans {mid : Proc C R α} {log' : Log C R} (first : Runs p log mid)
    (second : Runs mid log' q) : Runs p (log ++ log') q := by
  induction first with
  | refl p => exact second
  | step rest ih => exact .step (ih second)

protected theorem bind (runs : Runs p log q) (f : α → Proc C R β) :
    Runs (p.bind f) log (q.bind f) := by
  induction runs with
  | refl p => exact .refl _
  | step rest ih => exact .step ih

/-- A sequence that has ended has ended its first part. -/
theorem of_bind {f : α → Proc C R β} {b : β} (runs : Runs (p.bind f) log (.ret b)) :
    ∃ a before after, log = before ++ after ∧ Runs p before (.ret a) ∧
      Runs (f a) after (.ret b) := by
  induction p generalizing log with
  | ret a => exact ⟨a, [], log, rfl, .refl _, runs⟩
  | call c k ih =>
    change Runs (.call c fun r => (k r).bind f) log (.ret b) at runs
    cases runs with
    | step rest =>
      obtain ⟨a, before, after, rfl, first, second⟩ := ih _ rest
      exact ⟨a, _ :: before, after, rfl, .step first, second⟩

theorem of_ret {a b : α} (runs : Runs (.ret a : Proc C R α) log (.ret b)) : log = [] ∧ b = a := by
  cases runs
  exact ⟨rfl, rfl⟩

/-- A run passes through the program that is left after any part of its log. -/
theorem split {before after : Log C R} (runs : Runs p (before ++ after) q) :
    ∃ mid, Runs p before mid ∧ Runs mid after q := by
  induction before generalizing p with
  | nil => exact ⟨p, .refl p, runs⟩
  | cons answer before ih =>
    cases runs with
    | step rest =>
      obtain ⟨mid, first, second⟩ := ih rest
      exact ⟨mid, .step first, second⟩

/-- The call that is answered next in the log is the one the program makes. -/
theorem call_of_cons {r : R c} (runs : Runs p (⟨c, r⟩ :: log) q) : ∃ k, p = .call c k := by
  cases runs with
  | step rest => exact ⟨_, rfl⟩

end Runs

/-- The program with each of its calls made by a program over other calls. -/
def through {C' : Type} {R' : C' → Type} (make : (c : C) → Proc C' R' (R c)) :
    Proc C R α → Proc C' R' α
  | .ret a => .ret a
  | .call c k => (make c).bind fun r => (k r).through make

/-- What it returns, the program itself can return. -/
theorem Runs.of_through {C' : Type} {R' : C' → Type} {make : (c : C) → Proc C' R' (R c)}
    {p : Proc C R α} {a : α} {outer : Log C' R'}
    (runs : (p.through make).Runs outer (.ret a)) : ∃ log, p.Runs log (.ret a) := by
  induction p generalizing outer with
  | ret b =>
    obtain ⟨-, rfl⟩ := of_ret runs
    exact ⟨[], .refl _⟩
  | call c k ih =>
    obtain ⟨r, _, _, -, -, rest⟩ := of_bind runs
    obtain ⟨log, inner⟩ := ih r rest
    exact ⟨_, .step inner⟩

/-- The value of a program whose calls are all answered by `oracle`. -/
def answeredBy (oracle : (c : C) → R c) : Proc C R α → α
  | .ret a => a
  | .call c k => (k (oracle c)).answeredBy oracle

/-- The calls of such a run with their answers. -/
def logBy (oracle : (c : C) → R c) : Proc C R α → Log C R
  | .ret _ => []
  | .call c k => ⟨c, oracle c⟩ :: (k (oracle c)).logBy oracle

section

variable (oracle : (c : C) → R c)
include oracle

theorem answeredBy_bind (p : Proc C R α) (f : α → Proc C R β) :
    (p.bind f).answeredBy oracle = (f (p.answeredBy oracle)).answeredBy oracle := by
  induction p with
  | ret a => rfl
  | call c k ih => exact ih (oracle c)

theorem runs_logBy (p : Proc C R α) : p.Runs (p.logBy oracle) (.ret (p.answeredBy oracle)) := by
  induction p with
  | ret a => exact .refl _
  | call c k ih => exact .step (ih (oracle c))

theorem runs_logBy_of_fst {p : Proc C R (α × β)} {a : α} (first : (p.answeredBy oracle).1 = a) :
    p.Runs (p.logBy oracle) (.ret (a, (p.answeredBy oracle).2)) := by
  subst first
  exact p.runs_logBy oracle

theorem runs_answeredBy (p : Proc C R α) : ∃ log, p.Runs log (.ret (p.answeredBy oracle)) :=
  ⟨_, p.runs_logBy oracle⟩

end

section Served

variable {σ : Type} (serve : (c : C) → σ → R c × σ)

/-- The value of a program whose calls are answered by a server over a state, the calls it
    answered and the state it is left in. -/
def servedBy : Proc C R α → σ → α × Log C R × σ
  | .ret a, s => (a, [], s)
  | .call c k, s =>
    let reply := serve c s
    let rest := (k reply.1).servedBy reply.2
    (rest.1, ⟨c, reply.1⟩ :: rest.2.1, rest.2.2)

/-- A list of calls, answered one after the other. -/
def serveAll : List C → σ → Log C R × σ
  | [], s => ([], s)
  | c :: calls, s =>
    let reply := serve c s
    let rest := serveAll calls reply.2
    (⟨c, reply.1⟩ :: rest.1, rest.2)

end Served

/-! ### The calls of a program -/

/-- Whatever is answered, the program makes only calls that satisfy `P`. -/
def CallsOnly (P : C → Prop) : Proc C R α → Prop
  | .ret _ => True
  | .call c k => P c ∧ ∀ r, (k r).CallsOnly P

theorem CallsOnly.bind {P : C → Prop} {p : Proc C R α} {f : α → Proc C R β}
    (first : p.CallsOnly P) (second : ∀ a, (f a).CallsOnly P) : (p.bind f).CallsOnly P := by
  induction p with
  | ret a => exact second a
  | call c k ih => exact ⟨first.1, fun r => ih r (first.2 r)⟩

theorem Runs.callsOnly {P : C → Prop} {p q : Proc C R α}
    (runs : Runs p log q) (only : p.CallsOnly P) : ∀ answer ∈ log, P answer.1 := by
  induction runs with
  | refl p => simp
  | step rest ih =>
    intro answer member
    rcases mem_cons.mp member with rfl | member
    · exact only.1
    · exact ih (only.2 _) answer member

/-! ### Weakest preconditions -/

/-- Whatever is answered, each call satisfies `guard` and the value satisfies
    `post`, both over the history of answered calls. -/
def wp (guard : Log C R → C → Prop) (post : Log C R → α → Prop) :
    Log C R → Proc C R α → Prop
  | history, .ret a => post history a
  | history, .call c k => guard history c ∧ ∀ r, wp guard post (history ++ [⟨c, r⟩]) (k r)

variable {guard : Log C R → C → Prop} {history log : Log C R}

theorem wp_bind {post : Log C R → β → Prop} (p : Proc C R α)
    (f : α → Proc C R β) (history : Log C R) :
    wp guard post history (p.bind f) ↔
      wp guard (fun h a => wp guard post h (f a)) history p := by
  induction p generalizing history with
  | ret a => exact Iff.rfl
  | call c k ih => exact and_congr_right fun _ => forall_congr' fun r => ih r _

variable {post : Log C R → α → Prop}

theorem wp_mono {post' : Log C R → α → Prop} {p : Proc C R α} (weaker : ∀ h a, post h a → post' h a)
    (holds : wp guard post history p) : wp guard post' history p := by
  induction p generalizing history with
  | ret a => exact weaker _ _ holds
  | call c k ih => exact ⟨holds.1, fun r => ih r (holds.2 r)⟩

/-- What is left after part of a run still meets its precondition. -/
theorem Runs.wp {p q : Proc C R α} (runs : Runs p log q) (holds : wp guard post history p) :
    wp guard post (history ++ log) q := by
  induction runs generalizing history with
  | refl p =>
    rw [append_nil]
    exact holds
  | step rest ih =>
    have next := ih (holds.2 _)
    rwa [append_assoc] at next

/-- Every answered call satisfied its guard when it was made. -/
theorem Runs.guarded {p q : Proc C R α} {r : R c}
    {before after : Log C R} (runs : Runs p (before ++ ⟨c, r⟩ :: after) q)
    (holds : Proc.wp guard post history p) : guard (history ++ before) c := by
  obtain ⟨mid, first, second⟩ := runs.split
  obtain ⟨k, rfl⟩ := second.call_of_cons
  exact (first.wp holds).1

end Proc

/-! ### Programs over a state -/

/-- A program over a state `σ` that returns a result; the state is kept in any case. -/
def Op (C : Type) (R : C → Type) (σ ε α : Type) : Type :=
  σ → Proc C R (Run ε α × σ)

open Proc.Runs

namespace Op

variable {σ τ ε ε' α β : Type}

protected def pure (a : α) : Op C R σ ε α := fun s => .ret (.ok a, s)

variable (x : Op C R σ ε α)

/-- An error ends the sequence. -/
protected def bind (f : α → Op C R σ ε β) : Op C R σ ε β := fun s =>
  (x s).bind fun
    | (.ok a, s) => f a s
    | (.error stop, s) => .ret (.error stop, s)

instance : Monad (Op C R σ ε) where
  pure := Op.pure
  bind := Op.bind

/-- Makes one call. -/
def perform (c : C) : Op C R σ ε (R c) := fun s => .call c fun r => .ret (.ok r, s)

/-- Reads the state. -/
def get : Op C R σ ε σ := fun s => .ret (.ok s, s)

theorem get_bind_apply (f : σ → Op C R σ ε α) (s : σ) : (get >>= f) s = f s s := rfl

/-- Changes the state. -/
def modify (f : σ → σ) : Op C R σ ε Unit := fun s => .ret (.ok (), f s)

/-- A computation on the state without calls. -/
def update (f : σ → Run ε α × σ) : Op C R σ ε α := fun s => .ret (f s)

/-- A computation without calls. -/
def ofRun (x : Run ε α) : Op C R σ ε α := fun s => .ret (x, s)

/-- `return Err(e)`. -/
def fail (e : ε) : Op C R σ ε α := ofRun (.error (.error e))

/-- `match x { Ok(a) => .., Err(e) => .. }`: the result as a value. -/
def attempt : Op C R σ ε' (Run ε α) := fun s =>
  (x s).bind fun (result, s) => .ret (.ok result, s)

/-- The error converted, as `map_err` does. -/
def mapError (convert : ε → ε') (x : Op C R σ ε α) : Op C R σ ε' α := fun s =>
  (x s).bind fun (result, s) => .ret (result.mapError convert, s)

/-- An operation on a part of the state. -/
def zoom (part : τ → σ) (replace : τ → σ → τ) (x : Op C R σ ε α) : Op C R τ ε α := fun s =>
  (x (part s)).bind fun (result, inner) => .ret (result, replace s inner)

/-- An operation over a state of its own, which takes over from `s` and hands back `close` of it
    however it ends. -/
def within (start : τ) (close : τ → σ) (x : Op C R τ ε α) : Op C R σ ε α := fun _ =>
  (x start).bind fun (result, inner) => .ret (result, close inner)

/-- An operation over a state of its own and other calls, with the state it ends in. -/
def through {C' : Type} {R' : C' → Type} (make : (c : C) → Proc C' R' (R c)) (start : τ)
    (x : Op C R τ ε α) : Op C' R' σ ε (α × τ) := fun s =>
  ((x start).through make).bind fun (result, inner) => .ret (result.map (·, inner), s)

/-- `if c { x }`. -/
def when (c : Prop) [Decidable c] (x : Op C R σ ε Unit) : Op C R σ ε Unit :=
  if c then x else pure ()

/-- An operation that has no access to the state. -/
def detached (x : Op C R Unit ε α) : Op C R σ ε α :=
  zoom (fun _ => ()) (fun s _ => s) x

/-- Only whether the operation returned, failed or faulted. -/
def outcome : Op C R σ Unit Unit :=
  mapError (fun _ => ()) (x >>= fun _ => pure ())

/-! ### Weakest preconditions of operations -/

variable {guard : Log C R → C → Prop}
  {post : Log C R → Run ε β → σ → Prop} {history : Log C R} {s : σ}

/-- `Proc.wp` for an operation from the state `s`. -/
def wp (guard : Log C R → C → Prop) (post : Log C R → Run ε α → σ → Prop) (history : Log C R)
    (s : σ) (x : Op C R σ ε α) : Prop :=
  Proc.wp guard (fun h outcome => post h outcome.1 outcome.2) history (x s)

theorem wp_bind (f : α → Op C R σ ε β) :
    wp guard post history s (x >>= f) ↔
      wp guard (fun h result s' => match result with
        | .ok a => wp guard post h s' (f a)
        | .error stop => post h (.error stop) s') history s x := by
  refine (Proc.wp_bind _ _ _).trans ?_
  constructor
  · apply Proc.wp_mono
    rintro h ⟨result | a, s'⟩ holds
    · exact holds
    · exact holds
  · apply Proc.wp_mono
    rintro h ⟨result | a, s'⟩ holds
    · exact holds
    · exact holds

theorem wp_mono {post' : Log C R → Run ε β → σ → Prop} {x : Op C R σ ε β}
    (weaker : ∀ h result s', post h result s' → post' h result s')
    (holds : wp guard post history s x) : wp guard post' history s x :=
  Proc.wp_mono (fun h outcome => weaker h outcome.1 outcome.2) holds

theorem wp_perform {post : Log C R → Run ε (R c) → σ → Prop} :
    wp guard post history s (perform c) ↔
      guard history c ∧ ∀ r, post (history ++ [⟨c, r⟩]) (.ok r) s :=
  Iff.rfl

theorem wp_get {post : Log C R → Run ε σ → σ → Prop} :
    wp guard post history s get ↔ post history (.ok s) s :=
  Iff.rfl

theorem wp_ofRun (x : Run ε β) : wp guard post history s (ofRun x) ↔ post history x s :=
  Iff.rfl

theorem wp_attempt {post : Log C R → Run ε' (Run ε α) → σ → Prop} (x : Op C R σ ε α) :
    wp guard post history s (attempt x) ↔
      wp guard (fun h result s' => post h (.ok result) s') history s x :=
  Proc.wp_bind _ _ _

theorem wp_mapError {post : Log C R → Run ε' α → σ → Prop} (convert : ε → ε') (x : Op C R σ ε α) :
    wp guard post history s (mapError convert x) ↔
      wp guard (fun h result s' => post h (result.mapError convert) s') history s x :=
  Proc.wp_bind _ _ _

theorem wp_zoom {part : τ → σ} {replace : τ → σ → τ} {t : τ}
    {post : Log C R → Run ε α → τ → Prop} (x : Op C R σ ε α) :
    wp guard post history t (zoom part replace x) ↔
      wp guard (fun h result s' => post h result (replace t s')) history (part t) x :=
  Proc.wp_bind _ _ _

variable {post : Log C R → Run ε α → σ → Prop} {result : Run ε β}

theorem wp_within {start : τ} {close : τ → σ} (x : Op C R τ ε α) :
    wp guard post history s (within start close x) ↔
      wp guard (fun h result inner => post h result (close inner)) history start x :=
  Proc.wp_bind _ _ _

variable {invariant : Log C R → σ → Prop}

/-- A sequence keeps what both of its parts keep, however they end. -/
theorem wp_keeps_bind {x : Op C R σ ε α} {f : α → Op C R σ ε β}
    (first : wp guard (fun h _ s' => invariant h s') history s x)
    (second : ∀ a h s', invariant h s' → wp guard (fun h' _ s' => invariant h' s') h s' (f a)) :
    wp guard (fun h _ s' => invariant h s') history s (x >>= f) := by
  refine (wp_bind _ _).mpr (wp_mono ?_ first)
  intro h result s' kept
  cases result with
  | error stop => exact kept
  | ok a => exact second a h s' kept

/-- A loop over a list keeps what each of its turns keeps, however the turns end. -/
theorem wp_forM_keeps {items : List α} {body : α → Op C R σ ε PUnit} (start : invariant history s)
    (turn : ∀ item ∈ items, ∀ h s, invariant h s →
      wp guard (fun h' _ s' => invariant h' s') h s (body item)) :
    wp guard (fun h _ s' => invariant h s') history s (items.forM body) := by
  induction items generalizing history s with
  | nil => exact start
  | cons item items ih =>
    obtain ⟨first, others⟩ := forall_mem_cons.mp turn
    exact wp_keeps_bind (first history s start) fun _ _ _ kept => ih kept others

/-! ### Runs of operations -/

/-- From `s` the operation answers `log` and returns `result` in `s'`. -/
def Returns (s : σ) (log : Log C R) (result : Run ε α) (s' : σ) : Prop :=
  Proc.Runs (x s) log (.ret (result, s'))

namespace Returns

variable {x : Op C R σ ε α} {f : α → Op C R σ ε β} {s s' s'' : σ} {log log' : Log C R}

theorem pure (a : α) (s : σ) : Returns (Pure.pure a : Op C R σ ε α) s [] (.ok a) s :=
  .refl _

theorem ofRun (y : Run ε α) (s : σ) : Returns (Op.ofRun y : Op C R σ ε α) s [] y s :=
  .refl _

theorem perform (c : C) (r : R c) (s : σ) :
    Returns (Op.perform c : Op C R σ ε (R c)) s [⟨c, r⟩] (.ok r) s :=
  .step (.refl _)

theorem get (s : σ) : Returns (Op.get : Op C R σ ε σ) s [] (.ok s) s :=
  .refl _

variable {a : α} {b : β} {y : Run ε α} {g : R c → Op C R σ ε β} {replace : τ → σ → τ}
    {body : α → β → Op C R σ ε α}

theorem bind (first : Returns x s log (.ok a) s') (second : Returns (f a) s' log' result s'') :
    Returns (x >>= f) s (log ++ log') result s'' :=
  (Runs.bind first _).trans second

theorem of_bind (runs : Returns (x >>= f) s log result s') :
    (∃ a s₁ before after, log = before ++ after ∧ Returns x s before (.ok a) s₁ ∧
      Returns (f a) s₁ after result s') ∨
    ∃ stop, result = .error stop ∧ Returns x s log (.error stop) s' := by
  obtain ⟨⟨first, s₁⟩, before, after, rfl, hfirst, hrest⟩ := Runs.of_bind runs
  cases first with
  | ok a => exact .inl ⟨a, s₁, before, after, rfl, hfirst, hrest⟩
  | error stop =>
    obtain ⟨rfl, same⟩ := of_ret hrest
    cases same
    refine .inr ⟨stop, rfl, ?_⟩
    rw [append_nil]
    exact hfirst

theorem bind_ok (runs : Returns (x >>= f) s log (.ok b) s') :
    ∃ a s₁ before after, log = before ++ after ∧ Returns x s before (.ok a) s₁ ∧
      Returns (f a) s₁ after (.ok b) s' := by
  rcases of_bind runs with done | ⟨stop, failed, -⟩
  · exact done
  · cases failed

theorem of_pure {result : Run ε α} (runs : Returns (Pure.pure a : Op C R σ ε α) s log result s') :
    log = [] ∧ result = .ok a ∧ s' = s := by
  obtain ⟨rfl, same⟩ := of_ret runs
  cases same
  exact ⟨rfl, rfl, rfl⟩

theorem of_ofRun {result : Run ε α} (runs : Returns (Op.ofRun y : Op C R σ ε α) s log result s') :
    log = [] ∧ result = y ∧ s' = s := by
  obtain ⟨rfl, same⟩ := of_ret runs
  cases same
  exact ⟨rfl, rfl, rfl⟩

theorem of_modify {g : σ → σ} {result : Run ε Unit}
    (runs : Returns (Op.modify g : Op C R σ ε Unit) s log result s') : log = [] ∧ s' = g s := by
  obtain ⟨rfl, same⟩ := of_ret runs
  cases same
  exact ⟨rfl, rfl⟩

theorem of_get_bind {g : σ → Op C R σ ε β}
    (runs : Returns (Op.get >>= g) s log result s') : Returns (g s) s log result s' :=
  runs

/-- An operation that makes no call and succeeds hands on its result. -/
theorem bind_of_apply (applied : x s = .ret (.ok a, s')) :
    Returns (x >>= f) s log result s'' ↔ Returns (f a) s' log result s'' := by
  change Runs ((x s).bind _) log _ ↔ _
  rw [applied]
  rfl

theorem ofRun_bind (value : y = .ok a) :
    Returns (Op.ofRun y >>= f) s log result s' ↔ Returns (f a) s log result s' := by
  subst value
  exact Iff.rfl

theorem of_perform {result : Run ε (R c)}
    (runs : Returns (Op.perform c : Op C R σ ε (R c)) s log result s') :
    ∃ r, log = [⟨c, r⟩] ∧ result = .ok r ∧ s' = s := by
  unfold Returns Op.perform at runs
  cases runs with
  | step rest =>
    obtain ⟨rfl, same⟩ := of_ret rest
    cases same
    exact ⟨_, rfl, rfl, rfl⟩

theorem of_perform_bind (runs : Returns (Op.perform c >>= g) s log result s') :
    ∃ r rest, log = ⟨c, r⟩ :: rest ∧ Returns (g r) s rest result s' := by
  cases (show Runs (.call c fun r => g r s) log (.ret (result, s')) from runs) with
  | step rest => exact ⟨_, _, rfl, rest⟩

theorem ofRun_bind_ok (runs : Returns (Op.ofRun y >>= f) s log (.ok b) s') :
    ∃ a, y = .ok a ∧ Returns (f a) s log (.ok b) s' := by
  cases y with
  | error stop =>
    obtain ⟨-, same⟩ := of_ret runs
    cases same
  | ok a => exact ⟨a, rfl, runs⟩

/-! The runs that succeed, one construct at a time. -/

theorem bind_ok_iff :
    Returns (x >>= f) s log (.ok b) s' ↔
      ∃ a s₁ before after, log = before ++ after ∧ Returns x s before (.ok a) s₁ ∧
        Returns (f a) s₁ after (.ok b) s' := by
  constructor
  · exact bind_ok
  · rintro ⟨a, s₁, before, after, rfl, first, second⟩
    exact first.bind second

theorem perform_bind_iff :
    Returns (Op.perform c >>= g) s log result s' ↔
      ∃ r rest, log = ⟨c, r⟩ :: rest ∧ Returns (g r) s rest result s' := by
  constructor
  · exact of_perform_bind
  · rintro ⟨r, rest, rfl, second⟩
    exact (perform c r s).bind second

theorem ofRun_bind_ok_iff :
    Returns (Op.ofRun y >>= f) s log (.ok b) s' ↔
      ∃ a, y = .ok a ∧ Returns (f a) s log (.ok b) s' := by
  constructor
  · exact ofRun_bind_ok
  · rintro ⟨a, value, second⟩
    exact (ofRun_bind value).mpr second

theorem pure_iff {result : Run ε α} :
    Returns (Pure.pure a : Op C R σ ε α) s log result s' ↔
      log = [] ∧ result = .ok a ∧ s' = s := by
  constructor
  · exact of_pure
  · rintro ⟨rfl, rfl, rfl⟩
    exact pure a s'

theorem ofRun_iff {result : Run ε α} :
    Returns (Op.ofRun y : Op C R σ ε α) s log result s' ↔ log = [] ∧ result = y ∧ s' = s := by
  constructor
  · exact of_ofRun
  · rintro ⟨rfl, rfl, rfl⟩
    exact ofRun result s'

theorem of_attempt {result : Run ε' (Run ε α)}
    (runs : Returns (Op.attempt x : Op C R σ ε' (Run ε α)) s log result s') :
    ∃ original, result = .ok original ∧ Returns x s log original s' := by
  obtain ⟨⟨original, s₁⟩, before, after, rfl, hfirst, hrest⟩ := Runs.of_bind runs
  obtain ⟨rfl, same⟩ := of_ret hrest
  cases same
  rw [append_nil]
  exact ⟨original, rfl, hfirst⟩

theorem of_zoom {part : τ → σ} {t t' : τ} {result : Run ε α}
    (runs : Returns (Op.zoom part replace x) t log result t') :
    ∃ inner, Returns x (part t) log result inner ∧ t' = replace t inner := by
  obtain ⟨⟨_, inner⟩, before, after, rfl, hfirst, hrest⟩ := Runs.of_bind runs
  obtain ⟨rfl, same⟩ := of_ret hrest
  cases same
  rw [append_nil]
  exact ⟨inner, hfirst, rfl⟩

theorem of_through {C' : Type} {R' : C' → Type} {make : (c : C) → Proc C' R' (R c)}
    {start inner : τ} {x : Op C R τ ε α} {a : α} {outer : Log C' R'}
    (runs : Returns (Op.through make start x) s outer (.ok (a, inner)) s') :
    ∃ log, Returns x start log (.ok a) inner := by
  obtain ⟨⟨result, inner'⟩, _, _, -, first, last⟩ := Runs.of_bind runs
  obtain ⟨-, same⟩ := of_ret last
  obtain ⟨log, ran⟩ := Runs.of_through first
  cases result with
  | error stop => cases same
  | ok a' =>
    cases same
    exact ⟨log, ran⟩

theorem of_within {start : τ} {close : τ → σ} {x : Op C R τ ε α} {result : Run ε α}
    (runs : Returns (Op.within start close x) s log result s') :
    ∃ inner, Returns x start log result inner ∧ s' = close inner := by
  obtain ⟨⟨_, inner⟩, before, after, rfl, hfirst, hrest⟩ := Runs.of_bind runs
  obtain ⟨rfl, same⟩ := of_ret hrest
  cases same
  rw [append_nil]
  exact ⟨inner, hfirst, rfl⟩

theorem of_mapError {convert : ε → ε'} {result : Run ε' α}
    (runs : Returns (Op.mapError convert x) s log result s') :
    ∃ original, Returns x s log original s' ∧ result = original.mapError convert := by
  obtain ⟨⟨original, s₁⟩, before, after, rfl, hfirst, hrest⟩ := Runs.of_bind runs
  obtain ⟨rfl, same⟩ := of_ret hrest
  cases same
  rw [append_nil]
  exact ⟨original, hfirst, rfl⟩

theorem mapError (convert : ε → ε') {result : Run ε α} (runs : Returns x s log result s') :
    Returns (Op.mapError convert x) s log (result.mapError convert) s' :=
  Runs.bind runs _

theorem mapError_ok_iff {convert : ε → ε'} :
    Returns (Op.mapError convert x) s log (.ok a) s' ↔ Returns x s log (.ok a) s' := by
  constructor
  · intro runs
    obtain ⟨original, first, same⟩ := of_mapError runs
    rw [Run.mapError_eq_ok.mp same.symm] at first
    exact first
  · intro runs
    exact mapError convert runs

theorem attempt {result : Run ε α} (runs : Returns x s log result s') :
    Returns (Op.attempt x : Op C R σ ε' (Run ε α)) s log (.ok result) s' := by
  have ended := Runs.bind runs fun pair : Run ε α × σ =>
    (.ret (.ok pair.1, pair.2) : Proc C R (Run ε' (Run ε α) × σ))
  exact ended

theorem zoom {part : τ → σ} {t : τ} {result : Run ε α} (runs : Returns x (part t) log result s') :
    Returns (Op.zoom part replace x) t log result (replace t s') :=
  Runs.bind runs _

theorem within {start inner : τ} {close : τ → σ} {x : Op C R τ ε α} {result : Run ε α}
    (runs : Returns x start log result inner) :
    Returns (Op.within start close x) s log result (close inner) :=
  Runs.bind runs _

/-- Behind an outcome is a result of the operation. -/
theorem of_outcome {outcome : Run Unit Unit} (runs : Returns (Op.outcome x) s log outcome s') :
    ∃ result, Returns x s log result s' ∧ outcome = result.outcome := by
  obtain ⟨original, hruns, rfl⟩ := of_mapError runs
  rcases of_bind hruns with ⟨a, s₁, before, after, rfl, hx, hrest⟩ | ⟨stop, rfl, hx⟩
  · obtain ⟨rfl, same⟩ := of_ret hrest
    cases same
    rw [append_nil]
    exact ⟨.ok a, hx, rfl⟩
  · refine ⟨.error stop, hx, ?_⟩
    cases stop with
    | error e => rfl
    | fault => rfl

theorem answeredBy (oracle : (c : C) → R c) (x : Op C R σ ε α) (s : σ) :
    ∃ log, Returns x s log ((x s).answeredBy oracle).1 ((x s).answeredBy oracle).2 :=
  runs_answeredBy oracle (x s)

/-- A loop that ended kept what each of its turns keeps of the turns, the result and the log. -/
theorem foldlM_ok_log {items : List β} {result : α} (invariant : List β → α → Log C R → Prop)
    (runs : Returns (items.foldlM body a) s log (.ok result) s') (start : invariant [] a [])
    (turn : ∀ before item a earlier s log a' s', invariant before a earlier →
      Returns (body a item) s log (.ok a') s' → invariant (before ++ [item]) a' (earlier ++ log)) :
    invariant items result log := by
  suffices general : ∀ (rest before : List β) (a : α) (s : σ) (earlier log : Log C R),
      invariant before a earlier → Returns (rest.foldlM body a) s log (.ok result) s' →
        invariant (before ++ rest) result (earlier ++ log) from
    general items [] a s [] log start runs
  intro rest
  induction rest with
  | nil =>
    intro before a s earlier log holds runs
    obtain ⟨rfl, same, -⟩ := of_pure runs
    cases same
    rwa [append_nil, append_nil]
  | cons item rest ih =>
    intro before a s earlier log holds runs
    obtain ⟨a', s₁, first, after, rfl, hturn, hrest⟩ := bind_ok runs
    have next := ih (before ++ [item]) a' s₁ (earlier ++ first) after
      (turn before item a earlier s first a' s₁ holds hturn) hrest
    rwa [append_assoc, append_assoc] at next

/-- A loop that ended kept what each of its turns keeps. -/
theorem foldlM_ok {items : List β} {result : α} (invariant : List β → α → Prop)
    (runs : Returns (items.foldlM body a) s log (.ok result) s') (start : invariant [] a)
    (turn : ∀ before item a s log a' s', invariant before a →
      Returns (body a item) s log (.ok a') s' → invariant (before ++ [item]) a') :
    invariant items result :=
  foldlM_ok_log (fun before a _ => invariant before a) runs start
    fun before item a _ s log a' s' => turn before item a s log a' s'

/-- A run meets the postcondition of its precondition. -/
theorem satisfies {guard : Log C R → C → Prop} {result : Run ε α} (runs : Returns x s log result s')
    (holds : wp guard post [] s x) : post log result s' :=
  Runs.wp runs holds

end Returns

/-! ### Calls that are reached -/

/-- From `s`, answered as in `log`, the operation makes the call `c` next. -/
def Reaches (s : σ) (log : Log C R) (c : C) : Prop :=
  ∃ k, Proc.Runs (x s) log (.call c k)

namespace Reaches

variable {x : Op C R σ ε α} {f : α → Op C R σ ε β} {s s' : σ} {log log' : Log C R} {c : C}

theorem perform (c : C) (s : σ) : Reaches (Op.perform c : Op C R σ ε (R c)) s [] c :=
  ⟨_, .refl _⟩

theorem bind (reaches : Reaches x s log c) : Reaches (x >>= f) s log c := by
  obtain ⟨k, runs⟩ := reaches
  exact ⟨_, Runs.bind runs _⟩

theorem after {a : α} (first : Returns x s log (.ok a) s') (reaches : Reaches (f a) s' log' c) :
    Reaches (x >>= f) s (log ++ log') c := by
  obtain ⟨k, runs⟩ := reaches
  exact ⟨k, (Runs.bind first _).trans runs⟩

theorem get_bind {g : σ → Op C R σ ε β} (reaches : Reaches (g s) s log c) :
    Reaches (Op.get >>= g) s log c :=
  reaches

theorem bind_of_apply {a : α} (applied : x s = .ret (.ok a, s')) :
    Reaches (x >>= f) s log c ↔ Reaches (f a) s' log c := by
  change (∃ k, Runs ((x s).bind _) log _) ↔ _
  rw [applied]
  rfl

theorem ofRun_bind {y : Run ε α} {a : α} (value : y = .ok a) :
    Reaches (Op.ofRun y >>= f) s log c ↔ Reaches (f a) s log c := by
  subst value
  exact Iff.rfl

theorem attempt (reaches : Reaches x s log c) :
    Reaches (Op.attempt x : Op C R σ ε' (Run ε α)) s log c := by
  obtain ⟨k, runs⟩ := reaches
  exact ⟨_, Runs.bind runs _⟩

theorem zoom {part : τ → σ} {replace : τ → σ → τ} {t : τ} (reaches : Reaches x (part t) log c) :
    Reaches (Op.zoom part replace x) t log c := by
  obtain ⟨k, runs⟩ := reaches
  exact ⟨_, Runs.bind runs _⟩

/-- However the call and those after it are answered, the operation returns. -/
theorem returns (oracle : (c : C) → R c) (reaches : Reaches x s log c) :
    ∃ rest result s', Returns x s (log ++ ⟨c, oracle c⟩ :: rest) result s' := by
  obtain ⟨k, runs⟩ := reaches
  exact ⟨_, _, _, runs.trans (.step (runs_logBy oracle (k (oracle c))))⟩

end Reaches

/-! ### The calls of an operation -/

/-- Whatever is answered, the operation makes only calls that satisfy `P`. -/
def CallsOnly (P : C → Prop) (x : Op C R σ ε α) : Prop :=
  ∀ s, (x s).CallsOnly P

namespace CallsOnly

variable {P : C → Prop} {x : Op C R σ ε α}

theorem of_returns {s s' : σ} {result : Run ε α}
    (only : CallsOnly P x) (runs : Returns x s log result s') : ∀ answer ∈ log, P answer.1 :=
  callsOnly runs (only s)

theorem pure (a : α) : CallsOnly P (Pure.pure a : Op C R σ ε α) :=
  fun _ => trivial

theorem ofRun (result : Run ε α) : CallsOnly P (ofRun result : Op C R σ ε α) :=
  fun _ => trivial

theorem fail (e : ε) : CallsOnly P (fail e : Op C R σ ε α) :=
  fun _ => trivial

theorem get : CallsOnly P (get : Op C R σ ε σ) :=
  fun _ => trivial

theorem modify (f : σ → σ) : CallsOnly P (modify f : Op C R σ ε Unit) :=
  fun _ => trivial

theorem update (f : σ → Run ε α × σ) : CallsOnly P (update f : Op C R σ ε α) :=
  fun _ => trivial

theorem perform (holds : P c) : CallsOnly P (perform c : Op C R σ ε (R c)) :=
  fun _ => ⟨holds, fun _ => trivial⟩

theorem bind {f : α → Op C R σ ε β} (first : CallsOnly P x) (second : ∀ a, CallsOnly P (f a)) :
    CallsOnly P (x >>= f) := by
  intro s
  refine (first s).bind ?_
  rintro ⟨stop | a, s'⟩
  · trivial
  · exact second a s'

theorem attempt (only : CallsOnly P x) : CallsOnly P (attempt x : Op C R σ ε' (Run ε α)) :=
  fun s => (only s).bind fun _ => trivial

theorem when {c : Prop} [Decidable c] {x : Op C R σ ε Unit} (only : CallsOnly P x) :
    CallsOnly P (when c x) := by
  unfold Op.when
  split
  · exact only
  · exact pure ()

theorem foldlM {items : List β} {body : α → β → Op C R σ ε α}
    (turn : ∀ a item, CallsOnly P (body a item)) (a : α) : CallsOnly P (items.foldlM body a) := by
  induction items generalizing a with
  | nil => exact pure a
  | cons item items ih => exact (turn a item).bind fun a' => ih a'

end CallsOnly

/-! ### What holds however the calls are answered -/

/-- However its calls are answered, the operation returns from `s` as `post` says. -/
def Ensures (post : Run ε α → σ → Prop) (s : σ) (x : Op C R σ ε α) : Prop :=
  ∀ history, wp (fun _ _ => True) (fun _ result s' => post result s') history s x

/-- However its calls are answered, the operation takes a state to one that `rel` relates to it. -/
def Keeps (rel : σ → σ → Prop) (x : Op C R σ ε α) : Prop :=
  ∀ s, Ensures (fun _ s' => rel s s') s x

namespace Ensures

variable {post : Run ε α → σ → Prop} {s : σ} {x : Op C R σ ε α}

theorem of_returns {result : Run ε α} {s' : σ}
    (ensures : Ensures post s x) (runs : Returns x s log result s') : post result s' :=
  runs.satisfies (ensures [])

variable {post' : Run ε α → σ → Prop} {f : Unit → Op C R σ ε α}

theorem mono (ensures : Ensures post s x)
    (weaker : ∀ result s', post result s' → post' result s') : Ensures post' s x :=
  fun history => wp_mono (fun _ result s' => weaker result s') (ensures history)

theorem of_pure {a : α} (holds : post (.ok a) s) : Ensures post s (Pure.pure a : Op C R σ ε α) :=
  fun _ => holds

theorem of_ofRun {result : Run ε α} (holds : post result s) :
    Ensures post s (ofRun result : Op C R σ ε α) :=
  fun _ => holds

theorem of_fail {e : ε} (holds : post (.error (.error e)) s) :
    Ensures post s (fail e : Op C R σ ε α) :=
  fun _ => holds

theorem of_update {f : σ → Run ε α × σ} (holds : post (f s).1 (f s).2) :
    Ensures post s (update f : Op C R σ ε α) :=
  fun _ => holds

theorem of_modify {post : Run ε Unit → σ → Prop} {f : σ → σ} (holds : post (.ok ()) (f s)) :
    Ensures post s (modify f : Op C R σ ε Unit) :=
  fun _ => holds

theorem get_bind {f : σ → Op C R σ ε α} (holds : Ensures post s (f s)) :
    Ensures post s (get >>= f) :=
  fun history => (wp_bind _ _).mpr (holds history)

theorem perform_bind {f : R c → Op C R σ ε α} (holds : ∀ r, Ensures post s (f r)) :
    Ensures post s (perform c >>= f) :=
  fun _ => ⟨trivial, fun r => holds r _⟩

theorem modify_bind {g : σ → σ} (holds : Ensures post (g s) (f ())) :
    Ensures post s (modify g >>= f) :=
  holds

theorem bind {post : Run ε β → σ → Prop} {f : α → Op C R σ ε β} {mid : Run ε α → σ → Prop}
    (first : Ensures mid s x) (error : ∀ stop s', mid (.error stop) s' → post (.error stop) s')
    (second : ∀ a s', mid (.ok a) s' → Ensures post s' (f a)) : Ensures post s (x >>= f) := by
  intro history
  rw [wp_bind]
  refine wp_mono ?_ (first history)
  intro h result s' holds
  cases result with
  | error stop => exact error stop s' holds
  | ok a => exact second a s' holds h

theorem ofRun_bind {y : Run ε β} {f : β → Op C R σ ε α}
    (error : ∀ stop, y = .error stop → post (.error stop) s)
    (ok : ∀ b, y = .ok b → Ensures post s (f b)) : Ensures post s (Op.ofRun y >>= f) := by
  cases y with
  | error stop => exact fun _ => error stop rfl
  | ok b => exact ok b rfl

theorem reject_bind {bad : Prop} [Decidable bad] {e : ε}
    (refused : bad → post (.error (.error e)) s) (accepted : ¬ bad → Ensures post s (f ())) :
    Ensures post s (Op.ofRun (Run.rejectIf bad e) >>= f) := by
  by_cases here : bad
  · rw [Run.rejectIf, if_pos here]
    exact fun _ => refused here
  · rw [Run.rejectIf, if_neg here]
    exact accepted here

theorem attempt {post : Run ε' (Run ε α) → σ → Prop}
    (ensures : Ensures (fun result s' => post (.ok result) s') s x) : Ensures post s (attempt x) :=
  fun history => (wp_attempt x).mpr (ensures history)

theorem attempt_bind {post : Run ε' β → σ → Prop} {f : Run ε α → Op C R σ ε' β}
    (ensures : Ensures (fun result s' => Ensures post s' (f result)) s x) :
    Ensures post s (Op.attempt x >>= f) := by
  intro history
  rw [wp_bind, wp_attempt]
  exact wp_mono (fun h _ _ holds => holds h) (ensures history)

theorem mapError {post : Run ε' α → σ → Prop} {convert : ε → ε'}
    (ensures : Ensures (fun result s' => post (result.mapError convert) s') s x) :
    Ensures post s (mapError convert x) :=
  fun history => (wp_mapError convert x).mpr (ensures history)

theorem zoom {part : τ → σ} {replace : τ → σ → τ} {t : τ} {post : Run ε α → τ → Prop}
    (ensures : Ensures (fun result s' => post result (replace t s')) (part t) x) :
    Ensures post t (zoom part replace x) :=
  fun history => (wp_zoom x).mpr (ensures history)

theorem within {start : τ} {close : τ → σ} {x : Op C R τ ε α}
    (ensures : Ensures (fun result inner => post result (close inner)) start x) :
    Ensures post s (within start close x) :=
  fun history => (wp_within x).mpr (ensures history)

theorem and (first : Ensures post s x) (second : Ensures post' s x) :
    Ensures (fun result s' => post result s' ∧ post' result s') s x := by
  intro history
  have left := first history
  have right := second history
  unfold Op.wp at left right ⊢
  generalize x s = p at left right
  induction p generalizing history with
  | ret a => exact ⟨left, right⟩
  | call c k ih => exact ⟨trivial, fun r => ih r _ (left.2 r) (right.2 r)⟩

end Ensures

namespace Keeps

variable {rel : σ → σ → Prop} {x : Op C R σ ε α}

theorem of_returns {s s' : σ} {result : Run ε α} (keeps : Keeps rel x)
    (runs : Returns x s log result s') : rel s s' :=
  (keeps s).of_returns runs

theorem modify {f : σ → σ} (related : ∀ s, rel s (f s)) : Keeps rel (modify f : Op C R σ ε Unit) :=
  fun s _ => related s

theorem update {f : σ → Run ε α × σ} (related : ∀ s, rel s (f s).2) :
    Keeps rel (update f : Op C R σ ε α) :=
  fun s _ => related s

theorem attempt (keeps : Keeps rel x) : Keeps rel (attempt x : Op C R σ ε' (Run ε α)) :=
  fun s => Ensures.attempt (keeps s)

theorem mapError {convert : ε → ε'} (keeps : Keeps rel x) : Keeps rel (mapError convert x) :=
  fun s => Ensures.mapError (keeps s)

theorem zoom {part : τ → σ} {replace : τ → σ → τ} {rel' : τ → τ → Prop} (keeps : Keeps rel x)
    (lift : ∀ t s', rel (part t) s' → rel' t (replace t s')) : Keeps rel' (zoom part replace x) :=
  fun t => Ensures.zoom ((keeps (part t)).mono fun _ s' related => lift t s' related)

variable [IsPreorder σ rel]

theorem pure (a : α) : Keeps rel (Pure.pure a : Op C R σ ε α) :=
  fun s _ => refl_of rel s

theorem ofRun (result : Run ε α) : Keeps rel (ofRun result : Op C R σ ε α) :=
  fun s _ => refl_of rel s

theorem fail (e : ε) : Keeps rel (fail e : Op C R σ ε α) :=
  ofRun _

theorem get : Keeps rel (get : Op C R σ ε σ) :=
  fun s _ => refl_of rel s

theorem perform (c : C) : Keeps rel (perform c : Op C R σ ε (R c)) :=
  fun s _ => ⟨trivial, fun _ => refl_of rel s⟩

theorem bind {f : α → Op C R σ ε β} (first : Keeps rel x) (second : ∀ a, Keeps rel (f a)) :
    Keeps rel (x >>= f) := by
  intro s
  refine Ensures.bind (first s) (fun _ _ related => related) ?_
  intro a s' related
  exact (second a s').mono fun _ s'' later => trans_of rel related later

theorem when {c : Prop} [Decidable c] {x : Op C R σ ε Unit} (keeps : Keeps rel x) :
    Keeps rel (when c x) := by
  unfold Op.when
  split
  · exact keeps
  · exact pure ()

theorem detached (x : Op C R Unit ε α) : Keeps rel (detached x : Op C R σ ε α) := by
  intro s
  apply Ensures.zoom
  intro history
  unfold wp
  generalize x () = p
  induction p generalizing history with
  | ret a => exact refl_of rel s
  | call c k ih => exact ⟨trivial, fun r => ih r _⟩

theorem foldlM {items : List β} {body : α → β → Op C R σ ε α}
    (turn : ∀ a item, Keeps rel (body a item)) (a : α) : Keeps rel (items.foldlM body a) := by
  induction items generalizing a with
  | nil => exact pure a
  | cons item items ih => exact (turn a item).bind fun a' => ih a'

end Keeps

/-! ### One fixed way to answer -/

/-- Answered by `oracle`, the operation has the result of `run` and leaves the state. -/
def Computes (oracle : (c : C) → R c) (x : Op C R σ ε α) (run : Run ε α) : Prop :=
  ∀ s, (x s).answeredBy oracle = (run, s)

namespace Computes

variable {oracle : (c : C) → R c} {x : Op C R σ ε α} {run : Run ε α}

theorem pure (a : α) : Computes oracle (Pure.pure a : Op C R σ ε α) (.ok a) :=
  fun _ => rfl

theorem ofRun (run : Run ε α) : Computes oracle (ofRun run : Op C R σ ε α) run :=
  fun _ => rfl

variable {f : α → Op C R σ ε β}

theorem bind {g : α → Run ε β} (first : Computes oracle x run)
    (second : ∀ a, Computes oracle (f a) (g a)) : Computes oracle (x >>= f) (run >>= g) := by
  intro s
  refine (answeredBy_bind oracle (x s) _).trans ?_
  rw [first s]
  cases run with
  | error stop => rfl
  | ok a => exact second a s

theorem perform_bind {f : R c → Op C R σ ε β} {run : Run ε β}
    (rest : Computes oracle (f (oracle c)) run) : Computes oracle (Op.perform c >>= f) run :=
  fun s => rest s

theorem ofRun_bind {g : α → Run ε β} (rest : ∀ a, run = .ok a → Computes oracle (f a) (g a)) :
    Computes oracle (Op.ofRun run >>= f) (run >>= g) := by
  cases run with
  | error stop => exact fun _ => rfl
  | ok a => exact rest a rfl

theorem mapError {convert : ε → ε'} (computes : Computes oracle x run) :
    Computes oracle (mapError convert x) (run.mapError convert) := by
  intro s
  refine (answeredBy_bind oracle (x s) _).trans ?_
  rw [computes s]
  rfl

theorem returns (computes : Computes oracle x run) (s : σ) : ∃ log, Returns x s log run s := by
  obtain ⟨log, runs⟩ := runs_answeredBy oracle (x s)
  rw [computes s] at runs
  exact ⟨log, runs⟩

end Computes

end Op

end NativeIpc.Lib
