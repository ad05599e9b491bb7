import NativeIpc.Lib.Program
import NativeIpc.Lib.Trace

/-!
# Loops without a bound

A `loop { .. }` of the source need not end. Its model takes a number of turns and,
when they are used up, makes a call that is never answered: what such programs do
for every number of turns is what the loop does in every finite run. The same kind
of call ends a process.

`Meets` is the part of a weakest precondition that asks nothing of an operation
that failed, and `Under` a precondition for an environment with a state.
-/

namespace NativeIpc.Lib

namespace Op

variable {C : Type} {R : C → Type} {σ ε ε' α β : Type}

/-- A call that is never answered: the program goes no further. -/
def halt (c : C) (silent : R c → False) : Op C R σ ε α := fun _ =>
  .call c fun r => (silent r).elim

/-- Turns of `body`, each of which goes on with a value or leaves the loop, up to a number of
    them. -/
def loop (stuck : C) (silent : R stuck → False) (body : α → Op C R σ ε (α ⊕ β)) :
    Nat → α → Op C R σ ε β
  | 0, _ => halt stuck silent
  | turns + 1, a => do
    match ← body a with
    | .inl a' => loop stuck silent body turns a'
    | .inr b => pure b

variable {guard : Log C R → C → Prop} {history : Log C R} {s : σ}

variable {post : Log C R → Run ε β → σ → Prop}

theorem wp_get_bind {f : σ → Op C R σ ε β}
    (holds : wp guard post history s (f s)) : wp guard post history s (get >>= f) :=
  holds

theorem wp_modify_bind {g : σ → σ} {f : Unit → Op C R σ ε β}
    (holds : wp guard post history (g s) (f ())) : wp guard post history s (modify g >>= f) :=
  holds

theorem wp_perform_bind {c : C} {f : R c → Op C R σ ε β} (allowed : guard history c)
    (holds : ∀ r, wp guard post (history ++ [⟨c, r⟩]) s (f r)) :
    wp guard post history s (perform c >>= f) :=
  ⟨allowed, holds⟩

theorem wp_halt {post : Log C R → Run ε α → σ → Prop} {c : C} {silent : R c → False}
    (allowed : guard history c) : wp guard post history s (halt c silent : Op C R σ ε α) :=
  ⟨allowed, fun r => (silent r).elim⟩

/-- After a turn of a loop: the invariant when it goes on, the postcondition when it ends. -/
def AfterTurn (invariant : Log C R → α → σ → Prop) (post : Log C R → Run ε β → σ → Prop) :
    Log C R → Run ε (α ⊕ β) → σ → Prop
  | h, .ok (.inl a), s => invariant h a s
  | h, .ok (.inr b), s => post h (.ok b) s
  | h, .error stop, s => post h (.error stop) s

/-- A loop keeps what each of its turns keeps, until a turn leaves it or fails. -/
theorem wp_loop {stuck : C} {silent : R stuck → False} {body : α → Op C R σ ε (α ⊕ β)} {turns : Nat}
    {a : α} (invariant : Log C R → α → σ → Prop) (start : invariant history a s)
    (free : ∀ h, guard h stuck)
    (turn : ∀ h a s, invariant h a s → wp guard (AfterTurn invariant post) h s (body a)) :
    wp guard post history s (loop stuck silent body turns a) := by
  induction turns generalizing history a s with
  | zero => exact wp_halt (free history)
  | succ turns ih =>
    rw [loop, wp_bind]
    refine wp_mono ?_ (turn history a s start)
    intro h result s' holds
    match result, holds with
    | .error stop, holds => exact holds
    | .ok (.inl a'), holds => exact ih holds
    | .ok (.inr b), holds => exact holds

/-! ### Operations that may fail -/

/-- A postcondition of the values that are returned. -/
def OnOk (post : Log C R → α → σ → Prop) : Log C R → Run ε α → σ → Prop
  | h, .ok a, s => post h a s
  | _, .error _, _ => True

/-- Every call satisfies `guard`, and a value that is returned satisfies `post`. -/
def Meets (guard : Log C R → C → Prop) (post : Log C R → α → σ → Prop)
    (history : Log C R) (s : σ) (x : Op C R σ ε α) : Prop :=
  wp guard (OnOk post) history s x

/-- After a turn of a loop that did not fail. -/
def NextTurn (invariant : Log C R → α → σ → Prop)
    (post : Log C R → β → σ → Prop) : Log C R → α ⊕ β → σ → Prop
  | h, .inl a, s => invariant h a s
  | h, .inr b, s => post h b s

namespace Meets

variable {post : Log C R → β → σ → Prop} {x : Op C R σ ε α}

theorem mono {post post' : Log C R → α → σ → Prop} (holds : Meets guard post history s x)
    (weaker : ∀ h a s', post h a s' → post' h a s') : Meets guard post' history s x := by
  refine wp_mono ?_ holds
  intro h result s' kept
  cases result with
  | error stop => trivial
  | ok a => exact weaker h a s' kept

theorem bind {mid : Log C R → α → σ → Prop} {f : α → Op C R σ ε β}
    (first : Meets guard mid history s x)
    (second : ∀ h a s', mid h a s' → Meets guard post h s' (f a)) :
    Meets guard post history s (x >>= f) := by
  refine (wp_bind x f).mpr (wp_mono ?_ first)
  intro h result s' kept
  cases result with
  | error stop => trivial
  | ok a => exact second h a s' kept

theorem of_pure {a : α} {post : Log C R → α → σ → Prop} (holds : post history a s) :
    Meets guard post history s (Pure.pure a : Op C R σ ε α) :=
  holds

theorem of_perform {c : C} {post : Log C R → R c → σ → Prop} (allowed : guard history c)
    (holds : ∀ r, post (history ++ [⟨c, r⟩]) r s) :
    Meets guard post history s (perform c : Op C R σ ε (R c)) :=
  ⟨allowed, holds⟩

theorem perform_bind {c : C} {f : R c → Op C R σ ε β} (allowed : guard history c)
    (holds : ∀ r, Meets guard post (history ++ [⟨c, r⟩]) s (f r)) :
    Meets guard post history s (perform c >>= f) :=
  ⟨allowed, holds⟩

theorem of_loop {stuck : C} {silent : R stuck → False} {body : α → Op C R σ ε (α ⊕ β)} {turns : Nat}
    {a : α} (invariant : Log C R → α → σ → Prop) (start : invariant history a s)
    (free : ∀ h, guard h stuck)
    (turn : ∀ h a s, invariant h a s → Meets guard (NextTurn invariant post) h s (body a)) :
    Meets guard post history s (loop stuck silent body turns a) := by
  refine wp_loop invariant start free ?_
  intro h a s holds
  refine wp_mono ?_ (turn h a s holds)
  intro h' result s' kept
  match result, kept with
  | .error stop, _ => trivial
  | .ok (.inl a'), kept => exact kept
  | .ok (.inr b), kept => exact kept

theorem of_when {c : Prop} [Decidable c] {x : Op C R σ ε Unit}
    {post : Log C R → Unit → σ → Prop} (held : c → Meets guard post history s x)
    (skipped : ¬ c → post history () s) : Meets guard post history s (when c x) := by
  unfold Op.when
  split
  · rename_i holds
    exact held holds
  · rename_i fails
    exact skipped fails

end Meets

/-! ### The calls since a point of the history -/

/-- The history has been extended by calls that satisfy `P`. -/
def Since (P : C → Prop) (history h : Log C R) : Prop :=
  ∃ log, h = history ++ log ∧ ∀ answer ∈ log, P answer.1

namespace Since

variable {P Q : C → Prop} {h h' : Log C R}

theorem grows (since : Since P history h) : history <+: h := by
  obtain ⟨log, rfl, -⟩ := since
  exact List.prefix_append _ _

theorem refl : Since P history history :=
  ⟨[], by simp⟩

theorem trans (first : Since P history h) (second : Since P h h') : Since P history h' := by
  obtain ⟨log, rfl, holds⟩ := first
  obtain ⟨more, rfl, holds'⟩ := second
  refine ⟨log ++ more, by simp, ?_⟩
  intro answer member
  rcases List.mem_append.mp member with member | member
  · exact holds answer member
  · exact holds' answer member

theorem single {c : C} {r : R c} (holds : P c) : Since P history (history ++ [⟨c, r⟩]) := by
  refine ⟨[⟨c, r⟩], rfl, ?_⟩
  intro answer member
  rw [List.mem_singleton] at member
  exact member ▸ holds

end Since

/-! ### An environment with a state -/

variable {ω : Type}

/-- Whatever the environment answers in its state, and however that state then changes, the result
    satisfies `post`. -/
def Under (serves : ω → Answer C R → ω → Prop) (post : Run ε α → σ → ω → Prop) (w : ω) (s : σ)
    (x : Op C R σ ε α) : Prop :=
  go w (x s)
where
  go : ω → Proc C R (Run ε α × σ) → Prop
    | w, .ret (result, s) => post result s w
    | w, .call c k => ∀ r w', serves w ⟨c, r⟩ w' → go w' (k r)

variable {post : Run ε β → σ → ω → Prop}

namespace Under

variable {serves : ω → Answer C R → ω → Prop} {w : ω}

variable {f : α → Op C R σ ε β}

theorem go_bind {mid : Run ε α → σ → ω → Prop} {next : Run ε α × σ → Proc C R (Run ε β × σ)}
    (p : Proc C R (Run ε α × σ)) (first : Under.go serves mid w p)
    (second : ∀ result s w, mid result s w → Under.go serves post w (next (result, s))) :
    Under.go serves post w (p.bind next) := by
  induction p generalizing w with
  | ret a => exact second a.1 a.2 w first
  | call c k ih => exact fun r w' served => ih r (first r w' served)

theorem bind {mid : Run ε α → σ → ω → Prop} {x : Op C R σ ε α} (first : Under serves mid w s x)
    (failed : ∀ stop s w, mid (.error stop) s w → post (.error stop) s w)
    (second : ∀ a s w, mid (.ok a) s w → Under serves post w s (f a)) :
    Under serves post w s (x >>= f) := by
  refine go_bind (x s) first fun result s w holds => ?_
  cases result with
  | error stop => exact failed stop s w holds
  | ok a => exact second a s w holds

theorem ofRun_bind {y : Run ε α} (failed : ∀ stop, y = .error stop → post (.error stop) s w)
    (holds : ∀ a, y = .ok a → Under serves post w s (f a)) :
    Under serves post w s (ofRun y >>= f) := by
  cases y with
  | error stop => exact failed stop rfl
  | ok a => exact holds a rfl

theorem reject_bind {bad : Prop} [Decidable bad] {e : ε} {f : Unit → Op C R σ ε β}
    (failed : bad → post (Run.fail e) s w) (holds : ¬ bad → Under serves post w s (f ())) :
    Under serves post w s (ofRun (Run.rejectIf bad e) >>= f) := by
  by_cases refused : bad
  · rw [Run.rejectIf, if_pos refused]
    exact failed refused
  · rw [Run.rejectIf, if_neg refused]
    exact holds refused

/-- A loop keeps what each of its turns keeps, until a turn leaves it or fails. -/
theorem of_loop {stuck : C} {silent : R stuck → False} {body : α → Op C R σ ε (α ⊕ β)} {turns : Nat}
    {a : α} (invariant : α → σ → ω → Prop) (start : invariant a s w)
    (turn : ∀ a s w, invariant a s w → Under serves (fun result : Run ε (α ⊕ β) =>
      match result with
      | .ok (.inl a) => invariant a
      | .ok (.inr b) => post (.ok b)
      | .error stop => post (.error stop)) w s (body a)) :
    Under serves post w s (loop stuck silent body turns a) := by
  induction turns generalizing a s w with
  | zero => exact fun r => (silent r).elim
  | succ turns ih =>
    refine (turn a s w start).bind (fun stop s w holds => holds) ?_
    rintro (a' | b) s' w' holds
    · exact ih holds
    · exact holds

/-- The result of a run that the environment has answered. -/
theorem of_returns {post : Run ε α → σ → ω → Prop} {x : Op C R σ ε α} {log : Log C R}
    {result : Run ε α} {s' : σ} {w' : ω} (holds : Under serves post w s x)
    (runs : Returns x s log result s') (served : Trace serves w log w') : post result s' w' := by
  suffices general : ∀ {p q : Proc C R (Run ε α × σ)} {log}, p.Runs log q → ∀ w,
      Under.go serves post w p → Trace serves w log w' → Under.go serves post w' q from
    general runs w holds served
  intro p q log runs
  induction runs with
  | refl p =>
    intro w holds served
    rw [served.eq_of_nil]
    exact holds
  | step rest ih =>
    intro w holds served
    obtain ⟨mid, first, later⟩ := Trace.split (show Trace serves w ([_] ++ _) w' from served)
    exact ih mid (holds _ mid first.of_singleton) later

end Under

end Op

end NativeIpc.Lib
