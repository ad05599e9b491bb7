import NativeIpc.Lib.Program

/-!
# Loops over a list, and the first error of a sweep

A loop that carries a value over a list, and a loop that changes the items of a list in place. The
rules say what each turn does; what holds of the whole loop follows.

A sweep goes through all its steps whatever they answer and remembers the first error. The steps it
makes when nothing fails are its script; what it remembers is where its history first leaves the
script.
-/

namespace NativeIpc.Lib

open List

namespace Op

variable {C : Type} {R : C → Type} {σ ε α β : Type}
  {guard : Log C R → C → Prop} {history : Log C R} {s : σ}

/-! ### Loops -/

/-- A loop that carries a value keeps what each of its turns keeps, if no turn can stop it. -/
theorem wp_foldlM {items : List β} {body : α → β → Op C R σ ε α} {a : α}
    {post : Log C R → Run ε α → σ → Prop} (invariant : List β → Log C R → α → σ → Prop)
    (start : invariant [] history a s)
    (turn : ∀ before item rest h a s, before ++ item :: rest = items → invariant before h a s →
      wp guard (fun h result s => ∃ a, result = .ok a ∧ invariant (before ++ [item]) h a s) h s
        (body a item)) (finish : ∀ h a s, invariant items h a s → post h (.ok a) s) :
    wp guard post history s (items.foldlM body a) := by
  suffices general : ∀ (rest before : List β) (h : Log C R) (a : α) (s : σ),
      before ++ rest = items → invariant before h a s →
        wp guard post h s (rest.foldlM body a) from
    general items [] history a s rfl start
  intro rest
  induction rest with
  | nil =>
    intro before h a s all holds
    rw [append_nil] at all
    subst all
    exact finish h a s holds
  | cons item rest ih =>
    intro before h a s all holds
    rw [foldlM_cons, wp_bind]
    refine wp_mono ?_ (turn before item rest h a s all holds)
    rintro h' _ s' ⟨a', rfl, holds'⟩
    exact ih (before ++ [item]) h' a' s' (by simpa using all) holds'

/-- `for item in &mut items { x(item)?; }`: the items that were reached are changed, whether or not
    the last of them stopped the loop. -/
def forEach (x : Op C R σ ε Unit) : Op C R (List σ) ε Unit
  | [] => .ret (.ok (), [])
  | item :: rest => (x item).bind fun
    | (.ok _, item) => (forEach x rest).bind fun (result, rest) => .ret (result, item :: rest)
    | (.error stop, item) => .ret (.error stop, item :: rest)

/-- What a turn on `item` leaves: it did not fault, it `keeps` something of the item in any case,
    and it has `made` something of it if it returned. -/
structure Turned (invariant : Log C R → Prop) (keeps made : σ → σ → Prop) (item : σ)
    (h : Log C R) (result : Run ε Unit) (item' : σ) : Prop where
  invariant : invariant h
  sound : result ≠ Run.fault
  keeps : keeps item item'
  made : result = .ok () → made item item'

variable {x : Op C R σ ε Unit}

/-- A loop in place does to all items what each turn does to its own. -/
theorem wp_forEach {items : List σ} {invariant : Log C R → Prop}
    {keeps made : σ → σ → Prop} (same : ∀ item, keeps item item) (start : invariant history)
    (turn : ∀ item ∈ items, ∀ h, invariant h → wp guard (Turned invariant keeps made item) h item x) :
    wp guard (Turned invariant (List.Forall₂ keeps) (List.Forall₂ made) items) history items
      (forEach x) := by
  induction items generalizing history with
  | nil =>
    change Turned invariant (List.Forall₂ keeps) (List.Forall₂ made) [] history (.ok ()) []
    exact ⟨start, by simp [Run.fault], .nil, fun _ => .nil⟩
  | cons item rest ih =>
    obtain ⟨first, others⟩ := forall_mem_cons.mp turn
    unfold wp forEach
    rw [Proc.wp_bind]
    refine Proc.wp_mono ?_ (first history start)
    rintro h ⟨stop | _, item'⟩ turned
    · exact ⟨turned.invariant, fun faulted => turned.sound (by cases faulted; rfl),
        .cons turned.keeps (forall₂_same.mpr fun item _ => same item), fun ok => by cases ok⟩
    · rw [Proc.wp_bind]
      refine Proc.wp_mono ?_ (ih turned.invariant others)
      rintro h' ⟨result, rest'⟩ swept
      exact ⟨swept.invariant, swept.sound, .cons turned.keeps swept.keeps,
        fun ok => .cons (turned.made rfl) (swept.made ok)⟩

/-! ### The first error -/

/-- A call, and the error that each of its replies means. -/
structure Step (C : Type) (R : C → Type) (ε : Type) where
  call : C
  error : R call → Option ε

/-- `x` makes the call of `step` and stops with the error of the reply. -/
def Asks (step : Step C R ε) (x : Op C R σ ε Unit) : Prop :=
  ∀ s, x s = .call step.call fun reply => .ret (match step.error reply with
    | none => .ok ()
    | some e => .error (.error e), s)

/-- `x.err()`. -/
def err (x : Op C R σ ε Unit) : Op C R σ ε (Option ε) := do
  match ← attempt x with
  | .ok () => pure none
  | .error (.error e) => pure (some e)
  | .error .fault => ofRun Run.fault

variable {step : Step C R ε}

theorem wp_asks {post : Log C R → Run ε Unit → σ → Prop} (asks : Asks step x)
    (allowed : guard history step.call) (passed : ∀ reply, step.error reply = none →
      post (history ++ [⟨step.call, reply⟩]) (.ok ()) s)
    (failed : ∀ reply e, step.error reply = some e →
      post (history ++ [⟨step.call, reply⟩]) (.error (.error e)) s) :
    wp guard post history s x := by
  unfold wp
  rw [asks s]
  refine ⟨allowed, fun reply => ?_⟩
  cases value : step.error reply with
  | none =>
    simp only [value]
    exact passed reply value
  | some e =>
    simp only [value]
    exact failed reply e value

theorem wp_err_asks {post : Log C R → Run ε (Option ε) → σ → Prop} (asks : Asks step x)
    (allowed : guard history step.call)
    (holds : ∀ reply, post (history ++ [⟨step.call, reply⟩]) (.ok (step.error reply)) s) :
    wp guard post history s (err x) := by
  unfold err
  rw [wp_bind, wp_attempt]
  refine wp_asks asks allowed ?_ ?_
  · intro reply value
    have holds := holds reply
    rw [value] at holds
    exact holds
  · intro reply e value
    have holds := holds reply
    rw [value] at holds
    exact holds

end Op

variable {C : Type} {R : C → Type} {ε : Type} {log : Log C R}
  {script : List (Op.Step C R ε)}

/-- Every step of the script was made, in its order, and answered without an error. -/
def Met (log : Log C R) (script : List (Op.Step C R ε)) : Prop :=
  List.Forall₂ (fun answer step => ∃ reply, answer = ⟨step.call, reply⟩ ∧ step.error reply = none)
    log script

/-- The history follows the script up to a step whose answer is the error `e`. -/
structure Deviates (log : Log C R) (script : List (Op.Step C R ε)) (e : ε) : Prop where
  departs : ∃ common met step reply rest later, log = common ++ ⟨step.call, reply⟩ :: rest ∧
    script = met ++ step :: later ∧ Met common met ∧ step.error reply = some e

/-- What a sweep remembers after the steps of the script. -/
def Remembers (log : Log C R) (script : List (Op.Step C R ε)) : Option ε → Prop
  | none => Met log script
  | some e => Deviates log script e

variable {step : Op.Step C R ε} {first : Option ε}

theorem Met.snoc {reply : R step.call} (met : Met log script)
    (clean : step.error reply = none) : Met (log ++ [⟨step.call, reply⟩]) (script ++ [step]) :=
  rel_append met (.cons ⟨reply, rfl, clean⟩ .nil)

/-- Each step of a script that is met has its answer in the history. -/
theorem Met.answered (met : Met log script) (member : step ∈ script) :
    ∃ reply, ⟨step.call, reply⟩ ∈ log ∧ step.error reply = none := by
  induction met with
  | nil => cases member
  | cons answered _ ih =>
    obtain ⟨reply, rfl, clean⟩ := answered
    rcases mem_cons.mp member with rfl | member
    · exact ⟨reply, mem_cons_self, clean⟩
    · obtain ⟨reply', present, clean'⟩ := ih member
      exact ⟨reply', mem_cons_of_mem _ present, clean'⟩

/-- What came after the error does not change which was the first. -/
theorem Deviates.append {e : ε} (deviates : Deviates log script e) (more : Log C R)
    (steps : List (Op.Step C R ε)) : Deviates (log ++ more) (script ++ steps) e := by
  obtain ⟨common, met, step, reply, rest, later, rfl, rfl, followed, error⟩ := deviates.departs
  exact ⟨common, met, step, reply, rest ++ more, later ++ steps, by simp, by simp, followed, error⟩

/-- `if first_error.is_none() { first_error = step.err(); }` after the step was made. -/
theorem Remembers.snoc (remembers : Remembers log script first)
    (step : Op.Step C R ε) (reply : R step.call) :
    Remembers (log ++ [⟨step.call, reply⟩]) (script ++ [step]) (first <|> step.error reply) := by
  cases first with
  | some e => exact Deviates.append remembers _ _
  | none =>
    change Remembers _ _ (step.error reply)
    cases value : step.error reply with
    | none => exact Met.snoc remembers value
    | some e => exact ⟨log, script, step, reply, [], [], rfl, rfl, remembers, value⟩

/-- A step that is left out because there is an error already. -/
theorem Remembers.skip (remembers : Remembers log script first)
    (known : first.isSome) (step : Op.Step C R ε) : Remembers log (script ++ [step]) first := by
  cases first with
  | none => cases known
  | some e =>
    have longer := Deviates.append remembers [] [step]
    rw [append_nil] at longer
    exact longer

end NativeIpc.Lib
