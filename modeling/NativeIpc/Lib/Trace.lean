import Mathlib.Data.List.Induction

/-!
# Traces of labelled transition systems

A trace is the list of events of a run, oldest first. Invariants may speak
about the history as well as about the state, and a property that holds of a
prefix can be located there.
-/

namespace NativeIpc.Lib

variable {σ ε : Type} {step : σ → ε → σ → Prop}

/-- `Trace step start events state`: the events lead from `start` to `state`. -/
inductive Trace (step : σ → ε → σ → Prop) (start : σ) : List ε → σ → Prop
  | nil : Trace step start [] start
  | snoc {events : List ε} {state next : σ} {event : ε} (before : Trace step start events state)
      (last : step state event next) : Trace step start (events ++ [event]) next

variable {state : σ}

namespace Trace

variable {start : σ}
  {events : List ε}

/-- What holds at the start and is kept by every step holds after every trace. -/
theorem invariant {I : List ε → σ → Prop} (initial : I [] start)
    (kept : ∀ events state event next, Trace step start events state → I events state →
      step state event next → I (events ++ [event]) next)
    (trace : Trace step start events state) : I events state := by
  induction trace with
  | nil => exact initial
  | snoc before last ih => exact kept _ _ _ _ before ih last

theorem append {earlier later : List ε} {mid : σ} (first : Trace step start earlier mid)
    (rest : Trace step mid later state) : Trace step start (earlier ++ later) state := by
  induction rest with
  | nil => simpa using first
  | snoc before last ih =>
    rw [← List.append_assoc]
    exact ih.snoc last

/-- A trace passes through a state after each of its prefixes. -/
theorem split {earlier later : List ε} (trace : Trace step start (earlier ++ later) state) :
    ∃ mid, Trace step start earlier mid ∧ Trace step mid later state := by
  induction later using List.reverseRecOn generalizing state with
  | nil => exact ⟨state, by simpa using trace, nil⟩
  | append_singleton later event ih =>
    generalize hevents : earlier ++ (later ++ [event]) = events at trace
    cases trace with
    | nil => simp at hevents
    | snoc before last =>
      rw [← List.append_assoc] at hevents
      obtain ⟨rfl, hevent⟩ := List.append_inj' hevents rfl
      cases hevent
      obtain ⟨mid, first, rest⟩ := ih before
      exact ⟨mid, first, rest.snoc last⟩

theorem eq_of_nil (trace : Trace step start [] state) : state = start := by
  generalize hevents : [] = events at trace
  cases trace with
  | nil => rfl
  | snoc _ _ => simp at hevents

/-- A trace of one event is a step. -/
theorem of_singleton {event : ε} (trace : Trace step start [event] state) :
    step start event state := by
  generalize hevents : [event] = events at trace
  cases trace with
  | nil => cases hevents
  | snoc before last =>
    obtain ⟨rfl, hevent⟩ := List.append_inj' (show [] ++ [event] = _ from hevents) rfl
    cases hevent
    rw [← before.eq_of_nil]
    exact last

/-- The step that made an event of a trace, from the state that the earlier events led to. -/
theorem at_event {earlier later : List ε} {event : ε}
    (trace : Trace step start (earlier ++ event :: later) state) :
    ∃ mid next, Trace step start earlier mid ∧ step mid event next ∧
      Trace step next later state := by
  rw [← List.singleton_append] at trace
  obtain ⟨mid, before, rest⟩ := trace.split
  obtain ⟨next, one, after⟩ := rest.split
  exact ⟨mid, next, before, one.of_singleton, after⟩

/-- A relation that steps of one system carry over to another relates the ends of their traces. -/
theorem simulate {τ : Type} {step' : τ → ε → τ → Prop} {start' : τ} {R : σ → τ → Prop}
    (initial : R start start')
    (follows : ∀ state event next abstract, R state abstract → step state event next →
      ∃ next', step' abstract event next' ∧ R next next') (trace : Trace step start events state) :
    ∃ abstract, Trace step' start' events abstract ∧ R state abstract := by
  induction trace with
  | nil => exact ⟨start', nil, initial⟩
  | snoc before last ih =>
    obtain ⟨abstract, before', related⟩ := ih
    obtain ⟨next', last', related'⟩ := follows _ _ _ _ related last
    exact ⟨next', before'.snoc last', related'⟩

end Trace

end NativeIpc.Lib
