import NativeIpc.Lib.Trace

/-!
# Two parties over reliable channels

A party is a labelled transition system whose steps may send or receive one
record. Two parties run interleaved over one first-in-first-out channel in each
direction. Seen from one party the run is a trace of its own steps, and what
one party has received is a prefix of what the other has sent: agreement
between the two then follows from what each party's own records say.
-/

namespace NativeIpc.Lib

open List

/-- What a step of a party does on its channels. -/
inductive Comm (α : Type) where
  | silent
  | sends (record : α)
  | receives (record : α)

namespace Comm

variable {α : Type}

/-- The record that a step sends. -/
def sent : Comm α → Option α
  | sends record => some record
  | _ => none

/-- The record that a step receives. -/
def received : Comm α → Option α
  | receives record => some record
  | _ => none

variable (events : List (Comm α))

/-- The records sent by a list of steps, oldest first. -/
def sentIn : List α := events.filterMap sent

/-- The records received by a list of steps, oldest first. -/
def receivedIn : List α := events.filterMap received

theorem sentIn_concat (event : Comm α) :
    sentIn (events ++ [event]) = sentIn events ++ event.sent.toList := by
  rw [sentIn, filterMap_append]
  cases event <;> rfl

theorem receivedIn_concat (event : Comm α) :
    receivedIn (events ++ [event]) = receivedIn events ++ event.received.toList := by
  rw [receivedIn, filterMap_append]
  cases event <;> rfl

end Comm

/-! ### Parties that may fail -/

open Comm

section Fallible

variable {σ α : Type}

/-- The steps of a party that may fail at any point while it is running: before it does anything,
    after a send whose record has left, and after a record that it refuses. -/
inductive Fallible (moves : σ → Comm α → σ → Prop) (Running : σ → Prop) (failed : σ) :
    σ → Comm α → σ → Prop
  | moves {state event next} (moved : moves state event next) :
      Fallible moves Running failed state event next
  | stops {state} (running : Running state) : Fallible moves Running failed state .silent failed
  | sendFails {state record next} (moved : moves state (.sends record) next) :
      Fallible moves Running failed state (.sends record) failed
  | refuses {state record} (running : Running state) :
      Fallible moves Running failed state (.receives record) failed

/-- What a party's moves keep about the records it has sent and received holds on all its traces,
    once nothing is asked of a failed party. -/
theorem Fallible.invariant {moves : σ → Comm α → σ → Prop} {Running : σ → Prop} {failed start : σ}
    {I : List α → List α → σ → Prop} (initial : I [] [] start)
    (kept : ∀ sent received state event next, I sent received state → moves state event next →
      I (sent ++ event.sent.toList) (received ++ event.received.toList) next)
    (anything : ∀ sent received, I sent received failed) {events : List (Comm α)} {state : σ}
    (trace : Trace (Fallible moves Running failed) start events state) :
    I (sentIn events) (receivedIn events) state := by
  induction trace with
  | nil => exact initial
  | snoc before last ih =>
    rw [sentIn_concat, receivedIn_concat]
    cases last with
    | moves moved => exact kept _ _ _ _ _ ih moved
    | stops _ => exact anything _ _
    | sendFails _ => exact anything _ _
    | refuses _ => exact anything _ _

end Fallible

/-! ### Two parties -/

/-- Two parties and the records under way between them, oldest first. -/
structure Duplex (σ τ α : Type) where
  left : σ
  right : τ
  toRight : List α
  toLeft : List α

namespace Duplex

variable {σ τ α : Type} {L : σ → Comm α → σ → Prop} {R : τ → Comm α → τ → Prop}

/-- Nothing is under way. -/
def start (left : σ) (right : τ) : Duplex σ τ α := ⟨left, right, [], []⟩

/-- One party takes a step: what it receives is the oldest record on its way to it, what it sends
    comes last on the way to the other. -/
inductive Step (L : σ → Comm α → σ → Prop) (R : τ → Comm α → τ → Prop) :
    Duplex σ τ α → Comm α ⊕ Comm α → Duplex σ τ α → Prop
  | left {l l' r event toRight toLeft toLeft'} (moved : L l event l')
      (delivered : toLeft = event.received.toList ++ toLeft') :
      Step L R ⟨l, r, toRight, toLeft⟩ (.inl event)
        ⟨l', r, toRight ++ event.sent.toList, toLeft'⟩
  | right {l r r' event toRight toRight' toLeft} (moved : R r event r')
      (delivered : toRight = event.received.toList ++ toRight') :
      Step L R ⟨l, r, toRight, toLeft⟩ (.inr event)
        ⟨l, r', toRight', toLeft ++ event.sent.toList⟩

variable (events : List (Comm α ⊕ Comm α))

/-- The steps of the left party. -/
def lefts : List (Comm α) := events.filterMap Sum.getLeft?

/-- The steps of the right party. -/
def rights : List (Comm α) := events.filterMap Sum.getRight?

theorem lefts_concat_inl (event : Comm α) :
    lefts (events ++ [.inl event]) = lefts events ++ [event] := filterMap_append

theorem lefts_concat_inr (event : Comm α) : lefts (events ++ [.inr event]) = lefts events :=
  filterMap_append.trans (append_nil _)

theorem rights_concat_inl (event : Comm α) : rights (events ++ [.inl event]) = rights events :=
  filterMap_append.trans (append_nil _)

theorem rights_concat_inr (event : Comm α) :
    rights (events ++ [.inr event]) = rights events ++ [event] := filterMap_append

variable {l₀ : σ} {r₀ : τ} {events : List (Comm α ⊕ Comm α)} {state : Duplex σ τ α}

section

variable (run : Trace (Step L R) (start l₀ r₀) events state)
include run

theorem left_run : Trace L l₀ (lefts events) state.left := by
  induction run with
  | nil => exact .nil
  | snoc before last ih =>
    cases last with
    | left moved _ =>
      rw [lefts_concat_inl]
      exact ih.snoc moved
    | right _ _ =>
      rw [lefts_concat_inr]
      exact ih

theorem right_run : Trace R r₀ (rights events) state.right := by
  induction run with
  | nil => exact .nil
  | snoc before last ih =>
    cases last with
    | left _ _ =>
      rw [rights_concat_inl]
      exact ih
    | right moved _ =>
      rw [rights_concat_inr]
      exact ih.snoc moved

/-- No record is lost, duplicated or reordered. -/
theorem in_transit :
    sentIn (lefts events) = receivedIn (rights events) ++ state.toRight ∧
      sentIn (rights events) = receivedIn (lefts events) ++ state.toLeft := by
  induction run with
  | nil => exact ⟨rfl, rfl⟩
  | snoc before last ih =>
    obtain ⟨toRight, toLeft⟩ := ih
    cases last with
    | left _ delivered =>
      rw [lefts_concat_inl, rights_concat_inl, sentIn_concat, receivedIn_concat, toRight,
        toLeft, delivered]
      exact ⟨append_assoc _ _ _, (append_assoc _ _ _).symm⟩
    | right _ delivered =>
      rw [lefts_concat_inr, rights_concat_inr, sentIn_concat, receivedIn_concat, toRight,
        toLeft, delivered]
      exact ⟨(append_assoc _ _ _).symm, append_assoc _ _ _⟩

/-- A record that one party has received stands at the same place among those the other sent. -/
theorem right_received {index : Nat}
    {record : α} (received : (receivedIn (rights events))[index]? = some record) :
    (sentIn (lefts events))[index]? = some record := by
  have bound := (List.getElem?_eq_some_iff.mp received).1
  rw [(in_transit run).1, getElem?_append_left bound]
  exact received

theorem left_received {index : Nat}
    {record : α} (received : (receivedIn (lefts events))[index]? = some record) :
    (sentIn (rights events))[index]? = some record := by
  have bound := (List.getElem?_eq_some_iff.mp received).1
  rw [(in_transit run).2, getElem?_append_left bound]
  exact received

end

end Duplex

end NativeIpc.Lib
