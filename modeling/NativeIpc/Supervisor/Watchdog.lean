import NativeIpc.Lib.Bytes
import NativeIpc.Lib.Trace
import Mathlib.Data.List.Nodup
import Mathlib.Data.List.Forall2

/-!
# The watchdog's table of sessions

`WatchdogTable` keeps the exact broker of every session until it is reaped. Its state are its
cells, the entries behind their `Rc`: a cell stays when `sweep_reaped` moves its handle from `live`
to `tombstones`, since a guard may still hold it. A guard is the index of its cell, used or dropped
at any time, so that every order of operations is a run; none comes while a `commit_guard` pins a
cell. What the clock, the brokers and the Ready reply answer are arguments. Lines are those of
`supervisor_watchdog.rs`.
-/

namespace NativeIpc.Supervisor

open NativeIpc.Lib List

inductive WatchdogStateError where
  | capacityExceeded | unknownSession | wrongConnection | invalidTransition | deadlineExpired
  | brokerActivationFailed | brokerResumeFailed

inductive TerminationReason where
  | launchAbandoned | clientDisconnected | deadlineExpired | clientRequested
  | unexpectedBrokerStop | protocolViolation | spawnResultUndeliverable

inductive BrokerPhase where
  | starting | traced | readyCommitted
  | terminationRequired (reason : TerminationReason)
  | reaping (reason : TerminationReason)
  | reaped (reason : TerminationReason)

/-- The reason for a cleanup, once there is one. -/
def BrokerPhase.reason : BrokerPhase → Option TerminationReason
  | .starting | .traced | .readyCommitted => none
  | .terminationRequired reason | .reaping reason | .reaped reason => some reason

/-- Lines 512-518, with how often the broker was reaped, whether the handle is a tombstone and how
    often `send_once` was called for its Ready. -/
structure WatchdogEntry where
  handle : FixedBytes 32
  connection : UInt64
  deadline : Nat
  broker : Bool
  phase : BrokerPhase
  reaps : Nat
  swept : Bool
  sends : Nat

/-- What the caller gets, with `Ok(Err(..))` as `false`. -/
abbrev WatchdogReply : Type := Except WatchdogStateError Bool

/-- A reply and the new state; `none` is an abort. -/
abbrev Outcome (σ : Type) : Type := Option (WatchdogReply × σ)

/-- There is no abort, and the new state is as `P` says. -/
def Leads {σ : Type} (P : σ → Prop) (x : Outcome σ) : Prop := ∃ r s, x = some (r, s) ∧ P s

theorem Leads.bind {σ τ : Type} {P : σ → Prop} {Q : τ → Prop} {x : Outcome σ}
    {g : WatchdogReply × σ → Outcome τ} (leads : Leads P x)
    (rest : ∀ r s, P s → Leads Q (g (r, s))) : Leads Q (x.bind g) := by
  obtain ⟨r, s, rfl, holds⟩ := leads
  exact rest r s holds

theorem Leads.mono {σ : Type} {P Q : σ → Prop} {x : Outcome σ} (leads : Leads P x)
    (weaker : ∀ s, P s → Q s) : Leads Q x := by
  obtain ⟨r, s, result, holds⟩ := leads
  exact ⟨r, s, result, weaker s holds⟩

namespace WatchdogEntry

section

variable (e : WatchdogEntry) (reason : TerminationReason) (ended : Bool) (now : Nat)
  (already r : WatchdogReply)

/-- The cleanup of `emergency_terminate_entry` and `terminate_internal`, which has `ended` or is to
    be tried again, lines 804-833 and 1093-1131. -/
def cleanUp : Outcome WatchdogEntry :=
  let begin (reason : TerminationReason) :=
    if e.broker then
      let e := { e with broker := false, phase := .reaping reason }
      some (r, if ended then { e with phase := .reaped reason, reaps := e.reaps + 1 }
        else { e with broker := true, phase := .terminationRequired reason })
    else none
  match e.phase with
  | .reaped _ => some (already, e)
  | .reaping _ => none
  | .terminationRequired existing => begin existing
  | .starting | .traced | .readyCommitted => begin reason

/-- Lines 798-834. -/
def emergencyTerminateEntry : Outcome WatchdogEntry := e.cleanUp reason true r r

/-- Lines 754-796. -/
def transitionRegisteredForDelivery : Outcome WatchdogEntry :=
  match e.phase with
  | .starting =>
    if e.deadline ≤ now then
      e.emergencyTerminateEntry .deadlineExpired (.error .deadlineExpired)
    else some (.ok true, { e with phase := .traced })
  | _ => e.emergencyTerminateEntry .protocolViolation (.error .invalidTransition)

/-- `deliver_at` and the drop of its guard, lines 340-418; `unsent` is the `cleanup_reason` of a
    reply that was not sent. -/
def deliverAt (unsent : Option TerminationReason) (resumed : Bool) : Outcome WatchdogEntry :=
  match e.phase with
  | .reaped _ => some (.error .unknownSession, e)
  | .reaping _ => none
  | .traced =>
    if e.deadline ≤ now then
      e.emergencyTerminateEntry .deadlineExpired (.error .deadlineExpired)
    else
      let e := { e with sends := e.sends + 1 }
      match unsent with
      | some reason => e.emergencyTerminateEntry reason (.ok false)
      | none =>
        if resumed then some (.ok true, { e with phase := .readyCommitted })
        else e.emergencyTerminateEntry .protocolViolation (.error .brokerResumeFailed)
  | _ => e.emergencyTerminateEntry .spawnResultUndeliverable (.error .invalidTransition)

/-- Lines 633-645. -/
def launchPermit : Outcome WatchdogEntry :=
  match e.phase with
  | .starting =>
    if e.deadline ≤ now then
      e.emergencyTerminateEntry .deadlineExpired (.error .deadlineExpired)
    else some (.ok true, e)
  | _ => some (.error .invalidTransition, e)

/-- Lines 588-608; the guard is given back at once. -/
def commitGuard : Outcome WatchdogEntry :=
  match e.phase with
  | .reaped _ => some (.error .unknownSession, e)
  | .reaping _ => none
  | _ => e.launchPermit now

/-- The check of `client_entry`, lines 1162-1169, before what is done with the entry. -/
def ofClient (connection : UInt64) (f : WatchdogEntry → Outcome WatchdogEntry) :
    Outcome WatchdogEntry :=
  if e.connection ≠ connection then some (.error .wrongConnection, e) else f e

/-- The transition of `mark_traced`, lines 963-971. -/
def markTraced : Outcome WatchdogEntry :=
  match e.phase with
  | .starting =>
    if e.deadline ≤ now then some (.error .deadlineExpired, e)
    else some (.ok true, { e with phase := .traced })
  | _ => some (.error .invalidTransition, e)

/-- The check of `terminate_undelivered_ready`, lines 1005-1012. -/
def undelivered : Outcome WatchdogEntry :=
  some (if e.phase matches .traced then .ok true else .error .invalidTransition, e)

/-- The check of `terminate_for_deadline`, lines 1041-1053. -/
def overdue : Outcome WatchdogEntry :=
  match e.phase with
  | .readyCommitted => some (.error .invalidTransition, e)
  | .reaped _ => some (.error .unknownSession, e)
  | .reaping _ => none
  | _ => some (if now < e.deadline then .error .invalidTransition else .ok true, e)

end

/-- The broker is held until it is reaped, once, and no cleanup is left half done. -/
def Kept (e : WatchdogEntry) : Prop :=
  match e.phase with
  | .reaping _ => False
  | .reaped _ => e.broker = false ∧ e.reaps = 1
  | _ => e.broker = true ∧ e.reaps = 0 ∧ e.swept = false

/-- Ready is sent by the delivery of a traced session, and by nothing else. -/
structure Sound (e : WatchdogEntry) : Prop where
  kept : e.Kept
  once : e.sends ≤ 1
  unsent : e.phase = .starting ∨ e.phase = .traced → e.sends = 0
  sent : e.phase = .readyCommitted → e.sends = 1

/-- The phase moves on, the first reason for a cleanup stays, and so does a tombstone. -/
structure Advances (e e' : WatchdogEntry) : Prop where
  handle : e'.handle = e.handle
  connection : e'.connection = e.connection
  deadline : e'.deadline = e.deadline
  phase : e.phase.ctorIdx ≤ e'.phase.ctorIdx
  reason : ∀ r ∈ e.phase.reason, r ∈ e'.phase.reason
  swept : e.swept → e'.swept

variable {e e' e'' : WatchdogEntry} {reason : TerminationReason} {ended : Bool} {now : Nat}
  {already r : WatchdogReply}

theorem Advances.refl (e : WatchdogEntry) : e.Advances e :=
  ⟨rfl, rfl, rfl, le_rfl, fun _ => id, id⟩

theorem Advances.trans (first : e.Advances e') (second : e'.Advances e'') : e.Advances e'' :=
  ⟨second.1.trans first.1, second.2.trans first.2, second.3.trans first.3, first.4.trans second.4,
    fun r before => second.5 r (first.5 r before), second.6 ∘ first.6⟩

def Later (e e' : WatchdogEntry) : Prop := e'.Sound ∧ e.Advances e'

/-- A cleanup keeps the first reason, and one that ends leaves the session reaped. -/
theorem cleanUp_spec (kept : e.Kept) (once : e.sends ≤ 1) :
    Leads (fun e' => e.Later e' ∧ (ended → e'.broker = false ∧ e'.reaps = 1))
      (e.cleanUp reason ended already r) := by
  obtain ⟨handle, connection, deadline, broker, phase, reaps, swept, sends⟩ := e
  cases phase with
  | reaping => exact kept.elim
  | reaped =>
    exact ⟨_, _, rfl, ⟨⟨kept, once, by simp, by simp⟩, .refl _⟩, fun _ => kept⟩
  | _ =>
    obtain ⟨rfl, rfl, rfl⟩ := kept
    cases ended <;> exact ⟨_, _, rfl, ⟨⟨by simp [Kept], once, by simp, by simp⟩, rfl, rfl, rfl,
      Nat.ble_eq.mp rfl, by simp [BrokerPhase.reason], id⟩, by simp⟩

section

variable (sound : e.Sound)
include sound

theorem leads_same : Leads e.Later (some (r, e)) := ⟨r, e, rfl, sound, .refl e⟩

theorem leads_cleanUp : Leads e.Later (e.cleanUp reason ended already r) :=
  (cleanUp_spec sound.kept sound.once).mono fun _ => And.left

/-- A session that starts becomes traced. -/
theorem later_traced (starting : e.phase = .starting) : e.Later { e with phase := .traced } := by
  obtain ⟨kept, once, unsent, -⟩ := sound
  rw [Kept, starting] at kept
  exact ⟨⟨kept, once, fun _ => unsent (.inl starting), by simp⟩, rfl, rfl, rfl,
    starting ▸ Nat.ble_eq.mp rfl, by simp [starting, BrokerPhase.reason], id⟩

theorem leads_transition : Leads e.Later (e.transitionRegisteredForDelivery now) := by
  unfold transitionRegisteredForDelivery
  split
  · rename_i starting
    split
    · exact leads_cleanUp sound
    · exact ⟨_, _, rfl, later_traced sound starting⟩
  · exact leads_cleanUp sound

theorem leads_markTraced : Leads e.Later (e.markTraced now) := by
  unfold markTraced
  split
  · rename_i starting
    split
    · exact leads_same sound
    · exact ⟨_, _, rfl, later_traced sound starting⟩
  · exact leads_same sound

/-- Only a traced session gets to `send_once`, and it does not stay traced. -/
theorem leads_deliverAt (unsent : Option TerminationReason) (resumed : Bool) :
    Leads e.Later (e.deliverAt now unsent resumed) := by
  unfold deliverAt
  split
  · exact leads_same sound
  · rename_i half
    have := sound.kept
    rw [Kept, half] at this
    exact this.elim
  · rename_i traced
    split
    · exact leads_cleanUp sound
    have first : e.sends = 0 := sound.unsent (.inr traced)
    have kept : Kept { e with sends := e.sends + 1 } := sound.kept
    -- What follows the send, whatever came of it.
    have cleaned (reason r) :
        Leads e.Later ({ e with sends := e.sends + 1 }.emergencyTerminateEntry reason r) := by
      have once : e.sends + 1 ≤ 1 := by omega
      refine (cleanUp_spec kept once).mono fun e' done => ⟨done.1.1, ?_⟩
      obtain ⟨handle, connection, deadline, phase, reason, swept⟩ := done.1.2
      exact ⟨handle, connection, deadline, phase, reason, swept⟩
    dsimp only
    split
    · exact cleaned ..
    · split
      · rw [Kept, traced] at kept
        exact ⟨_, _, rfl, ⟨kept, by simp [first], by simp, by simp [first]⟩, rfl, rfl, rfl,
          traced ▸ Nat.ble_eq.mp rfl, by simp [traced, BrokerPhase.reason], id⟩
      · exact cleaned ..
  · exact leads_cleanUp sound

theorem leads_launchPermit : Leads e.Later (e.launchPermit now) := by
  unfold launchPermit
  split
  · split
    · exact leads_cleanUp sound
    · exact leads_same sound
  · exact leads_same sound

theorem leads_commitGuard : Leads e.Later (e.commitGuard now) := by
  grind [commitGuard, leads_same, leads_launchPermit, Sound, Kept]

theorem leads_overdue : Leads e.Later (e.overdue now) := by
  grind [overdue, leads_same, Sound, Kept]

theorem leads_ofClient {connection : UInt64} {f : WatchdogEntry → Outcome WatchdogEntry}
    (follows : Leads e.Later (f e)) : Leads e.Later (e.ofClient connection f) := by
  unfold ofClient
  split
  · exact leads_same sound
  · exact follows

end

end WatchdogEntry

namespace WatchdogTable

open WatchdogEntry

section

variable (cells : List WatchdogEntry) (i : Nat) (f : WatchdogEntry → Outcome WatchdogEntry)
  (handle : FixedBytes 32) (reason : TerminationReason) (ended : Bool) (r : WatchdogReply)

/-- Every reaped session becomes a tombstone. -/
def sweep : List WatchdogEntry :=
  cells.map fun e => { e with swept := e.swept || e.phase matches .reaped _ }

/-- Lines 1172-1199. -/
def sweepReaped : Outcome (List WatchdogEntry) :=
  if ∃ e ∈ cells, ¬ e.swept ∧ ((e.phase matches .reaping _) ∨ (e.phase matches .reaped _) ∧
    ∃ old ∈ cells, old.swept ∧ old.handle = e.handle) then none
  else some (r, sweep cells)

/-- An operation of the guard of a cell. -/
def atCell : Outcome (List WatchdogEntry) :=
  match cells[i]? with
  | none => some (.error .unknownSession, cells)
  | some e => (f e).map fun (r, e) => (r, cells.set i e)

/-- An operation on a session in `live`. -/
def atSession : Outcome (List WatchdogEntry) :=
  (sweepReaped cells (.ok true)).bind fun (_, cells) =>
    atCell cells (cells.findIdx fun e => !e.swept && e.handle = handle) f

/-- Lines 1082-1136. -/
def terminateInternal : Outcome (List WatchdogEntry) :=
  (atSession cells (·.cleanUp reason ended (.error .unknownSession) (.ok ended)) handle).bind
    fun (r, cells) => if r.toOption = some true then sweepReaped cells r else some (r, cells)

/-- The termination of a session that passes a check. -/
def terminateIf : Outcome (List WatchdogEntry) :=
  (atSession cells f handle).bind fun (r, cells) =>
    if r.isOk then terminateInternal cells handle reason ended else some (r, cells)

/-- The table's `mark_traced`, lines 954-984. -/
def markTraced (connection : UInt64) (now : Nat) : Outcome (List WatchdogEntry) :=
  (atSession cells (·.ofClient connection (·.markTraced now)) handle).bind fun (r, cells) =>
    match r with
    | .error .deadlineExpired =>
      (terminateInternal cells handle .deadlineExpired ended).map fun (_, cells) => (r, cells)
    | _ => some (r, cells)

/-- Lines 845-926. A broker that is refused is dropped, which reaps it. -/
def register (connection : UInt64) (deadline now : Nat) (active : Bool) :
    Outcome (List WatchdogEntry) :=
  (sweepReaped cells (.ok true)).bind fun (_, cells) =>
    let e : WatchdogEntry := ⟨handle, connection, deadline, true, .starting, 0, false, 0⟩
    let abandon reason (err : WatchdogStateError) :=
      (e.emergencyTerminateEntry reason (.error err)).bind fun (r, e) =>
        sweepReaped (cells ++ [e]) r
    if 64 ≤ (cells.map (·.swept)).count false ∨ 4096 ≤ cells.length then
      some (.error .capacityExceeded, cells)
    else if ∃ f ∈ cells, f.handle = handle then some (.error .unknownSession, cells)
    else if deadline ≤ now then abandon .deadlineExpired .deadlineExpired
    else if active then some (.ok true, cells ++ [e])
    else abandon .launchAbandoned .brokerActivationFailed

/-- `Drop` of the table, lines 1232-1254. -/
def drop : Option (List WatchdogEntry) :=
  cells.mapM fun e => if e.swept then some e
    else (e.emergencyTerminateEntry .protocolViolation (.ok true)).map (·.2)

end

/-- What the service calls on the table and on the guards of its sessions. -/
inductive Operation : (List WatchdogEntry → Outcome (List WatchdogEntry)) → Prop
  | register (handle connection deadline now active) :
    Operation (register · handle connection deadline now active)
  | launchPermit (i now) : Operation (atCell · i (·.launchPermit now))
  | commitGuard (i now) : Operation (atCell · i (·.commitGuard now))
  | markTraced (handle ended connection now) : Operation (markTraced · handle ended connection now)
  | transition (i now) : Operation (atCell · i (·.transitionRegisteredForDelivery now))
  | markTracedForDelivery (handle connection now) :
    Operation (atSession · (·.ofClient connection (·.transitionRegisteredForDelivery now)) handle)
  | deliver (i now unsent resumed) : Operation (atCell · i (·.deliverAt now unsent resumed))
  | dropGuard (i reason) : Operation (atCell · i (·.emergencyTerminateEntry reason (.ok true)))
  | terminateUndeliveredReady (handle connection ended) :
    Operation (terminateIf · (·.ofClient connection undelivered) handle .spawnResultUndeliverable
      ended)
  | terminateForClient (handle connection reason ended) :
    Operation (terminateIf · (·.ofClient connection fun e => some (.ok true, e)) handle reason
      ended)
  | terminateForDeadline (handle now ended) :
    Operation (terminateIf · (·.overdue now) handle .deadlineExpired ended)
  | terminate (handle reason ended) : Operation (terminateInternal · handle reason ended)

structure Invariant (cells : List WatchdogEntry) : Prop where
  distinct : (cells.map (·.handle)).Nodup
  total : cells.length ≤ 4096
  live : (cells.map (·.swept)).count false ≤ 64
  sound : ∀ e ∈ cells, e.Sound

/-- No session is lost, and each gets on. -/
def Evolves (cells cells' : List WatchdogEntry) : Prop :=
  ∀ (i : Nat), ∀ e ∈ cells[i]?, ∃ e' ∈ cells'[i]?, e.Advances e'

/-- What the cells `o` may become. -/
def Good (o cells : List WatchdogEntry) : Prop := Invariant cells ∧ Evolves o cells

variable {o cells cells' : List WatchdogEntry} {handle : FixedBytes 32} {i : Nat}
  {f : WatchdogEntry → Outcome WatchdogEntry} {reason : TerminationReason} {ended : Bool}
  {e : WatchdogEntry} {r : WatchdogReply} {replies : List WatchdogReply}

theorem Evolves.refl (cells : List WatchdogEntry) : Evolves cells cells :=
  fun _ e found => ⟨e, found, .refl e⟩

/-- Entries that get on keep the handles, and no tombstone is taken back. -/
theorem counts_of_moves (moves : Forall₂ Later cells cells') :
    cells'.map (·.handle) = cells.map (·.handle) ∧
      (cells'.map (·.swept)).count false ≤ (cells.map (·.swept)).count false ∧
      ∀ e ∈ cells', e.Sound := by
  induction moves with
  | nil => simp
  | cons later _ ih =>
    obtain ⟨handles, live, sound⟩ := ih
    have kept := later.2.swept
    refine ⟨by simp [handles, later.2.handle], ?_, by simpa using ⟨later.1, sound⟩⟩
    simp only [map_cons, count_cons]
    grind

section

variable (good : Good o cells)
include good

theorem good_moves (moves : Forall₂ Later cells cells') : Good o cells' := by
  obtain ⟨inv, evolves⟩ := good
  obtain ⟨handles, live, sound⟩ := counts_of_moves moves
  refine ⟨⟨handles ▸ inv.distinct, moves.length_eq ▸ inv.total, live.trans inv.live, sound⟩, ?_⟩
  intro i e found
  obtain ⟨e', there, advances⟩ := evolves i e found
  obtain ⟨here, rfl⟩ := List.getElem?_eq_some_iff.mp there
  have later := (forall₂_iff_get.mp moves).2 i here (moves.length_eq ▸ here)
  exact ⟨_, getElem?_eq_getElem _, advances.trans later.2⟩

theorem good_push (room : ¬ (64 ≤ (cells.map (·.swept)).count false ∨ 4096 ≤ cells.length))
    (fresh : ¬ ∃ f ∈ cells, f.handle = e.handle) (sound : e.Sound) : Good o (cells ++ [e]) := by
  obtain ⟨⟨distinct, total, live, sounds⟩, evolves⟩ := good
  refine ⟨⟨?_, ?_, ?_, ?_⟩, ?_⟩
  · rw [map_append]
    exact distinct.append (by simp) (by simpa using fresh)
  · rw [length_append, length_singleton]
    omega
  · simp only [map_append, count_append, map_cons, map_nil, count_cons, count_nil]
    grind
  · simpa using fun f => Or.rec (sounds f) (· ▸ sound)
  · intro i f found
    obtain ⟨f', there, advances⟩ := evolves i f found
    exact ⟨f', by grind, advances⟩

/-- Nothing is half cleaned up, and no handle is swept twice. -/
theorem leads_sweepReaped : Leads (Good o) (sweepReaped cells r) := by
  have sound := good.1.sound
  rw [sweepReaped, if_neg]
  · refine ⟨r, _, rfl, good_moves good (forall₂_map_right_iff.mpr (forall₂_same.mpr ?_))⟩
    intro e member
    refine ⟨?_, rfl, rfl, rfl, le_rfl, fun _ => id, by simp +contextual⟩
    grind [Sound, Kept]
  · rintro ⟨e, member, live, half | ⟨-, old, older, swept, same⟩⟩
    · grind [Sound, Kept]
    · obtain rfl := inj_on_of_nodup_map good.1.distinct older member same
      exact live swept

theorem leads_atCell (steps : ∀ e : WatchdogEntry, e.Sound → Leads e.Later (f e)) :
    Leads (Good o) (atCell cells i f) := by
  unfold atCell
  split
  · exact ⟨_, cells, rfl, good⟩
  · rename_i e found
    have sound := good.1.sound
    obtain ⟨r, e', result, later⟩ := steps e (sound e (mem_of_getElem? found))
    rw [result]
    refine ⟨r, _, rfl, good_moves good (forall₂_iff_get.mpr ⟨by simp, fun j here _ => ?_⟩)⟩
    rcases eq_or_ne i j with rfl | other
    · obtain ⟨_, rfl⟩ := List.getElem?_eq_some_iff.mp found
      simpa using later
    · have same : Later cells[j] cells[j] := ⟨sound _ (getElem_mem here), .refl _⟩
      simpa [other] using same

theorem leads_atSession (steps : ∀ e : WatchdogEntry, e.Sound → Leads e.Later (f e)) :
    Leads (Good o) (atSession cells f handle) :=
  (leads_sweepReaped good).bind fun _ _ good => leads_atCell good steps

theorem leads_terminateInternal : Leads (Good o) (terminateInternal cells handle reason ended) := by
  refine (leads_atSession good fun _ => leads_cleanUp).bind fun r cells good => ?_
  change Leads _ (if r.toOption = some true then sweepReaped cells r else some (r, cells))
  split
  · exact leads_sweepReaped good
  · exact ⟨r, cells, rfl, good⟩

theorem leads_terminateIf (steps : ∀ e : WatchdogEntry, e.Sound → Leads e.Later (f e)) :
    Leads (Good o) (terminateIf cells f handle reason ended) := by
  refine (leads_atSession good steps).bind fun r cells good => ?_
  change Leads _ (if r.isOk then terminateInternal cells handle reason ended else some (r, cells))
  split
  · exact leads_terminateInternal good
  · exact ⟨r, cells, rfl, good⟩

theorem leads_markTraced {connection : UInt64} {now : Nat} :
    Leads (Good o) (markTraced cells handle ended connection now) := by
  refine (leads_atSession good fun _ sound =>
    leads_ofClient sound (WatchdogEntry.leads_markTraced sound)).bind fun r cells good => ?_
  dsimp only
  split
  · obtain ⟨_, cells', result, good⟩ := leads_terminateInternal good
    exact ⟨_, cells', by rw [result]; rfl, good⟩
  · exact ⟨r, cells, rfl, good⟩

theorem leads_register {connection : UInt64} {deadline now : Nat} {active : Bool} :
    Leads (Good o) (register cells handle connection deadline now active) := by
  refine (leads_sweepReaped good).bind fun _ cells good => ?_
  have sound : Sound ⟨handle, connection, deadline, true, .starting, 0, false, 0⟩ :=
    ⟨⟨rfl, rfl, rfl⟩, by simp, fun _ => rfl, by simp⟩
  dsimp only
  split_ifs with full used
  · exact ⟨_, cells, rfl, good⟩
  · exact ⟨_, cells, rfl, good⟩
  · exact (leads_cleanUp sound).bind fun r e later =>
      leads_sweepReaped (good_push good full (later.2.handle ▸ used) later.1)
  · exact ⟨_, _, rfl, good_push good full used sound⟩
  · exact (leads_cleanUp sound).bind fun r e later =>
      leads_sweepReaped (good_push good full (later.2.handle ▸ used) later.1)

theorem Operation.leads {op : List WatchdogEntry → Outcome (List WatchdogEntry)}
    (operation : Operation op) : Leads (Good o) (op cells) := by
  cases operation with
  | register => exact leads_register good
  | launchPermit => exact leads_atCell good fun _ => leads_launchPermit
  | commitGuard => exact leads_atCell good fun _ => leads_commitGuard
  | markTraced => exact leads_markTraced good
  | transition => exact leads_atCell good fun _ => leads_transition
  | markTracedForDelivery =>
    exact leads_atSession good fun _ sound => leads_ofClient sound (leads_transition sound)
  | deliver => exact leads_atCell good fun _ sound => leads_deliverAt sound ..
  | dropGuard => exact leads_atCell good fun _ => leads_cleanUp
  | terminateUndeliveredReady =>
    exact leads_terminateIf good fun _ sound => leads_ofClient sound (leads_same sound)
  | terminateForClient =>
    exact leads_terminateIf good fun _ sound => leads_ofClient sound (leads_same sound)
  | terminateForDeadline => exact leads_terminateIf good fun _ => leads_overdue
  | terminate => exact leads_terminateInternal good

end

/-- One operation, and what its caller gets. -/
def Step (cells : List WatchdogEntry) (r : WatchdogReply) (cells' : List WatchdogEntry) : Prop :=
  ∃ op, Operation op ∧ op cells = some (r, cells')

theorem good_of_run (good : Good o cells) (run : Trace Step cells replies cells') :
    Good o cells' := by
  refine run.invariant (I := fun _ cells => Good o cells) good ?_
  rintro _ mid r next - good ⟨op, operation, result⟩
  obtain ⟨_, _, same, good⟩ := operation.leads good
  cases result.symm.trans same
  exact good

theorem good_nil : Good [] [] := ⟨⟨.nil, by simp, by simp, by simp⟩, .refl []⟩

/-- Dropping the table cleans up what is left in it. -/
theorem drop_of_sound (sound : ∀ e ∈ cells, e.Sound) :
    ∃ cells', drop cells = some cells' ∧
      Forall₂ (fun e e' => e.Advances e' ∧ e'.broker = false ∧ e'.reaps = 1) cells cells' := by
  induction cells with
  | nil => exact ⟨[], rfl, .nil⟩
  | cons e cells ih =>
    obtain ⟨here, rest⟩ := forall_mem_cons.mp sound
    obtain ⟨cells', dropped, all⟩ := ih rest
    obtain ⟨e', first, cleaned⟩ : ∃ e', (if e.swept then some e
        else (e.emergencyTerminateEntry .protocolViolation (.ok true)).map (·.2)) = some e' ∧
        e.Advances e' ∧ e'.broker = false ∧ e'.reaps = 1 := by
      split
      · exact ⟨e, rfl, .refl e, by grind [Sound, Kept]⟩
      · obtain ⟨_, e', result, later, reaped⟩ := cleanUp_spec here.kept here.once
        exact ⟨e', congrArg (·.map Prod.snd) result, later.2, reaped rfl⟩
    rw [drop] at dropped
    exact ⟨e' :: cells', by rw [drop, mapM_cons, first, dropped]; rfl, .cons cleaned all⟩

/-- However the operations on the table and its guards follow on each other, none of them aborts
    the service, no handle is used twice and the budgets are kept. Every broker is held until it is
    reaped, and once the table is dropped each was reaped exactly once. -/
theorem brokers_reaped_once (run : Trace Step [] replies cells) :
    (∀ op, Operation op → op cells ≠ none) ∧ (cells.map (·.handle)).Nodup ∧
      cells.length ≤ 4096 ∧ (cells.map (·.swept)).count false ≤ 64 ∧
      (∀ e ∈ cells, e.broker = true ∧ e.reaps = 0 ∨ e.broker = false ∧ e.reaps = 1) ∧
      ∃ cells', drop cells = some cells' ∧
        Forall₂ (fun e e' => e.Advances e' ∧ e'.broker = false ∧ e'.reaps = 1) cells cells' := by
  have inv := (good_of_run good_nil run).1
  refine ⟨?_, inv.distinct, inv.total, inv.live, ?_, drop_of_sound inv.sound⟩
  · intro op operation aborted
    obtain ⟨_, _, result, -⟩ := operation.leads ⟨inv, .refl cells⟩
    cases aborted.symm.trans result
  · intro e member
    have kept := (inv.sound e member).kept
    grind [Kept]

/-- A session whose Ready was sent. -/
theorem ready_run : Trace Step [] [.ok true, .ok true, .ok true]
    [⟨.zero 32, 7, 5, true, .readyCommitted, 0, false, 1⟩] :=
  ((Trace.nil.snoc ⟨_, .register (.zero 32) 7 5 0 true, rfl⟩).snoc ⟨_, .transition 0 1, rfl⟩).snoc
    ⟨_, .deliver 0 2 none true, rfl⟩

theorem brokers_reaped_once_ready : ∃ cells' : List WatchdogEntry,
    drop [⟨.zero 32, 7, 5, true, .readyCommitted, 0, false, 1⟩] = some cells' ∧
      ∀ e ∈ cells', e.reaps = 1 := by
  obtain ⟨_, _, _, _, _, cells', dropped, all⟩ := brokers_reaped_once ready_run
  refine ⟨cells', dropped, ?_⟩
  cases all with
  | cons once rest =>
    cases rest
    simpa using once.2.2

/-- In every run a session keeps its connection and its deadline, never goes back to an earlier
    phase, and the first reason for its cleanup is never replaced. -/
theorem sessions_advance {later : List WatchdogReply} (before : Trace Step [] replies cells)
    (after : Trace Step cells later cells') : Evolves cells cells' :=
  (good_of_run ⟨(good_of_run good_nil before).1, .refl cells⟩ after).2

theorem sessions_advance_terminated :
    Evolves [⟨.zero 32, 7, 5, true, .readyCommitted, 0, false, 1⟩]
      [⟨.zero 32, 7, 5, false, .reaped .clientRequested, 1, true, 1⟩] :=
  sessions_advance ready_run
    (Trace.nil.snoc ⟨_, .terminateForClient (.zero 32) 7 .clientRequested true, rfl⟩)

/-- However the operations follow on each other and whatever comes of each delivery, `send_once` is
    called at most once for a session: never before it is traced, and exactly once if its Ready is
    committed. -/
theorem ready_sent_once (run : Trace Step [] replies cells) : ∀ e ∈ cells,
    e.sends ≤ 1 ∧ (e.phase = .starting ∨ e.phase = .traced → e.sends = 0) ∧
      (e.phase = .readyCommitted → e.sends = 1) := by
  intro e member
  obtain ⟨-, once, unsent, sent⟩ := (good_of_run good_nil run).1.sound e member
  exact ⟨once, unsent, sent⟩

/-- The second delivery of a session is refused and sends nothing. -/
theorem ready_sent_once_twice : ∃ cells,
    Trace Step [] [.ok true, .ok true, .ok true, .error .invalidTransition] cells ∧
      cells.map (·.sends) = [1] ∧ ∀ e ∈ cells, e.sends ≤ 1 := by
  have run := ready_run.snoc ⟨_, .deliver 0 3 none true, rfl⟩
  exact ⟨_, run, rfl, fun e member => (ready_sent_once run e member).1⟩

end WatchdogTable

end NativeIpc.Supervisor
