import NativeIpc.Lib.Loop

/-!
# The exact child reaper

One thread owns a child process: it kills it when asked to, waits for its end, kills what is
left of its process group and reaps it. While the child is a zombie its process id cannot be
given to another process, so the group may be killed only between the observation of the zombie
and the wait that reaps it. The owners' requests and the results of the system calls are
arbitrary. Lines are those of `process.rs`.
-/

namespace NativeIpc.Linux

open NativeIpc.Lib List
open Op (Meets Since)

/-- `LIFECYCLE_IDLE`, `LIFECYCLE_WAIT` and `LIFECYCLE_TERMINATE`, in their order. -/
inductive LifecycleRequest where
  | idle
  | wait
  | terminate
  deriving DecidableEq, Repr

/-- `fetch_max` of `request`, line 498. -/
def LifecycleRequest.max : LifecycleRequest → LifecycleRequest → LifecycleRequest
  | .terminate, _ => .terminate
  | _, .terminate => .terminate
  | .wait, _ => .wait
  | .idle, request => request

inductive DescendantCleanup where
  | notEstablished
  | freshGroupUnverified
  | freshGroupTerminated
  deriving DecidableEq, Repr

inductive ExactChildExit where
  | exited (status : Int)
  | signaled (signal : Int) (dumpedCore : Bool)
  | alreadyReaped
  deriving DecidableEq, Repr

/-- What the reaper does outside its own flags. `observe` and `reap` are the two kinds of
    `waitid`, without and with the reaping of the child; `retain` records a terminal incomplete
    cleanup; `stuck` is the call of a loop that has used up its turns. -/
inductive ReaperCall where
  | awaitTask
  | requests
  | freshSession
  | setDescendants (cleanup : DescendantCleanup)
  | sendSignal
  | poll
  | observe
  | getpgid (pid : Int)
  | getsid (pid : Int)
  | killpg (pid : Int)
  | reap
  | park
  | publish (exit : ExactChildExit)
  | retain (code : Int)
  | stuck
  deriving DecidableEq, Repr

/-- An `errno` or a value. `requests` gives those made since it was last asked, `poll` whether the
    child has changed, `observe` the process id and `reap` the code and status of the child. -/
abbrev ReaperCall.Reply : ReaperCall → Type
  | .awaitTask | .freshSession | .killpg _ => Bool
  | .requests => List LifecycleRequest
  | .setDescendants _ | .park | .publish _ | .retain _ => Unit
  | .sendSignal => Except Int Unit
  | .poll => Except Int Bool
  | .observe => Except Int Int
  | .getpgid _ | .getsid _ => Int
  | .reap => Except Int (Int × Int)
  | .stuck => Empty

/-- The local flags of the loop, lines 566-568. -/
structure ReaperFlags where
  signalAttempted : Bool
  descendantCleanupAttempted : Bool
  groupTerminationAttempted : Bool

/-- The state is `request`, the strongest one that was made. -/
abbrev Reap : Type → Type := Op ReaperCall ReaperCall.Reply LifecycleRequest Empty

def eintr : Int := 4

def esrch : Int := 3

/-- The result of `reap_exact_child`, lines 796-832: 1, 2 and 3 are `CLD_EXITED`,
    `CLD_KILLED` and `CLD_DUMPED`, and 10 is `ECHILD`. -/
def exitOf : Except Int (Int × Int) → Except Int (Option ExactChildExit)
  | .error code =>
    if code = 10 then .ok (some .alreadyReaped)
    else if code = eintr then .ok none else .error code
  | .ok (code, status) =>
    if code = 1 then .ok (some (.exited status))
    else if code = 2 then .ok (some (.signaled status false))
    else if code = 3 then .ok (some (.signaled status true))
    else .ok none

/-- A turn of `zombie_pinned_child`, lines 708-734. -/
def observeTurn (_ : Unit) : Reap (Unit ⊕ Option Int) := do
  let reply : Except Int Int ← Op.perform ReaperCall.observe
  match reply with
  | .error errno => pure (if errno = eintr then .inl () else .inr none)
  | .ok pid => pure (.inr (if pid ≤ 0 then none else some pid))

variable (turns : Nat)

/-- Lines 707-735. -/
def zombiePinnedChild : Reap (Option Int) :=
  Op.loop .stuck Empty.elim observeTurn turns ()

/-- The signal to the group of the pinned child, lines 698-703. -/
def killPinnedGroup (pid : Int) : Reap Unit := do
  let killed : Bool ← Op.perform (ReaperCall.killpg pid)
  Op.when (killed = true) do
    let again ← zombiePinnedChild turns
    Op.when (again = some pid) (Op.perform (ReaperCall.setDescendants .freshGroupTerminated))

/-- Lines 683-704. -/
def terminateDescendantGroupBeforeReap : Reap Unit := do
  let fresh : Bool ← Op.perform ReaperCall.freshSession
  Op.when (fresh = true) do
    match ← zombiePinnedChild turns with
    | none => pure ()
    | some pid =>
      let group : Int ← Op.perform (ReaperCall.getpgid pid)
      Op.when (group = pid) do
        let session : Int ← Op.perform (ReaperCall.getsid pid)
        Op.when (session = pid) (killPinnedGroup turns pid)

/-- Lines 737-748: the thread then parks for ever. -/
def retainIncompleteCleanup {α : Type} (code : Int) : Reap α := do
  let _ : Unit ← Op.perform (ReaperCall.retain code)
  Op.halt .stuck Empty.elim

/-- The record of `descendant_cleanup_limit`, lines 575-579 and 629-633. -/
def limitDescendants (flags : ReaperFlags) : Reap ReaperFlags :=
  if flags.descendantCleanupAttempted then pure flags
  else do
    let fresh : Bool ← Op.perform ReaperCall.freshSession
    let _ : Unit ← Op.perform (ReaperCall.setDescendants
      (if fresh then .freshGroupUnverified else .notEstablished))
    pure { flags with descendantCleanupAttempted := true }

/-- `std::thread::park()` or `park_timeout`, and the next turn. -/
def parked (flags : ReaperFlags) : Reap (ReaperFlags ⊕ Unit) := do
  let _ : Unit ← Op.perform ReaperCall.park
  pure (.inl flags)

/-- The part of a turn after the child has changed, lines 629-661. -/
def reapTurn (flags : ReaperFlags) : Reap (ReaperFlags ⊕ Unit) := do
  let flags ← limitDescendants flags
  Op.when (flags.groupTerminationAttempted = false) (terminateDescendantGroupBeforeReap turns)
  let reply : Except Int (Int × Int) ← Op.perform ReaperCall.reap
  match exitOf reply with
  | .ok (some exit) => do
    let _ : Unit ← Op.perform (ReaperCall.publish exit)
    pure (.inr ())
  | .ok none => parked { flags with groupTerminationAttempted := true }
  | .error code => retainIncompleteCleanup code

/-- The part of a turn from the poll on, lines 591-661. -/
def watchTurn (flags : ReaperFlags) : Reap (ReaperFlags ⊕ Unit) := do
  let polled : Except Int Bool ← Op.perform ReaperCall.poll
  match polled with
  | .error errno => if errno = eintr then parked flags else retainIncompleteCleanup errno
  | .ok ready => if ready then reapTurn turns flags else pure (.inl flags)

/-- A turn after a request to terminate, lines 575-661. -/
def terminateTurn (flags : ReaperFlags) : Reap (ReaperFlags ⊕ Unit) := do
  let flags ← limitDescendants flags
  if flags.signalAttempted then watchTurn turns flags
  else
    let sent : Except Int Unit ← Op.perform ReaperCall.sendSignal
    match sent with
    | .ok () => watchTurn turns { flags with signalAttempted := true }
    | .error errno =>
      if errno = esrch then watchTurn turns { flags with signalAttempted := true }
      else if errno = eintr then parked flags
      else retainIncompleteCleanup errno

/-- A turn of the loop, lines 569-662. -/
def reaperTurn (flags : ReaperFlags) : Reap (ReaperFlags ⊕ Unit) := do
  let made : List LifecycleRequest ← Op.perform ReaperCall.requests
  Op.modify fun request => made.foldl LifecycleRequest.max request
  match ← Op.get with
  | .idle => parked flags
  | .wait => watchTurn turns flags
  | .terminate => terminateTurn turns flags

/-- Lines 549-663, with the number of turns that its loops take at most;
    `awaitTask` tells whether a child was handed over or the lifecycle was given up. -/
def exactChildReaper : Reap Unit := do
  let armed : Bool ← Op.perform ReaperCall.awaitTask
  Op.when (armed = true)
    (Op.loop .stuck Empty.elim (reaperTurn turns) turns ⟨false, false, false⟩)

/-! ### What the reaper may do when -/

abbrev ReaperLog : Type := Log ReaperCall ReaperCall.Reply

/-- The child has been reaped, a completion published or a terminal incomplete cleanup recorded. -/
def Closing : Answer ReaperCall ReaperCall.Reply → Prop
  | ⟨.publish _, _⟩ => True
  | ⟨.retain _, _⟩ => True
  | ⟨.reap, reply⟩ => ∃ exit, exitOf reply = .ok (some exit)
  | _ => False

variable (history : ReaperLog)

def Open : Prop := ∀ answer ∈ history, ¬ Closing answer

/-- Neither was the group killed nor the reaping of the child tried. -/
def Untried : Prop :=
  ∀ answer ∈ history, answer.1 ≠ .reap ∧ ∀ pid, answer.1 ≠ .killpg pid

/-- An owner has asked for the end of the child. -/
def Requested : Prop :=
  ∃ made, ⟨.requests, made⟩ ∈ history ∧ LifecycleRequest.terminate ∈ made

/-- The child was just observed as a zombie, and as the leader of its fresh session and group. -/
def Pinned (pid : Int) : Prop :=
  ∃ before, history = before ++ [⟨.observe, .ok pid⟩, ⟨.getpgid pid, pid⟩, ⟨.getsid pid, pid⟩] ∧
    ⟨.freshSession, true⟩ ∈ before

/-- The group was killed, and after that the zombie observed again. -/
def PinnedAgain : Prop :=
  ∃ before pid since, history = before ++ ⟨.killpg pid, true⟩ :: (since ++ [⟨.observe, .ok pid⟩])

/-- The completion follows the wait that reaped the child. -/
def Reaped (exit : ExactChildExit) : Prop :=
  ∃ before reply, history = before ++ [⟨.reap, reply⟩] ∧ exitOf reply = .ok (some exit) ∧ Open before

/-- What has to hold of the earlier calls when a call is made. -/
def Discipline : ReaperCall → Prop
  | .stuck => True
  | .publish exit => Reaped history exit
  | .sendSignal => Open history ∧ Requested history
  | .killpg pid => Open history ∧ Untried history ∧ Pinned history pid
  | .setDescendants .freshGroupTerminated => Open history ∧ PinnedAgain history
  | _ => Open history

/-- The calls that change nothing that the discipline asks for. -/
def ReaperCall.Plain (c : ReaperCall) : Prop :=
  match c with
  | .sendSignal | .killpg _ | .reap | .publish _ | .retain _ | .stuck
  | .setDescendants .freshGroupTerminated => False
  | _ => True

open ReaperCall

section Histories

variable {history h : ReaperLog}

theorem open_of_since (opened : Open history) (since : Since Plain history h) : Open h := by
  obtain ⟨log, rfl, plain⟩ := since
  intro answer member closing
  rcases mem_append.mp member with member | member
  · exact opened answer member closing
  · have := plain answer member
    obtain ⟨c, r⟩ := answer
    cases c <;> first | exact closing | exact this

theorem untried_of_since (untried : Untried history)
    (since : Since Plain history h) : Untried h := by
  obtain ⟨log, rfl, plain⟩ := since
  intro answer member
  rcases mem_append.mp member with member | member
  · exact untried answer member
  · have holds := plain answer member
    constructor
    · intro same
      rw [same] at holds
      exact holds
    · intro pid same
      rw [same] at holds
      exact holds

theorem Open.snoc {answer : Answer ReaperCall Reply} (opened : Open history)
    (goes : ¬ Closing answer) : Open (history ++ [answer]) := by
  intro other member
  rcases mem_append.mp member with member | member
  · exact opened other member
  · rwa [mem_singleton.mp member]

theorem Requested.grows (requested : Requested history) (grown : history <+: h) : Requested h := by
  obtain ⟨made, member, asked⟩ := requested
  exact ⟨made, grown.subset member, asked⟩

/-- A plain call may be made while nothing has ended. -/
theorem discipline_plain {c : ReaperCall} (plain : c.Plain) (opened : Open history) :
    Discipline history c := by
  unfold Discipline
  split
  · trivial
  all_goals first | exact plain.elim | exact opened

end Histories

section Programs

variable {history : ReaperLog} {request : LifecycleRequest} {turns : Nat} {flags : ReaperFlags}

/-- A plain call, and what follows it. -/
theorem meets_plain {α : Type} {c : ReaperCall} {f : c.Reply → Reap α}
    {post : ReaperLog → α → LifecycleRequest → Prop} (plain : c.Plain) (opened : Open history)
    (rest : ∀ r, Since Plain history (history ++ [⟨c, r⟩]) →
      Meets Discipline post (history ++ [⟨c, r⟩]) request (f r)) :
    Meets Discipline post history request (Op.perform c >>= f) :=
  .perform_bind (discipline_plain plain opened) fun r => rest r (.single plain)

/-- The observation is plain, and a child that it finds was found by its last call. -/
theorem meets_zombiePinnedChild (opened : Open history) :
    Meets Discipline (fun h found s => s = request ∧ Since Plain history h ∧
      ∀ pid, found = some pid → ∃ since, h = history ++ since ++ [⟨.observe, .ok pid⟩])
      history request (zombiePinnedChild turns) := by
  refine .of_loop (fun h _ s => s = request ∧ Since Plain history h) ⟨rfl, .refl⟩
    (fun _ => trivial) ?_
  rintro h _ s ⟨rfl, since⟩
  refine meets_plain trivial (open_of_since opened since) fun reply more => ?_
  have all := since.trans more
  obtain ⟨log, rfl, -⟩ := since
  rcases (reply : Except Int Int) with errno | pid
  · by_cases interrupted : errno = eintr
    · simp only [if_pos interrupted]
      exact ⟨rfl, all⟩
    · simp only [if_neg interrupted]
      exact ⟨rfl, all, fun _ => nofun⟩
  · refine ⟨rfl, all, fun found same => ⟨log, ?_⟩⟩
    split at same
    · cases same
    · cases same
      rfl

theorem meets_killPinnedGroup {pid : Int} (opened : Open history) (untried : Untried history)
    (pinned : Pinned history pid) :
    Meets Discipline (fun h _ s => s = request ∧ Open h ∧ history <+: h) history request
      (killPinnedGroup turns pid) := by
  refine .perform_bind ⟨opened, untried, pinned⟩ fun killed => ?_
  have opened₁ : Open (history ++ [⟨.killpg pid, killed⟩]) := opened.snoc id
  refine .of_when (fun yes => ?_) fun _ => ⟨rfl, opened₁, prefix_append _ _⟩
  refine (meets_zombiePinnedChild opened₁).bind ?_
  rintro h again s ⟨rfl, since, last⟩
  have opened₂ := open_of_since opened₁ since
  have grown := (prefix_append _ _).trans since.grows
  refine .of_when (fun same => ?_) fun _ => ⟨rfl, opened₂, grown⟩
  obtain ⟨log, rfl⟩ := last pid same
  have seen : PinnedAgain (history ++ [⟨.killpg pid, killed⟩] ++ log ++ [⟨.observe, .ok pid⟩]) := by
    cases yes
    exact ⟨history, pid, log, by simp⟩
  exact .of_perform ⟨opened₂, seen⟩ fun _ =>
    ⟨rfl, opened₂.snoc id, grown.trans (prefix_append _ _)⟩

/-- The group is killed at most in the way the discipline asks for. -/
theorem meets_terminateDescendantGroup (opened : Open history) (untried : Untried history) :
    Meets Discipline (fun h _ s => s = request ∧ Open h ∧ history <+: h) history request
      (terminateDescendantGroupBeforeReap turns) := by
  refine meets_plain trivial opened fun fresh since => ?_
  refine .of_when (fun yes => ?_) fun _ => ⟨rfl, open_of_since opened since, since.grows⟩
  have opened₁ := open_of_since opened since
  refine (meets_zombiePinnedChild opened₁).bind ?_
  rintro h (_ | pid) s ⟨rfl, seen, last⟩
  · exact ⟨rfl, open_of_since opened₁ seen, since.grows.trans seen.grows⟩
  obtain ⟨log, rfl⟩ := last pid rfl
  have since₂ := since.trans seen
  refine meets_plain trivial (open_of_since opened since₂) fun group asked => ?_
  have since₃ := since₂.trans asked
  refine .of_when (fun leads => ?_) fun _ => ⟨rfl, open_of_since opened since₃, since₃.grows⟩
  refine meets_plain trivial (open_of_since opened since₃) fun session asked' => ?_
  have since₄ := since₃.trans asked'
  have opened₄ := open_of_since opened since₄
  refine .of_when (fun own => ?_) fun _ => ⟨rfl, opened₄, since₄.grows⟩
  have pinned : Pinned (history ++ [⟨.freshSession, fresh⟩] ++ log ++ [⟨.observe, .ok pid⟩] ++
      [⟨.getpgid pid, group⟩] ++ [⟨.getsid pid, session⟩]) pid := by
    refine ⟨history ++ [⟨.freshSession, fresh⟩] ++ log, ?_, ?_⟩
    · cases leads
      cases own
      simp
    · cases yes
      simp
  refine (meets_killPinnedGroup opened₄ (untried_of_since untried since₄) pinned).mono ?_
  rintro h _ s ⟨rfl, opened', grown⟩
  exact ⟨rfl, opened', since₄.grows.trans grown⟩

/-- What holds between two turns. -/
structure Reaping (history : ReaperLog) (flags : ReaperFlags) (request : LifecycleRequest) :
    Prop where
  opened : Open history
  untried : flags.groupTerminationAttempted = false → Untried history
  requested : request = .terminate → Requested history

theorem Reaping.since {h : ReaperLog} (reaping : Reaping history flags request)
    (since : Since Plain history h) : Reaping h flags request where
  opened := open_of_since reaping.opened since
  untried untried := untried_of_since (reaping.untried untried) since
  requested asked := (reaping.requested asked).grows since.grows

/-- What holds after a turn. -/
abbrev AfterTurn : ReaperLog → ReaperFlags ⊕ Unit → LifecycleRequest → Prop :=
  Op.NextTurn Reaping fun _ _ _ => True

theorem meets_parked (reaping : Reaping history flags request) :
    Meets Discipline AfterTurn history request (parked flags) :=
  meets_plain trivial reaping.opened fun _ since => reaping.since since

theorem meets_retain {α : Type} {code : Int} {post : ReaperLog → α → LifecycleRequest → Prop}
    (opened : Open history) :
    Meets Discipline post history request (retainIncompleteCleanup code) :=
  .perform_bind opened fun _ => Op.wp_halt trivial

section

variable (reaping : Reaping history flags request)
include reaping

theorem meets_limitDescendants :
    Meets Discipline (fun h flags' s => Reaping h flags' s ∧ s = request) history request
      (limitDescendants flags) := by
  unfold limitDescendants
  split
  · exact ⟨reaping, rfl⟩
  · refine meets_plain trivial reaping.opened fun fresh since => ?_
    have plain : (setDescendants
        (if fresh then .freshGroupUnverified else .notEstablished)).Plain := by
      cases fresh <;> trivial
    refine meets_plain plain (open_of_since reaping.opened since) fun _ more => ?_
    obtain ⟨opened, untried, requested⟩ := reaping.since (since.trans more)
    exact ⟨⟨opened, untried, requested⟩, rfl⟩

theorem meets_reapTurn : Meets Discipline AfterTurn history request (reapTurn turns flags) := by
  refine (meets_limitDescendants reaping).bind ?_
  rintro h flags s ⟨limited, rfl⟩
  have group : Meets Discipline (fun h' _ s' => s' = s ∧ Open h' ∧ h <+: h') h s
      (Op.when (flags.groupTerminationAttempted = false)
        (terminateDescendantGroupBeforeReap turns)) :=
    .of_when (fun first => meets_terminateDescendantGroup limited.opened (limited.untried first))
      fun _ => ⟨rfl, limited.opened, prefix_rfl⟩
  refine group.bind ?_
  rintro h' _ s' ⟨rfl, opened, grown⟩
  refine .perform_bind opened fun reply => ?_
  split
  · rename_i exit reaped
    exact .perform_bind ⟨h', reply, rfl, reaped, opened⟩ fun _ => .of_pure trivial
  · rename_i pending
    have opened' : Open (h' ++ [⟨.reap, reply⟩]) := by
      refine opened.snoc ?_
      rintro ⟨exit, reaped⟩
      rw [pending] at reaped
      cases reaped
    refine meets_parked ⟨opened', nofun, fun asked => ?_⟩
    exact (limited.requested asked).grows (grown.trans (prefix_append _ _))
  · rename_i code failed
    refine meets_retain (opened.snoc ?_)
    rintro ⟨exit, reaped⟩
    rw [failed] at reaped
    cases reaped

theorem meets_watchTurn : Meets Discipline AfterTurn history request (watchTurn turns flags) := by
  refine meets_plain trivial reaping.opened fun polled since => ?_
  have reaping := reaping.since since
  rcases (polled : Except Int Bool) with errno | ready
  · change Meets _ _ _ _ (ite _ _ _)
    split
    · exact meets_parked reaping
    · exact meets_retain reaping.opened
  · cases ready with
    | false => exact reaping
    | true => exact meets_reapTurn reaping

end

theorem meets_terminateTurn (reaping : Reaping history flags .terminate) :
    Meets Discipline AfterTurn history .terminate (terminateTurn turns flags) := by
  refine (meets_limitDescendants reaping).bind ?_
  rintro h flags s ⟨⟨opened, untried, requested⟩, rfl⟩
  split
  · exact meets_watchTurn ⟨opened, untried, requested⟩
  refine .perform_bind ⟨opened, requested rfl⟩ fun sent => ?_
  have after (attempted : Bool) : Reaping (h ++ [⟨.sendSignal, sent⟩])
      { flags with signalAttempted := attempted } .terminate := by
    refine ⟨opened.snoc id, fun first answer member => ?_,
      fun asked => (requested asked).grows (prefix_append _ _)⟩
    rcases mem_append.mp member with member | member
    · exact untried first answer member
    · rw [mem_singleton.mp member]
      exact ⟨nofun, fun _ => nofun⟩
  rcases (sent : Except Int Unit) with errno | _
  · change Meets _ _ _ _ (ite _ _ (ite _ _ _))
    split
    · exact meets_watchTurn (after true)
    · split
      · exact meets_parked (after flags.signalAttempted)
      · exact meets_retain (after true).opened
  · exact meets_watchTurn (after true)

theorem max_eq_terminate {first second : LifecycleRequest} (asked : first.max second = .terminate) :
    first = .terminate ∨ second = .terminate := by
  cases first <;> cases second <;> simp [LifecycleRequest.max] at asked ⊢

/-- The strongest request was made by someone. -/
theorem foldl_max_terminate {made : List LifecycleRequest} {request : LifecycleRequest}
    (asked : made.foldl LifecycleRequest.max request = .terminate) :
    request = .terminate ∨ .terminate ∈ made := by
  induction made generalizing request with
  | nil => exact .inl asked
  | cons next rest ih =>
    rcases ih asked with now | later
    · rcases max_eq_terminate now with before | rfl
      · exact .inl before
      · exact .inr mem_cons_self
    · exact .inr (mem_cons_of_mem _ later)

theorem meets_reaperTurn (reaping : Reaping history flags request) :
    Meets Discipline AfterTurn history request (reaperTurn turns flags) := by
  refine meets_plain trivial reaping.opened fun made since => ?_
  have loaded : Reaping (history ++ [⟨.requests, made⟩]) flags
      (made.foldl LifecycleRequest.max request) := by
    refine ⟨(reaping.since since).opened, (reaping.since since).untried, fun asked => ?_⟩
    rcases foldl_max_terminate asked with before | now
    · exact (reaping.since since).requested before
    · exact ⟨made, by simp, now⟩
  change Meets _ _ _ (made.foldl LifecycleRequest.max request)
    (match made.foldl LifecycleRequest.max request with
      | .idle => parked flags
      | .wait => watchTurn turns flags
      | .terminate => terminateTurn turns flags)
  generalize made.foldl LifecycleRequest.max request = current at loaded ⊢
  cases current with
  | idle => exact meets_parked loaded
  | wait => exact meets_watchTurn loaded
  | terminate => exact meets_terminateTurn loaded

theorem meets_exactChildReaper :
    Meets Discipline (fun _ _ _ => True) [] .idle (exactChildReaper turns) := by
  have opened : Open [] := fun _ => nofun
  refine meets_plain trivial opened fun armed since => ?_
  refine .of_when (fun _ => ?_) fun _ => trivial
  refine .of_loop (fun h flags s => Reaping h flags s) ?_ (fun _ => trivial)
    fun h flags s reaping => meets_reaperTurn reaping
  exact ⟨open_of_since opened since, fun _ => untried_of_since (by simp [Untried]) since, nofun⟩

end Programs

/-- In every run of the reaper, finished or not: the child is signalled only after a request to
    terminate it; its group is killed only while it is a zombie that leads a fresh session, and
    neither after an earlier such kill nor after an attempt to reap it; nothing is signalled,
    waited for or published after the child was reaped or a terminal incomplete cleanup recorded,
    but the one completion that follows the reaping wait; and the descendants are reported as
    terminated only after the zombie was observed again behind the kill. -/
theorem reaper_discipline {turns : Nat} {log : ReaperLog}
    {rest : Proc ReaperCall ReaperCall.Reply (Run Empty Unit × LifecycleRequest)}
    (runs : (exactChildReaper turns .idle).Runs log rest) :
    (∀ before r after, log = before ++ ⟨.sendSignal, r⟩ :: after →
      Requested before ∧ Open before) ∧
    (∀ before pid r after, log = before ++ ⟨.killpg pid, r⟩ :: after →
      Pinned before pid ∧ Untried before ∧ Open before) ∧
    (∀ before r after, log = before ++ ⟨.reap, r⟩ :: after → Open before) ∧
    (∀ before exit r after, log = before ++ ⟨.publish exit, r⟩ :: after →
      Reaped before exit ∧ ∀ answer ∈ before, ∀ other, answer.1 ≠ .publish other) ∧
    (∀ before r after, log = before ++ ⟨.setDescendants .freshGroupTerminated, r⟩ :: after →
      PinnedAgain before) := by
  have guarded (before after : ReaperLog) (c : ReaperCall) (r : c.Reply)
      (split : log = before ++ ⟨c, r⟩ :: after) : Discipline before c := by
    subst split
    exact runs.guarded meets_exactChildReaper
  refine ⟨?_, ?_, ?_, ?_, ?_⟩
  · intro before r after split
    exact (guarded before after _ r split).symm
  · intro before pid r after split
    obtain ⟨opened, untried, pinned⟩ := guarded before after _ r split
    exact ⟨pinned, untried, opened⟩
  · intro before r after split
    exact guarded before after _ r split
  · intro before exit r after split
    have reaped : Reaped before exit := guarded before after _ r split
    refine ⟨reaped, ?_⟩
    obtain ⟨earlier, reply, rfl, -, opened⟩ := reaped
    rintro ⟨c, r⟩ member other rfl
    rcases List.mem_append.mp member with member | member
    · exact opened _ member trivial
    · cases List.mem_singleton.mp member
  · intro before r after split
    exact (guarded before after _ r split).2

/-- The calls up to the kill of the group of the child 7, which was told to end. -/
def toldToEnd : ReaperLog :=
  [⟨.awaitTask, true⟩, ⟨.requests, [.wait, .terminate]⟩, ⟨.freshSession, true⟩,
    ⟨.setDescendants .freshGroupUnverified, ()⟩, ⟨.sendSignal, .ok ()⟩, ⟨.poll, .ok true⟩,
    ⟨.freshSession, true⟩, ⟨.observe, .ok 7⟩, ⟨.getpgid 7, (7 : Int)⟩, ⟨.getsid 7, (7 : Int)⟩]

/-- The run that kills the group of a child. -/
theorem reaper_discipline_toldToEnd :
    (∃ rest, (exactChildReaper 1 .idle).Runs (toldToEnd ++ [⟨.killpg 7, true⟩]) rest) ∧
      Pinned toldToEnd 7 := by
  have runs : ∃ rest, (exactChildReaper 1 .idle).Runs (toldToEnd ++ [⟨.killpg 7, true⟩]) rest :=
    ⟨_, .step (.step (.step (.step (.step (.step (.step (.step (.step (.step (.step
      (.refl _)))))))))))⟩
  obtain ⟨rest, run⟩ := runs
  exact ⟨⟨rest, run⟩, ((reaper_discipline run).2.1 toldToEnd 7 true [] rfl).1⟩

end NativeIpc.Linux
