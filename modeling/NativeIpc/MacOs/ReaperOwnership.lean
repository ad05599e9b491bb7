import NativeIpc.Lib.Trace

/-!
# The owners of a detached reaper

Several owners of one child release it concurrently, and the last one latches the termination of
its reaper. Every step is one atomic operation on the shared words of `ReaperOwnershipState`:
between the decrement of the last owner, its store of the flag and its return any other step may
come. Lines are those of `reaper_ownership.rs`.
-/

namespace NativeIpc.MacOs

open NativeIpc.Lib

/-- An owner that has not given up its count, one that has and is to store the flag, one whose
    `release` is about to return whether it latched, and one whose `release` has returned. -/
inductive ReaperOwner where
  | active | latching | returning (latched : Bool) | released (latched : Bool)
  deriving DecidableEq

/-- `ReaperOwnershipState`, lines 14-17, with the owners that share it. -/
structure ReaperOwnership where
  externalOwners : Nat
  terminate : Bool
  owners : List ReaperOwner

namespace ReaperOwnership

/-- Lines 46-54. -/
def new : ReaperOwnership := ⟨1, false, [.active]⟩

section

variable (s : ReaperOwnership) (i : Nat)

/-- Lines 87-99; `none` is the panic of a full counter. -/
def clone : Option ReaperOwnership :=
  if s.externalOwners + 1 = UInt64.size then none
  else some { s with externalOwners := s.externalOwners + 1, owners := s.owners ++ [.active] }

/-- `release` of an active owner up to its decrement, lines 63-77; `none` is the panic of an
    underflow. -/
def release : Option ReaperOwnership :=
  if s.externalOwners = 0 then none
  else some { s with
    externalOwners := s.externalOwners - 1
    owners := s.owners.set i (if s.externalOwners = 1 then .latching else .returning false) }

/-- The store of the last owner, lines 78-80. -/
def latch : ReaperOwnership :=
  { s with terminate := true, owners := s.owners.set i (.returning true) }

/-- The return of a `release`, lines 79-82. -/
def finish (latched : Bool) : ReaperOwnership :=
  { s with owners := s.owners.set i (.released latched) }

end

/-- A step, and whether it is a `ReaperTermination::request`. -/
inductive Step : ReaperOwnership → Bool → ReaperOwnership → Prop
  | clone {s s' : ReaperOwnership} {i : Nat} (owner : s.owners[i]? = some .active)
      (done : s.clone = some s') : Step s false s'
  | release {s s' : ReaperOwnership} {i : Nat} (owner : s.owners[i]? = some .active)
      (done : s.release i = some s') : Step s false s'
  | latch {s : ReaperOwnership} {i : Nat} (owner : s.owners[i]? = some .latching) :
      Step s false (s.latch i)
  | finish {s : ReaperOwnership} {i : Nat} (latched : Bool)
      (owner : s.owners[i]? = some (.returning latched)) : Step s false (s.finish i latched)
  | request (s : ReaperOwnership) : Step s true { s with terminate := true }

/-- The owners that have stored the flag. -/
def latched (s : ReaperOwnership) : Nat :=
  s.owners.count (.returning true) + s.owners.count (.released true)

/-- The counter counts the active owners, and one owner latches once there are none. -/
structure Counted (requested : Prop) (s : ReaperOwnership) : Prop where
  active : s.owners.count .active = s.externalOwners
  last : s.owners.count .latching + s.latched = 1 - s.externalOwners
  flag : s.terminate ↔ requested ∨ 0 < s.latched

variable {s s' : ReaperOwnership} {requested : Prop} {asks : Bool} {events : List Bool}

theorem latched_finish {i : Nat} {latched : Bool}
    (owner : s.owners[i]? = some (.returning latched)) :
    (s.finish i latched).latched = s.latched := by
  have some_returning := List.count_pos_iff.mpr (List.mem_of_getElem? owner)
  obtain ⟨here, owner⟩ := List.getElem?_eq_some_iff.mp owner
  cases latched <;> simp [finish, ReaperOwnership.latched, List.count_set here, owner]
  omega

theorem Counted.step (counted : Counted requested s) (step : Step s asks s') :
    Counted (requested ∨ asks) s' := by
  obtain ⟨active, last, flag⟩ := counted
  rw [latched] at last flag
  cases step with
  | clone owner done =>
    have some_active := List.count_pos_iff.mpr (List.mem_of_getElem? owner)
    rw [clone, Option.ite_none_left_eq_some] at done
    cases done.2
    refine ⟨?_, ?_, ?_⟩ <;> simp_all [latched]
    omega
  | release owner done =>
    obtain ⟨here, owner⟩ := List.getElem?_eq_some_iff.mp owner
    rw [release, Option.ite_none_left_eq_some] at done
    cases done.2
    by_cases sole : s.externalOwners = 1
    all_goals
      refine ⟨?_, ?_, ?_⟩ <;> simp [latched, List.count_set here, owner, sole, active, flag]
      try omega
  | @latch i owner =>
    have some_latching := List.count_pos_iff.mpr (List.mem_of_getElem? owner)
    obtain ⟨here, owner⟩ := List.getElem?_eq_some_iff.mp owner
    have stored : (s.latch i).latched = s.latched + 1 := by
      simp [latch, latched, List.count_set here, owner]
      omega
    refine ⟨?_, ?_, iff_of_true rfl (.inr (by omega))⟩
    · simpa [latch, List.count_set here, owner] using active
    · rw [stored, latched]
      simp [latch, List.count_set here, owner]
      omega
  | finish latched owner =>
    have same := latched_finish owner
    obtain ⟨here, owner⟩ := List.getElem?_eq_some_iff.mp owner
    refine ⟨?_, ?_, ?_⟩
    · simpa [finish, List.count_set here, owner] using active
    · rw [same]
      simpa [finish, List.count_set here, owner, ReaperOwnership.latched] using last
    · rw [same]
      simpa [finish, ReaperOwnership.latched] using flag
  | request => exact ⟨active, last, by simp⟩

theorem counted_of_run (run : Trace Step new events s) : Counted (true ∈ events) s := by
  refine run.invariant (I := fun events s => Counted (true ∈ events) s)
    ⟨rfl, rfl, by simp [new, latched]⟩ ?_
  intro events s asks next _ counted step
  have next := counted.step step
  simpa [eq_comm] using next

/-- In every interleaving the count never underflows, at most one owner latches the termination
    and only after every owner has given up its count, and once all releases have returned one
    has. -/
theorem last_owner_latches (run : Trace Step new events s) :
    (∀ i, s.owners[i]? = some .active → s.release i ≠ none) ∧
      s.latched ≤ 1 ∧
      (true ∉ events → s.terminate → .active ∉ s.owners ∧ .latching ∉ s.owners) ∧
      ((∀ o ∈ s.owners, ∃ latched, o = .released latched) →
        s.terminate ∧ s.owners.count (.released true) = 1) := by
  obtain ⟨active, last, flag⟩ := counted_of_run run
  refine ⟨?_, ?_, ?_, ?_⟩
  · intro i owner
    have some_active := List.count_pos_iff.mpr (List.mem_of_getElem? owner)
    simp [release]
    omega
  · omega
  · intro unasked terminate
    have stored := (flag.mp terminate).resolve_left unasked
    exact ⟨List.count_eq_zero.mp (by omega), List.count_eq_zero.mp (by omega)⟩
  · intro returned
    have none_of (o : ReaperOwner) (waits : ∀ latched, o ≠ .released latched) :
        s.owners.count o = 0 :=
      List.count_eq_zero.mpr fun member => (returned o member).elim waits
    rw [← active, none_of .active nofun, none_of .latching nofun, latched,
      none_of (.returning true) nofun] at last
    rw [latched] at flag
    exact ⟨flag.mpr (.inr (by omega)), by omega⟩

/-- A request comes between the last release and its store, and the first release returns last. -/
theorem last_owner_latches_clone :
    (⟨0, true, [.released false, .released true]⟩ : ReaperOwnership).owners.count
      (.released true) = 1 := by
  have run : Trace Step new [false, false, false, true, false, false, false]
      ⟨0, true, [.released false, .released true]⟩ :=
    ((((((Trace.nil.snoc (.clone (i := 0) rfl rfl)).snoc (.release (i := 0) rfl rfl)).snoc
      (.release (i := 1) rfl rfl)).snoc (.request _)).snoc (.latch (i := 1) rfl)).snoc
      (.finish (i := 1) true rfl)).snoc (.finish (i := 0) false rfl)
  exact ((last_owner_latches run).2.2.2 (by simp)).2

end ReaperOwnership

end NativeIpc.MacOs
