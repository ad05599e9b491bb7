import NativeIpc.Lib.Each
import NativeIpc.Lib.Loop
import NativeIpc.Session.Environment

/-!
# The final sealing of a mixed batch

`LinuxMixedDirectionBatch::seal_after_import` of linux_vnext/memory.rs in full. Once the peer has
imported the batch, the descriptors of its receiver-written regions have escaped: the coordinator
seals all of them, whatever happens on the way, and maps its own read views only if nothing went
wrong. The native operations are calls whose answers are arbitrary.
Lines are those of `linux_vnext/memory.rs`.
-/

namespace NativeIpc.Session.Sealing

open NativeIpc.Lib Run List

/-! ### Seals and objects -/

def sealSeal : UInt32 := 0x01
def sealShrink : UInt32 := 0x02
def sealGrow : UInt32 := 0x04
def sealFutureWrite : UInt32 := 0x10
def sealExec : UInt32 := 0x20

def prefixSeals : UInt32 := sealExec ||| sealGrow ||| sealShrink

def finalSeals : UInt32 := prefixSeals ||| sealFutureWrite ||| sealSeal

/-- Lines 45-49. -/
structure ObjectKey where
  device : Nat
  inode : Nat
  mappedLen : UInt64
  deriving DecidableEq, Repr

/-- Lines 127-134, without what only its destructor reads. -/
structure PendingVmMapping where
  base : Nat
  len : UInt64
  guarded : Bool
  deriving DecidableEq, Repr

/-- Lines 116-123: its base is a `NonNull`. -/
structure VmMapping where
  base : Nat
  nonNull : base ≠ 0
  len : UInt64
  guarded : Bool
  deriving DecidableEq, Repr

/-- Lines 2748-2762. -/
def PendingVmMapping.intoMapping (pending : PendingVmMapping) :
    Except (MemoryError × PendingVmMapping) VmMapping :=
  if nonNull : pending.base ≠ 0 then
    .ok { base := pending.base, nonNull, len := pending.len, guarded := pending.guarded }
  else .error (.invalidObject, pending)

/-! ### The batch -/

/-- `LinuxCoordinatorWriterEntry`, lines 337-341: its prepared descriptor. -/
structure CoordinatorEntry where
  fd : Nat
  key : ObjectKey
  deriving DecidableEq, Repr

/-- `LinuxReceiverWriterEntry`, lines 343-352. -/
structure ReceiverEntry where
  fd : Nat
  key : ObjectKey
  mapping : Option VmMapping
  pendingMapping : Option PendingVmMapping
  guardRequested : GuardPolicy
  deriving DecidableEq, Repr

/-- `LinuxMixedDirectionEntry`, lines 209-212: the batch of one direction that
    owns the region. -/
inductive MixedEntry where
  | coordinatorWriter (entries : List CoordinatorEntry)
  | receiverWriter (entries : List ReceiverEntry)
  deriving DecidableEq, Repr

namespace MixedEntry

/-- The number of regions of the inner batch. -/
def size : MixedEntry → Nat
  | coordinatorWriter entries => entries.length
  | receiverWriter entries => entries.length

/-- The receiver-written regions of the entry. -/
def receivers : MixedEntry → List ReceiverEntry
  | coordinatorWriter _ => []
  | receiverWriter entries => entries

end MixedEntry

/-- Lines 196-207. `prepare_inner`, 1081-1138, makes
    each inner batch from a single region. -/
structure LinuxMixedDirectionBatch where
  entries : List MixedEntry
  deadline : Deadline
  single : ∀ entry ∈ entries, entry.size = 1

/-- The receiver-written regions of the batch. -/
def LinuxMixedDirectionBatch.receivers (batch : LinuxMixedDirectionBatch) : List ReceiverEntry :=
  batch.entries.flatMap MixedEntry.receivers

/-! ### The native operations -/

/-- `MADV_DONTDUMP` and `MADV_DONTFORK`. -/
inductive Advice where
  | dontDump
  | dontFork
  deriving DecidableEq, Repr

/-- What the sealing asks of the system. -/
inductive Call where
  /-- `deadline.is_expired()` -/
  | expired (deadline : Deadline)
  | validateObject (fd : Nat) (mappedLen : UInt64) (expectedSeals : UInt32)
  | addSeals (fd : Nat) (seals : UInt32)
  /-- `PendingVmMapping::map` with `PROT_READ` -/
  | map (fd : Nat) (len : UInt64) (guard : Bool)
  | advise (base : Nat) (len : UInt64) (advice : Advice)
  deriving DecidableEq

/-- The answers to each call. -/
def Reply : Call → Type
  | .expired _ => Bool
  | .validateObject _ _ _ => Except MemoryError ObjectKey
  | .addSeals _ _ => Except MemoryError Unit
  | .map _ _ _ => Except MemoryError PendingVmMapping
  | .advise _ _ _ => Except MemoryError Unit

/-- A part of the sealing over the state `σ`. -/
abbrev Effect (σ α : Type) : Type := Op Call Reply σ MemoryError α

variable {σ α : Type}

/-- `reply?`. -/
def orReturn : Except MemoryError α → Effect σ α
  | .ok a => pure a
  | .error e => Op.fail e

/-- Lines 2953-2959. -/
def checkDeadline (deadline : Deadline) : Effect σ Unit := do
  let expired : Bool ← Op.perform (Call.expired deadline)
  if expired then Op.fail .deadlineExpired else pure ()

/-- `validate_object(fd, key.mapped_len, seals).and_then(..)`: the object is still the one of the
    key. -/
def validateKey (fd : Nat) (key : ObjectKey) (seals : UInt32) : Effect σ Unit := do
  let reply : Except MemoryError ObjectKey ←
    Op.perform (Call.validateObject fd key.mappedLen seals)
  let validated ← orReturn reply
  if validated = key then pure () else Op.fail .wrongObject

/-- `add_seals(fd, F_SEAL_FUTURE_WRITE | F_SEAL_SEAL)`. -/
def addSeals (fd : Nat) : Effect σ Unit := do
  let reply : Except MemoryError Unit ←
    Op.perform (Call.addSeals fd (sealFutureWrite ||| sealSeal))
  orReturn reply

/-! ### `seal_after_import` -/

/-- The descriptor, the key and the seals that the first loop checks: `batch.entries[0]`. -/
def MixedEntry.expected : MixedEntry → Option (Nat × ObjectKey × UInt32)
  | coordinatorWriter entries => entries.head?.map fun entry => (entry.fd, entry.key, finalSeals)
  | receiverWriter entries => entries.head?.map fun entry => (entry.fd, entry.key, prefixSeals)

/-- One turn of the first loop, lines 1191-1217. -/
def revalidateEntry (firstError : Option MemoryError) (entry : MixedEntry) :
    Effect σ (Option MemoryError) :=
  match entry.expected with
  | none => Op.ofRun Run.fault
  | some (fd, key, seals) => do
    let validation ← Op.err (validateKey fd key seals)
    pure (firstError <|> validation)

/-- The sealing of one descriptor, lines 1239-1262: an error is remembered and does
    not end the loop. -/
def sealDescriptor (firstError : Option MemoryError) (entry : ReceiverEntry) :
    Effect σ (Option MemoryError) := do
  match ← Op.err (addSeals entry.fd) with
  | some error => pure (firstError <|> some error)
  | none =>
    let validation ← Op.err (validateKey entry.fd entry.key finalSeals)
    pure (firstError <|> validation)

/-- One turn of the inner loop of the second loop, lines 1225-1263. -/
def sealReceiver (deadline : Deadline) (firstError : Option MemoryError) (entry : ReceiverEntry) :
    Effect σ (Option MemoryError) := do
  let firstError ←
    if firstError.isNone then Op.err (checkDeadline deadline) else pure firstError
  sealDescriptor firstError entry

/-- One turn of the second loop, lines 1221-1264. -/
def sealEntry (deadline : Deadline) (firstError : Option MemoryError) :
    MixedEntry → Effect σ (Option MemoryError)
  | .coordinatorWriter _ => pure firstError
  | .receiverWriter entries => entries.foldlM (sealReceiver deadline) firstError

/-- One turn of the loop over the advices, lines 1290-1304. -/
def adviseReceiver (deadline : Deadline) (advice : Advice) : Effect ReceiverEntry Unit := do
  let entry ← Op.get
  match entry.pendingMapping with
  | none => Op.ofRun Run.fault
  | some pending =>
    let reply : Except MemoryError Unit ← Op.perform (Call.advise pending.base pending.len advice)
    orReturn reply
    checkDeadline deadline

/-- The end of a turn of the third loop, lines 1305-1314. -/
def finishReceiver : Effect ReceiverEntry Unit := do
  let entry ← Op.get
  match entry.pendingMapping with
  | none => Op.ofRun Run.fault
  | some pending =>
    Op.modify fun entry => { entry with pendingMapping := none }
    match pending.intoMapping with
    | .ok mapping => Op.modify fun entry => { entry with mapping := some mapping }
    | .error (error, pending) =>
      Op.modify fun entry => { entry with pendingMapping := some pending }
      Op.fail error

/-- The view of an entry once it is mapped, lines 1285-1314. -/
def holdPending (deadline : Deadline) (entry : ReceiverEntry) (pending : PendingVmMapping) :
    Effect ReceiverEntry Unit := do
  Op.ofRun (rejectIf (entry.guardRequested = .require ∧ ¬ pending.guarded) .guardUnavailable)
  Op.modify fun entry => { entry with pendingMapping := some pending }
  checkDeadline deadline
  [Advice.dontDump, .dontFork].forM (adviseReceiver deadline)
  finishReceiver

/-- One turn of the inner loop of the third loop, lines 1274-1315. -/
def mapReceiver (deadline : Deadline) : Effect ReceiverEntry Unit := do
  checkDeadline deadline
  let entry ← Op.get
  let reply : Except MemoryError PendingVmMapping ←
    Op.perform (Call.map entry.fd entry.key.mappedLen (entry.guardRequested ≠ .disable))
  let pending ← orReturn reply
  holdPending deadline entry pending

/-- One turn of the third loop, lines 1270-1316. -/
def mapEntry (deadline : Deadline) : Effect MixedEntry Unit := do
  match ← Op.get with
  | .coordinatorWriter _ => pure ()
  | .receiverWriter entries =>
    Op.within entries .receiverWriter (Op.forEach (mapReceiver deadline))

/-- Lines 1185-1318, on `self.entries`. -/
def sealAfterImport (deadline : Deadline) : Effect (List MixedEntry) Unit := do
  let firstError ← Op.err (checkDeadline deadline)
  let entries ← Op.get
  let firstError ← entries.foldlM revalidateEntry firstError
  let firstError ← entries.foldlM (sealEntry deadline) firstError
  match firstError with
  | some error => Op.fail error
  | none =>
    Op.forEach (mapEntry deadline)
    checkDeadline deadline

/-! ### The script of the sealing -/

abbrev SealingStep : Type := Op.Step Call Reply MemoryError

namespace SealingStep

/-- The error that an answer of a fallible operation is. -/
def failure : Except MemoryError α → Option MemoryError
  | .ok _ => none
  | .error e => some e

def deadline (deadline : Deadline) : SealingStep where
  call := .expired deadline
  error (expired : Bool) := if expired then some .deadlineExpired else none

def validate (fd : Nat) (key : ObjectKey) (seals : UInt32) : SealingStep where
  call := .validateObject fd key.mappedLen seals
  error (reply : Except MemoryError ObjectKey) := match reply with
    | .ok validated => if validated = key then none else some .wrongObject
    | .error e => some e

def addSeals (fd : Nat) : SealingStep where
  call := .addSeals fd (sealFutureWrite ||| sealSeal)
  error (reply : Except MemoryError Unit) := failure reply

end SealingStep

/-- A validation passes with the object of the key only. -/
theorem SealingStep.validate_clean {fd : Nat} {key : ObjectKey} {seals : UInt32}
    {reply : Except MemoryError ObjectKey}
    (clean : (SealingStep.validate fd key seals).error reply = none) : reply = .ok key := by
  cases reply with
  | error e => cases clean
  | ok validated =>
    by_cases same : validated = key
    · rw [same]
    · simp [SealingStep.validate, same] at clean

theorem asks_checkDeadline (deadline : Deadline) :
    Op.Asks (SealingStep.deadline deadline) (checkDeadline deadline : Effect σ Unit) := by
  intro s
  change Proc.call _ _ = Proc.call _ _
  congr 1
  funext (expired : Bool)
  cases expired <;> rfl

theorem asks_validateKey (fd : Nat) (key : ObjectKey) (seals : UInt32) :
    Op.Asks (SealingStep.validate fd key seals) (validateKey fd key seals : Effect σ Unit) := by
  intro s
  change Proc.call _ _ = Proc.call _ _
  congr 1
  funext (reply : Except MemoryError ObjectKey)
  cases reply with
  | error e => rfl
  | ok validated =>
    change (if validated = key then (pure () : Effect σ Unit) else Op.fail .wrongObject) s = _
    by_cases same : validated = key
    · simp only [SealingStep.validate, if_pos same]
      rfl
    · simp only [SealingStep.validate, if_neg same]
      rfl

theorem asks_addSeals (fd : Nat) :
    Op.Asks (SealingStep.addSeals fd) (addSeals fd : Effect σ Unit) := by
  intro s
  change Proc.call _ _ = Proc.call _ _
  congr 1
  funext (reply : Except MemoryError Unit)
  cases reply <;> rfl

/-- The revalidation of an entry. -/
def MixedEntry.revalidation (entry : MixedEntry) : List SealingStep :=
  entry.expected.toList.map fun (fd, key, seals) => .validate fd key seals

/-- The sealing of a receiver-written region. -/
def ReceiverEntry.sealing (deadline : Deadline) (entry : ReceiverEntry) : List SealingStep :=
  [.deadline deadline, .addSeals entry.fd, .validate entry.fd entry.key finalSeals]

def MixedEntry.sealing (deadline : Deadline) (entry : MixedEntry) : List SealingStep :=
  entry.receivers.flatMap (ReceiverEntry.sealing deadline)

/-- All that the sealing does before it maps anything: every object is revalidated, and every
    receiver-written one sealed and validated once more. -/
def LinuxMixedDirectionBatch.script (batch : LinuxMixedDirectionBatch) : List SealingStep :=
  [.deadline batch.deadline] ++ batch.entries.flatMap MixedEntry.revalidation ++
    batch.entries.flatMap (MixedEntry.sealing batch.deadline)

/-- The descriptor and the seals of an `add_seals`. -/
def Call.sealAttempt : Call → Option (Nat × UInt32)
  | .addSeals fd seals => some (fd, seals)
  | _ => none

/-- The descriptors that seals were to be added to, in order. -/
def sealAttempts (log : Log Call Reply) : List (Nat × UInt32) :=
  log.filterMap fun answer => answer.1.sealAttempt

theorem sealAttempts_snoc (log : Log Call Reply) (c : Call) (r : Reply c) :
    sealAttempts (log ++ [⟨c, r⟩]) = sealAttempts log ++ c.sealAttempt.toList := by
  unfold sealAttempts
  rw [filterMap_append]
  cases attempt : c.sealAttempt <;> simp [attempt]

/-- What is to be sealed of a region. -/
def ReceiverEntry.attempt (entry : ReceiverEntry) : Nat × UInt32 :=
  (entry.fd, sealFutureWrite ||| sealSeal)

def Call.isMap : Call → Bool
  | .map _ _ _ => true
  | _ => false

/-- The history starts with the whole script, met. -/
def Sealed (script : List SealingStep) (h : Log Call Reply) : Prop :=
  ∃ sealing rest, h = sealing ++ rest ∧ Met sealing script

/-- Nothing is mapped before the script is met. -/
def MapsSealed (script : List SealingStep) (h : Log Call Reply) (c : Call) : Prop :=
  c.isMap → Sealed script h

variable {h : Log Call Reply}

theorem mapsSealed_of_not_map {script : List SealingStep} {c : Call}
    (other : c.isMap = false) : MapsSealed script h c := by
  intro maps
  rw [other] at maps
  cases maps

/-! ### The sweeps -/

open ReceiverEntry MixedEntry

section Sweeps

variable {script : List SealingStep} {s₀ : σ}

/-- Where a sweep stands: what it remembers of the steps so far, the seals it has attempted, and
    the state, which it does not change. -/
structure Swept (s₀ : σ) (steps : List SealingStep) (attempts : List (Nat × UInt32))
    (h : Log Call Reply) (first : Option MemoryError) (s : σ) : Prop where
  remembers : Remembers h steps first
  attempts : sealAttempts h = attempts
  same : s = s₀

/-- A part of a sweep makes its steps and its attempts and returns what is remembered. -/
def Sweeps (script : List SealingStep) (s₀ : σ) (steps : List SealingStep)
    (attempts : List (Nat × UInt32))
    (body : Option MemoryError → Effect σ (Option MemoryError)) : Prop :=
  ∀ steps' attempts' h first s, Swept s₀ steps' attempts' h first s →
    Op.wp (MapsSealed script) (fun h result s => ∃ first', result = .ok first' ∧
      Swept s₀ (steps' ++ steps) (attempts' ++ attempts) h first' s) h s (body first)

theorem Sweeps.foldlM {β : Type} {items : List β} {steps : β → List SealingStep}
    {attempts : β → List (Nat × UInt32)}
    {body : Option MemoryError → β → Effect σ (Option MemoryError)}
    (turn : ∀ item ∈ items, Sweeps script s₀ (steps item) (attempts item) fun first =>
      body first item) :
    Sweeps script s₀ (items.flatMap steps) (items.flatMap attempts) fun first =>
      items.foldlM body first := by
  intro steps' attempts' h first s swept
  refine Op.wp_foldlM (fun before h first s =>
    Swept s₀ (steps' ++ before.flatMap steps) (attempts' ++ before.flatMap attempts) h first s)
    (by simpa using swept) ?_ ?_
  · intro before item rest h first s all swept
    have here := turn item (by rw [← all]; simp) _ _ h first s swept
    simpa [append_assoc] using here
  · intro h first s swept
    exact ⟨first, rfl, swept⟩

/-- One call of a sweep, as the history and the memory have it afterwards. -/
theorem Swept.snoc {steps : List SealingStep} {attempts : List (Nat × UInt32)}
    {first : Option MemoryError} {s : σ}
    (swept : Swept s₀ steps attempts h first s) (step : SealingStep) (reply : Reply step.call) :
    Swept s₀ (steps ++ [step]) (attempts ++ step.call.sealAttempt.toList)
      (h ++ [⟨step.call, reply⟩]) (first <|> step.error reply) s where
  remembers := swept.remembers.snoc step reply
  attempts := by rw [sealAttempts_snoc, swept.attempts]
  same := swept.same

theorem sweeps_revalidateEntry (entry : MixedEntry) (single : entry.size = 1) :
    Sweeps script s₀ entry.revalidation [] fun first => revalidateEntry first entry := by
  intro steps attempts h first s swept
  obtain ⟨⟨fd, key, seals⟩, expected⟩ : ∃ expected, entry.expected = some expected := by
    rcases entry with (_ | ⟨entry, _⟩) | (_ | ⟨entry, _⟩)
    · cases single
    · exact ⟨_, rfl⟩
    · cases single
    · exact ⟨_, rfl⟩
  have step : entry.revalidation = [.validate fd key seals] := by
    simp [revalidation, expected]
  simp only [revalidateEntry, expected, step]
  rw [Op.wp_bind]
  refine Op.wp_err_asks (asks_validateKey fd key seals) (mapsSealed_of_not_map rfl) ?_
  intro reply
  exact ⟨_, rfl, swept.snoc (.validate fd key seals) reply⟩

theorem sweeps_sealDescriptor (entry : ReceiverEntry) :
    Sweeps script s₀ [.addSeals entry.fd, .validate entry.fd entry.key finalSeals]
      [entry.attempt] fun first => sealDescriptor first entry := by
  intro steps attempts h first s swept
  unfold sealDescriptor
  rw [Op.wp_bind]
  refine Op.wp_err_asks (asks_addSeals entry.fd) (mapsSealed_of_not_map rfl) ?_
  intro reply
  have attempted := swept.snoc (.addSeals entry.fd) reply
  cases failed : (SealingStep.addSeals entry.fd).error reply with
  | some error =>
    rw [failed] at attempted
    have known : (first <|> some error).isSome := by cases first <;> rfl
    refine ⟨_, rfl, ?_, ?_, attempted.same⟩
    · have skipped := attempted.remembers.skip known
        (SealingStep.validate entry.fd entry.key finalSeals)
      rw [append_assoc] at skipped
      exact skipped
    · exact attempted.attempts
  | none =>
    rw [failed] at attempted
    have still : (first <|> none) = first := by cases first <;> rfl
    rw [still] at attempted
    dsimp only
    rw [Op.wp_bind]
    refine Op.wp_err_asks (asks_validateKey entry.fd entry.key finalSeals)
      (mapsSealed_of_not_map rfl) ?_
    intro validated
    have validation := attempted.snoc (.validate entry.fd entry.key finalSeals) validated
    refine ⟨_, rfl, ?_, ?_, validation.same⟩
    · have remembers := validation.remembers
      rw [append_assoc steps] at remembers
      exact remembers
    · have all := validation.attempts
      rw [append_assoc attempts] at all
      exact all

theorem sweeps_sealReceiver (deadline : Deadline) (entry : ReceiverEntry) :
    Sweeps script s₀ (entry.sealing deadline) [entry.attempt] fun first =>
      sealReceiver deadline first entry := by
  intro steps attempts h first s swept
  have next : ∀ h first, Swept s₀ (steps ++ [.deadline deadline]) attempts h first s →
      Op.wp (MapsSealed script) (fun h result s => ∃ first', result = .ok first' ∧
        Swept s₀ (steps ++ entry.sealing deadline) (attempts ++ [entry.attempt]) h first' s) h s
        (sealDescriptor first entry) := by
    intro h first swept
    have here := (sweeps_sealDescriptor entry : Sweeps script s₀ _ _ _) _ _ h first s swept
    rw [append_assoc steps] at here
    exact here
  cases first with
  | some e =>
    exact next h (some e) ⟨swept.remembers.skip rfl _, swept.attempts, swept.same⟩
  | none =>
    refine (Op.wp_bind _ _).mpr ?_
    refine Op.wp_err_asks (asks_checkDeadline deadline) (mapsSealed_of_not_map rfl) ?_
    intro expired
    refine next _ _ ?_
    have checked := swept.snoc (.deadline deadline) expired
    exact ⟨checked.remembers, checked.attempts.trans (append_nil _), checked.same⟩

theorem sweeps_sealEntry (deadline : Deadline) (entry : MixedEntry) :
    Sweeps script s₀ (entry.sealing deadline) (entry.receivers.map attempt)
      fun first => sealEntry deadline first entry := by
  rcases entry with entries | entries
  · intro steps attempts h first s swept
    exact ⟨first, rfl, by simpa [MixedEntry.sealing, MixedEntry.receivers] using swept⟩
  · have inner : Sweeps script s₀ _ _ _ := Sweeps.foldlM fun item (_ : item ∈ entries) =>
      sweeps_sealReceiver deadline item
    rw [← map_eq_flatMap] at inner
    exact inner

end Sweeps

/-! ### The mapping -/

section Mapping

variable {script : List SealingStep} {attempts : List (Nat × UInt32)}

/-- The script is met and the seals stand. -/
structure Beyond (script : List SealingStep) (attempts : List (Nat × UInt32))
    (h : Log Call Reply) : Prop where
  sealed : Sealed script h
  attempts : sealAttempts h = attempts

theorem Beyond.snoc (beyond : Beyond script attempts h) {c : Call}
    (other : c.sealAttempt = none) (r : Reply c) : Beyond script attempts (h ++ [⟨c, r⟩]) := by
  obtain ⟨sealing, rest, rfl, met⟩ := beyond.sealed
  refine ⟨⟨sealing, rest ++ [⟨c, r⟩], by simp, met⟩, ?_⟩
  rw [sealAttempts_snoc, other, beyond.attempts]
  exact append_nil _

/-- A part of the mapping that only asks: it leaves the state alone. -/
def Asking (script : List SealingStep) (attempts : List (Nat × UInt32)) (s : σ)
    (x : Effect σ Unit) : Prop :=
  ∀ h, Beyond script attempts h → Op.wp (MapsSealed script)
    (fun h result s' => Beyond script attempts h ∧ s' = s ∧ result ≠ Run.fault) h s x

variable {s : σ} {x : Effect σ Unit} {pending : PendingVmMapping}

theorem Asking.of_asks {step : SealingStep} (asks : Op.Asks step x)
    (other : step.call.isMap = false) (quiet : step.call.sealAttempt = none) :
    Asking script attempts s x := by
  intro h beyond
  refine Op.wp_asks asks (mapsSealed_of_not_map other) ?_ ?_
  · intro reply _
    exact ⟨beyond.snoc quiet reply, rfl, by simp [Run.fault]⟩
  · intro reply e _
    exact ⟨beyond.snoc quiet reply, rfl, by simp [Run.fault]⟩

theorem Asking.bind {f : Unit → Effect σ Unit}
    {post : Log Call Reply → Run MemoryError Unit → σ → Prop} (asking : Asking script attempts s x)
    (beyond : Beyond script attempts h)
    (failed : ∀ h e, Beyond script attempts h → post h (.error (.error e)) s)
    (next : ∀ h, Beyond script attempts h → Op.wp (MapsSealed script) post h s (f ())) :
    Op.wp (MapsSealed script) post h s (x >>= f) := by
  rw [Op.wp_bind]
  refine Op.wp_mono ?_ (asking h beyond)
  rintro h' (stop | _) s' ⟨beyond', rfl, sound⟩
  · cases stop with
    | error e => exact failed h' e beyond'
    | fault => exact absurd rfl sound
  · exact next h' beyond'

theorem Asking.andThen {y : Effect σ Unit} (first : Asking script attempts s x)
    (second : Asking script attempts s y) : Asking script attempts s (do x; y) := by
  intro h beyond
  refine first.bind beyond ?_ second
  intro h' e beyond'
  exact ⟨beyond', rfl, by simp [Run.fault]⟩

theorem Asking.pure (s : σ) : Asking script attempts s (Pure.pure ()) :=
  fun _ beyond => ⟨beyond, rfl, by simp [Run.fault]⟩

variable (deadline : Deadline)

theorem asking_checkDeadline (s : σ) : Asking script attempts s (checkDeadline deadline) :=
  .of_asks (asks_checkDeadline deadline) rfl rfl

theorem asking_adviseReceiver (advice : Advice) {entry : ReceiverEntry}
    (held : entry.pendingMapping = some pending) :
    Asking script attempts entry (adviseReceiver deadline advice) := by
  intro h beyond
  refine Op.wp_get_bind ?_
  simp only [held]
  refine Op.wp_perform_bind (mapsSealed_of_not_map rfl) ?_
  intro (reply : Except MemoryError Unit)
  have beyond := beyond.snoc (c := .advise pending.base pending.len advice) rfl reply
  cases reply with
  | error e => exact ⟨beyond, rfl, by simp [Run.fault]⟩
  | ok _ => exact asking_checkDeadline deadline entry _ beyond

/-- The region is still the same one. -/
structure ReceiverEntry.Kept (before after : ReceiverEntry) : Prop where
  fd : after.fd = before.fd
  key : after.key = before.key
  guardRequested : after.guardRequested = before.guardRequested

/-- The region has its view. -/
def ReceiverEntry.Mapped (before after : ReceiverEntry) : Prop :=
  ReceiverEntry.Kept before after ∧ after.mapping.isSome

theorem ReceiverEntry.Kept.refl (entry : ReceiverEntry) : Kept entry entry := ⟨rfl, rfl, rfl⟩

/-- What a turn that fails leaves. -/
theorem turned_failed {before after : ReceiverEntry}
    {e : MemoryError} (beyond : Beyond script attempts h) (kept : before.Kept after) :
    Op.Turned (Beyond script attempts) Kept Mapped before h
      (.error (.error e)) after :=
  ⟨beyond, by simp [Run.fault], kept, fun ok => by cases ok⟩

theorem wp_finishReceiver {before entry : ReceiverEntry} (beyond : Beyond script attempts h)
    (kept : before.Kept entry) (held : entry.pendingMapping = some pending) :
    Op.wp (MapsSealed script)
      (Op.Turned (Beyond script attempts) Kept Mapped before)
      h entry finishReceiver := by
  refine Op.wp_get_bind ?_
  simp only [held]
  refine Op.wp_modify_bind ?_
  unfold PendingVmMapping.intoMapping
  by_cases nonNull : pending.base ≠ 0
  · rw [dif_pos nonNull]
    exact ⟨beyond, by simp [Run.fault], ⟨kept.fd, kept.key, kept.guardRequested⟩,
      fun _ => ⟨⟨kept.fd, kept.key, kept.guardRequested⟩, rfl⟩⟩
  · rw [dif_neg nonNull]
    exact turned_failed beyond ⟨kept.fd, kept.key, kept.guardRequested⟩

theorem wp_holdPending (entry : ReceiverEntry) (pending : PendingVmMapping)
    (beyond : Beyond script attempts h) :
    Op.wp (MapsSealed script)
      (Op.Turned (Beyond script attempts) Kept Mapped entry)
      h entry (holdPending deadline entry pending) := by
  have kept : entry.Kept { entry with pendingMapping := some pending } := ⟨rfl, rfl, rfl⟩
  unfold holdPending
  rw [Op.wp_bind, Op.wp_ofRun]
  unfold rejectIf
  split_ifs
  · exact turned_failed beyond (.refl entry)
  · refine Op.wp_modify_bind ?_
    refine (asking_checkDeadline deadline _).bind beyond
      (fun h' e beyond' => turned_failed beyond' kept) ?_
    intro h' beyond'
    have advised (advice : Advice) : Asking script attempts
        { entry with pendingMapping := some pending } (adviseReceiver deadline advice) :=
      asking_adviseReceiver deadline advice rfl
    have both := (advised .dontDump).andThen ((advised .dontFork).andThen (.pure _))
    exact both.bind beyond' (fun h' e beyond' => turned_failed beyond' kept)
      fun h' beyond' => wp_finishReceiver beyond' kept rfl

theorem wp_mapReceiver (entry : ReceiverEntry) (beyond : Beyond script attempts h) :
    Op.wp (MapsSealed script)
      (Op.Turned (Beyond script attempts) Kept Mapped entry)
      h entry (mapReceiver deadline) := by
  refine (asking_checkDeadline deadline entry).bind beyond
    (fun h' e beyond' => turned_failed beyond' (.refl entry)) ?_
  intro h beyond
  refine Op.wp_get_bind (Op.wp_perform_bind (fun _ => beyond.sealed) ?_)
  intro (reply : Except MemoryError PendingVmMapping)
  have beyond := beyond.snoc
    (c := .map entry.fd entry.key.mappedLen (entry.guardRequested ≠ .disable)) rfl reply
  cases reply with
  | error e => exact turned_failed beyond (.refl entry)
  | ok pending => exact wp_holdPending deadline entry pending beyond

/-- The entry is still of the same direction, and so are its regions. -/
inductive MixedEntry.Changed (related : ReceiverEntry → ReceiverEntry → Prop) :
    MixedEntry → MixedEntry → Prop
  | coordinatorWriter (entries : List CoordinatorEntry) :
    Changed related (.coordinatorWriter entries) (.coordinatorWriter entries)
  | receiverWriter {entries entries' : List ReceiverEntry}
    (all : List.Forall₂ related entries entries') :
    Changed related (.receiverWriter entries) (.receiverWriter entries')

theorem wp_mapEntry (entry : MixedEntry) (beyond : Beyond script attempts h) :
    Op.wp (MapsSealed script)
      (Op.Turned (Beyond script attempts) (Changed Kept)
        (Changed Mapped) entry)
      h entry (mapEntry deadline) := by
  refine Op.wp_get_bind ?_
  cases entry with
  | coordinatorWriter entries =>
    exact ⟨beyond, by simp [Run.fault], .coordinatorWriter entries,
      fun _ => .coordinatorWriter entries⟩
  | receiverWriter entries =>
    rw [Op.wp_within]
    refine Op.wp_mono ?_ (Op.wp_forEach Kept.refl beyond
      fun entry _ h beyond => wp_mapReceiver deadline entry beyond)
    intro h result entries' turned
    exact ⟨turned.invariant, turned.sound, .receiverWriter turned.keeps,
      fun ok => .receiverWriter (turned.made ok)⟩

end Mapping

/-! ### The whole of it -/

/-- What a run that has come to its end leaves of a batch. -/
structure Finished (batch : LinuxMixedDirectionBatch) (log : Log Call Reply)
    (result : Run MemoryError Unit) (entries : List MixedEntry) : Prop where
  /-- The final seals were attempted on every receiver-written descriptor. -/
  attempted : sealAttempts log = batch.receivers.map ReceiverEntry.attempt
  /-- The sealing is either met in full or it ends with its first error. -/
  first : Sealed batch.script log ∨
    ∃ e, Deviates log batch.script e ∧ result = .error (.error e) ∧ entries = batch.entries
  sound : result ≠ Run.fault
  kept : List.Forall₂ (MixedEntry.Changed ReceiverEntry.Kept) batch.entries entries
  /-- A run that returned has validated each of those descriptors as finally sealed, as the object
      it was, and has mapped it. -/
  validated : result = .ok () → ∀ entry ∈ batch.receivers,
    ⟨.validateObject entry.fd entry.key.mappedLen finalSeals, .ok entry.key⟩ ∈ log
  mapped : result = .ok () →
    List.Forall₂ (MixedEntry.Changed ReceiverEntry.Mapped) batch.entries entries

theorem MixedEntry.Changed.refl (entry : MixedEntry) : Changed Kept entry entry := by
  cases entry with
  | coordinatorWriter entries => exact .coordinatorWriter entries
  | receiverWriter entries =>
    exact .receiverWriter (forall₂_same.mpr fun entry _ => .refl entry)

/-- Where the script is met, each receiver-written descriptor is finally sealed. -/
theorem Sealed.validated {batch : LinuxMixedDirectionBatch} {log : Log Call Reply}
    (sealed : Sealed batch.script log) {entry : ReceiverEntry} (member : entry ∈ batch.receivers) :
    ⟨.validateObject entry.fd entry.key.mappedLen finalSeals, .ok entry.key⟩ ∈ log := by
  obtain ⟨sealing, rest, rfl, met⟩ := sealed
  have step : SealingStep.validate entry.fd entry.key finalSeals ∈ batch.script := by
    obtain ⟨owner, owned, inside⟩ := mem_flatMap.mp member
    refine mem_append_right _ (mem_flatMap.mpr ⟨owner, owned, ?_⟩)
    exact mem_flatMap.mpr ⟨entry, inside, by simp [ReceiverEntry.sealing]⟩
  obtain ⟨reply, answered, clean⟩ := met.answered step
  have original : reply = Except.ok entry.key := SealingStep.validate_clean clean
  rw [original] at answered
  exact mem_append_left _ answered

/-- The three sweeps of a batch, one after the other. -/
theorem wp_sealAfterImport (batch : LinuxMixedDirectionBatch) :
    Op.wp (MapsSealed batch.script) (Finished batch) [] batch.entries
      (sealAfterImport batch.deadline) := by
  have attempts : batch.entries.flatMap (fun entry => entry.receivers.map attempt) =
      batch.receivers.map attempt := by
    unfold LinuxMixedDirectionBatch.receivers
    rw [map_flatMap]
  have revalidating : Sweeps batch.script batch.entries _ _ _ :=
    Sweeps.foldlM fun entry member => sweeps_revalidateEntry entry (batch.single entry member)
  have sealing : Sweeps batch.script batch.entries _ _ _ :=
    Sweeps.foldlM fun entry (_ : entry ∈ batch.entries) => sweeps_sealEntry batch.deadline entry
  unfold sealAfterImport
  rw [Op.wp_bind]
  refine Op.wp_err_asks (asks_checkDeadline batch.deadline) (mapsSealed_of_not_map rfl) ?_
  intro expired
  have start : Swept batch.entries [] [] [] none batch.entries := ⟨.nil, rfl, rfl⟩
  have checked := start.snoc (.deadline batch.deadline) expired
  refine Op.wp_get_bind ?_
  rw [Op.wp_bind]
  refine Op.wp_mono ?_ (revalidating _ _ _ _ _ checked)
  rintro h _ s ⟨first, rfl, revalidated⟩
  dsimp only
  rw [Op.wp_bind]
  refine Op.wp_mono ?_ (sealing _ _ _ _ _ revalidated)
  rintro h _ _ ⟨first, rfl, remembers, attempted, rfl⟩
  have attempted : sealAttempts h = batch.receivers.map attempt := by
    rw [attempts, flatMap_eq_nil_iff.mpr fun _ _ => rfl] at attempted
    exact attempted
  have kept : List.Forall₂ (Changed Kept) batch.entries batch.entries :=
    forall₂_same.mpr fun entry _ => .refl entry
  cases first with
  | some e =>
    exact ⟨attempted, .inr ⟨e, remembers, rfl, rfl⟩, by simp [Run.fault], kept,
      fun ok => (by cases ok), fun ok => by cases ok⟩
  | none =>
    have beyond : Beyond batch.script _ h := ⟨⟨h, [], by simp, remembers⟩, attempted⟩
    dsimp only
    rw [Op.wp_bind]
    refine Op.wp_mono ?_ (Op.wp_forEach Changed.refl beyond
      fun entry _ h beyond => wp_mapEntry batch.deadline entry beyond)
    rintro h' (stop | _) entries turned
    · exact ⟨turned.invariant.attempts, .inl turned.invariant.sealed,
        fun faulted => turned.sound (by cases faulted; rfl), turned.keeps,
        fun ok => (by cases ok), fun ok => by cases ok⟩
    · refine Op.wp_mono ?_ (asking_checkDeadline batch.deadline entries h' turned.invariant)
      rintro h'' result _ ⟨beyond', rfl, sound⟩
      exact ⟨beyond'.attempts, .inl beyond'.sealed, sound, turned.keeps,
        fun _ entry member => beyond'.sealed.validated member, fun _ => turned.made rfl⟩

/-- Sealing after import is exhaustive. In every run, finished or not, nothing is mapped before the
    whole script of the sealing is met. A run that has finished attempted the final seals on every
    receiver-written descriptor; it ended with the first error of the sealing if there was one; and
    if it returned, the script was met and every receiver-written region has its view. -/
theorem seal_after_import_exhaustive (batch : LinuxMixedDirectionBatch)
    {log : Log Call Reply} {q : Proc Call Reply (Run MemoryError Unit × List MixedEntry)}
    (runs : (sealAfterImport batch.deadline batch.entries).Runs log q) :
    (∀ before after fd len guard reply, log = before ++ ⟨.map fd len guard, reply⟩ :: after →
      Sealed batch.script before) ∧
    ∀ result entries, q = .ret (result, entries) → Finished batch log result entries := by
  have sweep := wp_sealAfterImport batch
  constructor
  · rintro before after fd len guard reply rfl
    exact runs.guarded sweep rfl
  · rintro result entries rfl
    have finished := runs.wp sweep
    exact finished

namespace Sample

def coordinatorKey : ObjectKey := { device := 1, inode := 30, mappedLen := 4096 }
def receiverKey : ObjectKey := { device := 1, inode := 40, mappedLen := 8192 }

def receiver : ReceiverEntry :=
  { fd := 4, key := receiverKey, mapping := none, pendingMapping := none,
    guardRequested := .require }

/-- One region of each direction. -/
def batch : LinuxMixedDirectionBatch where
  entries := [.coordinatorWriter [{ fd := 3, key := coordinatorKey }], .receiverWriter [receiver]]
  deadline := ⟨100⟩
  single := by decide

def view : PendingVmMapping := { base := 0x1000, len := 8192, guarded := true }

/-- A system on which everything succeeds. -/
def system : (c : Call) → Reply c
  | .expired _ => false
  | .validateObject fd _ _ => .ok (if fd = 3 then coordinatorKey else receiverKey)
  | .addSeals _ _ => .ok ()
  | .map _ _ _ => .ok view
  | .advise _ _ _ => .ok ()

def mapped : List MixedEntry :=
  [.coordinatorWriter [{ fd := 3, key := coordinatorKey }],
    .receiverWriter [{ receiver with
      mapping := some { base := 0x1000, nonNull := by decide, len := 8192, guarded := true } }]]

end Sample

theorem seal_after_import_exhaustive_sample :
    ∃ log, (sealAfterImport Sample.batch.deadline Sample.batch.entries).Runs log
        (.ret (.ok (), Sample.mapped)) ∧
      Finished Sample.batch log (.ok ()) Sample.mapped := by
  have runs := Proc.runs_logBy Sample.system
    (sealAfterImport Sample.batch.deadline Sample.batch.entries)
  have returned : (sealAfterImport Sample.batch.deadline Sample.batch.entries).answeredBy
      Sample.system = (.ok (), Sample.mapped) := by
    decide +kernel
  rw [returned] at runs
  exact ⟨_, runs, (seal_after_import_exhaustive Sample.batch runs).2 _ _ rfl⟩

end NativeIpc.Session.Sealing
