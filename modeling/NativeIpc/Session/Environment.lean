import NativeIpc.Lib.Program
import NativeIpc.Session.Batch

/-!
# The environment of a session

What the session code asks of the system it runs on: the clock, the allocator,
the authenticated record transport, the child process and the native memory
operations. A program over these calls says nothing about the answers; each
result chooses which answers it assumes.
-/

namespace NativeIpc.Session

open NativeIpc.Lib Bytes Run

/-- `AbsoluteDeadline`: an instant of the monotonic clock. -/
structure Deadline where
  instant : Nat
  deriving DecidableEq, Repr

/-- The three native backends. -/
inductive Backend where
  | linux
  | macos
  | windows
  deriving DecidableEq, Repr

/-- The authority profile each backend accepts. -/
def Backend.profile : Backend → NativeAuthorityProfile
  | .linux => .linuxMdweV1
  | .macos => .macMachV1
  | .windows => .windowsSectionsV1

/-- mod.rs:239-248. -/
inductive SessionTransportError where
  | deadlineExpired
  | peerExited
  | malformedRecord
  | recordTooLarge
  | identityMismatch
  | ambiguous
  | poisoned
  | native (code : Option Int)
  deriving DecidableEq, Repr

/-- mod.rs:232-235. -/
inductive PeerState where
  | running
  | exitedUnknown
  deriving DecidableEq, Repr

/-- session.rs:346-350, as far as the dispatcher reads it. -/
structure ChildCleanupFacts where
  directChildComplete : Bool
  nativeError : Option Int
  deriving DecidableEq, Repr

/-- `MemfdError`, linux_vnext/memory.rs:30-42, `MacBatchError`, macos_vnext/memory.rs:24-32, and
    `WindowsBatchError`, windows_vnext/memory.rs:44-53, in one enumeration. -/
inductive MemoryError where
  | invalidSize
  | invalidBatch
  | unsupportedDirection
  | deadlineExpired
  | deadlineMismatch
  | invalidObject
  | wrongObject
  | wrongProvenance
  | wrongAccess
  | executableAuthorityUnsupported
  | guardUnavailable
  | native (code : Option Int)
  deriving DecidableEq, Repr

/-- `PREFIX_SEALS` and `FINAL_SEALS` of a memfd. -/
inductive SealSet where
  | prefixSeals
  | finalSeals
  deriving DecidableEq, Repr

/-- A native memory operation, on kernel objects that are known by a number. -/
inductive NativeStep where
  | pageSize
  | prepareRegion (id : RegionId) (writer : WriterEndpoint) (mappedLen : UInt64)
  | validateObject (object : Nat) (mappedLen : UInt64) (seals : SealSet)
  | addSeals (object : Nat)
  | mapView (object : Nat) (mappedLen : UInt64) (writable : Bool)
  /-- on the address that `mapView` has answered, as the next one -/
  | advise (view : Nat)
  | intoMapping (view : Nat)
  | mapExact (object : Nat) (mappedLen : UInt64) (writable : Bool)
  | duplicate (object : Nat) (writable : Bool)
  deriving DecidableEq

/-- A transport failure, and whether the transport has poisoned itself over it. -/
structure IoFailure where
  error : SessionTransportError
  poisons : Bool
  deriving DecidableEq, Repr

/-- A record as the transport carries it: its bytes, and the objects that travel with it. -/
structure Message where
  bytes : Bytes
  rights : List Nat
  deriving DecidableEq, Repr

/-- What the session code asks of its environment. -/
inductive Call where
  /-- `deadline.is_expired()` -/
  | expired (deadline : Deadline)
  /-- `try_reserve_exact` -/
  | tryReserve (bytes : Nat)
  | sendRecord (bytes : Bytes) (deadline : Deadline)
  | receiveRecord (maximum : Nat) (deadline : Deadline)
  | sendCapabilities (message : Message) (deadline : Deadline)
  | receiveCapabilities (count : Nat) (deadline : Deadline)
  | pollPeer
  /-- `wait_for_peer_exit` of the Linux receiver -/
  | waitPeerExit (deadline : Deadline)
  /-- `wait_and_reap_facts` and `terminate_and_reap_facts` -/
  | reapChild (terminate : Bool) (deadline : Deadline)
  /-- `wait_for_exit_code` and `terminate_and_reap_code` -/
  | childExitCode (terminate : Bool) (deadline : Deadline)
  | native (step : NativeStep)
  deriving DecidableEq

/-- The answers to each call. -/
def Reply : Call → Type
  | .expired _ => Bool
  | .tryReserve _ => Bool
  | .sendRecord _ _ => Except IoFailure Unit
  | .receiveRecord _ _ => Except IoFailure Bytes
  | .sendCapabilities _ _ => Except IoFailure Unit
  | .receiveCapabilities _ _ => Except IoFailure Message
  | .pollPeer => Except IoFailure PeerState
  | .waitPeerExit _ => Except SessionTransportError PeerState
  | .reapChild _ _ => ChildCleanupFacts
  | .childExitCode _ _ => Except SessionTransportError UInt32
  | .native _ => Except MemoryError Nat

/-- A session program over the state `σ`. -/
abbrev Effect (σ ε α : Type) : Type := Op Call Reply σ ε α

/-- A program of a backend's memory module. -/
abbrev MemoryEffect (σ α : Type) : Type := Effect σ MemoryError α

variable {σ ε : Type}

/-- `deadline.is_expired()`. -/
def isExpired (deadline : Deadline) : Effect σ ε Bool := Op.perform (Call.expired deadline)

/-- `check_deadline` of the memory modules, linux_vnext/memory.rs:2953-2959. -/
def checkDeadline (deadline : Deadline) : MemoryEffect σ Unit := do
  if ← isExpired deadline then Op.fail .deadlineExpired

/-- One native operation, as the memory modules call it. -/
def native (step : NativeStep) : MemoryEffect σ Nat := do
  let reply : Except MemoryError Nat ← Op.perform (Call.native step)
  match reply with
  | .ok value => pure value
  | .error error => Op.fail error

end NativeIpc.Session
