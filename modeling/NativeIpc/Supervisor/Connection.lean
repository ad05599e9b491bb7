import NativeIpc.Supervisor.Wire

/-!
# The two ends of a supervisor connection

`SupervisorConnection` is the service side of one connection: it accepts a hello,
then at most one spawn request, which it binds to the peer and the nonces of the
hello. `SupervisorClient` is the client side. The adapter routes an authenticated
record: a hello makes a fresh connection, a spawn request goes to the connection
whose generation it names.
Lines are those of `supervisor.rs`.
-/

namespace NativeIpc.Supervisor

open NativeIpc.Lib Bytes Run

/-! ### Peers -/

/-- What the audit trailer of a message and the validated code say about its sender. -/
structure SenderFacts where
  auditIdentity : FixedBytes 32
  effectiveUid : UInt32
  effectiveGid : UInt32
  codeIdentity : FixedBytes 32
  deriving DecidableEq, Repr

/-- Lines 324-330. -/
structure VerifiedPeer extends SenderFacts where
  connectionIdentity : UInt64
  deriving DecidableEq, Repr

/-- `VerifiedPeer::from_authenticated_message_audit_token`, lines 346-370. -/
def VerifiedPeer.fromAuditToken (connectionIdentity : UInt64) (sender : SenderFacts) :
    Run SupervisorWireError VerifiedPeer := do
  rejectIf (sender.auditIdentity = zero32 ∨ sender.effectiveUid = 0 ∨ sender.effectiveGid = 0 ∨
    sender.effectiveUid = 0xffffffff ∨ sender.effectiveGid = 0xffffffff ∨
    sender.codeIdentity = zero32) .peerMismatch
  pure { sender with connectionIdentity }

/-- Lines 410-413. -/
structure VerifiedMessage where
  peer : VerifiedPeer
  bytes : Bytes

/-- Lines 511-515. -/
structure AuthenticatedSpawnRequest where
  peer : VerifiedPeer
  deadline : SupervisorDeadlineBinding
  request : SpawnRequest
  deriving DecidableEq

/-! ### The service side -/

/-- Lines 770-778. -/
inductive ConnectionState where
  | awaitingHello
  | authenticated (clientNonce : FixedBytes 32) (peer : VerifiedPeer)
  | spawnConsumed
  | poisoned
  deriving DecidableEq, Repr

/-- Lines 781-785. Its generation and its nonce are not zero:
    `ConnectionGeneration` and `FreshServiceNonce` have no zero value. -/
structure SupervisorConnection where
  connectionIdentity : UInt64
  serviceNonce : FixedBytes 32
  state : ConnectionState
  identity_ne : connectionIdentity ≠ 0
  nonce_ne : serviceNonce ≠ zero32
  deriving DecidableEq

namespace SupervisorConnection

variable (c : SupervisorConnection)

/-- `self.state = ConnectionState::Poisoned`. -/
def poison : SupervisorConnection := { c with state := .poisoned }

/-- Lines 888-894. -/
def verifyConnection (peer : VerifiedPeer) : Run SupervisorWireError Unit :=
  rejectIf (peer.connectionIdentity ≠ c.connectionIdentity) .peerMismatch

/-- The checks of `receive_client_hello` before it leaves the poisoned state,
    lines 813-824. -/
def checkHello (message : VerifiedMessage) : Run SupervisorWireError Header := do
  c.verifyConnection message.peer
  let header ← decodeHeader message.bytes
  rejectIf (header.kind ≠ .clientHello ∨ header.payloadLen ≠ 0 ∨ header.generation ≠ 0 ∨
    header.sequence ≠ 0 ∨ header.clientNonce = zero32 ∨ header.serviceNonce ≠ zero32 ∨
    header.clientNonce = c.serviceNonce) .authenticationRequired
  pure header

/-- Lines 804-840. -/
def receiveClientHello (message : VerifiedMessage) :
    Run SupervisorWireError Bytes × SupervisorConnection :=
  if c.state ≠ .awaitingHello then (fail .stateViolation, c.poison)
  else
    match c.checkHello message with
    | .error stop => (.error stop, c.poison)
    | .ok header =>
      (encodeRecord { kind := .serviceHello, payloadLen := 0, generation := c.connectionIdentity,
                      sequence := 0, clientNonce := header.clientNonce,
                      serviceNonce := c.serviceNonce } [],
        { c with state := .authenticated header.clientNonce message.peer })

/-- The checks of `receive_spawn` that leave the connection as it is, lines 859-870. -/
def checkSpawn (clientNonce : FixedBytes 32) (peer : VerifiedPeer)
    (message : VerifiedMessage) : Run SupervisorWireError Unit := do
  rejectIf (message.peer ≠ peer) .peerMismatch
  let header ← decodeHeader message.bytes
  rejectIf (header.kind ≠ .spawn ∨ header.generation ≠ c.connectionIdentity ∨
    header.sequence ≠ 1 ∨ header.clientNonce ≠ clientNonce ∨
    header.serviceNonce ≠ c.serviceNonce) .replayOrSubstitution

/-- What `receive_spawn` reads while the connection is poisoned, lines 874-876. -/
def bindSpawn (peer : VerifiedPeer) (bytes : Bytes) (clocks : Clocks) :
    Run SupervisorWireError AuthenticatedSpawnRequest := do
  let payload ← slice bytes headerLen bytes.length
  let request ← decodeSpawnPayload payload
  let deadline ← SupervisorDeadlineBinding.fromWire request.deadline clocks
  pure { peer, deadline, request }

/-- Lines 843-882. -/
def receiveSpawn (message : VerifiedMessage) (clocks : Clocks) :
    Run SupervisorWireError AuthenticatedSpawnRequest × SupervisorConnection :=
  match c.state with
  | .awaitingHello => (fail .authenticationRequired, c.poison)
  | .spawnConsumed | .poisoned => (fail .stateViolation, c.poison)
  | .authenticated clientNonce peer =>
    match c.checkSpawn clientNonce peer message with
    | .error stop => (.error stop, c)
    | .ok () =>
      match bindSpawn peer message.bytes clocks with
      | .error stop => (.error stop, c.poison)
      | .ok request => (.ok request, { c with state := .spawnConsumed })

end SupervisorConnection

/-! ### The adapter -/

/-- supervisor_auth_adapter.rs:1627-1631, with the message it retains.
    The send-once right of the message leads to its sender. -/
structure AuthenticatedMachRecord where
  sender : SenderFacts
  bytes : Bytes
  deadline : SupervisorDeadline
  deriving DecidableEq, Repr

/-- supervisor_auth_adapter.rs:1691-1697. -/
structure SpawnReplyFreshness where
  connection : UInt64
  generation : UInt64
  sequence : UInt64
  clientNonce : FixedBytes 32
  serviceNonce : FixedBytes 32
  deriving DecidableEq, Repr

/-- supervisor_auth_adapter.rs:1675-1680. -/
inductive AuthenticatedMachRoute where
  | clientHello
  | spawn (freshness : SpawnReplyFreshness)

/-- `PendingSpawnReply<AuthenticatedSpawnRequest>`, supervisor_auth_adapter.rs:1733-1738, with the
    reply right as the sender it leads to. -/
structure PendingSpawnReply where
  replyTo : SenderFacts
  freshness : SpawnReplyFreshness
  output : AuthenticatedSpawnRequest
  deriving DecidableEq

/-- supervisor_auth_adapter.rs:2237-2261. -/
def AuthenticatedMachRecord.route (record : AuthenticatedMachRecord) (clocks : Clocks) :
    Run SupervisorWireError AuthenticatedMachRoute := do
  let _ ← record.deadline.toLocalInstant clocks
  let header ← decodeHeader record.bytes
  if header.kind = .clientHello ∧ header.generation = 0 then pure .clientHello
  else if header.kind = .spawn ∧ header.generation ≠ 0 then
    pure (.spawn { connection := header.generation, generation := header.generation,
                   sequence := header.sequence, clientNonce := header.clientNonce,
                   serviceNonce := header.serviceNonce })
  else fail .malformed

/-- `AuthenticatedMachRecord::with_verified_message` up to the operation,
    supervisor_auth_adapter.rs:2265-2295. -/
def AuthenticatedMachRecord.verify (record : AuthenticatedMachRecord) (connectionIdentity : UInt64)
    (clocks : Clocks) : Run SupervisorWireError VerifiedMessage := do
  let _ ← record.deadline.toLocalInstant clocks
  let peer ← VerifiedPeer.fromAuditToken connectionIdentity record.sender
  pure { peer, bytes := record.bytes }

namespace SupervisorConnection

/-- `AuthenticatedClientHello::accept` on the connection it has just made,
    supervisor_auth_adapter.rs:2322-2332. -/
def acceptHello (c : SupervisorConnection) (record : AuthenticatedMachRecord) (clocks : Clocks) :
    Run SupervisorWireError Bytes × SupervisorConnection :=
  match record.verify c.connectionIdentity clocks with
  | .error stop => (.error stop, c)
  | .ok message => c.receiveClientHello message

/-- `AuthenticatedSpawn::accept`, supervisor_auth_adapter.rs:2341-2350. -/
def acceptSpawn (c : SupervisorConnection) (record : AuthenticatedMachRecord)
    (freshness : SpawnReplyFreshness) (clocks spawnClocks : Clocks) :
    Run SupervisorWireError PendingSpawnReply × SupervisorConnection :=
  if c.connectionIdentity ≠ freshness.connection then (fail .replayOrSubstitution, c)
  else
    match record.verify c.connectionIdentity clocks with
    | .error stop => (.error stop, c)
    | .ok message =>
      match c.receiveSpawn message spawnClocks with
      | (.error stop, c') => (.error stop, c')
      | (.ok output, c') => (.ok { replyTo := record.sender, freshness, output }, c')

end SupervisorConnection

/-- The clock readings while a record is handled. -/
structure Readings where
  route : Clocks
  accept : Clocks
  spawn : Clocks
  deriving DecidableEq, Repr

/-- What becomes of a record that reaches the service. -/
inductive Handled where
  | replied (reply : Bytes)
  | accepted (pending : PendingSpawnReply)
  | refused (stop : Stop SupervisorWireError)
  | elsewhere
  deriving DecidableEq

/-- The service handles an authenticated record. A hello goes to a connection made for it: to this
    one while it has seen none, and otherwise to another one. -/
def SupervisorConnection.handle (c : SupervisorConnection) (record : AuthenticatedMachRecord)
    (readings : Readings) : Handled × SupervisorConnection :=
  match record.route readings.route with
  | .error stop => (.refused stop, c)
  | .ok .clientHello =>
    if c.state = .awaitingHello then
      match c.acceptHello record readings.accept with
      | (.error stop, c') => (.refused stop, c')
      | (.ok reply, c') => (.replied reply, c')
    else (.elsewhere, c)
  | .ok (.spawn freshness) =>
    match c.acceptSpawn record freshness readings.accept readings.spawn with
    | (.error stop, c') => (.refused stop, c')
    | (.ok pending, c') => (.accepted pending, c')

/-! ### The client side -/

/-- supervisor_client.rs:55-58. -/
structure VerifiedServicePeer where
  connectionIdentity : UInt64
  codeIdentity : FixedBytes 32
  deriving DecidableEq, Repr

/-- supervisor_client.rs:93-96. -/
structure VerifiedServiceMessage where
  peer : VerifiedServicePeer
  bytes : Bytes
  deriving DecidableEq, Repr

/-- supervisor_client.rs:122-138. -/
inductive ClientState where
  | fresh
  | awaitingServiceHello
  | authenticated (generation : UInt64) (serviceNonce : FixedBytes 32)
  | awaitingSpawnResult (generation : UInt64) (serviceNonce : FixedBytes 32)
  | active (handle : FixedBytes 32)
  | terminalFailure
  | poisoned
  deriving DecidableEq, Repr

/-- supervisor_client.rs:141-146. -/
structure SupervisorClient where
  connectionIdentity : UInt64
  expectedServiceCodeIdentity : FixedBytes 32
  clientNonce : FixedBytes 32
  state : ClientState
  deriving DecidableEq, Repr

namespace SupervisorClient

variable (c : SupervisorClient)

/-- `self.state = ClientState::Poisoned`. -/
def poison : SupervisorClient := { c with state := .poisoned }

/-- The peer whose messages the client accepts. -/
def servicePeer : VerifiedServicePeer :=
  ⟨c.connectionIdentity, c.expectedServiceCodeIdentity⟩

/-- supervisor_client.rs:170-179. -/
def takeClientHello : Run SupervisorWireError Bytes × SupervisorClient :=
  if c.state ≠ .fresh then (fail .stateViolation, c.poison)
  else
    match encodeClientHello c.clientNonce with
    | .error stop => (.error stop, c.poison)
    | .ok hello => (.ok hello, { c with state := .awaitingServiceHello })

/-- supervisor_client.rs:182-202. -/
def receiveServiceHello (message : VerifiedServiceMessage) :
    Run SupervisorWireError Unit × SupervisorClient :=
  if c.state ≠ .awaitingServiceHello then (fail .stateViolation, c.poison)
  else if message.peer ≠ c.servicePeer then (fail .peerMismatch, c.poison)
  else
    match decodeServiceHello message.bytes c.clientNonce with
    | .error stop => (.error stop, c.poison)
    | .ok hello => (.ok (), { c with state := .authenticated hello.generation hello.serviceNonce })

/-- supervisor_client.rs:205-233. -/
def encodeSpawn (request : SpawnRequest) : Run SupervisorWireError Bytes × SupervisorClient :=
  match c.state with
  | .authenticated generation serviceNonce =>
    match encodeSpawnRequest request generation c.clientNonce serviceNonce with
    | .error stop => (.error stop, c.poison)
    | .ok encoded => (.ok encoded, { c with state := .awaitingSpawnResult generation serviceNonce })
  | .fresh | .awaitingServiceHello => (fail .authenticationRequired, c.poison)
  | .awaitingSpawnResult _ _ | .active _ | .terminalFailure | .poisoned =>
    (fail .stateViolation, c.poison)

/-- supervisor_client.rs:237-270. -/
def receiveSpawnResult (message : VerifiedServiceMessage) :
    Run SupervisorWireError DecodedSpawnResult × SupervisorClient :=
  match c.state with
  | .awaitingSpawnResult generation serviceNonce =>
    if message.peer ≠ c.servicePeer then (fail .peerMismatch, c.poison)
    else
      match decodeSpawnResult message.bytes generation c.clientNonce serviceNonce with
      | .error stop => (.error stop, c.poison)
      | .ok (.ready handle) => (.ok (.ready handle), { c with state := .active handle })
      | .ok (.rejected failure) => (.ok (.rejected failure), { c with state := .terminalFailure })
  | .fresh | .awaitingServiceHello | .authenticated _ _ => (fail .authenticationRequired, c.poison)
  | .active _ | .terminalFailure | .poisoned => (fail .stateViolation, c.poison)

end SupervisorClient

/-! ### What one call can do -/

namespace SupervisorClient

variable (c : SupervisorClient)

theorem takeClientHello_cases :
    (∃ stop, c.takeClientHello = (.error stop, c.poison)) ∨
      ∃ hello, c.state = .fresh ∧ encodeClientHello c.clientNonce = .ok hello ∧
        c.takeClientHello = (.ok hello, { c with state := .awaitingServiceHello }) := by
  unfold takeClientHello
  split
  · exact .inl ⟨_, rfl⟩
  · rename_i fresh
    split
    · exact .inl ⟨_, rfl⟩
    · rename_i hello encoded
      exact .inr ⟨hello, not_not.mp fresh, encoded, rfl⟩

theorem receiveServiceHello_cases (message : VerifiedServiceMessage) :
    (∃ stop, c.receiveServiceHello message = (.error stop, c.poison)) ∨
      ∃ hello : ServiceHelloFacts, c.state = .awaitingServiceHello ∧
        c.receiveServiceHello message =
          (.ok (), { c with state := .authenticated hello.generation hello.serviceNonce }) := by
  unfold receiveServiceHello
  split
  · exact .inl ⟨_, rfl⟩
  · rename_i awaiting
    split
    · exact .inl ⟨_, rfl⟩
    · split
      · exact .inl ⟨_, rfl⟩
      · rename_i hello _
        exact .inr ⟨hello, not_not.mp awaiting, rfl⟩

theorem encodeSpawn_cases (request : SpawnRequest) :
    (∃ stop, c.encodeSpawn request = (.error stop, c.poison)) ∨
      ∃ generation nonce encoded, c.state = .authenticated generation nonce ∧
        encodeSpawnRequest request generation c.clientNonce nonce = .ok encoded ∧
        c.encodeSpawn request =
          (.ok encoded, { c with state := .awaitingSpawnResult generation nonce }) := by
  unfold encodeSpawn
  split
  · rename_i generation nonce state
    split
    · exact .inl ⟨_, rfl⟩
    · rename_i encoded written
      exact .inr ⟨generation, nonce, encoded, state, written, rfl⟩
  all_goals exact .inl ⟨_, rfl⟩

theorem receiveSpawnResult_cases (message : VerifiedServiceMessage) :
    (∃ stop, c.receiveSpawnResult message = (.error stop, c.poison)) ∨
      ∃ generation nonce result, c.state = .awaitingSpawnResult generation nonce ∧
        message.peer = c.servicePeer ∧
        decodeSpawnResult message.bytes generation c.clientNonce nonce = .ok result ∧
        c.receiveSpawnResult message = (.ok result, { c with
          state := match result with
            | .ready handle => .active handle
            | .rejected _ => .terminalFailure }) := by
  unfold receiveSpawnResult
  split
  · rename_i generation nonce state
    split
    · exact .inl ⟨_, rfl⟩
    · rename_i peer
      split
      · exact .inl ⟨_, rfl⟩
      · rename_i handle decoded
        exact .inr ⟨generation, nonce, .ready handle, state, not_not.mp peer, decoded, rfl⟩
      · rename_i failure decoded
        exact .inr ⟨generation, nonce, .rejected failure, state, not_not.mp peer, decoded, rfl⟩
  all_goals exact .inl ⟨_, rfl⟩

end SupervisorClient

variable {clocks : Clocks} {message : VerifiedMessage}

namespace SupervisorConnection

variable {c c' : SupervisorConnection} {record : AuthenticatedMachRecord} {readings : Readings}

theorem verify_eq_ok {identity : UInt64} (verified : record.verify identity clocks = .ok message) :
    message = { peer := { record.sender with connectionIdentity := identity },
                bytes := record.bytes } := by
  simp only [AuthenticatedMachRecord.verify, VerifiedPeer.fromAuditToken, bind_eq_ok,
    rejectIf_eq_ok, pure_eq_ok, Unique.exists_iff] at verified
  obtain ⟨_, -, _, ⟨-, rfl⟩, rfl⟩ := verified
  rfl

theorem route_eq_spawn {freshness : SpawnReplyFreshness}
    (routed : record.route clocks = .ok (.spawn freshness)) :
    ∃ header, decodeHeader record.bytes = .ok header ∧
      freshness = { connection := header.generation, generation := header.generation,
                    sequence := header.sequence, clientNonce := header.clientNonce,
                    serviceNonce := header.serviceNonce } := by
  simp only [AuthenticatedMachRecord.route, bind_eq_ok] at routed
  obtain ⟨_, -, header, decoded, routed⟩ := routed
  refine ⟨header, decoded, ?_⟩
  split at routed
  · cases routed
  · split at routed
    · cases routed
      rfl
    · cases routed

theorem receiveClientHello_cases (awaiting : c.state = .awaitingHello) :
    (∃ stop, c.receiveClientHello message = (.error stop, c.poison)) ∨
      ∃ header, decodeHeader message.bytes = .ok header ∧
        (c.receiveClientHello message).1 =
          encodeRecord { kind := .serviceHello, payloadLen := 0,
                         generation := c.connectionIdentity, sequence := 0,
                         clientNonce := header.clientNonce, serviceNonce := c.serviceNonce } [] ∧
        (c.receiveClientHello message).2 =
          { c with state := .authenticated header.clientNonce message.peer } := by
  rw [receiveClientHello, if_neg (not_not.mpr awaiting)]
  cases checked : c.checkHello message with
  | error stop => exact .inl ⟨stop, rfl⟩
  | ok header =>
    simp only [checkHello, bind_eq_ok, pure_eq_ok] at checked
    obtain ⟨_, -, _, decoded, _, -, rfl⟩ := checked
    exact .inr ⟨_, decoded, rfl, rfl⟩

/-- An accepted spawn request is the record of the bound peer with both nonces. -/
theorem receiveSpawn_eq_ok {output : AuthenticatedSpawnRequest}
    (accepted : c.receiveSpawn message clocks = (.ok output, c')) :
    ∃ header clientNonce, c.state = .authenticated clientNonce message.peer ∧
      decodeHeader message.bytes = .ok header ∧ header.kind = .spawn ∧
      header.generation = c.connectionIdentity ∧ header.sequence = 1 ∧
      header.clientNonce = clientNonce ∧ header.serviceNonce = c.serviceNonce ∧
      decodeSpawnPayload (message.bytes.drop headerLen) = .ok output.request ∧
      output.peer = message.peer ∧ c' = { c with state := .spawnConsumed } := by
  unfold receiveSpawn at accepted
  split at accepted
  · cases accepted
  · cases accepted
  · cases accepted
  · rename_i clientNonce peer state
    split at accepted
    · cases accepted
    · rename_i checked
      split at accepted
      · cases accepted
      · rename_i bound
        cases accepted
        simp only [checkSpawn, bind_eq_ok, rejectIf_eq_ok, Unique.exists_iff, not_or, not_not]
          at checked
        obtain ⟨rfl, header, decoded, kind, generation, sequence, client, service⟩ := checked
        simp only [bindSpawn, bind_eq_ok, slice_eq_ok, pure_eq_ok] at bound
        obtain ⟨_, ⟨-, rfl⟩, request, decodedRequest, _, -, rfl⟩ := bound
        rw [List.extract_eq_take_drop, List.take_of_length_le (by rw [List.length_drop])]
          at decodedRequest
        exact ⟨header, clientNonce, state, decoded, kind, generation, sequence, client, service,
          decodedRequest, rfl, rfl⟩

theorem handle_eq_replied {reply : Bytes} (handled : c.handle record readings = (.replied reply, c')) :
    c.state = .awaitingHello ∧ ∃ header, decodeHeader record.bytes = .ok header ∧
      encodeRecord { kind := .serviceHello, payloadLen := 0, generation := c.connectionIdentity,
                     sequence := 0, clientNonce := header.clientNonce,
                     serviceNonce := c.serviceNonce } [] = .ok reply ∧
      c' = { c with
        state := .authenticated header.clientNonce
          { record.sender with connectionIdentity := c.connectionIdentity } } := by
  unfold handle at handled
  split at handled
  · cases handled
  · split at handled
    · rename_i awaiting
      refine ⟨awaiting, ?_⟩
      split at handled
      · cases handled
      · rename_i reply' next accepted
        cases handled
        unfold acceptHello at accepted
        split at accepted
        · cases accepted
        · rename_i message verified
          obtain rfl := verify_eq_ok verified
          rcases receiveClientHello_cases awaiting with
            ⟨stop, refused⟩ | ⟨header, decoded, first, second⟩
          · rw [refused] at accepted
            cases accepted
          · rw [accepted] at first second
            exact ⟨header, decoded, first.symm, second⟩
    · cases handled
  · split at handled <;> cases handled

theorem handle_eq_accepted {pending : PendingSpawnReply}
    (handled : c.handle record readings = (.accepted pending, c')) :
    ∃ header clientNonce,
      c.state = .authenticated clientNonce
        { record.sender with connectionIdentity := c.connectionIdentity } ∧
      decodeHeader record.bytes = .ok header ∧ header.kind = .spawn ∧
      header.generation = c.connectionIdentity ∧ header.sequence = 1 ∧
      header.clientNonce = clientNonce ∧ header.serviceNonce = c.serviceNonce ∧
      decodeSpawnPayload (record.bytes.drop headerLen) = .ok pending.output.request ∧
      pending.replyTo = record.sender ∧
      pending.freshness = { connection := header.generation, generation := header.generation,
                            sequence := header.sequence, clientNonce := header.clientNonce,
                            serviceNonce := header.serviceNonce } ∧
      c' = { c with state := .spawnConsumed } := by
  unfold handle at handled
  split at handled
  · cases handled
  · split at handled
    · split at handled <;> cases handled
    · cases handled
  · rename_i freshness routed
    split at handled
    · cases handled
    · rename_i pending' next accepted
      cases handled
      unfold acceptSpawn at accepted
      split at accepted
      · cases accepted
      · split at accepted
        · cases accepted
        · rename_i message verified
          split at accepted
          · cases accepted
          · rename_i output next' received
            cases accepted
            obtain rfl := verify_eq_ok verified
            obtain ⟨header, clientNonce, state, decoded, kind, generation, sequence, client,
              service, request, -, next⟩ := receiveSpawn_eq_ok received
            obtain ⟨header', decoded', fresh⟩ := route_eq_spawn routed
            rw [decoded] at decoded'
            cases decoded'
            exact ⟨header, clientNonce, state, decoded, kind, generation, sequence, client,
              service, request, rfl, fresh, next⟩

variable {stop : Stop SupervisorWireError}

theorem receiveSpawn_eq_error (refused : c.receiveSpawn message clocks = (.error stop, c')) :
    c' = c ∨ c' = c.poison := by
  unfold receiveSpawn at refused
  split at refused
  · cases refused
    exact .inr rfl
  · cases refused
    exact .inr rfl
  · cases refused
    exact .inr rfl
  · split at refused
    · cases refused
      exact .inl rfl
    · split at refused
      · cases refused
        exact .inr rfl
      · cases refused

/-- A record that is refused leaves the connection, or poisons it. -/
theorem handle_eq_refused
    (handled : c.handle record readings = (.refused stop, c')) : c' = c ∨ c' = c.poison := by
  unfold handle at handled
  split at handled
  · cases handled
    exact .inl rfl
  · split at handled
    · rename_i awaiting
      split at handled
      · rename_i refused
        cases handled
        unfold acceptHello at refused
        split at refused
        · cases refused
          exact .inl rfl
        · rename_i message _
          rcases receiveClientHello_cases awaiting with ⟨stop', poisons⟩ | ⟨header, _, first, _⟩
          · rw [poisons] at refused
            cases refused
            exact .inr rfl
          · -- The reply to a hello has no payload, so it is always encoded.
            rw [refused, encodeRecord_eq_ok.mpr ⟨rfl, by decide, rfl⟩] at first
            cases first
      · cases handled
    · cases handled
  · split at handled
    · rename_i refused
      cases handled
      unfold acceptSpawn at refused
      split at refused
      · cases refused
        exact .inl rfl
      · split at refused
        · cases refused
          exact .inl rfl
        · split at refused
          · rename_i received
            cases refused
            exact receiveSpawn_eq_error received
          · cases refused
    · cases handled

theorem handle_eq_elsewhere (handled : c.handle record readings = (.elsewhere, c')) : c' = c := by
  unfold handle at handled
  split at handled
  · cases handled
  · split at handled
    · split at handled <;> cases handled
    · cases handled
      rfl
  · split at handled <;> cases handled

end SupervisorConnection

end NativeIpc.Supervisor
