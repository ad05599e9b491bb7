import NativeIpc.Lib.Trace
import NativeIpc.Supervisor.Connection

/-!
# A client and a connection among other peers

One client and one connection of the service exchange records over a transport
that loses, repeats and delays them, while every other peer sends what it likes to
either side. A message that the kernel attributes to the client was sent by the
client, and one that it attributes to the service on the client's connection is a
reply to a message of the client. Nothing else is assumed.
-/

namespace NativeIpc.Supervisor

open NativeIpc.Lib Bytes Run List SupervisorConnection

/-! ### The system -/

/-- Both ends, the reply that the service still owes, and what has been sent to either end. -/
structure System where
  client : SupervisorClient
  connection : SupervisorConnection
  pending : Option PendingSpawnReply
  toService : List Bytes
  toClient : List Bytes

/-- What one of the parties does next. -/
inductive Action where
  | takeClientHello
  | receiveServiceHello (message : VerifiedServiceMessage)
  | encodeSpawn (request : SpawnRequest)
  | receiveSpawnResult (message : VerifiedServiceMessage)
  | handle (record : AuthenticatedMachRecord) (readings : Readings)
  | answer (result : DecodedSpawnResult)

/-- What was done, with its outcome. -/
inductive Event where
  | takeClientHello (outcome : Run SupervisorWireError Bytes)
  | receiveServiceHello (message : VerifiedServiceMessage) (outcome : Run SupervisorWireError Unit)
  | encodeSpawn (request : SpawnRequest) (outcome : Run SupervisorWireError Bytes)
  | receiveSpawnResult (message : VerifiedServiceMessage)
      (outcome : Run SupervisorWireError DecodedSpawnResult)
  | handle (record : AuthenticatedMachRecord) (readings : Readings) (outcome : Handled)
  | answer (pending : PendingSpawnReply) (result : DecodedSpawnResult)
      (outcome : Run SupervisorWireError Bytes)
  deriving DecidableEq

namespace System

/-- Nothing has been sent. -/
def start (client : SupervisorClient) (connection : SupervisorConnection) : System :=
  ⟨client, connection, none, [], []⟩

/-- The records that a handled message adds to those on their way to the client. -/
def repliesTo (me sender : SenderFacts) (reply : Option Bytes) : List Bytes :=
  if sender = me then reply.toList else []

/-- One party acts. A message of the client itself, or of the service to the client, must have been
    sent; one of any other peer is arbitrary. A reply goes to the sender of the message whose reply
    right it uses up. -/
def perform (me : SenderFacts) (s : System) : Action → Option (Event × System)
  | .takeClientHello =>
    let (outcome, client) := s.client.takeClientHello
    some (.takeClientHello outcome,
      { s with client, toService := s.toService ++ outcome.toOption.toList })
  | .receiveServiceHello message =>
    if message.peer = s.client.servicePeer ∧ message.bytes ∉ s.toClient then none
    else
      let (outcome, client) := s.client.receiveServiceHello message
      some (.receiveServiceHello message outcome, { s with client })
  | .encodeSpawn request =>
    let (outcome, client) := s.client.encodeSpawn request
    some (.encodeSpawn request outcome,
      { s with client, toService := s.toService ++ outcome.toOption.toList })
  | .receiveSpawnResult message =>
    if message.peer = s.client.servicePeer ∧ message.bytes ∉ s.toClient then none
    else
      let (outcome, client) := s.client.receiveSpawnResult message
      some (.receiveSpawnResult message outcome, { s with client })
  | .handle record readings =>
    if record.sender = me ∧ record.bytes ∉ s.toService then none
    else
      match s.connection.handle record readings with
      | (.replied reply, connection) =>
        some (.handle record readings (.replied reply),
          { s with connection, toClient := s.toClient ++ repliesTo me record.sender (some reply) })
      | (.accepted pending, connection) =>
        some (.handle record readings (.accepted pending),
          { s with connection, pending := some pending })
      | (outcome, connection) => some (.handle record readings outcome, { s with connection })
  | .answer result =>
    match s.pending with
    | none => none
    | some pending =>
      let outcome := encodeSpawnResult result pending.freshness.generation
        pending.freshness.clientNonce pending.freshness.serviceNonce
      some (.answer pending result outcome,
        { s with
          pending := none
          toClient := s.toClient ++ repliesTo me pending.replyTo outcome.toOption })

/-- Some party acts. -/
def Step (me : SenderFacts) (s : System) (event : Event) (s' : System) : Prop :=
  ∃ action, s.perform me action = some (event, s')

/-- The events of a list of actions, and where they lead. -/
def schedule (me : SenderFacts) (s : System) : List Action → Option (List Event × System)
  | [] => some ([], s)
  | action :: actions => do
    let (event, mid) ← s.perform me action
    let (events, last) ← mid.schedule me actions
    some (event :: events, last)

theorem trace_of_schedule {me : SenderFacts} {s last : System} {actions : List Action}
    {events : List Event} (done : s.schedule me actions = some (events, last)) :
    Trace (Step me) s events last := by
  induction actions generalizing s events with
  | nil =>
    cases done
    exact .nil
  | cons action actions ih =>
    simp only [schedule, Option.bind_eq_bind, Option.bind_eq_some_iff, Prod.exists] at done
    obtain ⟨event, mid, first, rest, last', more, same⟩ := done
    cases same
    exact Trace.append (Trace.nil.snoc ⟨action, first⟩) (ih more)

end System

/-- A call of `encode_spawn` that returned a record. -/
def Event.isEncodedSpawn : Event → Bool
  | .encodeSpawn _ (.ok _) => true
  | _ => false

/-- A record from which the connection made an authenticated spawn request. -/
def Event.isAcceptedSpawn : Event → Bool
  | .handle _ _ (.accepted _) => true
  | _ => false

/-- A record that the service has handled. -/
def Event.isHandled : Event → Bool
  | .handle _ _ _ => true
  | _ => false

/-! ### What both ends know -/

variable {result : DecodedSpawnResult} {message : VerifiedServiceMessage}
    {record : AuthenticatedMachRecord}

open NativeIpc.Supervisor.System

section Invariant

variable {me : SenderFacts} {client : SupervisorClient} {connection : SupervisorConnection}
  {events : List Event} {s s' : System} {event : Event}

/-- The service accepted the record in which the client asked for its request. -/
def Accepted (me : SenderFacts) (client : SupervisorClient) (connection : SupervisorConnection)
    (request : SpawnRequest) (record : AuthenticatedMachRecord) (pending : PendingSpawnReply) :
    Prop :=
  encodeSpawnRequest request connection.connectionIdentity client.clientNonce
      connection.serviceNonce = .ok record.bytes ∧
    record.sender = me ∧ pending.replyTo = me ∧ pending.output.request = request ∧
    pending.freshness =
      { connection := connection.connectionIdentity, generation := connection.connectionIdentity,
        sequence := 1, clientNonce := client.clientNonce, serviceNonce := connection.serviceNonce }

/-- The client asked, the service accepted and the service answered, in this order. -/
def Answered (me : SenderFacts) (client : SupervisorClient) (connection : SupervisorConnection)
    (events : List Event) (result : DecodedSpawnResult) (encoded : Bytes) : Prop :=
  ∃ request record readings pending, Accepted me client connection request record pending ∧
    [.encodeSpawn request (.ok record.bytes), .handle record readings (.accepted pending),
      .answer pending result (.ok encoded)].Sublist events ∧
    encodeSpawnResult result connection.connectionIdentity client.clientNonce
      connection.serviceNonce = .ok encoded

/-- The number of requests that a client in this state has encoded. -/
def EncodedBy : ClientState → Nat → Prop
  | .fresh, n | .awaitingServiceHello, n | .authenticated _ _, n => n = 0
  | .awaitingSpawnResult _ _, n | .active _, n | .terminalFailure, n => n = 1
  | .poisoned, n => n ≤ 1

/-- The number of requests that a connection in this state has accepted. -/
def AcceptedBy : ConnectionState → Nat → Prop
  | .awaitingHello, n | .authenticated _ _, n => n = 0
  | .spawnConsumed, n => n = 1
  | .poisoned, n => n ≤ 1

/-- A connection in this state has replied to this hello. -/
def BoundTo (connection : SupervisorConnection) (hello : AuthenticatedMachRecord) :
    ConnectionState → Prop
  | .awaitingHello => False
  | .authenticated nonce peer => ∃ header, decodeHeader hello.bytes = .ok header ∧
      nonce = header.clientNonce ∧
      peer = { hello.sender with connectionIdentity := connection.connectionIdentity }
  | .spawnConsumed | .poisoned => True

/-- What holds after every run, of the history and of the state. -/
structure Invariant (me : SenderFacts) (client : SupervisorClient)
    (connection : SupervisorConnection) (events : List Event) (s : System) : Prop where
  servicePeer : s.client.servicePeer = client.servicePeer
  clientNonce : s.client.clientNonce = client.clientNonce
  identity : s.connection.connectionIdentity = connection.connectionIdentity
  serviceNonce : s.connection.serviceNonce = connection.serviceNonce
  sent : ∀ bytes ∈ s.toService, encodeClientHello client.clientNonce = .ok bytes ∨
    ∃ request generation nonce, .encodeSpawn request (.ok bytes) ∈ events ∧
      encodeSpawnRequest request generation client.clientNonce nonce = .ok bytes
  replied : ∀ bytes ∈ s.toClient,
    (∃ header, decodeHeader bytes = .ok header ∧ header.kind = .serviceHello) ∨
      ∃ result, Answered me client connection events result bytes
  owed : ∀ pending, s.pending = some pending → pending.replyTo = me →
    ∃ request record readings, Accepted me client connection request record pending ∧
      [.encodeSpawn request (.ok record.bytes),
        .handle record readings (.accepted pending)].Sublist events
  active : ∀ handle, s.client.state = .active handle →
    ∃ encoded, Answered me client connection events (.ready handle) encoded
  encoded : EncodedBy s.client.state (events.countP Event.isEncodedSpawn)
  accepted : AcceptedBy s.connection.state (events.countP Event.isAcceptedSpawn)
  bound : ∀ hello readings reply, .handle hello readings (.replied reply) ∈ events →
    BoundTo connection hello s.connection.state

variable {bytes : Bytes} {next : SupervisorConnection} {pending : PendingSpawnReply}
    {readings : Readings}

theorem Answered.concat (answered : Answered me client connection events result bytes)
    (event : Event) : Answered me client connection (events ++ [event]) result bytes := by
  obtain ⟨request, record, readings, pending, accepted, order, encoded⟩ := answered
  exact ⟨request, record, readings, pending, accepted,
    order.trans (sublist_append_left _ _), encoded⟩

theorem Invariant.initial (fresh : client.state = .fresh)
    (awaiting : connection.state = .awaitingHello) :
    Invariant me client connection [] (start client connection) where
  servicePeer := rfl
  clientNonce := rfl
  identity := rfl
  serviceNonce := rfl
  sent := nofun
  replied := nofun
  owed := nofun
  active := by
    intro handle state
    have start : client.state = .active handle := state
    rw [fresh] at start
    cases start
  encoded := by
    change EncodedBy client.state 0
    rw [fresh]
    rfl
  accepted := by
    change AcceptedBy connection.state 0
    rw [awaiting]
    rfl
  bound := nofun

/-- An action of the client: what it sends is its hello or its request, a request is counted, and
    it becomes active on an answer only. -/
theorem Invariant.client_acts (inv : Invariant me client connection events s)
    {next : SupervisorClient} {outbox toService : List Bytes}
    (box : toService = s.toService ++ outbox)
    (peer : next.servicePeer = s.client.servicePeer) (nonce : next.clientNonce = s.client.clientNonce)
    (sends : ∀ bytes ∈ outbox, encodeClientHello client.clientNonce = .ok bytes ∨
      ∃ request generation nonce, event = .encodeSpawn request (.ok bytes) ∧
        encodeSpawnRequest request generation client.clientNonce nonce = .ok bytes)
    (activates : ∀ handle, next.state = .active handle →
      ∃ encoded, Answered me client connection events (.ready handle) encoded)
    (counted : EncodedBy next.state
      (events.countP Event.isEncodedSpawn + if event.isEncodedSpawn then 1 else 0))
    (own : event.isHandled = false) :
    Invariant me client connection (events ++ [event])
      { s with client := next, toService } where
  servicePeer := peer.trans inv.servicePeer
  clientNonce := nonce.trans inv.clientNonce
  identity := inv.identity
  serviceNonce := inv.serviceNonce
  sent := by
    intro bytes given
    rcases mem_append.mp (box ▸ given) with old | new
    · rcases inv.sent bytes old with hello | ⟨request, generation, nonce, asked, encoded⟩
      · exact .inl hello
      · exact .inr ⟨request, generation, nonce, mem_append_left _ asked, encoded⟩
    · rcases sends bytes new with hello | ⟨request, generation, nonce, rfl, encoded⟩
      · exact .inl hello
      · exact .inr ⟨request, generation, nonce, mem_append_right _ mem_cons_self, encoded⟩
  replied := by
    intro bytes given
    rcases inv.replied bytes given with hello | ⟨result, answered⟩
    · exact .inl hello
    · exact .inr ⟨result, answered.concat event⟩
  owed := by
    intro pending owed mine
    obtain ⟨request, record, readings, accepted, order⟩ := inv.owed pending owed mine
    exact ⟨request, record, readings, accepted, order.trans (sublist_append_left _ _)⟩
  active := by
    intro handle state
    obtain ⟨encoded, answered⟩ := activates handle state
    exact ⟨encoded, answered.concat event⟩
  encoded := by
    rw [countP_append, countP_singleton]
    exact counted
  accepted := by
    have other : event.isAcceptedSpawn = false := by
      cases event with
      | handle record readings outcome => cases own
      | _ => rfl
    rw [countP_append, countP_singleton, other]
    exact inv.accepted
  bound := by
    intro hello readings reply given
    rcases mem_append.mp given with old | new
    · exact inv.bound hello readings reply old
    · rw [← mem_singleton.mp new] at own
      cases own

/-- An action of the service: what it sends to the client is a hello or an answer to what the
    client asked for, what it owes the client was asked for by the client, and it accepts once. -/
theorem Invariant.service_acts (inv : Invariant me client connection events s)
    {pending : Option PendingSpawnReply} {outbox toClient : List Bytes}
    (box : toClient = s.toClient ++ outbox)
    (identity : next.connectionIdentity = s.connection.connectionIdentity)
    (nonce : next.serviceNonce = s.connection.serviceNonce) (sends : ∀ bytes ∈ outbox,
      (∃ header, decodeHeader bytes = .ok header ∧ header.kind = .serviceHello) ∨
        ∃ result, Answered me client connection (events ++ [event]) result bytes)
    (owes : ∀ p, pending = some p → p.replyTo = me →
      ∃ request record readings, Accepted me client connection request record p ∧
        [.encodeSpawn request (.ok record.bytes),
          .handle record readings (.accepted p)].Sublist (events ++ [event]))
    (counted : AcceptedBy next.state
      (events.countP Event.isAcceptedSpawn + if event.isAcceptedSpawn then 1 else 0))
    (binds : ∀ hello readings reply, .handle hello readings (.replied reply) ∈ events ++ [event] →
      BoundTo connection hello next.state) (other : event.isEncodedSpawn = false) :
    Invariant me client connection (events ++ [event])
      { s with connection := next, pending, toClient } where
  servicePeer := inv.servicePeer
  clientNonce := inv.clientNonce
  identity := identity.trans inv.identity
  serviceNonce := nonce.trans inv.serviceNonce
  sent := by
    intro bytes given
    rcases inv.sent bytes given with hello | ⟨request, generation, nonce, asked, encoded⟩
    · exact .inl hello
    · exact .inr ⟨request, generation, nonce, mem_append_left _ asked, encoded⟩
  replied := by
    intro bytes given
    rcases mem_append.mp (box ▸ given) with old | new
    · rcases inv.replied bytes old with hello | ⟨result, answered⟩
      · exact .inl hello
      · exact .inr ⟨result, answered.concat event⟩
    · exact sends bytes new
  owed := owes
  active := by
    intro handle state
    obtain ⟨encoded, answered⟩ := inv.active handle state
    exact ⟨encoded, answered.concat event⟩
  encoded := by
    rw [countP_append, countP_singleton, other]
    exact inv.encoded
  accepted := by
    rw [countP_append, countP_singleton]
    exact counted
  bound := binds

theorem EncodedBy.le_one {state : ClientState} {n : Nat} (encoded : EncodedBy state n) : n ≤ 1 := by
  cases state with
  | poisoned => exact encoded
  | fresh => exact Nat.le_of_eq encoded |>.trans (Nat.zero_le 1)
  | awaitingServiceHello => exact Nat.le_of_eq encoded |>.trans (Nat.zero_le 1)
  | authenticated => exact Nat.le_of_eq encoded |>.trans (Nat.zero_le 1)
  | awaitingSpawnResult => exact Nat.le_of_eq encoded
  | active => exact Nat.le_of_eq encoded
  | terminalFailure => exact Nat.le_of_eq encoded

theorem AcceptedBy.le_one {state : ConnectionState} {n : Nat} (accepted : AcceptedBy state n) :
    n ≤ 1 := by
  cases state with
  | poisoned => exact accepted
  | awaitingHello => exact Nat.le_of_eq accepted |>.trans (Nat.zero_le 1)
  | authenticated => exact Nat.le_of_eq accepted |>.trans (Nat.zero_le 1)
  | spawnConsumed => exact Nat.le_of_eq accepted

section

variable (inv : Invariant me client connection events s)
include inv

/-- A call of the client that fails poisons it and sends nothing. -/
theorem Invariant.client_poisons {toService : List Bytes} (box : toService = s.toService ++ [])
    (quiet : event.isEncodedSpawn = false) (own : event.isHandled = false) :
    Invariant me client connection (events ++ [event])
      { s with client := s.client.poison, toService } := by
  refine inv.client_acts box rfl rfl nofun nofun ?_ own
  rw [quiet]
  exact inv.encoded.le_one

theorem Invariant.takeClientHello (done : s.perform me .takeClientHello = some (event, s')) :
    Invariant me client connection (events ++ [event]) s' := by
  rw [perform] at done
  rcases s.client.takeClientHello_cases with ⟨stop, refused⟩ | ⟨hello, fresh, encoded, sent⟩
  · rw [refused] at done
    cases done
    exact inv.client_poisons rfl rfl rfl
  · rw [sent] at done
    cases done
    have none := inv.encoded
    rw [fresh] at none
    refine inv.client_acts rfl rfl rfl ?_ nofun none rfl
    intro bytes given
    obtain rfl := mem_singleton.mp given
    rw [inv.clientNonce] at encoded
    exact .inl encoded

theorem Invariant.receiveServiceHello
    (done : s.perform me (.receiveServiceHello message) = some (event, s')) :
    Invariant me client connection (events ++ [event]) s' := by
  rw [perform] at done
  split at done
  · cases done
  · rcases s.client.receiveServiceHello_cases message with ⟨stop, refused⟩ | ⟨hello, awaiting, bound⟩
    · rw [refused] at done
      cases done
      exact inv.client_poisons (append_nil _).symm rfl rfl
    · rw [bound] at done
      cases done
      have none := inv.encoded
      rw [awaiting] at none
      exact inv.client_acts (append_nil _).symm rfl rfl nofun nofun none rfl

theorem Invariant.encodeSpawn {request : SpawnRequest}
    (done : s.perform me (.encodeSpawn request) = some (event, s')) :
    Invariant me client connection (events ++ [event]) s' := by
  rw [perform] at done
  rcases s.client.encodeSpawn_cases request with
    ⟨stop, refused⟩ | ⟨generation, nonce, encoded, authenticated, written, sent⟩
  · rw [refused] at done
    cases done
    exact inv.client_poisons rfl rfl rfl
  · rw [sent] at done
    cases done
    have none := inv.encoded
    rw [authenticated] at none
    refine inv.client_acts rfl rfl rfl ?_ nofun (congrArg (· + 1) none) rfl
    intro bytes given
    obtain rfl := mem_singleton.mp given
    rw [inv.clientNonce] at written
    exact .inr ⟨request, generation, nonce, rfl, written⟩

/-- A result that the client accepts is the answer to its request. -/
theorem Invariant.answered_of_decoded {generation : UInt64} {nonce : FixedBytes 32}
    (received : bytes ∈ s.toClient)
    (decoded : decodeSpawnResult bytes generation client.clientNonce nonce = .ok result) :
    Answered me client connection events result bytes := by
  have header := decodeHeader_of_encodeSpawnResult (decodeSpawnResult_eq_ok.mp decoded)
  rcases inv.replied bytes received with ⟨hello, helloDecoded, kind⟩ | ⟨result', answered⟩
  · rw [header] at helloDecoded
    cases helloDecoded
    cases kind
  · have answered' := answered
    obtain ⟨_, _, _, _, -, -, encoded⟩ := answered
    have header' := decodeHeader_of_encodeSpawnResult encoded
    rw [header] at header'
    cases header'
    rw [decodeSpawnResult_eq_ok.mpr encoded] at decoded
    cases decoded
    exact answered'

theorem Invariant.receiveSpawnResult
    (done : s.perform me (.receiveSpawnResult message) = some (event, s')) :
    Invariant me client connection (events ++ [event]) s' := by
  rw [perform] at done
  split at done
  · cases done
  · rename_i delivered
    rcases s.client.receiveSpawnResult_cases message with
      ⟨stop, refused⟩ | ⟨generation, nonce, result, awaiting, peer, decoded, moved⟩
    · rw [refused] at done
      cases done
      exact inv.client_poisons (append_nil _).symm rfl rfl
    · have received : message.bytes ∈ s.toClient := by
        by_contra missing
        exact delivered ⟨peer, missing⟩
      rw [inv.clientNonce] at decoded
      have answered := inv.answered_of_decoded received decoded
      have one := inv.encoded
      rw [awaiting] at one
      rw [moved] at done
      cases done
      cases result with
      | ready handle =>
        refine inv.client_acts (append_nil _).symm rfl rfl nofun ?_ one rfl
        intro handle' state
        cases state
        exact ⟨_, answered⟩
      | rejected failure =>
        exact inv.client_acts (append_nil _).symm rfl rfl nofun nofun one rfl

theorem Invariant.answer (done : s.perform me (.answer result) = some (event, s')) :
    Invariant me client connection (events ++ [event]) s' := by
  rw [perform] at done
  split at done
  · cases done
  · rename_i pending owed
    cases done
    refine inv.service_acts rfl rfl rfl ?_ nofun inv.accepted ?_ rfl
    · intro bytes given
      rw [repliesTo] at given
      split at given
      · rename_i mine
        obtain ⟨request, record, readings, accepted, order⟩ := inv.owed pending owed mine
        cases written : encodeSpawnResult result pending.freshness.generation
            pending.freshness.clientNonce pending.freshness.serviceNonce with
        | error stop =>
          rw [written] at given
          cases given
        | ok encoded =>
          rw [written] at given
          obtain rfl := mem_singleton.mp given
          have order' := order.append (List.Sublist.refl [Event.answer pending result (.ok bytes)])
          rw [accepted.2.2.2.2] at written
          exact .inr ⟨result, request, record, readings, pending, accepted, order', written⟩
      · cases given
    · intro hello readings reply given
      rcases mem_append.mp given with old | new
      · exact inv.bound hello readings reply old
      · cases mem_singleton.mp new

/-- What the service owes the client stays asked for. -/
theorem Invariant.owed_concat (event : Event)
    (owed : s.pending = some pending) (mine : pending.replyTo = me) :
    ∃ request record readings, Accepted me client connection request record pending ∧
      [.encodeSpawn request (.ok record.bytes),
        .handle record readings (.accepted pending)].Sublist (events ++ [event]) := by
  obtain ⟨request, record, readings, accepted, order⟩ := inv.owed pending owed mine
  exact ⟨request, record, readings, accepted, order.trans (sublist_append_left _ _)⟩

/-- A spawn record of the client is the request it has encoded for this connection. -/
theorem Invariant.asked_of_spawn {header : Header} (sent : record.bytes ∈ s.toService)
    (decoded : decodeHeader record.bytes = .ok header) (spawn : header.kind = .spawn) :
    ∃ request, .encodeSpawn request (.ok record.bytes) ∈ events ∧
      encodeSpawnRequest request header.generation client.clientNonce header.serviceNonce =
        .ok record.bytes ∧ header.clientNonce = client.clientNonce := by
  rcases inv.sent _ sent with hello | ⟨request, generation, nonce, asked, encoded⟩
  · rw [decodeHeader_of_encodeClientHello hello] at decoded
    cases decoded
    cases spawn
  · rw [(decode_of_encodeSpawnRequest encoded).1] at decoded
    cases decoded
    exact ⟨request, asked, encoded, rfl⟩

/-- A request that the service accepts from the client is the one the client has encoded. -/
theorem Invariant.accepted_of_handle (sent : record.bytes ∈ s.toService) (mine : record.sender = me)
    (handled : s.connection.handle record readings = (.accepted pending, next)) :
    ∃ request, .encodeSpawn request (.ok record.bytes) ∈ events ∧
      Accepted me client connection request record pending := by
  obtain ⟨header, nonce, -, decoded, kind, generation, sequence, -, service, payload, replyTo,
    freshness, -⟩ := handle_eq_accepted handled
  obtain ⟨request, asked, encoded, own⟩ := inv.asked_of_spawn sent decoded kind
  rw [generation, service, inv.identity, inv.serviceNonce] at encoded
  rw [(decode_of_encodeSpawnRequest encoded).2] at payload
  refine ⟨request, asked, encoded, mine, replyTo.trans mine, (Except.ok.inj payload).symm, ?_⟩
  rw [freshness, generation, sequence, own, service, inv.identity, inv.serviceNonce]

theorem Invariant.handle (done : s.perform me (.handle record readings) = some (event, s')) :
    Invariant me client connection (events ++ [event]) s' := by
  rw [perform] at done
  split at done
  · cases done
  rename_i delivered
  -- A record that is refused, or that goes elsewhere, is not counted and binds nothing.
  have unheeded {outcome : Handled} {next : SupervisorConnection}
      (keeps : next = s.connection ∨ next = s.connection.poison)
      (quiet : (Event.handle record readings outcome).isAcceptedSpawn = false)
      (mute : ∀ reply, outcome ≠ .replied reply) :
      Invariant me client connection (events ++ [.handle record readings outcome])
        { s with connection := next } := by
    have old {hello : AuthenticatedMachRecord} {readings' : Readings} {reply : Bytes}
        (given : .handle hello readings' (.replied reply) ∈
          events ++ [.handle record readings outcome]) :
        .handle hello readings' (.replied reply) ∈ events := by
      rcases mem_append.mp given with old | new
      · exact old
      · cases mem_singleton.mp new
        exact absurd rfl (mute reply)
    rcases keeps with rfl | rfl
    · refine inv.service_acts (append_nil _).symm rfl rfl nofun
        (fun _ owed mine => inv.owed_concat _ owed mine) ?_ ?_ rfl
      · rw [quiet]
        exact inv.accepted
      · intro hello readings' reply given
        exact inv.bound hello readings' reply (old given)
    · refine inv.service_acts (append_nil _).symm rfl rfl nofun
        (fun _ owed mine => inv.owed_concat _ owed mine) ?_ (fun _ _ _ _ => trivial) rfl
      rw [quiet]
      exact inv.accepted.le_one
  rcases handled : s.connection.handle record readings with ⟨outcome, next⟩
  rw [handled] at done
  cases outcome with
  | replied reply =>
    cases done
    obtain ⟨awaiting, header, decoded, encoded, rfl⟩ :=
      handle_eq_replied handled
    have none := inv.accepted
    rw [awaiting] at none
    refine inv.service_acts rfl rfl rfl ?_ (fun _ owed mine => inv.owed_concat _ owed mine) none ?_
      rfl
    · intro bytes given
      rw [repliesTo] at given
      split at given
      · obtain rfl := mem_singleton.mp given
        exact .inl ⟨_, (decodeHeader_of_encodeRecord encoded).1, rfl⟩
      · cases given
    · intro hello readings' reply' given
      rcases mem_append.mp given with old | new
      · have bound := inv.bound hello readings' reply' old
        rw [awaiting] at bound
        exact bound.elim
      · cases mem_singleton.mp new
        exact ⟨header, decoded, rfl, by rw [inv.identity]⟩
  | accepted pending =>
    cases done
    obtain ⟨header, nonce, state, -, -, -, -, -, -, -, replyTo, -, rfl⟩ :=
      handle_eq_accepted handled
    have none := inv.accepted
    rw [state] at none
    refine inv.service_acts (append_nil _).symm rfl rfl nofun ?_ (congrArg (· + 1) none)
      (fun _ _ _ _ => trivial) rfl
    intro p owed mine
    cases owed
    have sender : record.sender = me := replyTo.symm.trans mine
    have sent : record.bytes ∈ s.toService := by
      by_contra missing
      exact delivered ⟨sender, missing⟩
    obtain ⟨request, asked, accepted⟩ := inv.accepted_of_handle sent sender handled
    exact ⟨request, record, readings, accepted,
      (singleton_sublist.mpr asked).append (List.Sublist.refl [_])⟩
  | refused stop =>
    cases done
    exact unheeded (handle_eq_refused handled) rfl nofun
  | elsewhere =>
    cases done
    exact unheeded (.inl (handle_eq_elsewhere handled)) rfl nofun

theorem Invariant.step
    (step : Step me s event s') : Invariant me client connection (events ++ [event]) s' := by
  obtain ⟨action, done⟩ := step
  cases action with
  | takeClientHello => exact inv.takeClientHello done
  | receiveServiceHello message => exact inv.receiveServiceHello done
  | encodeSpawn request => exact inv.encodeSpawn done
  | receiveSpawnResult message => exact inv.receiveSpawnResult done
  | handle record readings => exact inv.handle done
  | answer result => exact inv.answer done

end

/-- The invariant holds after every run. -/
theorem Invariant.run (fresh : client.state = .fresh) (awaiting : connection.state = .awaitingHello)
    (run : Trace (Step me) (start client connection) events s) :
    Invariant me client connection events s :=
  Trace.invariant (Invariant.initial fresh awaiting)
    (fun _ _ _ _ _ inv step => inv.step step) run

end Invariant

/-! ### Other traffic -/

/-- A record of another peer than the one whose hello the connection has accepted, or with another
    generation, sequence or nonce than the connection has agreed on with it. -/
def Foreign (connection : SupervisorConnection) (hello record : AuthenticatedMachRecord) : Prop :=
  record.sender ≠ hello.sender ∨
    ∃ header agreed, decodeHeader record.bytes = .ok header ∧
      decodeHeader hello.bytes = .ok agreed ∧
      (header.generation ≠ connection.connectionIdentity ∨ header.sequence ≠ 1 ∨
        header.clientNonce ≠ agreed.clientNonce ∨ header.serviceNonce ≠ connection.serviceNonce)

namespace SupervisorConnection

variable {c : SupervisorConnection} {record : AuthenticatedMachRecord} {readings : Readings}

/-- The record is routed to this connection and its peer facts are accepted, so that
    `receive_spawn` is called with it. -/
def ReachesReceiveSpawn (c : SupervisorConnection) (record : AuthenticatedMachRecord)
    (readings : Readings) : Prop :=
  ∃ freshness message, record.route readings.route = .ok (.spawn freshness) ∧
    c.connectionIdentity = freshness.connection ∧
    record.verify c.connectionIdentity readings.accept = .ok message

/-- A record that does not reach `receive_spawn` leaves a connection that has had its hello. -/
theorem handle_of_not_reaches (greeted : c.state ≠ .awaitingHello)
    (misses : ¬ c.ReachesReceiveSpawn record readings) : (c.handle record readings).2 = c := by
  unfold handle
  split
  · rfl
  · rw [if_neg greeted]
  · rename_i freshness routed
    unfold acceptSpawn
    by_cases named : c.connectionIdentity = freshness.connection
    · rw [if_neg (not_not.mpr named)]
      cases verified : record.verify c.connectionIdentity readings.accept with
      | error stop => rfl
      | ok message => exact absurd ⟨freshness, message, routed, named, verified⟩ misses
    · rw [if_pos named]
      rfl

theorem handle_of_reaches (reaches : c.ReachesReceiveSpawn record readings) :
    (c.handle record readings).2 =
      (c.receiveSpawn { peer := { record.sender with connectionIdentity := c.connectionIdentity },
                        bytes := record.bytes } readings.spawn).2 := by
  obtain ⟨freshness, message, routed, named, verified⟩ := reaches
  unfold handle
  rw [routed]
  dsimp only
  unfold acceptSpawn
  rw [if_neg (not_not.mpr named), verified, ← verify_eq_ok verified]
  dsimp only
  rcases c.receiveSpawn message readings.spawn with ⟨_ | _, _⟩ <;> rfl

/-- A connection that has consumed its request is poisoned by the next record it looks at. -/
theorem handle_of_spawnConsumed (consumed : c.state = .spawnConsumed)
    (reaches : c.ReachesReceiveSpawn record readings) : (c.handle record readings).2 = c.poison := by
  rw [handle_of_reaches reaches, receiveSpawn, consumed]

/-- A connection that awaits its request refuses what is not from its peer, with both nonces. -/
theorem handle_of_foreign {connection : SupervisorConnection} {hello : AuthenticatedMachRecord}
    {nonce : FixedBytes 32} {peer : VerifiedPeer} (awaits : c.state = .authenticated nonce peer)
    (identity : c.connectionIdentity = connection.connectionIdentity)
    (serviceNonce : c.serviceNonce = connection.serviceNonce)
    (bound : BoundTo connection hello c.state) (foreign : Foreign connection hello record)
    (readings : Readings) : (c.handle record readings).2 = c := by
  by_cases reaches : c.ReachesReceiveSpawn record readings
  · rw [handle_of_reaches reaches, receiveSpawn, awaits]
    dsimp only
    split
    · rfl
    · rename_i checked
      rw [awaits] at bound
      obtain ⟨agreed, helloDecoded, rfl, rfl⟩ := bound
      simp only [checkSpawn, bind_eq_ok, rejectIf_eq_ok, Unique.exists_iff, not_or, not_not]
        at checked
      obtain ⟨same, header, decoded, -, generation, sequence, client, service⟩ := checked
      rcases foreign with other | ⟨header', agreed', decoded', helloDecoded', wrong⟩
      · exact absurd (congrArg VerifiedPeer.toSenderFacts same) other
      · rw [decoded] at decoded'
        rw [helloDecoded] at helloDecoded'
        cases decoded'
        cases helloDecoded'
        rw [← identity, ← serviceNonce] at wrong
        rcases wrong with wrong | wrong | wrong | wrong
        · exact absurd generation wrong
        · exact absurd sequence wrong
        · exact absurd client wrong
        · exact absurd service wrong
  · exact handle_of_not_reaches (by rw [awaits]; intro same; cases same) reaches

theorem poison_ne (live : c.state ≠ .poisoned) : c.poison ≠ c := by
  intro same
  exact live (congrArg SupervisorConnection.state same).symm

end SupervisorConnection

/-! ### Agreement -/

/-- Whatever the other peers send: an active client holds the handle that the service encoded for
    this connection, with its generation and both nonces, after accepting the one request that the
    client encoded; the connection accepts one request at most; and other traffic leaves a
    connection that awaits its request as it is. A connection that has consumed its request keeps
    its state only on the traffic that does not reach `receive_spawn`. -/
theorem client_service_agreement {me : SenderFacts} {client : SupervisorClient}
    {connection : SupervisorConnection} {events : List Event} {s : System}
    (fresh : client.state = .fresh) (awaiting : connection.state = .awaitingHello)
    (run : Trace (System.Step me) (System.start client connection) events s) :
    (∀ handle, s.client.state = .active handle →
      ∃ request record readings pending encoded,
        [.encodeSpawn request (.ok record.bytes), .handle record readings (.accepted pending),
          .answer pending (.ready handle) (.ok encoded)].Sublist events ∧
        events.countP Event.isEncodedSpawn = 1 ∧
        encodeSpawnRequest request connection.connectionIdentity client.clientNonce
          connection.serviceNonce = .ok record.bytes ∧
        record.sender = me ∧ pending.replyTo = me ∧ pending.output.request = request ∧
        encodeReadySpawnResult handle connection.connectionIdentity client.clientNonce
          connection.serviceNonce = .ok encoded) ∧
    events.countP Event.isAcceptedSpawn ≤ 1 ∧
    ∀ hello helloReadings reply, .handle hello helloReadings (.replied reply) ∈ events →
      s.connection.state ≠ .poisoned → ∀ record readings, Foreign connection hello record →
        ((s.connection.handle record readings).2 = s.connection ↔
          (s.connection.state = .spawnConsumed →
            ¬ s.connection.ReachesReceiveSpawn record readings)) := by
  have inv := Invariant.run fresh awaiting run
  refine ⟨?_, inv.accepted.le_one, ?_⟩
  · intro handle active
    obtain ⟨bytes, request, record, readings, pending, accepted, order, encoded⟩ :=
      inv.active handle active
    obtain ⟨asked, sender, replyTo, same, -⟩ := accepted
    have one := inv.encoded
    rw [active] at one
    exact ⟨request, record, readings, pending, bytes, order, one, asked, sender, replyTo, same,
      encoded⟩
  · intro hello helloReadings reply greeted live record readings foreign
    have bound := inv.bound hello helloReadings reply greeted
    cases state : s.connection.state with
    | awaitingHello =>
      rw [state] at bound
      exact bound.elim
    | authenticated nonce peer =>
      have kept := SupervisorConnection.handle_of_foreign state inv.identity inv.serviceNonce bound
        foreign readings
      exact ⟨fun _ => nofun, fun _ => kept⟩
    | spawnConsumed =>
      constructor
      · intro kept _ reaches
        rw [SupervisorConnection.handle_of_spawnConsumed state reaches] at kept
        exact SupervisorConnection.poison_ne live kept
      · intro misses
        exact SupervisorConnection.handle_of_not_reaches (by rw [state]; nofun) (misses rfl)
    | poisoned => exact absurd state live

namespace Sample

def me : SenderFacts := ⟨.filled 32 1, 501, 20, .filled 32 2⟩

/-- Another process of the same user. -/
def other : SenderFacts := ⟨.filled 32 9, 501, 20, .filled 32 2⟩

def client : SupervisorClient := ⟨7, .filled 32 3, .filled 32 4, .fresh⟩

def connection : SupervisorConnection :=
  ⟨11, .filled 32 5, .awaitingHello, by decide, by decide⟩

def clocks : Clocks := ⟨0, 0, 0, 0⟩

def readings : Readings := ⟨clocks, clocks, clocks⟩

def request : SpawnRequest := ⟨⟨1⟩, [0x61], [], [], by decide⟩

def handle : FixedBytes 32 := .filled 32 6

def bytesOf (encoded : Run SupervisorWireError Bytes) : Bytes := encoded.toOption.getD []

def hello : AuthenticatedMachRecord := ⟨me, bytesOf (encodeClientHello (.filled 32 4)), ⟨1⟩⟩

def serviceHello : VerifiedServiceMessage :=
  ⟨client.servicePeer, bytesOf (encodeRecord
    { kind := .serviceHello, payloadLen := 0, generation := 11, sequence := 0,
      clientNonce := .filled 32 4, serviceNonce := .filled 32 5 } [])⟩

def spawn : AuthenticatedMachRecord :=
  ⟨me, bytesOf (encodeSpawnRequest request 11 (.filled 32 4) (.filled 32 5)), ⟨1⟩⟩

def spawnResult : VerifiedServiceMessage :=
  ⟨client.servicePeer, bytesOf (encodeReadySpawnResult handle 11 (.filled 32 4) (.filled 32 5))⟩

/-- The exchange without any other traffic. -/
def actions : List Action :=
  [.takeClientHello, .handle hello readings, .receiveServiceHello serviceHello,
    .encodeSpawn request, .handle spawn readings, .answer (.ready handle),
    .receiveSpawnResult spawnResult]

/-- A list of actions leads to states with a property that can be evaluated. -/
theorem trace_of_check (actions : List Action) (P : List Event → System → Bool)
    (checked : ((start client connection).schedule me actions).any
      (fun done => P done.1 done.2) = true) :
    ∃ events s, Trace (Step me) (start client connection) events s ∧
      P events s = true := by
  obtain ⟨⟨events, s⟩, done, holds⟩ := (Option.any_eq_true _ _).mp checked
  exact ⟨events, s, trace_of_schedule done, holds⟩

/-- Both ends after the exchange. -/
theorem exchange : ∃ events s, Trace (Step me) (start client connection) events s ∧
    s.client.state = .active handle := by
  obtain ⟨events, s, run, active⟩ := trace_of_check actions
    (fun _ s => s.client.state = .active handle) (by decide +kernel)
  exact ⟨events, s, run, of_decide_eq_true active⟩

end Sample

/-- A client that has become active. -/
theorem client_service_agreement_exchange : ∃ events s,
    Trace (System.Step Sample.me) (System.start Sample.client Sample.connection) events s ∧
      s.client.state = .active Sample.handle ∧
      ∃ request record readings pending encoded,
        [.encodeSpawn request (.ok record.bytes), .handle record readings (.accepted pending),
          .answer pending (.ready Sample.handle) (.ok encoded)].Sublist events := by
  obtain ⟨events, s, run, active⟩ := Sample.exchange
  obtain ⟨agreed, -, -⟩ := client_service_agreement rfl rfl run
  obtain ⟨request, record, readings, pending, encoded, order, -⟩ := agreed Sample.handle active
  exact ⟨events, s, run, active, request, record, readings, pending, encoded, order⟩

namespace Sample

/-- The spawn record of the client, sent by another process. -/
def replayed : AuthenticatedMachRecord := { spawn with sender := other }

end Sample

/-- The record of another process poisons a connection that has consumed its request. -/
theorem spawn_consumed_poisoned : ∃ events s,
    Trace (System.Step Sample.me) (System.start Sample.client Sample.connection) events s ∧
      (∃ reply, .handle Sample.hello Sample.readings (.replied reply) ∈ events) ∧
      s.connection.state = .spawnConsumed ∧
      Sample.replayed.sender ≠ Sample.hello.sender ∧
      (s.connection.handle Sample.replayed Sample.readings).2.state = .poisoned := by
  obtain ⟨events, s, run, holds⟩ := Sample.trace_of_check Sample.actions (fun events s =>
      (∃ event ∈ events, event = .handle Sample.hello Sample.readings
        (.replied Sample.serviceHello.bytes)) ∧
      s.connection.state = .spawnConsumed ∧
      (s.connection.handle Sample.replayed Sample.readings).2.state = .poisoned)
    (by decide +kernel)
  obtain ⟨⟨_, greeted, rfl⟩, consumed, poisons⟩ := of_decide_eq_true holds
  exact ⟨events, s, run, ⟨_, greeted⟩, consumed, by decide, poisons⟩

end NativeIpc.Supervisor
