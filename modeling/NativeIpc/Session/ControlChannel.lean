import Mathlib.Data.List.Infix
import NativeIpc.Lib.Trace
import NativeIpc.Session.Control

/-!
# One direction of the control channel

A sender and a receiver of application records
(`crates/native-ipc/src/control.rs`) over a channel that may drop, repeat,
reorder, truncate or replace what the sender encoded, but that cannot make up a
record with the session's nonce. The endpoints also use their states for
transactions and for the other direction.
-/

namespace NativeIpc.Session

open NativeIpc.Lib Bytes Run List ControlState
open Option

/-! ### Records on the wire -/

variable {frame : ControlFrame} {t : Target} {s : ControlState} {source : Bytes}

namespace ControlState

theorem headerFields_widths (nonce nonce' : FixedBytes 32) (sequence sequence' : UInt64)
    (header header' : ValidatedControlHeader) :
    (headerFields nonce sequence header).map List.length =
      (headerFields nonce' sequence' header').map List.length := by
  simp [headerFields, FixedBytes.length_eq]

/-- A record carries its session's nonce. -/
theorem extract_nonce_recordImage (nonce : FixedBytes 32) (sequence : UInt64)
    (frame : ControlFrame) : (recordImage nonce sequence frame).extract 32 64 = nonce.list := by
  have fields := fieldsAt_append [] frame.payload
    (headerFields nonce sequence ⟨frame.kind, UInt32.ofNat frame.payload.length⟩)
  simp only [headerFields, FieldsAt, length_ofLe, nonce.length_eq] at fields
  obtain ⟨-, -, -, -, -, -, -, -, carried, -⟩ := fields
  exact carried

/-- No record is a proper beginning of another: the header holds the length. -/
theorem recordImage_prefix_inj {nonce nonce' : FixedBytes 32} {sequence sequence' : UInt64}
    {frame' : ControlFrame} (small : frame.payload.length ≤ 2 ^ 24)
    (small' : frame'.payload.length ≤ 2 ^ 24)
    (h : recordImage nonce sequence frame <+: recordImage nonce' sequence' frame') :
    sequence = sequence' ∧ frame = frame' := by
  obtain ⟨rest, h⟩ := h
  rw [recordImage, recordImage, headerImage, headerImage, append_assoc] at h
  obtain ⟨fields, payload⟩ := flatten_append_inj (headerFields_widths _ _ _ _ _ _) h
  simp only [headerFields, List.cons.injEq, ofLe_u32_inj, ofLe_u64_inj, and_true,
    true_and] at fields
  obtain ⟨-, length, kind, -, sequences⟩ := fields
  have lengths : frame.payload.length = frame'.payload.length := by
    have h := congrArg UInt32.toNat length
    rwa [UInt32.toNat_ofNat_of_lt' (by change _ < 2 ^ 32; omega),
      UInt32.toNat_ofNat_of_lt' (by change _ < 2 ^ 32; omega)] at h
  have payloads : frame.payload = frame'.payload :=
    List.IsPrefix.eq_of_length ⟨rest, payload⟩ lengths
  refine ⟨sequences, ?_⟩
  cases frame
  cases frame'
  cases kind
  cases payloads
  rfl

end ControlState

open ControlState (recordImage length_recordImage toNat_succ)

/-! ### Runs of the channel -/

/-- What the direction under study does in one step; `other` stands for everything else. -/
inductive LinkEvent where
  | encode (frame : ControlFrame) (destination : Bytes) (result : Run ControlError (Nat × Bytes))
  | deliver (source : Bytes) (result : Run ControlError ControlFrame)
  | other

namespace LinkEvent

/-- The value of a successful `encode_parts_into`. -/
def encoded : LinkEvent → Option ControlFrame
  | encode frame _ (.ok _) => some frame
  | _ => none

/-- The record of a successful `encode_parts_into`: the written part of the destination. -/
def record : LinkEvent → Option Bytes
  | encode _ _ (.ok (length, wire)) => some (wire.take length)
  | _ => none

/-- The value of a successful `decode_owned`. -/
def accepted : LinkEvent → Option ControlFrame
  | deliver _ (.ok frame) => some frame
  | _ => none

end LinkEvent

/-- Calls on an endpoint that neither encode nor decode. -/
inductive LocalCall where
  | beginTransaction
  | endTransaction
  | poison

def LocalCall.apply (s : ControlState) : LocalCall → ControlState
  | beginTransaction => s.beginTransaction.2
  | endTransaction => s.endTransaction.2
  | poison => s.poison

/-- The two endpoints of one direction, and the records encoded so far. -/
structure Link where
  sender : ControlState
  receiver : ControlState
  records : List Bytes

open LinkEvent ControlState

namespace Link

/-- What the channel can hand to the receiver: an encoded record, a truncation of one, or bytes
    without the session's nonce at its place. -/
def Deliverable (nonce : FixedBytes 32) (records : List Bytes) (source : Bytes) : Prop :=
  (∃ record ∈ records, source <+: record) ∨ source.extract 32 64 ≠ nonce.list

/-- Steps of the endpoints and the channel. -/
inductive Step (t : Target) : Link → LinkEvent → Link → Prop
  | encode {link : Link} {frame : ControlFrame} {destination : Bytes}
      {result : Run ControlError (Nat × Bytes)} {sender : ControlState}
      (called : link.sender.encodePartsInto t frame.kind frame.payload destination =
        (result, sender)) :
      Step t link (.encode frame destination result)
        { link with
          sender
          records := link.records ++ (LinkEvent.encode frame destination result).record.toList }
  | deliver {link : Link} {source : Bytes} {result : Run ControlError ControlFrame}
      {receiver : ControlState}
      (possible : Deliverable link.receiver.nonce link.records source)
      (called : link.receiver.decodeOwned t source = (result, receiver)) :
      Step t link (.deliver source result) { link with receiver }
  | senderDecodes (link : Link) (source : Bytes) :
      Step t link .other { link with sender := (link.sender.decodeOwned t source).2 }
  | receiverEncodes (link : Link) (kind : UInt32) (payload destination : Bytes) :
      Step t link .other
        { link with receiver := (link.receiver.encodePartsInto t kind payload destination).2 }
  | senderCalls (link : Link) (call : LocalCall) :
      Step t link .other { link with sender := call.apply link.sender }
  | receiverCalls (link : Link) (call : LocalCall) :
      Step t link .other { link with receiver := call.apply link.receiver }

/-! ### What the endpoints keep -/

/-- What everything but encoding keeps of a sender. -/
structure KeepsSending (s s' : ControlState) : Prop where
  nonce : s'.nonce = s.nonce
  maximumPayload : s'.maximumPayload = s.maximumPayload
  nextSend : s'.nextSend = s.nextSend

/-- What everything but decoding keeps of a receiver. -/
structure KeepsReceiving (s s' : ControlState) : Prop where
  nonce : s'.nonce = s.nonce
  maximumPayload : s'.maximumPayload = s.maximumPayload
  nextReceive : s'.nextReceive = s.nextReceive
  poisoned : s.poisoned = true → s'.poisoned = true

theorem keepsSending_decodeOwned (t : Target) (s : ControlState) (source : Bytes) :
    KeepsSending s (s.decodeOwned t source).2 := by
  rcases decodeOwned_cases t s source with ⟨_, -, h | h⟩ | ⟨_, _, -, -, h⟩ <;>
    rw [h] <;> exact ⟨rfl, rfl, rfl⟩

theorem keepsReceiving_encodePartsInto (t : Target) (s : ControlState) (kind : UInt32)
    (payload destination : Bytes) :
    KeepsReceiving s (s.encodePartsInto t kind payload destination).2 := by
  have poisoned := (evolves_encodePartsInto t s kind payload destination).poisoned
  rcases encodePartsInto_cases t s kind payload destination with h | h | ⟨_, -, h⟩ <;>
    rw [h] at poisoned ⊢ <;> exact ⟨rfl, rfl, rfl, poisoned⟩

theorem keeps_apply (s : ControlState) (call : LocalCall) :
    KeepsSending s (call.apply s) ∧ KeepsReceiving s (call.apply s) := by
  cases call with
  | beginTransaction =>
    rcases s.beginTransaction_cases with ⟨h, -⟩ | ⟨h, -⟩ | ⟨h, -⟩ <;>
      simp only [LocalCall.apply, h] <;>
      exact ⟨⟨rfl, rfl, rfl⟩, ⟨rfl, rfl, rfl, by simp [poison]⟩⟩
  | endTransaction =>
    rcases s.endTransaction_cases with ⟨h, -⟩ | ⟨h, -⟩ | ⟨h, -⟩ <;>
      simp only [LocalCall.apply, h] <;>
      exact ⟨⟨rfl, rfl, rfl⟩, ⟨rfl, rfl, rfl, by simp [poison]⟩⟩
  | poison => exact ⟨⟨rfl, rfl, rfl⟩, ⟨rfl, rfl, rfl, fun _ => rfl⟩⟩

variable {stop : Stop ControlError} {event : LinkEvent}

/-- An `encode_parts_into` that fails changes nothing but the poison. -/
theorem keepsSending_of_refused {kind : UInt32} {payload destination : Bytes}
    (refused : (s.encodePartsInto t kind payload destination).1 = .error stop) :
    KeepsSending s (s.encodePartsInto t kind payload destination).2 := by
  rcases encodePartsInto_of_error refused with h | h <;>
    rw [h] <;> exact ⟨rfl, rfl, rfl⟩

theorem keepsReceiving_of_refused (refused : (s.decodeOwned t source).1 = .error stop) :
    KeepsReceiving s (s.decodeOwned t source).2 := by
  rcases decodeOwned_cases t s source with ⟨_, -, h | h⟩ | ⟨_, _, -, -, h⟩
  · rw [h]
    exact ⟨rfl, rfl, rfl, fun _ => rfl⟩
  · rw [h]
    exact ⟨rfl, rfl, rfl, fun _ => rfl⟩
  · rw [h] at refused
    cases refused

/-- Receiving is over once a record was refused. -/
theorem poisoned_of_decodeOwned (refused : ∀ frame, (s.decodeOwned t source).1 ≠ .ok frame) :
    (∃ error, (s.decodeOwned t source).1 = fail error) ∧
      (s.decodeOwned t source).2.poisoned = true := by
  rcases decodeOwned_cases t s source with ⟨e, he, h | h⟩ | ⟨frame, _, -, -, h⟩
  · exact ⟨⟨e, he⟩, by rw [h]; rfl⟩
  · exact ⟨⟨e, he⟩, by rw [h]⟩
  · exact absurd (by rw [h]) (refused frame)

/-- Nothing is accepted by a poisoned receiver, in any run. -/
theorem accepted_of_poisoned {link link' : Link} {events : List LinkEvent}
    (run : Trace (Step t) link events link') (poisoned : link.receiver.poisoned = true) :
    events.filterMap LinkEvent.accepted = [] ∧ link'.receiver.poisoned = true := by
  induction run with
  | nil => exact ⟨rfl, poisoned⟩
  | snoc before last ih =>
    obtain ⟨none, still⟩ := ih
    rw [filterMap_append, none, nil_append]
    cases last with
    | encode => exact ⟨rfl, still⟩
    | deliver _ called =>
      obtain ⟨error, refused⟩ := decodeOwned_of_poisoned still t _
      cases called.symm.trans refused
      exact ⟨rfl, still⟩
    | senderDecodes => exact ⟨rfl, still⟩
    | receiverEncodes => exact ⟨rfl, (keepsReceiving_encodePartsInto _ _ _ _ _).poisoned still⟩
    | senderCalls => exact ⟨rfl, still⟩
    | receiverCalls => exact ⟨rfl, (keeps_apply _ _).2.poisoned still⟩

/-! ### Delivery in order -/

variable (events : List LinkEvent)

/-- The values encoded in a run. -/
def encodedIn : List ControlFrame := events.filterMap LinkEvent.encoded

/-- The records encoded in a run. -/
def recordsIn : List Bytes := events.filterMap LinkEvent.record

/-- The values accepted in a run. -/
def acceptedIn : List ControlFrame :=
  events.filterMap LinkEvent.accepted

/-- The records of the values encoded in a session, numbered from 1. -/
def recordImages (nonce : FixedBytes 32) (frames : List ControlFrame) : List Bytes :=
  frames.mapIdx fun i frame => ControlState.recordImage nonce (UInt64.ofNat (i + 1)) frame

/-- Both counters count what was encoded and accepted, and the accepted values are the first of
    the encoded ones. -/
structure InOrder (nonce : FixedBytes 32) (maximum : UInt32) (events : List LinkEvent)
    (link : Link) : Prop where
  sender_nonce : link.sender.nonce = nonce
  receiver_nonce : link.receiver.nonce = nonce
  sender_maximum : link.sender.maximumPayload = maximum
  receiver_maximum : link.receiver.maximumPayload = maximum
  nextSend : link.sender.nextSend.toNat = (encodedIn events).length + 1
  nextReceive : link.receiver.nextReceive.toNat = (acceptedIn events).length + 1
  records : link.records = recordsIn events
  images : recordsIn events = recordImages nonce (encodedIn events)
  sendable : ∀ frame ∈ encodedIn events, applicationControlKindMin ≤ frame.kind ∧
    frame.payload.length ≤ maximum.toNat
  in_order : acceptedIn events <+: encodedIn events

theorem getElem?_recordImages {nonce : FixedBytes 32} {frames : List ControlFrame} {i : Nat} :
    (recordImages nonce frames)[i]? =
      frames[i]?.map (recordImage nonce (UInt64.ofNat (i + 1))) := by
  rw [recordImages, getElem?_mapIdx]

variable {t : Target} {nonce : FixedBytes 32} {maximum : UInt32} {events : List LinkEvent}
  {link : Link}

/-- Only the next record in order is accepted. -/
theorem InOrder.of_accepted (inv : InOrder nonce maximum events link)
    (possible : Deliverable link.receiver.nonce link.records source)
    (accepted : (link.receiver.decodeOwned t source).1 = .ok frame) :
    (encodedIn events)[(acceptedIn events).length]? = some frame ∧
      (recordsIn events)[(acceptedIn events).length]? = some source := by
  obtain ⟨receivable, hsource⟩ := decodeOwned_eq_ok.mp accepted
  have hcount := inv.nextSend ▸ link.sender.nextSend.toNat_lt
  have hmaximum := inv.receiver_maximum ▸ link.receiver.maximumPayload_toNat_le
  obtain ⟨record, encoded, truncated⟩ | without := possible
  · rw [inv.records, inv.images] at encoded
    obtain ⟨i, hi⟩ := mem_iff_getElem?.mp encoded
    rw [getElem?_recordImages, map_eq_some_iff] at hi
    obtain ⟨frame', hframe', rfl⟩ := hi
    have hlt := (List.getElem?_eq_some_iff.mp hframe').1
    have sendable := inv.sendable frame' (mem_of_getElem? hframe')
    rw [hsource] at truncated
    obtain ⟨sequence, rfl⟩ := recordImage_prefix_inj
      (receivable.payload_le.trans (inv.receiver_maximum ▸ hmaximum))
      (sendable.2.trans hmaximum) truncated
    have hindex : i = (acceptedIn events).length := by
      have h := congrArg UInt64.toNat sequence
      rw [inv.nextReceive, UInt64.toNat_ofNat_of_lt' (by change _ < 2 ^ 64; omega)] at h
      omega
    subst hindex
    refine ⟨hframe', ?_⟩
    rw [inv.images, getElem?_recordImages, hframe', hsource, sequence, inv.receiver_nonce]
    rfl
  · rw [hsource, extract_nonce_recordImage] at without
    exact absurd rfl without

theorem encodedIn_concat (event : LinkEvent) :
    encodedIn (events ++ [event]) = encodedIn events ++ event.encoded.toList := by
  simp only [encodedIn, filterMap_append]
  cases h : event.encoded <;> simp [h]

theorem recordsIn_concat (event : LinkEvent) :
    recordsIn (events ++ [event]) = recordsIn events ++ event.record.toList := by
  simp only [recordsIn, filterMap_append]
  cases h : event.record <;> simp [h]

theorem acceptedIn_concat (event : LinkEvent) :
    acceptedIn (events ++ [event]) = acceptedIn events ++ event.accepted.toList := by
  simp only [acceptedIn, filterMap_append]
  cases h : event.accepted <;> simp [h]

section

variable (inv : InOrder nonce maximum events link)
include inv

/-- A step that encodes and accepts nothing keeps the order. -/
theorem InOrder.quiet (encoded : event.encoded = none) (record : event.record = none)
    (accepted : event.accepted = none) {sender receiver : ControlState}
    (keepsSending : KeepsSending link.sender sender)
    (keepsReceiving : KeepsReceiving link.receiver receiver) :
    InOrder nonce maximum (events ++ [event]) ⟨sender, receiver, link.records⟩ := by
  have hencoded : encodedIn (events ++ [event]) = encodedIn events := by
    rw [encodedIn_concat, encoded, toList_none, append_nil]
  have hrecords : recordsIn (events ++ [event]) = recordsIn events := by
    rw [recordsIn_concat, record, toList_none, append_nil]
  have haccepted : acceptedIn (events ++ [event]) = acceptedIn events := by
    rw [acceptedIn_concat, accepted, toList_none, append_nil]
  constructor
  case sender_nonce => exact keepsSending.nonce.trans inv.sender_nonce
  case receiver_nonce => exact keepsReceiving.nonce.trans inv.receiver_nonce
  case sender_maximum => exact keepsSending.maximumPayload.trans inv.sender_maximum
  case receiver_maximum => exact keepsReceiving.maximumPayload.trans inv.receiver_maximum
  case nextSend => rw [hencoded, ← inv.nextSend, ← keepsSending.nextSend]
  case nextReceive => rw [haccepted, ← inv.nextReceive, ← keepsReceiving.nextReceive]
  case records => rw [hrecords, ← inv.records]
  case images => rw [hrecords, hencoded, inv.images]
  case sendable => rw [hencoded]; exact inv.sendable
  case in_order => rw [hencoded, haccepted]; exact inv.in_order

theorem InOrder.encode {destination : Bytes} {result : Nat × Bytes} {sender : ControlState}
    (called : link.sender.encodePartsInto t frame.kind frame.payload destination =
      (.ok result, sender)) :
    InOrder nonce maximum (events ++ [.encode frame destination (.ok result)])
      ⟨sender, link.receiver,
        link.records ++ (encode frame destination (.ok result)).record.toList⟩ := by
  obtain ⟨sendable, idle, room⟩ := of_encodePartsInto (congrArg Prod.fst called)
  cases called.symm.trans (sendable.encodePartsInto_of_room idle t room)
  have hrecord : (recordImage link.sender.nonce link.sender.nextSend frame ++
      destination.drop (controlHeaderLen + frame.payload.length)).take
        (controlHeaderLen + frame.payload.length) =
      recordImage link.sender.nonce link.sender.nextSend frame :=
    take_left' (length_recordImage _ _ _)
  have hsequence : UInt64.ofNat ((encodedIn events).length + 1) = link.sender.nextSend := by
    rw [← inv.nextSend, UInt64.ofNat_toNat]
  have himages : recordImages nonce (encodedIn events ++ [frame]) =
      recordImages nonce (encodedIn events) ++ [recordImage nonce link.sender.nextSend frame] := by
    rw [recordImages, mapIdx_concat, hsequence, recordImages]
  constructor
  case sender_nonce => exact inv.sender_nonce
  case receiver_nonce => exact inv.receiver_nonce
  case sender_maximum => exact inv.sender_maximum
  case receiver_maximum => exact inv.receiver_maximum
  case nextSend =>
    rw [encodedIn_concat]
    simp only [encoded, toList_some, length_append, length_singleton, ← inv.nextSend]
    exact toNat_succ sendable.sequence_left
  case nextReceive =>
    rw [acceptedIn_concat]
    simpa [LinkEvent.accepted] using inv.nextReceive
  case records => rw [recordsIn_concat, inv.records]
  case images =>
    rw [recordsIn_concat, encodedIn_concat]
    simp only [record, encoded, toList_some, hrecord]
    rw [himages, inv.images, inv.sender_nonce]
  case sendable =>
    rw [encodedIn_concat]
    simp only [encoded, toList_some, mem_append, mem_singleton]
    rintro frame' (h | rfl)
    · exact inv.sendable frame' h
    · exact ⟨sendable.kind_ge, inv.sender_maximum ▸ sendable.payload_le⟩
  case in_order =>
    rw [acceptedIn_concat, encodedIn_concat]
    simpa [LinkEvent.accepted] using inv.in_order.trans (prefix_append _ _)

theorem InOrder.deliver {receiver : ControlState}
    (possible : Deliverable link.receiver.nonce link.records source)
    (called : link.receiver.decodeOwned t source = (.ok frame, receiver)) :
    InOrder nonce maximum (events ++ [.deliver source (.ok frame)])
      ⟨link.sender, receiver, link.records⟩ := by
  have accepted := congrArg Prod.fst called
  obtain ⟨next, -⟩ := inv.of_accepted possible accepted
  obtain ⟨receivable, hsource⟩ := decodeOwned_eq_ok.mp accepted
  rw [hsource] at called
  cases called.symm.trans (receivable.decodeOwned t)
  constructor
  case sender_nonce => exact inv.sender_nonce
  case receiver_nonce => exact inv.receiver_nonce
  case sender_maximum => exact inv.sender_maximum
  case receiver_maximum => exact inv.receiver_maximum
  case nextSend =>
    rw [encodedIn_concat]
    simpa [encoded] using inv.nextSend
  case nextReceive =>
    rw [acceptedIn_concat]
    simp only [LinkEvent.accepted, toList_some, length_append, length_singleton, ← inv.nextReceive]
    exact toNat_succ receivable.sequence_left
  case records =>
    rw [recordsIn_concat, inv.records]
    simp [record]
  case images =>
    rw [recordsIn_concat, encodedIn_concat, ← append_nil (recordsIn events)]
    simpa [record, encoded] using inv.images
  case sendable =>
    rw [encodedIn_concat]
    simpa [encoded] using inv.sendable
  case in_order =>
    rw [acceptedIn_concat, encodedIn_concat]
    obtain ⟨hlt, hget⟩ := List.getElem?_eq_some_iff.mp next
    have longer := concat_get_prefix inv.in_order hlt
    rw [get_eq_getElem, hget] at longer
    simpa [LinkEvent.accepted, encoded] using longer

theorem InOrder.step {next : Link}
    (step : Step t link event next) : InOrder nonce maximum (events ++ [event]) next := by
  have keeps : KeepsReceiving link.receiver link.receiver := ⟨rfl, rfl, rfl, id⟩
  cases step with
  | @encode frame destination result sender called =>
    cases result with
    | ok result => exact inv.encode called
    | error stop =>
      have refused := keepsSending_of_refused (congrArg Prod.fst called)
      rw [called] at refused
      simpa [record] using inv.quiet rfl rfl rfl refused keeps
  | @deliver source result receiver possible called =>
    cases result with
    | ok frame => exact inv.deliver possible called
    | error stop =>
      have refused := keepsReceiving_of_refused (congrArg Prod.fst called)
      rw [called] at refused
      exact inv.quiet rfl rfl rfl ⟨rfl, rfl, rfl⟩ refused
  | senderDecodes source =>
    exact inv.quiet rfl rfl rfl (keepsSending_decodeOwned t _ source) keeps
  | receiverEncodes kind payload destination =>
    exact inv.quiet rfl rfl rfl ⟨rfl, rfl, rfl⟩ (keepsReceiving_encodePartsInto t _ _ _ _)
  | senderCalls call =>
    exact inv.quiet rfl rfl rfl (keeps_apply _ call).1 keeps
  | receiverCalls call =>
    exact inv.quiet rfl rfl rfl ⟨rfl, rfl, rfl⟩ (keeps_apply _ call).2

end

theorem inOrder_of_run {opened : ControlState} (created : new nonce maximum = some opened)
    (run : Trace (Step t) ⟨opened, opened, []⟩ events link) :
    InOrder nonce maximum events link := by
  refine run.invariant (I := InOrder nonce maximum) ?_ fun _ _ _ _ _ inv step => inv.step step
  unfold new at created
  split at created
  · cases created
  · cases created
    exact ⟨rfl, rfl, rfl, rfl, rfl, rfl, rfl, rfl, by simp [encodedIn], nil_prefix⟩

/-- The next record in order is accepted by a receiver that can receive. -/
theorem InOrder.accepts (inv : InOrder nonce maximum events link)
    (next : (encodedIn events)[(acceptedIn events).length]? = some frame)
    (receiving : link.receiver.Receiving) :
    (recordsIn events)[(acceptedIn events).length]? =
        some (recordImage nonce link.receiver.nextReceive frame) ∧
      (link.receiver.decodeOwned t (recordImage nonce link.receiver.nextReceive frame)).1 =
        .ok frame := by
  have sendable := inv.sendable frame (mem_of_getElem? next)
  have receivable : link.receiver.Receivable frame :=
    ⟨receiving, sendable.1, inv.receiver_maximum ▸ sendable.2⟩
  constructor
  · rw [inv.images, getElem?_recordImages, next, ← inv.nextReceive, UInt64.ofNat_toNat]
    rfl
  · exact decodeOwned_eq_ok.mpr ⟨receivable, by rw [inv.receiver_nonce]⟩

/-- Whatever the channel does, the receiver accepts the first values that the sender encoded, in
    order, until a record that is not the next one ends it; a failed encode uses no number. -/
theorem control_channel_in_order {opened : ControlState}
    (created : ControlState.new nonce maximum = some opened)
    (run : Trace (Step t) ⟨opened, opened, []⟩ events link) :
    acceptedIn events <+: encodedIn events ∧
    (∀ earlier source result later, events = earlier ++ .deliver source result :: later →
      (recordsIn earlier)[(acceptedIn earlier).length]? ≠ some source →
        (∃ error, result = fail error) ∧ acceptedIn later = [] ∧
          link.receiver.poisoned = true) ∧
    (∀ frame, (encodedIn events)[(acceptedIn events).length]? = some frame →
      link.receiver.Receiving → ∃ source,
        (recordsIn events)[(acceptedIn events).length]? = some source ∧
          (link.receiver.decodeOwned t source).1 = .ok frame) ∧
    ∀ (s : ControlState) kind payload destination stop,
      (s.encodePartsInto t kind payload destination).1 = .error stop →
        (s.encodePartsInto t kind payload destination).2.nextSend = s.nextSend ∧
        ((s.encodePartsInto t kind payload destination).2.poisoned = s.poisoned →
          ∀ kind' payload' destination',
            (s.encodePartsInto t kind payload destination).2.encodePartsInto t kind' payload'
              destination' = s.encodePartsInto t kind' payload' destination') := by
  have inv := inOrder_of_run created run
  refine ⟨inv.in_order, ?_, ?_, ?_⟩
  · rintro earlier source result later rfl out_of_order
    obtain ⟨mid, next, before, step, after⟩ := run.at_event
    have inv' := inOrder_of_run created before
    cases step with
    | deliver possible called =>
      have refused (frame) : (mid.receiver.decodeOwned t source).1 ≠ .ok frame := by
        intro accepted
        exact out_of_order (inv'.of_accepted possible accepted).2
      obtain ⟨failed, poisoned⟩ := poisoned_of_decodeOwned refused
      rw [called] at failed poisoned
      exact ⟨failed, accepted_of_poisoned after poisoned⟩
  · intro frame next receiving
    exact ⟨_, inv.accepts next receiving⟩
  · intro s kind payload destination stop failed
    refine ⟨(keepsSending_of_refused failed).nextSend, ?_⟩
    intro unpoisoned kind' payload' destination'
    rcases ControlState.encodePartsInto_of_error failed with h | h
    · rw [h] at unpoisoned ⊢
      rw [ControlState.poison_eq unpoisoned.symm]
    · rw [h]

/-- A new control state. -/
def sampleState : ControlState where
  nonce := .filled 32 1
  maximumPayload := 16
  nextSend := 1
  nextReceive := 1
  transactionOpen := false
  poisoned := false
  pendingReceive := false
  nonce_ne_zero := by decide
  maximumPayload_le := by decide

def sampleFrame : ControlFrame := ⟨applicationControlKindMin, [7]⟩

/-- A record that is delivered twice is accepted once and then ends the receiver. -/
theorem control_channel_in_order_sample :
    ∃ events link, Trace (Step .w64) ⟨sampleState, sampleState, []⟩ events link ∧
      acceptedIn events = [sampleFrame] ∧ link.receiver.poisoned = true := by
  have created : ControlState.new sampleState.nonce 16 = some sampleState := rfl
  have sendable : sampleState.Sendable sampleFrame :=
    ⟨rfl, rfl, by decide, by decide, by decide⟩
  have receivable : sampleState.Receivable sampleFrame :=
    ⟨⟨rfl, rfl, rfl, by decide⟩, by decide, by decide⟩
  have room : controlHeaderLen + sampleFrame.payload.length ≤
    List.length (List.replicate 80 (0 : UInt8)) := by decide
  have sent := sendable.encodePartsInto_of_room rfl .w64 room
  have received := receivable.decodeOwned .w64
  have written (rest : Bytes) : (recordImage sampleState.nonce sampleState.nextSend sampleFrame ++
      rest).take (controlHeaderLen + sampleFrame.payload.length) =
      recordImage sampleState.nonce sampleState.nextSend sampleFrame :=
    List.take_left' (length_recordImage _ _ _)
  have first := @Step.encode .w64 ⟨sampleState, sampleState, []⟩ _ _ _ _ sent
  simp only [LinkEvent.record, written, Option.toList_some, List.nil_append] at first
  have possible : Deliverable sampleState.nonce [recordImage sampleState.nonce 1 sampleFrame]
      (recordImage sampleState.nonce 1 sampleFrame) :=
    .inl ⟨_, List.mem_singleton_self _, List.prefix_rfl⟩
  have run := ((Trace.nil.snoc first).snoc (.deliver possible received)).snoc
    (.deliver possible rfl)
  have replay := (control_channel_in_order created run).2.1 [_, _] _ _ [] rfl
    fun next => by cases (show none = some _ from next)
  exact ⟨_, _, run, rfl, replay.2.2⟩

end Link

end NativeIpc.Session
