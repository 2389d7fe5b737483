import Aurum.Node.Outgoing
import Aurum.Node.Speech

/-!
# What a node says of itself and of its clients

A peer takes the node id of a session from the identify messages that arrive on
it, and builds a placeholder for every client that a join announces.  A node
sends its own node id in all of the former, and the identifiers of clients it
has accepted in the latter, whatever it has been told itself: as long as no
reply is longer than the 16 bits of its length can say.  A leave withdraws a
websocket session that the node has listed.
-/

namespace Aurum.Node

open Aurum.Protocol
open Aurum.Container

/-- A sub-message identifies nothing but the given node, announces none but the
given clients, and withdraws no other sessions than the given ones. -/
structure Truthful (node : Uuid) (clients listed : Uuid → Prop) (message : Submessage) : Prop where
  identifies : message.opcode = OpCode.identify.byte →
    ∀ id, readUuid message.payload 0 = .ok id → id = node
  announces : message.opcode = OpCode.join.byte → message.type ≠ .response →
    ∀ id, readUuid message.payload 0 = .ok id → clients id
  withdraws : message.opcode = OpCode.leave.byte → message.type ≠ .response →
    ∀ id, readUuid message.payload 0 = .ok id → listed id

/-- A message of a TCP session carries truthful sub-messages only. -/
def Speaks (node : Uuid) (clients listed : Uuid → Prop) (message : Bytes) : Prop :=
  ∀ sub ∈ Kernel.dispatched (message.drop 4), Truthful node clients listed sub

/-- The node has accepted a websocket client under the identifier. -/
def State.Accepted (state : State) (id : Uuid) : Prop :=
  ∃ ref < state.allocated, (state.memory ref).origin = .client ∧ (state.memory ref).id = id

theorem State.Accepted.age {state next : State} {id : Uuid} (accepted : state.Accepted id)
    (ages : Ages state next) : next.Accepted id := by
  rcases accepted with ⟨ref, created, client, named⟩
  obtain ⟨idEq, _, originEq⟩ := ages.same ref created
  exact ⟨ref, created.trans_le ages.older, originEq.trans client, idEq.trans named⟩

theorem State.Lists.age {state next : State} {id : Uuid} (listed : state.Lists id)
    (ages : Ages state next) : next.Lists id := by
  rcases listed with ⟨ref, created, websocket, named⟩
  obtain ⟨idEq, typeEq, _⟩ := ages.same ref created
  exact ⟨ref, created.trans_le ages.older, typeEq.trans websocket, idEq.trans named⟩

/-- What a node has said stays true. -/
theorem Speaks.age {state next : State} {message : Bytes}
    (speaks : Speaks state.nodeId state.Accepted state.Lists message) (ages : Ages state next) :
    Speaks state.nodeId next.Accepted next.Lists message := by
  intro sub member
  have truthful := speaks sub member
  constructor
  · exact truthful.identifies
  · exact fun opcode request id named => (truthful.announces opcode request id named).age ages
  · exact fun opcode request id named => (truthful.withdraws opcode request id named).age ages

/-- The messages that say nothing but the truth of a node. -/
def State.Speech (state : State) : Bytes → Prop :=
  Speaks state.nodeId state.Accepted state.Lists

/-- All that a node has told its peers is true. -/
def State.Honest (state : State) : Prop :=
  Said (OnTcp state.Speech) state

theorem State.Honest.utter {state next : State} (honest : state.Honest)
    (utters : Utters (OnTcp state.Speech) state next) : next.Honest := by
  refine (Said.utter honest utters).weaken ?_
  intro type message speaks tcp
  rw [State.Speech, utters.nodeId]
  exact (speaks tcp).age utters.toAges

section Builders

variable {node : Uuid} {clients listed : Uuid → Prop}


/-- What a builder serializes, its receiver dispatches, unless a length has been
cut. -/
theorem dispatched_drop {builder : BaseBuilder} {messages : List Submessage} {data : Bytes}
    (queue : builder.buffers = messages.map Submessage.bytes)
    (sizes : ∀ message ∈ messages, message.bytes.length ≤ 65535)
    (built : builder.getData true = .ok data) : Kernel.dispatched (data.drop 4) = messages := by
  by_cases queued : messages = []
  · subst queued
    rw [BaseBuilder.getData_nil queue] at built
    cases built
    rfl
  · have nonempty : builder.buffers ≠ [] := by simpa [queue] using queued
    have fits : builder.Fits := by
      by_contra misfit
      rcases BaseBuilder.getData_of_not_fits nonempty misfit true with ⟨what, refused⟩
      rw [refused] at built
      cases built
    obtain ⟨body, serialized, header, _, rfl⟩ := BaseBuilder.getData_headed nonempty built
    rw [getData_false_of_fits queue queued fits] at serialized
    cases serialized
    rw [List.drop_left' (Wire.LittleEndian.le32_length header)]
    have count : messages.length ≤ 65535 := by simpa [queue, maxRequestsPerFrame] using fits.1
    exact (Kernel.dispatched_of_isFrame (isFrame_frameOf count sizes)).1

theorem speaks_of_getData {builder : BaseBuilder} {messages : List Submessage} {data : Bytes}
    (queue : builder.buffers = messages.map Submessage.bytes)
    (sizes : ∀ message ∈ messages, message.bytes.length ≤ 65535)
    (truthful : ∀ message ∈ messages, Truthful node clients listed message)
    (built : builder.getData true = .ok data) : Speaks node clients listed data := by
  intro sub member
  rw [dispatched_drop queue sizes built] at member
  exact truthful sub member

theorem openMessage_truthful (env : Environment) (connectionsPerNode : UInt16) {state : State}
    (own : state.nodeId = node) :
    Truthful node clients listed (state.openMessage env connectionsPerNode) where
  identifies := by
    intro _ id named
    have read := (Handlers.read_identifyPayload state.nodeId connectionsPerNode state.tcpPort
      State.localHost).1
    rw [State.openMessage, read] at named
    cases named
    exact own
  announces := fun opcode =>
    absurd opcode (by decide : OpCode.identify.byte ≠ OpCode.join.byte)
  withdraws := fun opcode =>
    absurd opcode (by decide : OpCode.identify.byte ≠ OpCode.leave.byte)

/-- The sub-messages of the request that opens a link. -/
def State.openMessages (env : Environment) (withDiscovery : Bool) (connectionsPerNode : UInt16)
    (state : State) : List Submessage :=
  state.openMessage env connectionsPerNode ::
    if withDiscovery then [⟨OpCode.discovery.byte, .request, state.draw.nextUuid env, []⟩] else []

theorem State.openRequest_messages (env : Environment) (withDiscovery : Bool)
    (connectionsPerNode : UInt16) (state : State) :
    (state.openRequest env withDiscovery connectionsPerNode).buffers =
      (state.openMessages env withDiscovery connectionsPerNode).map Submessage.bytes := by
  have first := state.openRequest_buffers env connectionsPerNode
  cases withDiscovery with
  | false => exact first
  | true =>
      have both : (state.openRequest env true connectionsPerNode).buffers =
          (state.openRequest env false connectionsPerNode).buffers ++
            [heading OpCode.discovery.byte .request (state.draw.nextUuid env)] := rfl
      rw [both, first, ← List.append_nil (heading _ _ _), heading_append]
      rfl

theorem State.openMessages_small (env : Environment) (withDiscovery : Bool)
    (connectionsPerNode : UInt16) (state : State) :
    ∀ message ∈ state.openMessages env withDiscovery connectionsPerNode,
      message.bytes.length ≤ 65535 := by
  intro message member
  rcases List.mem_cons.mp member with rfl | member
  · exact state.openMessage_small env connectionsPerNode
  · cases withDiscovery with
    | false => cases member
    | true =>
        rw [List.mem_singleton.mp member]
        simp [Submessage.bytes_length]

theorem discoveryRequest_truthful (id : Uuid) :
    Truthful node clients listed ⟨OpCode.discovery.byte, .request, id, []⟩ where
  identifies := fun opcode =>
    absurd opcode (by decide : OpCode.discovery.byte ≠ OpCode.identify.byte)
  announces := fun opcode => absurd opcode (by decide : OpCode.discovery.byte ≠ OpCode.join.byte)
  withdraws := fun opcode =>
    absurd opcode (by decide : OpCode.discovery.byte ≠ OpCode.leave.byte)

/-- A request that only carries an identifier. -/
theorem truthful_of_named {opcode : OpCode} {transactionId id : Uuid}
    (other : opcode.byte ≠ OpCode.identify.byte)
    (announced : opcode.byte = OpCode.join.byte → clients id)
    (withdrawn : opcode.byte = OpCode.leave.byte → listed id) :
    Truthful node clients listed ⟨opcode.byte, .request, transactionId, id.data⟩ where
  identifies := fun isIdentify => absurd isIdentify other
  announces := by
    intro isJoin _ named read
    have same : readUuid id.data 0 = .ok id := by
      simpa using readUuid_append [] [] id rfl
    rw [same] at read
    cases read
    exact announced isJoin
  withdraws := by
    intro isLeave _ named read
    have same : readUuid id.data 0 = .ok id := by
      simpa using readUuid_append [] [] id rfl
    rw [same] at read
    cases read
    exact withdrawn isLeave

theorem voice_speaks (env : Environment) (node : Uuid) (clients listed : Uuid → Prop) :
    Voice env node listed (OnTcp (Speaks node clients listed)) where
  opening := by
    intro state withDiscovery connectionsPerNode data own built _
    apply speaks_of_getData (state.openRequest_messages env withDiscovery connectionsPerNode) _ _
      built
    · exact state.openMessages_small env withDiscovery connectionsPerNode
    · intro message member
      rcases List.mem_cons.mp member with rfl | member
      · exact openMessage_truthful env connectionsPerNode own
      · cases withDiscovery with
        | false => cases member
        | true =>
            rw [List.mem_singleton.mp member]
            exact discoveryRequest_truthful _
  leaving := by
    intro id transactionId data withdrawn built _
    have queue : (({} : RequestBuilder).addLeave id transactionId).buffers =
        [(⟨OpCode.leave.byte, .request, transactionId, id.data⟩ : Submessage)].map
          Submessage.bytes := by
      rw [List.map_singleton, ← heading_append]
      rfl
    apply speaks_of_getData queue _ _ built
    · simp [Submessage.bytes_length]
    · intro message member
      rw [List.mem_singleton.mp member]
      exact truthful_of_named (by decide) (fun isJoin => absurd isJoin (by decide))
        fun _ => withdrawn

/-- The join of a client announces it. -/
theorem speaks_addJoin {id transactionId : Uuid} {data : Bytes} (client : clients id)
    (built : (({} : RequestBuilder).addJoin id transactionId).getData true = .ok data) :
    Speaks node clients listed data := by
  have queue : (({} : RequestBuilder).addJoin id transactionId).buffers =
      [(⟨OpCode.join.byte, .request, transactionId, id.data⟩ : Submessage)].map
        Submessage.bytes := by
    rw [List.map_singleton, ← heading_append]
    rfl
  apply speaks_of_getData queue _ _ built
  · simp [Submessage.bytes_length]
  · intro message member
    rw [List.mem_singleton.mp member]
    exact truthful_of_named (by decide) (fun _ => client) fun isLeave =>
      absurd isLeave (by decide)

end Builders

/-! ## Replies -/

/-- A reply of a node: it identifies the node, if it identifies any. -/
structure RepliesAs (node : Uuid) (reply : Submessage) : Prop where
  response : reply.type = .response
  identifies : reply.opcode = OpCode.identify.byte → reply.payload = node.data

theorem RepliesAs.truthful {node : Uuid} {reply : Submessage} (replies : RepliesAs node reply)
    (clients listed : Uuid → Prop) : Truthful node clients listed reply where
  identifies := by
    intro opcode id named
    have same : readUuid node.data 0 = .ok node := by
      simpa using readUuid_append [] [] node rfl
    rw [replies.identifies opcode, same] at named
    cases named
    rfl
  announces := fun _ request => absurd replies.response request
  withdraws := fun _ request => absurd replies.response request

/-- A handler has queued one reply of the node, or none. -/
def Responds (node : Uuid) (builder result : ResponseBuilder) : Prop :=
  result = builder ∨ ∃ reply : Submessage, RepliesAs node reply ∧
    result.buffers = builder.buffers ++ [reply.bytes]

section Calls

variable {env : Environment} {session : Ref} {message : Submessage}
  {builder result : ResponseBuilder} {state next : State}

theorem responds_of_call {node : Uuid} (call : ResponseCall)
    (other : call.message.opcode ≠ OpCode.identify.byte) :
    Responds node builder (builder.call call) :=
  Or.inr ⟨call.message, ⟨call.message_type, fun opcode => absurd opcode other⟩,
    builder.call_message call⟩

theorem identify_responds
    (step : Handlers.identify session message.type builder message.transactionId message.payload
      state = .ok (result, next)) : Responds state.nodeId builder result := by
  have answered : Responds state.nodeId builder
      (builder.addIdentify message.transactionId state.nodeId) :=
    Or.inr ⟨_, ⟨rfl, fun _ => rfl⟩,
      builder.call_message (.identify message.transactionId state.nodeId)⟩
  unfold Handlers.identify at step
  split at step
  · cases step
    exact Or.inl rfl
  split at step
  · cases step
    exact Or.inl rfl
  rcases Result.bind_eq_ok_iff.mp step with ⟨id, _, step⟩
  split at step
  · rcases Result.bind_eq_ok_iff.mp step with ⟨connectionsPerNode, _, step⟩
    rcases Result.bind_eq_ok_iff.mp step with ⟨port, _, step⟩
    split at step
    · rcases Result.bind_eq_ok_iff.mp step with ⟨host, _, step⟩
      split at step
      · cases step
        exact answered
      · cases step
        exact answered
    · cases step
      exact answered
  · split at step
    · cases step
      exact answered
    · cases step
      exact Or.inl rfl

/-- Whatever a handler queues, it queues in the name of the node. -/
theorem invoke_responds
    (step : Kernel.invoke (handlers env session) message builder state = .ok (result, next)) :
    Responds state.nodeId builder result := by
  unfold Kernel.invoke handlers at step
  split at step
  · unfold Handlers.ping at step
    split at step
    · cases step
      exact Or.inl rfl
    · cases step
      exact responds_of_call (.ping message.transactionId ExitCode.success.byte)
        (by decide : OpCode.ping.byte ≠ OpCode.identify.byte)
  split at step
  · exact identify_responds step
  split at step
  · by_cases response : message.type = .response
    · rw [response, Handlers.discovery_response_eq] at step
      obtain ⟨visited, _, equal⟩ := Result.map_eq_ok_iff.mp step
      cases equal
      exact Or.inl rfl
    · unfold Handlers.discovery at step
      rw [if_neg response] at step
      split at step
      · cases step
        exact responds_of_call
          (.discovery message.transactionId (Handlers.knownEndpoints session state))
          (by decide : OpCode.discovery.byte ≠ OpCode.identify.byte)
      · cases step
        exact Or.inl rfl
  split at step
  · unfold Handlers.join at step
    split at step
    · cases step
      exact Or.inl rfl
    split at step
    · cases step
      exact Or.inl rfl
    rcases Result.bind_eq_ok_iff.mp step with ⟨id, _, step⟩
    cases step
    exact responds_of_call (.join message.transactionId _)
      (by decide : OpCode.join.byte ≠ OpCode.identify.byte)
  split at step
  · unfold Handlers.leave at step
    split at step
    · cases step
      exact Or.inl rfl
    split at step
    · cases step
      exact Or.inl rfl
    rcases Result.bind_eq_ok_iff.mp step with ⟨id, _, step⟩
    cases step
    exact responds_of_call (.leave message.transactionId _)
      (by decide : OpCode.leave.byte ≠ OpCode.identify.byte)
  split at step
  · unfold Handlers.whoami at step
    split at step
    · cases step
      exact Or.inl rfl
    · cases step
      exact responds_of_call (.whoami message.transactionId (state.memory session).id state.nodeId
        (state.memory session).type) (by decide : OpCode.whoami.byte ≠ OpCode.identify.byte)
  · unfold Handlers.nonImplemented at step
    split at step
    · cases step
      exact Or.inl rfl
    · cases step
      exact responds_of_call (.nonImplemented OpCode.opNonImplemented.byte message.transactionId)
        (by decide : OpCode.opNonImplemented.byte ≠ OpCode.identify.byte)

end Calls

/-- The replies queued for a list of sub-messages are replies of the node. -/
theorem run_responds {env : Environment} {session : Ref} {messages : List Submessage}
    {builder result : ResponseBuilder} {state next : State} {node : Uuid}
    (own : state.nodeId = node)
    (ran : Kernel.run (handlers env session) messages builder state = (.ok result, next)) :
    ∃ replies : List Submessage, (∀ reply ∈ replies, RepliesAs node reply) ∧
      result.buffers = builder.buffers ++ replies.map Submessage.bytes := by
  induction messages generalizing builder state with
  | nil =>
      cases ran
      exact ⟨[], by simp, by simp⟩
  | cons message messages ih =>
      obtain ⟨⟨middleBuilder, middle⟩, invoked⟩ := invoke_ok env session message builder state
      rw [Kernel.run, invoked] at ran
      have framed := (voice_framed env node fun _ => True).effect own (invoke_effect invoked)
      have stays := framed.nodeId
      rcases ih (stays.trans own) ran with ⟨replies, inName, buffersEq⟩
      have first := invoke_responds invoked
      rw [own] at first
      rcases first with rfl | ⟨reply, named, queued⟩
      · exact ⟨replies, inName, buffersEq⟩
      · refine ⟨reply :: replies, ?_, ?_⟩
        · intro other member
          rcases List.mem_cons.mp member with rfl | member
          · exact named
          · exact inName other member
        · rw [buffersEq, queued, List.map_cons, List.append_assoc]
          rfl

/-- No reply to a frame is longer than the 16 bits of its length can say. -/
def RepliesFit (env : Environment) (session : Ref) (frame : Bytes) (state : State) : Prop :=
  ∀ buffer ∈ queuedReplies env session frame state, buffer.length ≤ 65535

instance (env : Environment) (session : Ref) (frame : Bytes) (state : State) :
    Decidable (RepliesFit env session frame state) :=
  inferInstanceAs (Decidable (∀ buffer ∈ _, _))

/-- What a node replies on a TCP session, it says of itself. -/
theorem speaks_of_replied {env : Environment} {frame : Bytes} {session : Ref} {state : State}
    {buffer : Bytes} (fits : RepliesFit env session frame state)
    (tcp : (state.memory session).type = .tcp)
    (replied : (handle env frame session state).outcome = .replied buffer)
    (clients listed : Uuid → Prop) : Speaks state.nodeId clients listed buffer := by
  rcases run_ok env session (Kernel.dispatched frame) {} state with ⟨builder, next, ran⟩
  obtain ⟨replies, inName, buffersEq⟩ := run_responds rfl ran
  have queue : queuedReplies env session frame state = replies.map Submessage.bytes := by
    rw [queuedReplies, ran]
    exact buffersEq
  apply speaks_of_getData queue _ _ (exists_replied tcp replied)
  · intro reply member
    apply fits
    rw [queue]
    exact List.mem_map_of_mem member
  · exact fun reply member => (inName reply member).truthful clients listed

/-! ## Events -/

/-- Nothing but the node's own code decides what it says: handshakes are
finished on the sessions of clients, no caller of `send_to_node` provides a
message, and the replies on TCP sessions fit. -/
structure Event.OwnWords (env : Environment) (state : State) (event : Event) : Prop where
  greets : ∀ ref, event = .handshake ref false → (state.memory ref).origin = .client
  sends : ∀ target message, event ≠ .sendToNode target message
  fits : ∀ session frame, event = .frame session frame → (state.memory session).type = .tcp →
    RepliesFit env session frame state

/-- What a node sends its peers at an event, identifies itself, announces clients
that it has accepted and withdraws websocket sessions that it has listed. -/
theorem utters_of_ownWords {env : Environment} {state next : State} {event : Event}
    (formed : WellFormed state) (enabled : event.Enabled state)
    (own : event.OwnWords env state) (step : state.perform env event = .ok next) :
    Utters (OnTcp state.Speech) state next := by
  apply (voice_speaks env state.nodeId state.Accepted state.Lists).perform rfl formed
    (fun _ listed => listed) enabled step
  · rintro ref rfl transactionId data built _
    exact speaks_addJoin ⟨ref, enabled, own.greets ref rfl, rfl⟩ built
  · intro session frame isFrame buffer replied tcp
    exact speaks_of_replied (own.fits session frame isFrame tcp) tcp replied _ _
  · exact fun target message isSend => absurd isSend (own.sends target message)

end Aurum.Node
