import Aurum.Node.Leaving
import Aurum.Node.Placeholders
import Aurum.Replication.Channels

/-!
# Join and leave frames

The frames that announce and withdraw a websocket session, from the builder
that writes them to the handlers of the node that receives them.  A frame as
it is sent starts with the four bytes of its length, which the receiving
session reads first and does not hand to the kernel.
-/

namespace Aurum.Cluster

open Aurum.Protocol
open Aurum.Container
open Aurum.Node
open Aurum.Replication

/-- The opcode of the request that carries an operation. -/
def opcodeOf : Op Uuid → UInt8
  | .join _ => OpCode.join.byte
  | .leave _ => OpCode.leave.byte

/-- The sub-message is the request that carries an operation. -/
def Requests (message : Submessage) (op : Op Uuid) : Prop :=
  message.opcode = opcodeOf op ∧ message.type ≠ .response ∧
    readUuid message.payload 0 = .ok op.item

/-- The operation that a frame on a link carries: the only sub-message in it is
a join or a leave request. -/
def opOf (frame : Bytes) : Option (Op Uuid) :=
  match Kernel.dispatched (frame.drop 4) with
  | [message] =>
      if message.type = .response then
        none
      else
        match readUuid message.payload 0 with
        | .error _ => none
        | .ok id =>
            if message.opcode = OpCode.join.byte then some (.join id)
            else if message.opcode = OpCode.leave.byte then some (.leave id)
            else none
  | _ => none

/-- The frame answers a join or a leave. -/
def Answers (frame : Bytes) : Prop :=
  ∃ message, Kernel.dispatched (frame.drop 4) = [message] ∧ message.type = .response ∧
    (message.opcode = OpCode.join.byte ∨ message.opcode = OpCode.leave.byte)

theorem opOf_eq_some_iff {frame : Bytes} {op : Op Uuid} :
    opOf frame = some op ↔
      ∃ message, Kernel.dispatched (frame.drop 4) = [message] ∧ Requests message op := by
  constructor
  · intro carried
    unfold opOf at carried
    split at carried
    · rename_i message only
      refine ⟨message, only, ?_⟩
      split at carried
      · cases carried
      rename_i request
      split at carried
      · cases carried
      rename_i id named
      split at carried
      · rename_i opcode
        cases carried
        exact ⟨opcode, request, named⟩
      split at carried
      · rename_i opcode
        cases carried
        exact ⟨opcode, request, named⟩
      · cases carried
    · cases carried
  · rintro ⟨message, only, opcode, request, named⟩
    rw [opOf, only]
    simp only [if_neg request, named]
    cases op with
    | join id => exact if_pos opcode
    | leave id =>
        have notJoin : message.opcode ≠ OpCode.join.byte := by
          rw [opcode]
          exact (by decide : OpCode.leave.byte ≠ OpCode.join.byte)
        rw [if_neg notJoin]
        exact if_pos opcode

/-! ## Frames as they are built -/

theorem isFrame_one {message : Submessage} (small : message.bytes.length ≤ 65535) :
    IsFrame (frameOf [message]) [message] [] :=
  isFrame_frameOf (by simp) (by simpa using small)

theorem fits_one {builder : BaseBuilder} {message : Submessage}
    (queue : builder.buffers = [message.bytes]) (small : message.bytes.length ≤ 65535) :
    builder.Fits := by
  rw [BaseBuilder.Fits, queue]
  simp only [List.length_singleton, List.map_singleton, List.sum_singleton,
    maxRequestsPerFrame, maxFramePayloadSize]
  omega

/-- Behind the length of a frame with one sub-message is the frame of it. -/
theorem getData_drop {builder : BaseBuilder} (message : Submessage) {data : Bytes}
    (queue : builder.buffers = [message.bytes]) (small : message.bytes.length ≤ 65535)
    (returned : builder.getData true = .ok data) :
    data ≠ [] ∧ data.drop 4 = frameOf [message] := by
  have queued : builder.buffers ≠ [] := by simp [queue]
  rw [BaseBuilder.getData_of_fits queued (fits_one queue small), queue] at returned
  cases returned
  have behind : ∀ (size : UInt32) (rest : Bytes),
      (Wire.LittleEndian.le32 size ++ rest).drop 4 = rest := by
    intro size rest
    rw [List.drop_append_of_le_length (by simp), List.drop_of_length_le (by simp), List.nil_append]
  refine ⟨List.ne_nil_of_length_pos (by simp [checksummed]), ?_⟩
  rw [if_pos rfl, behind]
  rfl

theorem dispatched_getData {builder : BaseBuilder} (message : Submessage) {data : Bytes}
    (queue : builder.buffers = [message.bytes]) (small : message.bytes.length ≤ 65535)
    (returned : builder.getData true = .ok data) :
    data ≠ [] ∧ Kernel.dispatched (data.drop 4) = [message] := by
  obtain ⟨nonempty, behind⟩ := getData_drop message queue small returned
  refine ⟨nonempty, ?_⟩
  rw [behind]
  exact (Kernel.dispatched_of_isFrame (isFrame_one small)).1

theorem opOf_addJoin {id transactionId : Uuid} {data : Bytes}
    (returned : (({} : RequestBuilder).addJoin id transactionId).getData true = .ok data) :
    data ≠ [] ∧ opOf data = some (.join id) := by
  obtain ⟨nonempty, only⟩ := dispatched_getData
    ⟨OpCode.join.byte, .request, transactionId, id.data⟩
    (by rw [← heading_append]; rfl) (by simp [Submessage.bytes]) returned
  refine ⟨nonempty, opOf_eq_some_iff.mpr ⟨_, only, rfl, by simp [MessageType.request,
    MessageType.response], ?_⟩⟩
  simpa [Op.item] using readUuid_append [] [] id rfl

theorem opOf_addLeave {id transactionId : Uuid} {data : Bytes}
    (returned : (({} : RequestBuilder).addLeave id transactionId).getData true = .ok data) :
    data ≠ [] ∧ opOf data = some (.leave id) := by
  obtain ⟨nonempty, only⟩ := dispatched_getData
    ⟨OpCode.leave.byte, .request, transactionId, id.data⟩
    (by rw [← heading_append]; rfl) (by simp [Submessage.bytes]) returned
  refine ⟨nonempty, opOf_eq_some_iff.mpr ⟨_, only, rfl, by simp [MessageType.request,
    MessageType.response], ?_⟩⟩
  simpa [Op.item] using readUuid_append [] [] id rfl

/-! ## Handling -/

/-- Handling a frame with one sub-message: what its handler leaves, and the
reply, if it can be serialized. -/
theorem receive_single_eq {env : Environment} {frame : Bytes} {session : Ref}
    {state next : State} {message : Submessage} {builder : ResponseBuilder}
    (only : Kernel.dispatched frame = [message])
    (step : Kernel.invoke (handlers env session) message {} state = .ok (builder, next)) :
    state.receive env session frame =
      if Kernel.completes frame = true then
        match builder.getData (decide ((state.memory session).type = .tcp)) with
        | .error _ => next
        | .ok reply => next.send session reply
      else
        next := by
  have ran : Kernel.run (handlers env session) (Kernel.dispatched frame) {} state =
      (.ok builder, next) := by
    rw [only, Kernel.run, step]
    rfl
  rw [State.receive, handle, Kernel.handle_eq, ran]
  cases Kernel.completes frame with
  | false => rfl
  | true =>
      simp only [Kernel.conclude, Kernel.finish, if_true]
      have sameData : builder.getBuffers (decide ((state.memory session).type = .tcp)) =
          builder.getData (decide ((state.memory session).type = .tcp)) := rfl
      rw [sameData]
      cases builder.getData (decide ((state.memory session).type = .tcp)) <;> rfl

theorem receive_single {env : Environment} {frame : Bytes} {session : Ref}
    {state next : State} {message : Submessage} {builder : ResponseBuilder}
    (only : Kernel.dispatched frame = [message])
    (step : Kernel.invoke (handlers env session) message {} state = .ok (builder, next)) :
    state.receive env session frame = next ∨
      ∃ reply, builder.getData (decide ((state.memory session).type = .tcp)) = .ok reply ∧
        state.receive env session frame = next.send session reply := by
  rw [receive_single_eq only step]
  split
  · split
    · exact Or.inl rfl
    · rename_i reply serialized
      exact Or.inr ⟨reply, serialized, rfl⟩
  · exact Or.inl rfl

/-- What an operation makes of the receiving node. -/
def carryOut (env : Environment) (node : Uuid) (state : State) : Op Uuid → State
  | .join id =>
      state.install env { websocketSession id (.joined node) with nodeId := node }
  | .leave id => { state with sessions := state.sessions.filter fun entry => entry.key.id ≠ id }

/-- The reply to an operation. -/
def answer (op : Op Uuid) (transactionId : Uuid) (count : UInt64) : ResponseBuilder :=
  match op with
  | .join _ => ({} : ResponseBuilder).addJoin transactionId count
  | .leave _ => ({} : ResponseBuilder).addLeave transactionId count

theorem answer_buffers (op : Op Uuid) (transactionId : Uuid) (count : UInt64) :
    (answer op transactionId count).buffers =
      [(⟨opcodeOf op, .response, transactionId, Wire.LittleEndian.le64 count⟩ :
        Submessage).bytes] := by
  rw [← heading_append]
  cases op <;> rfl

/-- The handler of an operation carries it out and queues its answer. -/
theorem invoke_op (env : Environment) {session : Ref} {state : State} {message : Submessage}
    {op : Op Uuid} (tcp : (state.memory session).type = .tcp) (requests : Requests message op) :
    ∃ count, Kernel.invoke (handlers env session) message {} state =
      .ok (answer op message.transactionId count,
        carryOut env (state.memory session).nodeId state op) := by
  rcases requests with ⟨opcode, request, named⟩
  cases op with
  | join id =>
      have joined : ∃ count, ∀ builder, Handlers.join env session message.type builder
          message.transactionId message.payload state =
            .ok (builder.addJoin message.transactionId count,
              carryOut env (state.memory session).nodeId state (.join id)) :=
        Handlers.join_eq tcp request named
      rcases joined with ⟨count, joined⟩
      rw [Kernel.invoke, handlers, opcode]
      exact ⟨count, joined {}⟩
  | leave id =>
      have left : ∃ count, ∀ builder, Handlers.leave session message.type builder
          message.transactionId message.payload state =
            .ok (builder.addLeave message.transactionId count,
              carryOut env (state.memory session).nodeId state (.leave id)) :=
        Handlers.leave_eq tcp request named
      rcases left with ⟨count, left⟩
      rw [Kernel.invoke, handlers, opcode]
      exact ⟨count, left {}⟩

/-- Receiving an operation carries it out and answers it. -/
theorem receive_op (env : Environment) {frame : Bytes} {session : Ref} {state : State}
    {op : Op Uuid} (tcp : (state.memory session).type = .tcp) (carried : opOf frame = some op) :
    ∃ replies : List Bytes, (∀ reply ∈ replies, Answers reply) ∧
      state.receive env session (frame.drop 4) =
        { carryOut env (state.memory session).nodeId state op with
          sent := state.sent ++ replies.map fun reply => (session, reply) } := by
  obtain ⟨message, only, requests⟩ := opOf_eq_some_iff.mp carried
  obtain ⟨count, step⟩ := invoke_op env tcp requests
  rcases receive_single only step with silent | ⟨reply, serialized, replied⟩
  · refine ⟨[], by simp, ?_⟩
    rw [silent]
    cases op <;> simp [carryOut, State.install, State.addSession, State.allocate]
  · rw [decide_eq_true tcp] at serialized
    obtain ⟨_, onlyResponse⟩ := dispatched_getData _ (answer_buffers op _ count)
      (by simp [Submessage.bytes]) serialized
    refine ⟨[reply], ?_, ?_⟩
    · rintro other member
      rw [List.mem_singleton.mp member]
      refine ⟨_, onlyResponse, rfl, ?_⟩
      cases op with
      | join id => exact Or.inl rfl
      | leave id => exact Or.inr rfl
    · rw [replied]
      cases op <;> rfl

/-- An answer changes nothing but what was sent, and that by nothing. -/
theorem receive_answer {env : Environment} {frame : Bytes} {session : Ref} {state : State}
    (answers : Answers frame) :
    state.receive env session (frame.drop 4) = state ∨
      state.receive env session (frame.drop 4) = state.send session [] := by
  rcases answers with ⟨message, only, response, opcode⟩
  have step : Kernel.invoke (handlers env session) message {} state = .ok ({}, state) := by
    rcases opcode with isJoin | isLeave
    · rw [Kernel.invoke, handlers, isJoin]
      exact if_pos (Or.inr response)
    · rw [Kernel.invoke, handlers, isLeave]
      exact if_pos (Or.inr response)
  rcases receive_single only step with silent | ⟨reply, serialized, replied⟩
  · exact Or.inl silent
  · rw [BaseBuilder.getData_nil rfl] at serialized
    cases serialized
    exact Or.inr replied

end Aurum.Cluster
