import Aurum.Node.Leaving
import Aurum.Node.WebsocketFrames

/-!
# What the handlers queue

A handler call queues at most one sub-response, whatever is queued already.
Whether it does depends on the sub-message and on the type of its session; only
the size of the reply to a discovery request depends on the node.
-/

namespace Aurum.Protocol

/-- The sub-response that a call on a response builder queues. -/
def ResponseCall.message : ResponseCall → Submessage
  | .ping id exitCode => ⟨OpCode.ping.byte, .response, id, [exitCode]⟩
  | .identify id nodeId => ⟨OpCode.identify.byte, .response, id, nodeId.data⟩
  | .nonImplemented op id => ⟨op, .response, id, [ExitCode.nonImplemented.byte]⟩
  | .discovery id nodes =>
      ⟨OpCode.discovery.byte, .response, id,
        Wire.LittleEndian.le32 (UInt32.ofNat nodes.length) ++
          (nodes.flatMap Endpoint.record ++ nodes.flatMap Endpoint.host)⟩
  | .join id count => ⟨OpCode.join.byte, .response, id, Wire.LittleEndian.le64 count⟩
  | .leave id count => ⟨OpCode.leave.byte, .response, id, Wire.LittleEndian.le64 count⟩
  | .whoami id sessionId nodeId type =>
      ⟨OpCode.whoami.byte, .response, id, sessionId.data ++ (nodeId.data ++ [type.byte])⟩

@[simp]
theorem ResponseCall.message_type (call : ResponseCall) : call.message.type = .response := by
  cases call <;> rfl

theorem ResponseBuilder.call_message (builder : ResponseBuilder) (call : ResponseCall) :
    (builder.call call).buffers = builder.buffers ++ [call.message.bytes] := by
  cases call <;> rfl

theorem ResponseBuilder.foldl_call_buffers (calls : List ResponseCall)
    (builder : ResponseBuilder) :
    (calls.foldl ResponseBuilder.call builder).buffers =
      builder.buffers ++ (calls.map ResponseCall.message).map Submessage.bytes := by
  induction calls generalizing builder with
  | nil => simp
  | cons call calls ih =>
      rw [List.foldl_cons, ih, call_message, List.append_assoc]
      rfl

theorem ResponseCall.message_bytes_length (call : ResponseCall) :
    call.message.bytes.length = call.size := by
  have sizes := ({} : ResponseBuilder).call_sizes call
  rw [ResponseBuilder.call_message] at sizes
  simpa using sizes

end Aurum.Protocol

namespace Aurum.Node

open Aurum.Protocol

/-- The sub-messages that a session of the given type is answered. -/
def Answered (type : SessionType) (message : Submessage) : Prop :=
  if message.opcode = OpCode.identify.byte then
    message.type = .request ∧ type = .tcp ∧ 16 ≤ message.payload.length
  else if message.opcode = OpCode.discovery.byte then
    message.type = .request
  else if message.opcode = OpCode.join.byte ∨ message.opcode = OpCode.leave.byte then
    message.type ≠ .response ∧ type = .tcp ∧ 16 ≤ message.payload.length
  else
    message.type ≠ .response

instance (type : SessionType) : DecidablePred (Answered type) := fun message => by
  unfold Answered
  infer_instance

/-- How many bytes the reply to an answered sub-message has. -/
def replySize (session : Ref) (message : Submessage) (state : State) : Nat :=
  if message.opcode = OpCode.discovery.byte then
    22 + ((Handlers.knownEndpoints session state).map fun node => 4 + node.host.length).sum
  else if message.opcode = OpCode.identify.byte then
    34
  else if message.opcode = OpCode.join.byte ∨ message.opcode = OpCode.leave.byte then
    26
  else if message.opcode = OpCode.whoami.byte then
    51
  else
    19

/-- What one handler call may queue. -/
structure Queues (session : Ref) (message : Submessage) (state : State)
    (queued : Option ResponseCall) : Prop where
  answered : queued.isSome = true ↔ Answered (state.memory session).type message
  identified : ∀ call ∈ queued, call.message.transactionId = message.transactionId
  sized : ∀ call ∈ queued, call.size = replySize session message state

/-- A handler queues the given reply behind whatever is queued. -/
def Queued (handler : Handler State) (session : Ref) (message : Submessage) (state : State) :
    Prop :=
  ∃ queued next, Queues session message state queued ∧ ∀ builder,
    handler message.type builder message.transactionId message.payload state =
      .ok (queued.toList.foldl ResponseBuilder.call builder, next)

namespace Queued

variable {handler : Handler State} {session : Ref} {message : Submessage} {state next : State}

theorem silent (unanswered : ¬Answered (state.memory session).type message)
    (step : ∃ next, ∀ builder,
      handler message.type builder message.transactionId message.payload state =
        .ok (builder, next)) : Queued handler session message state := by
  rcases step with ⟨next, step⟩
  refine ⟨none, next, ⟨?_, ?_, ?_⟩, step⟩
  · simpa using unanswered
  · simp
  · simp

theorem answer (call : ResponseCall) (answered : Answered (state.memory session).type message)
    (identified : call.message.transactionId = message.transactionId)
    (sized : call.size = replySize session message state)
    (step : ∃ next, ∀ builder,
      handler message.type builder message.transactionId message.payload state =
        .ok (ResponseBuilder.call builder call, next)) : Queued handler session message state := by
  rcases step with ⟨next, step⟩
  refine ⟨some call, next, ⟨?_, ?_, ?_⟩, step⟩
  · simpa using answered
  · rintro other ⟨⟩
    exact identified
  · rintro other ⟨⟩
    exact sized

/-- A handler that answers everything but responses. -/
theorem unless_response (call : ResponseCall)
    (responds : Answered (state.memory session).type message ↔ message.type ≠ .response)
    (identified : call.message.transactionId = message.transactionId)
    (sized : call.size = replySize session message state)
    (step : ∀ builder,
      handler message.type builder message.transactionId message.payload state =
        if message.type = .response then .ok (builder, state)
        else .ok (ResponseBuilder.call builder call, state)) :
    Queued handler session message state := by
  by_cases response : message.type = .response
  · apply Queued.silent
    · rw [responds]
      exact not_not.mpr response
    · refine ⟨state, fun builder => ?_⟩
      rw [step, if_pos response]
  · apply Queued.answer call (responds.mpr response) identified sized
    refine ⟨state, fun builder => ?_⟩
    rw [step, if_neg response]

/-- Whether a join or a leave is acted upon. -/
theorem answered_membership {type : SessionType}
    (opcode : message.opcode = OpCode.join.byte ∨ message.opcode = OpCode.leave.byte) :
    Answered type message ↔
      message.type ≠ .response ∧ type = .tcp ∧ 16 ≤ message.payload.length := by
  rw [Answered, if_neg, if_neg, if_pos opcode]
  · rcases opcode with opcode | opcode <;> simp [opcode, OpCode.byte]
  · rcases opcode with opcode | opcode <;> simp [opcode, OpCode.byte]

/-- A handler that answers requests with an identifier on TCP sessions. -/
theorem membership (call : UInt64 → ResponseCall)
    (opcode : message.opcode = OpCode.join.byte ∨ message.opcode = OpCode.leave.byte)
    (ignores : (state.memory session).type = .websocket ∨ message.type = .response → ∀ builder,
      handler message.type builder message.transactionId message.payload state =
        .ok (builder, state))
    (skips : ¬((state.memory session).type = .websocket ∨ message.type = .response) →
      message.payload.length < 16 → ∀ builder,
        handler message.type builder message.transactionId message.payload state =
          .ok (builder, state))
    (identified : ∀ count, (call count).message.transactionId = message.transactionId)
    (sized : ∀ count, (call count).size = 26)
    (acts : (state.memory session).type = .tcp → message.type ≠ .response →
      ∀ id, readUuid message.payload 0 = .ok id → ∃ count next, ∀ builder,
        handler message.type builder message.transactionId message.payload state =
          .ok (ResponseBuilder.call builder (call count), next)) :
    Queued handler session message state := by
  have responds : Answered (state.memory session).type message ↔ _ := answered_membership opcode
  by_cases ignored : (state.memory session).type = .websocket ∨ message.type = .response
  · apply Queued.silent _ ⟨state, ignores ignored⟩
    rw [responds]
    rcases ignored with ignored | ignored <;> simp [ignored]
  by_cases short : message.payload.length < 16
  · apply Queued.silent _ ⟨state, skips ignored short⟩
    rw [responds]
    omega
  rw [not_or] at ignored
  have tcp := SessionType.eq_tcp ignored.1
  have inside : 0 + 16 ≤ message.payload.length := by omega
  rcases readUuid_of_le inside with ⟨id, named, _⟩
  rcases acts tcp ignored.2 id named with ⟨count, step⟩
  apply Queued.answer (call count) _ (identified count) _ step
  · exact responds.mpr ⟨ignored.2, tcp, by omega⟩
  · rw [sized, replySize, if_neg, if_neg, if_pos opcode]
    · rcases opcode with opcode | opcode <;> simp [opcode, OpCode.byte]
    · rcases opcode with opcode | opcode <;> simp [opcode, OpCode.byte]

end Queued

namespace Handlers

variable (session : Ref) {message : Submessage} (state : State)

theorem ping_queued (opcode : message.opcode = OpCode.ping.byte) :
    Queued ping session message state := by
  apply Queued.unless_response (.ping message.transactionId ExitCode.success.byte)
  · simp [Answered, opcode, OpCode.byte]
  · rfl
  · simp [ResponseCall.size, replySize, opcode, OpCode.byte]
  · exact fun builder => rfl

theorem whoami_queued (opcode : message.opcode = OpCode.whoami.byte) :
    Queued (whoami session) session message state := by
  apply Queued.unless_response (.whoami message.transactionId (state.memory session).id
    state.nodeId (state.memory session).type)
  · simp [Answered, opcode, OpCode.byte]
  · rfl
  · simp [ResponseCall.size, replySize, opcode, OpCode.byte]
  · exact fun builder => rfl

theorem nonImplemented_queued (notIdentify : message.opcode ≠ OpCode.identify.byte)
    (notDiscovery : message.opcode ≠ OpCode.discovery.byte)
    (notJoin : message.opcode ≠ OpCode.join.byte)
    (notLeave : message.opcode ≠ OpCode.leave.byte)
    (notWhoami : message.opcode ≠ OpCode.whoami.byte) :
    Queued nonImplemented session message state := by
  apply Queued.unless_response
    (.nonImplemented OpCode.opNonImplemented.byte message.transactionId)
  · simp [Answered, notIdentify, notDiscovery, notJoin, notLeave]
  · rfl
  · simp [ResponseCall.size, replySize, notIdentify, notDiscovery, notJoin, notLeave, notWhoami]
  · exact fun builder => rfl

/-- Which state a handler leaves may be decided after its reply. -/
theorem pure_ite {condition : Prop} [Decidable condition] (builder : ResponseBuilder)
    (first second : State) :
    (if condition then pure (builder, first) else pure (builder, second) :
        Result (ResponseBuilder × State)) =
      pure (builder, if condition then first else second) := by
  split <;> rfl

theorem identify_queued (opcode : message.opcode = OpCode.identify.byte) :
    Queued (identify session) session message state := by
  have responds : Answered (state.memory session).type message ↔
      message.type = .request ∧ (state.memory session).type = .tcp ∧
        16 ≤ message.payload.length := by
    rw [Answered, if_pos opcode]
  by_cases websocket : (state.memory session).type = .websocket
  · apply Queued.silent
    · rw [responds, websocket]
      simp
    · refine ⟨state, fun builder => ?_⟩
      rw [identify, if_pos websocket]
  by_cases short : message.payload.length < 16
  · apply Queued.silent
    · rw [responds]
      omega
    · refine ⟨state, fun builder => ?_⟩
      rw [identify, if_neg websocket, if_pos short]
  have inside : 0 + 16 ≤ message.payload.length := by omega
  rcases readUuid_of_le inside with ⟨remoteNodeId, named, _⟩
  by_cases request : message.type = .request
  · apply Queued.answer (.identify message.transactionId state.nodeId)
    · exact responds.mpr ⟨request, SessionType.eq_tcp websocket, by omega⟩
    · rfl
    · simp [ResponseCall.size, replySize, opcode, OpCode.byte]
    · simp only [identify, if_neg websocket, if_neg short, named, request, true_and, bind,
        Except.bind]
      by_cases full : 20 ≤ message.payload.length
      · have countInside : 16 + 2 ≤ message.payload.length := by omega
        have portInside : 18 + 2 ≤ message.payload.length := full
        simp only [if_pos full, readU16_of_le countInside, readU16_of_le portInside]
        by_cases hosted : 20 < message.payload.length
        · have hostInside : 20 + (message.payload.length - 20) ≤ message.payload.length := by
            omega
          simp only [if_pos hosted, readBytes_of_le hostInside, pure_ite]
          exact ⟨_, fun builder => rfl⟩
        · simp only [if_neg hosted]
          exact ⟨_, fun builder => rfl⟩
      · simp only [if_neg full, if_pos (show 16 ≤ message.payload.length by omega)]
        exact ⟨_, fun builder => rfl⟩
  · apply Queued.silent
    · simp [responds, request]
    · simp only [identify, if_neg websocket, if_neg short, named, request, false_and, if_false,
        bind, Except.bind]
      exact ⟨_, fun builder => rfl⟩

theorem discovery_queued (env : Environment) (opcode : message.opcode = OpCode.discovery.byte) :
    Queued (discovery env session) session message state := by
  have responds : Answered (state.memory session).type message ↔ message.type = .request := by
    simp [Answered, opcode, OpCode.byte]
  by_cases request : message.type = .request
  · apply Queued.answer (.discovery message.transactionId (knownEndpoints session state))
    · exact responds.mpr request
    · rfl
    · rw [ResponseCall.size, replySize, if_pos opcode]
    · refine ⟨state, fun builder => ?_⟩
      rw [discovery, if_pos request]
      rfl
  · apply Queued.silent
    · rw [responds]
      exact request
    · by_cases response : message.type = .response
      · rcases visitAll_ok env (listed message.payload) state with ⟨next, visited⟩
        refine ⟨next, fun builder => ?_⟩
        rw [response, discovery_response_eq, visited]
        rfl
      · refine ⟨state, fun builder => ?_⟩
        rw [discovery, if_neg request, if_neg response]

theorem join_queued (env : Environment) (opcode : message.opcode = OpCode.join.byte) :
    Queued (join env session) session message state := by
  apply Queued.membership (.join message.transactionId) (Or.inl opcode)
  · intro ignored builder
    rw [join, if_pos ignored]
  · intro noticed short builder
    rw [join, if_neg noticed, if_pos short]
  · exact fun count => rfl
  · exact fun count => rfl
  · intro tcp request id named
    rcases join_eq tcp request named with ⟨count, joined⟩
    exact ⟨count, _, joined⟩

theorem leave_queued (opcode : message.opcode = OpCode.leave.byte) :
    Queued (leave session) session message state := by
  apply Queued.membership (.leave message.transactionId) (Or.inr opcode)
  · intro ignored builder
    rw [leave, if_pos ignored]
  · intro noticed short builder
    rw [leave, if_neg noticed, if_pos short]
  · exact fun count => rfl
  · exact fun count => rfl
  · intro tcp request id named
    rcases leave_eq tcp request named with ⟨count, left⟩
    exact ⟨count, _, left⟩

end Handlers

/-- Every handler call queues what `Queues` says, behind whatever is queued. -/
theorem invoke_queues (env : Environment) (session : Ref) (message : Submessage) (state : State) :
    ∃ queued next, Queues session message state queued ∧ ∀ builder,
      Kernel.invoke (handlers env session) message builder state =
        .ok (queued.toList.foldl ResponseBuilder.call builder, next) := by
  have found : Queued (handlers env session message.opcode) session message state := by
    unfold handlers
    split
    · rename_i opcode
      exact Handlers.ping_queued session state opcode
    split
    · rename_i opcode
      exact Handlers.identify_queued session state opcode
    split
    · rename_i opcode
      exact Handlers.discovery_queued session state env opcode
    split
    · rename_i opcode
      exact Handlers.join_queued session state env opcode
    split
    · rename_i opcode
      exact Handlers.leave_queued session state opcode
    split
    · rename_i opcode
      exact Handlers.whoami_queued session state opcode
    · rename_i notIdentify notDiscovery notJoin notLeave notWhoami
      exact Handlers.nonImplemented_queued session state notIdentify notDiscovery notJoin
        notLeave notWhoami
  exact found

/-! ## The replies to a frame -/

/-- A handler call leaves the types of the session objects alone. -/
theorem invoke_type {env : Environment} {session : Ref} {message : Submessage}
    {builder result : ResponseBuilder} {state next : State} (created : session < state.allocated)
    (step : Kernel.invoke (handlers env session) message builder state = .ok (result, next)) :
    session < next.allocated ∧ (next.memory session).type = (state.memory session).type := by
  apply (closed_type env session _).effect (invoke_effect step) _ ⟨created, rfl⟩
  rintro id -
  refine ⟨created, ?_⟩
  rw [State.setNodeId, State.update_memory_self]

/-- The sizes of the replies that some handler calls on a session of the given
type queue. -/
def replySizes (type : SessionType) (session : Ref) (calls : List (Kernel.Call State)) :
    List Nat :=
  (calls.filter fun call => Answered type call.message).map fun call =>
    replySize session call.message call.before

/-- The replies to a list of sub-messages. -/
structure Replies (env : Environment) (session : Ref) (messages : List Submessage) (state : State)
    (queued : List ResponseCall) (next : State) : Prop where
  /-- They are queued behind whatever is queued. -/
  ran : ∀ builder, Kernel.run (handlers env session) messages builder state =
    (.ok (queued.foldl ResponseBuilder.call builder), next)
  identified : (queued.map ResponseCall.message).map Submessage.transactionId =
    (messages.filter (Answered (state.memory session).type)).map Submessage.transactionId
  sized : ∀ builder, queued.map ResponseCall.size =
    replySizes (state.memory session).type session
      (Kernel.calls (handlers env session) messages builder state)

theorem Replies.nil (env : Environment) (session : Ref) (state : State) :
    Replies env session [] state [] state where
  ran := fun _ => rfl
  identified := rfl
  sized := fun _ => rfl

/-- The replies to a first sub-message and to those behind it. -/
theorem Replies.cons {env : Environment} {session : Ref} {message : Submessage}
    {messages : List Submessage} {state middle next : State} {first : Option ResponseCall}
    {queued : List ResponseCall}
    (typed : (middle.memory session).type = (state.memory session).type)
    (queues : Queues session message state first)
    (step : ∀ builder, Kernel.invoke (handlers env session) message builder state =
      .ok (first.toList.foldl ResponseBuilder.call builder, middle))
    (rest : Replies env session messages middle queued next) :
    Replies env session (message :: messages) state (first.toList ++ queued) next := by
  have identified := rest.identified
  have sized := rest.sized
  rw [typed] at identified
  simp only [typed] at sized
  constructor
  · intro builder
    rw [Kernel.run, step, List.foldl_append]
    exact rest.ran _
  · rw [List.map_append, List.map_append, identified]
    cases first with
    | none =>
        have unanswered : ¬Answered (state.memory session).type message := by
          simpa using queues.answered
        rw [List.filter_cons_of_neg (by simpa using unanswered)]
        rfl
    | some call =>
        have answered : Answered (state.memory session).type message := by
          simpa using queues.answered
        rw [List.filter_cons_of_pos (by simpa using answered), List.map_cons,
          ← queues.identified call rfl]
        rfl
  · intro builder
    rw [Kernel.calls, step, List.map_append,
      sized (first.toList.foldl ResponseBuilder.call builder), replySizes, replySizes]
    cases first with
    | none =>
        have unanswered : ¬Answered (state.memory session).type message := by
          simpa using queues.answered
        rw [List.filter_cons_of_neg (by simpa using unanswered)]
        rfl
    | some call =>
        have answered : Answered (state.memory session).type message := by
          simpa using queues.answered
        rw [List.filter_cons_of_pos (by simpa using answered), List.map_cons,
          ← queues.sized call rfl]
        rfl

/-- Running sub-messages on a session queues their replies. -/
theorem exists_replies (env : Environment) {session : Ref} (messages : List Submessage)
    {state : State} (created : session < state.allocated) :
    ∃ queued next, Replies env session messages state queued next := by
  induction messages generalizing state with
  | nil => exact ⟨[], state, Replies.nil env session state⟩
  | cons message messages ih =>
      rcases invoke_queues env session message state with ⟨first, middle, queues, step⟩
      rcases invoke_type created (step {}) with ⟨stillCreated, typed⟩
      rcases ih stillCreated with ⟨queued, next, rest⟩
      exact ⟨first.toList ++ queued, next, rest.cons typed queues step⟩

/-- What `handle` makes of the replies queued. -/
def Outcome.ofBuffers : Result Bytes → Outcome
  | .ok buffer => .replied buffer
  | .error failure => .thrown failure

theorem Replies.handle_outcome {env : Environment} {frame : Bytes} {session : Ref} {state : State}
    {queued : List ResponseCall} {next : State}
    (replies : Replies env session (Kernel.dispatched frame) state queued next)
    (complete : Kernel.completes frame = true) :
    (handle env frame session state).outcome =
      Outcome.ofBuffers ((queued.foldl ResponseBuilder.call {}).getBuffers
        (decide ((state.memory session).type = .tcp))) := by
  rw [handle, Kernel.handle_eq, replies.ran, complete]
  simp only [Kernel.conclude, Kernel.finish, if_true]
  cases (queued.foldl ResponseBuilder.call {}).getBuffers
    (decide ((state.memory session).type = .tcp)) <;> rfl

/-- The sub-responses queued for an accepted frame answer, one by one and in
order, its sub-messages that are answered on the session. -/
theorem replies_answer_requests {env : Environment} {frame : Bytes} {session : Ref} {state : State}
    (created : session < state.allocated)
    (accepted : (handle env frame session state).outcome ≠ .rejected) :
    ∃ (builder : ResponseBuilder) (replies : List Submessage),
      (Kernel.run (handlers env session) (Kernel.dispatched frame) {} state).1 = .ok builder ∧
        (handle env frame session state).outcome =
          Outcome.ofBuffers (builder.getBuffers
            (decide ((state.memory session).type = .tcp))) ∧
        builder.buffers = replies.map Submessage.bytes ∧
        (∀ reply ∈ replies, reply.type = .response) ∧
        replies.map Submessage.transactionId =
          ((Kernel.dispatched frame).filter (Answered (state.memory session).type)).map
            Submessage.transactionId := by
  have complete : Kernel.completes frame = true := by
    rw [ne_eq, handle_rejected_iff] at accepted
    simpa using accepted
  rcases exists_replies env (Kernel.dispatched frame) created with ⟨queued, next, replies⟩
  refine ⟨queued.foldl ResponseBuilder.call {}, queued.map ResponseCall.message, ?_, ?_, ?_, ?_,
    replies.identified⟩
  · rw [replies.ran]
  · exact replies.handle_outcome complete
  · rw [ResponseBuilder.foldl_call_buffers]
    rfl
  · intro reply member
    rcases List.mem_map.mp member with ⟨call, _, rfl⟩
    exact call.message_type

/-! ## Requests without an answer -/

/-- A ping whose type is neither request nor response. -/
def untypedPing : Submessage :=
  ⟨OpCode.ping.byte, ⟨2⟩, Uuid.filled 5, []⟩

/-- An identify request without a node id. -/
def emptyIdentify : Submessage :=
  ⟨OpCode.identify.byte, .request, Uuid.filled 6, []⟩

/-- A join request for the client `7…7`. -/
def joinRequest : Submessage :=
  ⟨OpCode.join.byte, .request, Uuid.filled 6, (Uuid.filled 7).data⟩

theorem dispatched_frameOf_mixed :
    Kernel.dispatched (frameOf [untypedPing, emptyIdentify]) = [untypedPing, emptyIdentify] ∧
      Kernel.completes (frameOf [untypedPing, emptyIdentify]) = true :=
  Kernel.dispatched_of_isFrame (isFrame_frameOf (by decide) (by decide))

theorem dispatched_frameOf_join :
    Kernel.dispatched (frameOf [joinRequest]) = [joinRequest] ∧
      Kernel.completes (frameOf [joinRequest]) = true :=
  Kernel.dispatched_of_isFrame (isFrame_frameOf (by decide) (by decide))

theorem replies_answer_requests_mixed :
    ∃ (builder : ResponseBuilder) (replies : List Submessage),
      (Kernel.run (handlers stillEnvironment 0)
          (Kernel.dispatched (frameOf [untypedPing, emptyIdentify])) {} oneLink).1 = .ok builder ∧
        (handle stillEnvironment (frameOf [untypedPing, emptyIdentify]) 0 oneLink).outcome =
          Outcome.ofBuffers (builder.getBuffers
            (decide ((oneLink.memory 0).type = .tcp))) ∧
        builder.buffers = replies.map Submessage.bytes ∧
        (∀ reply ∈ replies, reply.type = .response) ∧
        replies.map Submessage.transactionId =
          ((Kernel.dispatched (frameOf [untypedPing, emptyIdentify])).filter
            (Answered (oneLink.memory 0).type)).map Submessage.transactionId := by
  apply replies_answer_requests
  · decide
  · rw [ne_eq, handle_rejected_iff, dispatched_frameOf_mixed.2]
    decide

/-- An accepted frame in which the one request is not answered and the one
sub-message that is no request is, and a request of a client that gets no
answer. -/
theorem requests_unanswered :
    ((machine stillEnvironment).Reachable oneLink ∧
        Kernel.completes (frameOf [untypedPing, emptyIdentify]) = true ∧
        Kernel.dispatched (frameOf [untypedPing, emptyIdentify]) = [untypedPing, emptyIdentify] ∧
        (Kernel.run (handlers stillEnvironment 0)
            (Kernel.dispatched (frameOf [untypedPing, emptyIdentify])) {} oneLink).1 =
          .ok (({} : ResponseBuilder).addPing untypedPing.transactionId
            ExitCode.success.byte)) ∧
      (machine stillEnvironment).Reachable oneClient ∧
        Kernel.completes (frameOf [joinRequest]) = true ∧
        Kernel.dispatched (frameOf [joinRequest]) = [joinRequest] ∧
        (Kernel.run (handlers stillEnvironment 0)
          (Kernel.dispatched (frameOf [joinRequest])) {} oneClient).1 = .ok {} := by
  refine ⟨⟨oneLink_reachable, dispatched_frameOf_mixed.2, dispatched_frameOf_mixed.1, ?_⟩,
    oneClient_reachable, dispatched_frameOf_join.2, dispatched_frameOf_join.1, ?_⟩
  · rw [dispatched_frameOf_mixed.1]
    decide
  · rw [dispatched_frameOf_join.1]
    decide

end Aurum.Node
