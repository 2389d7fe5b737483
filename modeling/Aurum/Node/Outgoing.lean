import Aurum.Cluster.Frames
import Aurum.Node.Batching

/-!
# What a frame sets off

Beyond its reply, handling a frame has three effects outside the node: calls of
`connect`, the identify requests sent on the sessions that these calls open, and
further calls posted.  Responses are not replied to, and an identify request
that asks for no connection posts none.
-/

namespace Aurum.Node

open Aurum.Protocol
open Aurum.Container

/-- An identify request that asks for no connection. -/
def Opening (message : Submessage) : Prop :=
  message.opcode = OpCode.identify.byte ∧ message.type = .request ∧
    readU16 message.payload 16 = .ok 0

instance : DecidablePred Opening := fun _ =>
  inferInstanceAs (Decidable (_ ∧ _ ∧ _))

/-- A message of a TCP session that carries an opening request only. -/
def Opens (data : Bytes) : Prop :=
  ∃ message, Kernel.dispatched (data.drop 4) = [message] ∧ Opening message

namespace State

/-- The sub-message of the request that opens a link. -/
def openMessage (env : Environment) (connectionsPerNode : UInt16) (state : State) : Submessage :=
  ⟨OpCode.identify.byte, .request, state.nextUuid env,
    Handlers.identifyPayload state.nodeId connectionsPerNode state.tcpPort localHost⟩

theorem openRequest_buffers (env : Environment) (connectionsPerNode : UInt16) (state : State) :
    (state.openRequest env false connectionsPerNode).buffers =
      [(state.openMessage env connectionsPerNode).bytes] := by
  have hosted : state.tcpPort ≠ 0 ∨ localHost ≠ [] := Or.inr (by decide)
  rw [openMessage, ← heading_append, Handlers.identifyPayload, openRequest]
  simp only [Bool.false_eq_true, if_false, RequestBuilder.addIdentify, if_pos hosted]
  rfl

theorem openMessage_opening (env : Environment) (state : State) :
    Opening (state.openMessage env 0) :=
  ⟨rfl, rfl, (Handlers.read_identifyPayload state.nodeId 0 state.tcpPort localHost).2.1⟩

theorem openMessage_small (env : Environment) (connectionsPerNode : UInt16) (state : State) :
    (state.openMessage env connectionsPerNode).bytes.length ≤ 65535 := by
  rw [Submessage.bytes_length, openMessage, Handlers.identifyPayload_length]
  exact (by decide : 18 + (20 + localHost.length) ≤ 65535)

/-- What `connect` makes of a socket that has connected, without discovery: the
session is not registered, or it is, and the request is sent on it. -/
theorem openSession_cases {env : Environment} {connectionsPerNode : UInt16} {state next : State}
    {connected : Bool}
    (step : state.openSession env false connectionsPerNode = .ok (connected, next)) :
    (∃ entry ∈ state.sessions, entry.key.id = state.nextUuid env) ∧
        next = state.draw.install env (tcpSession (state.nextUuid env) .dialed) ∨
      ∃ data, data ≠ [] ∧ data.drop 4 =
          frameOf [(state.draw.install env (tcpSession (state.nextUuid env) .dialed)).openMessage
            env connectionsPerNode] ∧
        next = ((state.draw.install env (tcpSession (state.nextUuid env) .dialed)).draw).send
          state.allocated data := by
  unfold openSession at step
  simp only [Bool.false_eq_true, if_false] at step
  split at step
  · rcases Result.bind_eq_ok_iff.mp step with ⟨data, built, result⟩
    cases result
    obtain ⟨nonempty, behind⟩ := Cluster.getData_drop (openMessage env connectionsPerNode _)
      (openRequest_buffers env connectionsPerNode _) (openMessage_small env _ _) built
    exact Or.inr ⟨data, nonempty, behind, rfl⟩
  · rename_i refused
    cases step
    refine Or.inl ⟨?_, rfl⟩
    by_contra free
    apply refused
    have added : insertUnique Key.id env.placement state.sessions
        ⟨state.allocated, (tcpSession (state.nextUuid env) .dialed).key⟩ = (true, _) :=
      insertUnique_of_free fun other member taken => free ⟨other, member, taken⟩
    have filed : ((state.draw.allocate (tcpSession (state.nextUuid env) .dialed)).memory
        state.allocated).key = (tcpSession (state.nextUuid env) .dialed).key :=
      congrArg Session.key (allocate_memory_self _ state.draw)
    rw [addSession, filed]
    exact congrArg Prod.fst added

end State

/-- The message that opens a link without asking for further connections. -/
theorem opens_of_drop {env : Environment} {state : State} {data : Bytes}
    (behind : data.drop 4 = frameOf [state.openMessage env 0]) : Opens data := by
  refine ⟨state.openMessage env 0, ?_, state.openMessage_opening env⟩
  rw [behind]
  exact (Kernel.dispatched_of_isFrame
    (Cluster.isFrame_one (state.openMessage_small env 0))).1

/-! ## Dials -/

/-- All that a node has sent between two states are opening requests. -/
def SendsOpenings (state next : State) : Prop :=
  ∃ opened, next.sent = state.sent ++ opened ∧ ∀ dial ∈ opened, Opens dial.2

namespace SendsOpenings

variable {state middle next : State}

theorem quiet (sent : next.sent = state.sent) : SendsOpenings state next := by
  refine ⟨[], ?_, ?_⟩
  · rw [sent, List.append_nil]
  · intro dial member
    cases member

theorem trans (first : SendsOpenings state middle) (second : SendsOpenings middle next) :
    SendsOpenings state next := by
  rcases first with ⟨early, earlySent, earlyOpens⟩
  rcases second with ⟨late, lateSent, lateOpens⟩
  refine ⟨early ++ late, ?_, ?_⟩
  · rw [lateSent, earlySent, List.append_assoc]
  · intro dial member
    rcases List.mem_append.mp member with member | member
    · exact earlyOpens dial member
    · exact lateOpens dial member

end SendsOpenings

/-- Connects have been made, and opening requests sent. -/
structure Dials (state next : State) : Prop where
  posted : next.posted = state.posted
  sent : SendsOpenings state next

namespace Dials

variable {env : Environment} {state middle next : State} {connected : Bool}

theorem quiet (posted : next.posted = state.posted) (sent : next.sent = state.sent) :
    Dials state next where
  posted := posted
  sent := .quiet sent

theorem trans (first : Dials state middle) (second : Dials middle next) : Dials state next where
  posted := second.posted.trans first.posted
  sent := first.sent.trans second.sent

theorem openSession (step : state.openSession env false 0 = .ok (connected, next)) :
    Dials state next := by
  rcases State.openSession_cases step with ⟨_, rfl⟩ | ⟨data, _, behind, rfl⟩
  · exact quiet rfl rfl
  · refine ⟨rfl, [(state.allocated, data)], rfl, ?_⟩
    intro dial member
    rw [List.mem_singleton.mp member]
    exact opens_of_drop behind

theorem connect {host : Bytes} {port : UInt16}
    (step : state.connect env host port false 0 = .ok (connected, next)) : Dials state next := by
  unfold State.connect at step
  simp only at step
  have counted : Dials state { state with dialed := state.dialed ++ [⟨host, port⟩] } :=
    quiet rfl rfl
  split at step
  · exact counted.trans (openSession step)
  · cases step
    exact counted

theorem visitAll {endpoints : List Endpoint}
    (step : Handlers.visitAll env endpoints state = .ok next) : Dials state next := by
  induction endpoints generalizing state with
  | nil =>
      cases step
      exact quiet rfl rfl
  | cons endpoint endpoints ih =>
      rcases Result.bind_eq_ok_iff.mp step with ⟨middle, visit, rest⟩
      apply trans _ (ih rest)
      unfold Handlers.visitEndpoint at visit
      split at visit
      · cases visit
        exact quiet rfl rfl
      · rcases Result.bind_eq_ok_iff.mp visit with ⟨⟨connected, dialed⟩, dial, result⟩
        cases result
        exact connect dial

end Dials

/-- The messages that a posted connect makes a node send are opening requests. -/
theorem runPosted_sent {env : Environment} {state next : State}
    (step : state.runPosted env = .ok next) : SendsOpenings state next := by
  unfold State.runPosted at step
  split at step
  · cases step
    exact .quiet rfl
  · rcases Result.bind_eq_ok_iff.mp step with ⟨⟨connected, dialed⟩, dial, result⟩
    cases result
    exact (Dials.connect dial).sent

/-! ## Handler calls -/

/-- The sub-messages whose handlers post nothing. -/
def PostsNothing (message : Submessage) : Prop :=
  message.type = .response ∨ Opening message

/-- The sub-messages whose handlers post and dial nothing. -/
def DialsNothing (message : Submessage) : Prop :=
  (message.type = .response ∧ message.opcode ≠ OpCode.discovery.byte) ∨ Opening message

theorem PostsNothing.of_dialsNothing {message : Submessage} (silent : DialsNothing message) :
    PostsNothing message := by
  rcases silent with ⟨response, _⟩ | opening
  · exact Or.inl response
  · exact Or.inr opening

section Calls

variable {env : Environment} {session : Ref} {message : Submessage}
  {builder result : ResponseBuilder} {state next : State}

/-- The identify handler queues an identify response at most, and posts only
what a request asks for. -/
theorem Handlers.identify_cases
    (step : identify session message.type builder message.transactionId message.payload state =
      .ok (result, next)) :
    (result = builder ∨ ∃ nodeId, result = builder.addIdentify message.transactionId nodeId) ∧
      (message.type ≠ .request ∨ readU16 message.payload 16 = .ok 0 →
        next.posted = state.posted) := by
  unfold identify at step
  split at step
  · cases step
    exact ⟨Or.inl rfl, fun _ => rfl⟩
  split at step
  · cases step
    exact ⟨Or.inl rfl, fun _ => rfl⟩
  rcases Result.bind_eq_ok_iff.mp step with ⟨id, _, step⟩
  split at step
  · rename_i request
    rcases Result.bind_eq_ok_iff.mp step with ⟨connectionsPerNode, counted, step⟩
    rcases Result.bind_eq_ok_iff.mp step with ⟨port, _, step⟩
    split at step
    · rcases Result.bind_eq_ok_iff.mp step with ⟨host, _, step⟩
      split at step
      · rename_i asks
        cases step
        refine ⟨Or.inr ⟨_, rfl⟩, ?_⟩
        rintro (notRequest | zero)
        · exact absurd request.1 notRequest
        · rw [counted] at zero
          cases zero
          exact absurd asks.1 (by decide)
      · cases step
        exact ⟨Or.inr ⟨_, rfl⟩, fun _ => rfl⟩
    · cases step
      exact ⟨Or.inr ⟨_, rfl⟩, fun _ => rfl⟩
  · split at step
    · cases step
      exact ⟨Or.inr ⟨_, rfl⟩, fun _ => rfl⟩
    · cases step
      exact ⟨Or.inl rfl, fun _ => rfl⟩

/-- Only opening requests are sent by a handler. -/
theorem invoke_sent
    (step : Kernel.invoke (handlers env session) message builder state = .ok (result, next)) :
    SendsOpenings state next := by
  cases invoke_effect step with
  | discovered next opcode response visited => exact (Dials.visitAll visited).sent
  | _ => exact .quiet rfl

/-- A handler only adds to the calls posted. -/
theorem invoke_posts
    (step : Kernel.invoke (handlers env session) message builder state = .ok (result, next)) :
    state.posted <+: next.posted := by
  cases invoke_effect step with
  | identified id port host posted opcode tcp named => exact List.prefix_append _ _
  | discovered next opcode response visited =>
      have same := (Dials.visitAll visited).posted
      simp only [same, List.prefix_rfl]
  | _ => exact List.prefix_refl _

theorem invoke_posted (silent : PostsNothing message)
    (step : Kernel.invoke (handlers env session) message builder state = .ok (result, next)) :
    next.posted = state.posted := by
  by_cases opcode : message.opcode = OpCode.identify.byte
  · have identified : Handlers.identify session message.type builder message.transactionId
        message.payload state = .ok (result, next) := by
      rw [Kernel.invoke, handlers, opcode] at step
      exact step
    apply (Handlers.identify_cases identified).2
    rcases silent with response | opening
    · rw [response]
      exact Or.inl (by decide)
    · exact Or.inr opening.2.2
  · cases invoke_effect step with
    | identified id port host posted isIdentify tcp named => exact absurd isIdentify opcode
    | discovered next isDiscovery response visited => exact (Dials.visitAll visited).posted
    | _ => rfl

theorem invoke_dialed (silent : DialsNothing message)
    (step : Kernel.invoke (handlers env session) message builder state = .ok (result, next)) :
    next.sent = state.sent ∧ next.dialed = state.dialed := by
  cases invoke_effect step with
  | discovered next opcode response visited =>
      rcases silent with ⟨_, notDiscovery⟩ | opening
      · exact absurd opcode notDiscovery
      · rw [opening.2.1] at response
        exact absurd response (by decide)
  | _ => exact ⟨rfl, rfl⟩

end Calls

/-! ## Frames -/

section Frames

variable (env : Environment) (session : Ref) {frame : Bytes} (state : State)

/-- The messages a frame makes a node send, but for the reply, are opening
requests. -/
theorem handle_sent (frame : Bytes) :
    SendsOpenings state (handle env frame session state).state := by
  apply handle_keeps fun next : State => SendsOpenings state next
  · intro call member before
    rcases Kernel.mem_calls member with ⟨_, builder, result, invoked⟩
    exact before.trans (invoke_sent invoked)
  · exact .quiet rfl

theorem handle_posts (frame : Bytes) :
    state.posted <+: (handle env frame session state).state.posted := by
  apply handle_keeps fun next : State => state.posted <+: next.posted
  · intro call member before
    rcases Kernel.mem_calls member with ⟨_, builder, result, invoked⟩
    exact before.trans (invoke_posts invoked)
  · exact List.prefix_refl _

theorem handle_posted (silent : ∀ message ∈ Kernel.dispatched frame, PostsNothing message) :
    (handle env frame session state).state.posted = state.posted := by
  apply handle_keeps fun next : State => next.posted = state.posted
  · intro call member before
    rcases Kernel.mem_calls member with ⟨within, builder, result, invoked⟩
    rw [invoke_posted (silent call.message within) invoked]
    exact before
  · rfl

theorem handle_dialed (silent : ∀ message ∈ Kernel.dispatched frame, DialsNothing message) :
    (handle env frame session state).state.sent = state.sent ∧
      (handle env frame session state).state.dialed = state.dialed := by
  apply handle_keeps fun next : State =>
    next.sent = state.sent ∧ next.dialed = state.dialed
  · rintro call member ⟨sent, dialed⟩
    rcases Kernel.mem_calls member with ⟨within, builder, result, invoked⟩
    rcases invoke_dialed (silent call.message within) invoked with ⟨sentSame, dialedSame⟩
    exact ⟨sentSame.trans sent, dialedSame.trans dialed⟩
  · exact ⟨rfl, rfl⟩

end Frames

/-! ## Replies -/

/-- No response is answered. -/
theorem not_answered_of_response {type : SessionType} {message : Submessage}
    (response : message.type = .response) : ¬Answered type message := by
  unfold Answered
  rw [response]
  split
  · exact fun answered => absurd answered.1 (by decide)
  split
  · exact by decide
  split
  · exact fun answered => absurd rfl answered.1
  · exact fun answered => absurd rfl answered

/-- Running sub-messages queues sub-responses, and none when they are responses
themselves. -/
theorem exists_run_queued (env : Environment) (session : Ref) (messages : List Submessage)
    (state : State) :
    ∃ (queued : List ResponseCall) (next : State),
      (∀ builder, Kernel.run (handlers env session) messages builder state =
        (.ok (queued.foldl ResponseBuilder.call builder), next)) ∧
      ((∀ message ∈ messages, message.type = .response) → queued = []) := by
  induction messages generalizing state with
  | nil => exact ⟨[], state, fun _ => rfl, fun _ => rfl⟩
  | cons message messages ih =>
      rcases invoke_queues env session message state with ⟨first, middle, queues, step⟩
      rcases ih middle with ⟨queued, next, ran, silent⟩
      refine ⟨first.toList ++ queued, next, ?_, ?_⟩
      · intro builder
        rw [Kernel.run, step, List.foldl_append]
        exact ran _
      · intro responses
        have unanswered : first = none := by
          rw [← Option.not_isSome_iff_eq_none]
          intro some
          exact not_answered_of_response (responses message List.mem_cons_self)
            (queues.answered.mp some)
        rw [unanswered, silent fun other member => responses other
          (List.mem_cons_of_mem message member)]
        rfl

/-- What is queued for the reply to a frame are sub-responses. -/
theorem exists_queuedReplies (env : Environment) (frame : Bytes) (session : Ref) (state : State) :
    ∃ queued : List ResponseCall, queuedReplies env session frame state =
        (queued.map ResponseCall.message).map Submessage.bytes ∧
      ((∀ message ∈ Kernel.dispatched frame, message.type = .response) → queued = []) := by
  obtain ⟨queued, next, ran, silent⟩ :=
    exists_run_queued env session (Kernel.dispatched frame) state
  refine ⟨queued, ?_, silent⟩
  rw [queuedReplies, ran]
  simp only
  rw [ResponseBuilder.foldl_call_buffers]
  rfl

/-- Responses are not replied to. -/
theorem queuedReplies_of_responses (env : Environment) {frame : Bytes} (session : Ref)
    (state : State)
    (responses : ∀ message ∈ Kernel.dispatched frame, message.type = .response) :
    queuedReplies env session frame state = [] := by
  rcases exists_queuedReplies env frame session state with ⟨queued, queue, silent⟩
  rw [queue, silent responses]
  rfl

/-- An opening request is answered by an identify response at most. -/
theorem queuedReplies_of_opening (env : Environment) {frame : Bytes} {message : Submessage}
    (session : Ref) (state : State) (only : Kernel.dispatched frame = [message])
    (opening : Opening message) :
    queuedReplies env session frame state = [] ∨ ∃ nodeId,
      queuedReplies env session frame state =
        ([ResponseCall.identify message.transactionId nodeId].map ResponseCall.message).map
          Submessage.bytes := by
  rcases invoke_ok env session message {} state with ⟨⟨result, next⟩, step⟩
  have queue : queuedReplies env session frame state = result.buffers := by
    rw [queuedReplies, only, Kernel.run, step]
    rfl
  have identified : Handlers.identify session message.type {} message.transactionId
      message.payload state = .ok (result, next) := by
    rw [Kernel.invoke, handlers, opening.1] at step
    exact step
  rw [queue]
  rcases (Handlers.identify_cases identified).1 with same | ⟨nodeId, answered⟩
  · rw [same]
    exact Or.inl rfl
  · rw [answered]
    exact Or.inr ⟨nodeId, ResponseBuilder.call_message {} (.identify message.transactionId nodeId)⟩

end Aurum.Node
