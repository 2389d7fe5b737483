import Aurum.Node.Honesty
import Aurum.Transition.Path

/-!
# Requests and replies on one session

A session carries the replies to what has been read on it and, between nodes,
requests of the node's own: joins and leaves that are broadcast, and whatever a
caller of `send_to_node` sends.  Nothing ties a reply to its request but the
transaction id.

Whatever happens in between and on other sessions, the replies on a session
answer the frames read on it one for one and in their order, and each repeats
the transaction ids of the sub-messages that it answers.
-/

namespace Aurum.Node

open Aurum.Protocol
open Aurum.Transition

/-! ## Replies among the messages of a session -/

/-- The sub-messages that the receiver of a message dispatches. -/
def carried (type : SessionType) (message : Bytes) : List Submessage :=
  Kernel.dispatched (if type = .tcp then message.drop 4 else message)

/-- A message in which nothing is asked. -/
def Replying (type : SessionType) (message : Bytes) : Prop :=
  ∀ sub ∈ carried type message, sub.type = .response

instance (type : SessionType) : DecidablePred (Replying type) := fun message =>
  inferInstanceAs (Decidable (∀ sub ∈ carried type message, _))

/-- The transaction ids that a message carries. -/
def transactions (type : SessionType) (message : Bytes) : List Uuid :=
  (carried type message).map Submessage.transactionId

/-- What is to be answered on a session: the transaction ids of the sub-messages
of a frame that are answered on it.  A frame that the kernel rejects is not
replied to. -/
def asked (type : SessionType) (ref : Ref) : Event → Option (List Uuid)
  | .frame session frame =>
      if session = ref ∧ Kernel.completes frame then
        some (((Kernel.dispatched frame).filter (Answered type)).map Submessage.transactionId)
      else
        none
  | _ => none

/-- Only requests, and only between nodes. -/
def Requesting (type : SessionType) (message : Bytes) : Prop :=
  type = .tcp ∧ ¬Replying .tcp message

/-- Messages sent on a session: those among them that are replies answer what
has been asked, and a client is sent nothing else. -/
structure Answers (type : SessionType) (asked : List (List Uuid)) (late : List Bytes) : Prop where
  replies : (late.filter (Replying type)).map (transactions type) = asked
  only : type = .websocket → ∀ message ∈ late, Replying type message

namespace Answers

variable {type : SessionType} {asked more : List (List Uuid)} {late later : List Bytes}

theorem nil (type : SessionType) : Answers type [] [] where
  replies := rfl
  only := fun _ _ member => absurd member List.not_mem_nil

theorem append (first : Answers type asked late) (second : Answers type more later) :
    Answers type (asked ++ more) (late ++ later) where
  replies := by
    rw [List.filter_append, List.map_append, first.replies, second.replies]
  only := by
    intro websocket message member
    rcases List.mem_append.mp member with member | member
    · exact first.only websocket message member
    · exact second.only websocket message member

/-- Requests answer nothing. -/
theorem requests (requesting : ∀ message ∈ late, Requesting type message) :
    Answers type [] late where
  replies := by
    have none : late.filter (Replying type) = [] := by
      apply List.filter_eq_nil_iff.mpr
      intro message member
      rcases requesting message member with ⟨rfl, asks⟩
      simpa using asks
    rw [none]
    rfl
  only := by
    intro websocket message member
    cases websocket.symm.trans (requesting message member).1

theorem single {message : Bytes} (replying : Replying type message) :
    Answers type [transactions type message] [message] where
  replies := by
    rw [List.filter_cons_of_pos (by simpa using replying)]
    rfl
  only := by
    intro _ other member
    rw [List.mem_singleton.mp member]
    exact replying

end Answers

@[simp]
theorem State.messages_send_self (ref : Ref) (message : Bytes) (state : State) :
    (state.send ref message).messages ref = state.messages ref ++ [message] := by
  simp [State.messages, State.send]

theorem State.messages_send_of_ne {ref other : Ref} (message : Bytes) (state : State)
    (distinct : other ≠ ref) : (state.send other message).messages ref = state.messages ref := by
  simp [State.messages, State.send, distinct]

/-! ## Requests of the node -/

/-- A builder that holds a request serializes a message that is no reply. -/
theorem requesting_of_getData {builder : BaseBuilder} {messages : List Submessage} {data : Bytes}
    (queue : builder.buffers = messages.map Submessage.bytes)
    (sizes : ∀ message ∈ messages, message.bytes.length ≤ 65535)
    (built : builder.getData true = .ok data) {request : Submessage} (member : request ∈ messages)
    (isRequest : request.type ≠ .response) : Requesting .tcp data := by
  refine ⟨rfl, ?_⟩
  intro replying
  apply isRequest
  apply replying
  rw [carried, if_pos rfl, dispatched_drop queue sizes built]
  exact member

/-- A builder to which one identifier has been added. -/
theorem requesting_of_named {builder : RequestBuilder} {opcode : OpCode} {id transactionId : Uuid}
    {data : Bytes}
    (queue : builder.buffers = [heading opcode.byte .request transactionId ++ id.data])
    (built : builder.getData true = .ok data) : Requesting .tcp data := by
  have single : builder.buffers =
      [(⟨opcode.byte, .request, transactionId, id.data⟩ : Submessage)].map Submessage.bytes := by
    rw [queue, heading_append]
    rfl
  apply requesting_of_getData single _ built List.mem_cons_self
  · exact (by decide : MessageType.request ≠ .response)
  · simp [Submessage.bytes_length]

theorem voice_requesting (env : Environment) (node : Uuid) (withdrawn : Uuid → Prop) :
    Voice env node withdrawn Requesting where
  opening := by
    intro state withDiscovery connectionsPerNode data _ built
    apply requesting_of_getData
      (state.openRequest_messages env withDiscovery connectionsPerNode) _ built List.mem_cons_self
    · exact (by decide : MessageType.request ≠ .response)
    · exact state.openMessages_small env withDiscovery connectionsPerNode
  leaving := fun _ _ _ _ built => requesting_of_named rfl built

/-! ## One event -/

/-- The reply to a frame can be sent, and no sub-response in it is longer than
the 16 bits of its length can say. -/
structure RepliesWhole (env : Environment) (session : Ref) (frame : Bytes) (state : State) :
    Prop where
  fits : RepliesFit env session frame state
  returns : ∀ failure, (handle env frame session state).outcome ≠ .thrown failure

/-- What a builder serializes for a session, the other end dispatches. -/
theorem carried_of_getData {builder : BaseBuilder} {messages : List Submessage} {data : Bytes}
    {type : SessionType} (queue : builder.buffers = messages.map Submessage.bytes)
    (sizes : ∀ message ∈ messages, message.bytes.length ≤ 65535)
    (built : builder.getData (decide (type = .tcp)) = .ok data) :
    carried type data = messages := by
  cases type with
  | tcp => exact dispatched_drop queue sizes built
  | websocket =>
      have bare : builder.getData false = .ok data := built
      by_cases queued : messages = []
      · subst queued
        rw [BaseBuilder.getData_nil queue] at bare
        cases bare
        rfl
      · have nonempty : builder.buffers ≠ [] := by simpa [queue] using queued
        have fits : builder.Fits := by
          by_contra misfit
          rcases BaseBuilder.getData_of_not_fits nonempty misfit false with ⟨what, refused⟩
          rw [refused] at bare
          cases bare
        rw [getData_false_of_fits queue queued fits] at bare
        cases bare
        have count : messages.length ≤ 65535 := by
          simpa [queue, maxRequestsPerFrame] using fits.1
        exact (Kernel.dispatched_of_isFrame (isFrame_frameOf count sizes)).1

/-- The reply to a frame that is processed to its end. -/
theorem exists_reply {env : Environment} {frame : Bytes} {session : Ref} {state : State}
    (created : session < state.allocated) (complete : Kernel.completes frame = true)
    (whole : RepliesWhole env session frame state) :
    ∃ buffer, (handle env frame session state).outcome = .replied buffer ∧
      Replying (state.memory session).type buffer ∧
      transactions (state.memory session).type buffer =
        ((Kernel.dispatched frame).filter (Answered (state.memory session).type)).map
          Submessage.transactionId := by
  rcases exists_replies env (Kernel.dispatched frame) created with ⟨queued, next, replies⟩
  have queue : queuedReplies env session frame state =
      (queued.map ResponseCall.message).map Submessage.bytes := by
    rw [queuedReplies, replies.ran]
    exact ResponseBuilder.foldl_call_buffers queued {}
  have outcome := handle_outcome_eq env session state complete
  cases serialized : ({ buffers := queuedReplies env session frame state } :
      BaseBuilder).getData (decide ((state.memory session).type = .tcp)) with
  | error failure =>
      rw [serialized] at outcome
      exact absurd outcome (whole.returns failure)
  | ok buffer =>
      rw [serialized] at outcome
      have carries : carried (state.memory session).type buffer =
          queued.map ResponseCall.message := by
        apply carried_of_getData queue _ serialized
        intro reply member
        apply whole.fits
        rw [queue]
        exact List.mem_map_of_mem member
      refine ⟨buffer, outcome, ?_, ?_⟩
      · intro sub member
        rw [carries] at member
        rcases List.mem_map.mp member with ⟨call, _, rfl⟩
        exact call.message_type
      · rw [transactions, carries, replies.identified]

/-- What is asked of an event about one session: frames on it are replied to
in full, and a caller of `send_to_node` sends requests. -/
structure Event.Answerable (env : Environment) (ref : Ref) (state : State) (event : Event) :
    Prop where
  whole : ∀ frame, event = .frame ref frame → RepliesWhole env ref frame state
  sends : ∀ target message, event = .sendToNode target message → ¬Replying .tcp message

section Step

variable {env : Environment} {ref : Ref} {state next : State}

/-- A frame on some session. -/
theorem answers_of_receive (created : ref < state.allocated) {session : Ref} {frame : Bytes}
    (whole : session = ref → RepliesWhole env ref frame state) :
    ∃ late, (state.receive env session frame).messages ref = state.messages ref ++ late ∧
      Answers (state.memory ref).type
        (asked (state.memory ref).type ref (.frame session frame)).toList late := by
  have handled := (voice_requesting env state.nodeId fun _ => True).handle rfl frame session
  rcases handled.messages ref with ⟨late, messagesEq, told⟩
  rw [(handled.same ref created).2.1] at told
  have early : Answers (state.memory ref).type [] late := .requests told
  by_cases answered : session = ref ∧ Kernel.completes frame = true
  · rcases answered with ⟨rfl, complete⟩
    rcases exists_reply created complete (whole rfl) with ⟨buffer, replied, replying, answering⟩
    have reply := Answers.single replying
    rw [answering] at reply
    refine ⟨late ++ [buffer], ?_, ?_⟩
    · rw [State.receive, replied]
      simp only
      rw [State.messages_send_self, messagesEq, List.append_assoc]
    · rw [asked, if_pos ⟨rfl, complete⟩]
      exact early.append reply
  · refine ⟨late, ?_, ?_⟩
    · unfold State.receive
      simp only
      split
      · rename_i buffer replied
        rw [State.messages_send_of_ne, messagesEq]
        rintro rfl
        apply answered
        refine ⟨rfl, ?_⟩
        by_contra incomplete
        rw [(handle_rejected_iff env frame session state).mpr (by simpa using incomplete)]
          at replied
        cases replied
      · exact messagesEq
    · rw [asked, if_neg answered]
      exact early

theorem answers_of_perform (formed : WellFormed state) (created : ref < state.allocated)
    {event : Event} (enabled : event.Enabled state) (answerable : event.Answerable env ref state)
    (step : state.perform env event = .ok next) :
    ∃ late, next.messages ref = state.messages ref ++ late ∧
      Answers (state.memory ref).type (asked (state.memory ref).type ref event).toList late := by
  by_cases isFrame : ∃ session frame, event = .frame session frame
  · rcases isFrame with ⟨session, frame, rfl⟩
    cases step
    apply answers_of_receive created
    rintro rfl
    exact answerable.whole frame rfl
  · have unasked : asked (state.memory ref).type ref event = none := by
      cases event with
      | frame session frame => exact absurd ⟨session, frame, rfl⟩ isFrame
      | _ => rfl
    have uttered : Utters Requesting state next := by
      apply (voice_requesting env state.nodeId fun _ => True).perform rfl formed
        (fun _ _ => trivial) enabled step
      · exact fun _ _ _ _ built => requesting_of_named rfl built
      · exact fun session frame isEvent => absurd ⟨session, frame, isEvent⟩ isFrame
      · exact fun target message isSend => ⟨rfl, answerable.sends target message isSend⟩
    rcases uttered.messages ref with ⟨late, messagesEq, told⟩
    rw [(uttered.same ref created).2.1] at told
    rw [unasked]
    exact ⟨late, messagesEq, .requests told⟩

end Step

/-! ## Whole runs -/

/-- From whatever state a node goes on, what it sends on a session from then on
contains exactly one reply to every frame that its kernel has processed to the
end there, in the order of the frames; the reply carries the transaction ids of
the sub-messages answered, in their order.  A client is sent nothing else. -/
theorem answers_in_order {env : Environment} {ref : Ref} {state : State}
    (reachable : (machine env).Reachable state) (created : ref < state.allocated)
    {steps : List (Event × State)}
    (path : ((machine env).under (Event.Answerable env ref)).Path state steps) :
    ∃ late, (Machine.finish state steps).messages ref = state.messages ref ++ late ∧
      Answers (state.memory ref).type
        (steps.filterMap fun step => asked (state.memory ref).type ref step.1) late := by
  induction path with
  | nil state => exact ⟨[], (List.append_nil _).symm, .nil _⟩
  | @cons state next event steps taken rest ih =>
      rcases taken with ⟨answerable, enabled, step⟩
      have formed := wellFormed_of_reachable reachable
      have ages := ages_of_perform formed enabled step
      rcases answers_of_perform formed created enabled answerable step with
        ⟨early, earlyEq, earlyAnswers⟩
      rcases ih (.step reachable ⟨enabled, step⟩) (created.trans_le ages.older) with
        ⟨late, lateEq, lateAnswers⟩
      rw [(ages.same ref created).2.1] at lateAnswers
      refine ⟨early ++ late, ?_, ?_⟩
      · rw [Machine.finish, lateEq, earlyEq, List.append_assoc]
      · have answers := earlyAnswers.append lateAnswers
        rw [List.filterMap_cons]
        cases answered : asked (state.memory ref).type ref event with
        | none => simpa [answered] using answers
        | some ids => simpa [answered] using answers

/-- A reply that fits can be sent. -/
theorem repliesWhole_of_fits {env : Environment} {session : Ref} {frame : Bytes} {state : State}
    (complete : Kernel.completes frame = true) (short : RepliesFit env session frame state)
    (queued : queuedReplies env session frame state ≠ [])
    (fits : BaseBuilder.Fits ⟨queuedReplies env session frame state, 0⟩) :
    RepliesWhole env session frame state where
  fits := short
  returns := by
    intro failure thrown
    have outcome := handle_outcome_eq env session state complete
    rw [thrown, BaseBuilder.getData_of_fits queued fits] at outcome
    cases outcome

/-- A ping of another transaction. -/
def laterPing : Submessage :=
  ⟨OpCode.ping.byte, .request, Uuid.filled 8, []⟩

theorem dispatched_laterPing :
    Kernel.dispatched (frameOf [laterPing]) = [laterPing] ∧
      Kernel.completes (frameOf [laterPing]) = true :=
  Kernel.dispatched_of_isFrame (isFrame_frameOf (by decide) (by decide))

/-- A ping and an identify request without a node id are read on a link, another
link is accepted, and another ping is read on the first. -/
def conversation : List (Event × State) :=
  let answered := oneLink.receive stillEnvironment 0 (frameOf [untypedPing, emptyIdentify])
  let accepted := answered.acceptTcp stillEnvironment
  [(.frame 0 (frameOf [untypedPing, emptyIdentify]), answered), (.acceptTcp, accepted),
    (.frame 0 (frameOf [laterPing]),
      accepted.receive stillEnvironment 0 (frameOf [laterPing]))]

theorem answers_in_order_conversation :
    ∃ late, (Machine.finish oneLink conversation).messages 0 = oneLink.messages 0 ++ late ∧
      Answers .tcp [[Uuid.filled 5], [Uuid.filled 8]] late := by
  have created : ∀ state : State, 0 < (state.acceptTcp stillEnvironment).allocated :=
    fun state => Nat.succ_pos state.allocated
  have path : ((machine stillEnvironment).under (Event.Answerable stillEnvironment 0)).Path
      oneLink conversation := by
    refine .cons ⟨⟨?_, nofun⟩, (by decide : 0 < 1), rfl⟩
      (.cons ⟨⟨nofun, nofun⟩, trivial, rfl⟩
        (.cons ⟨⟨?_, nofun⟩, created _, rfl⟩ (.nil _)))
    · rintro frame ⟨⟩
      apply repliesWhole_of_fits dispatched_frameOf_mixed.2
      · decide +kernel
      · decide +kernel
      · decide +kernel
    · rintro frame ⟨⟩
      apply repliesWhole_of_fits dispatched_laterPing.2
      · decide +kernel
      · decide +kernel
      · decide +kernel
  have answers := answers_in_order oneLink_reachable (by decide) path
  have askedEq : (conversation.filterMap fun step => asked .tcp 0 step.1) =
      [[Uuid.filled 5], [Uuid.filled 8]] := by
    simp only [conversation, asked, List.filterMap_cons, dispatched_frameOf_mixed.1,
      dispatched_frameOf_mixed.2, dispatched_laterPing.1, dispatched_laterPing.2]
    decide
  rwa [show (oneLink.memory 0).type = .tcp from rfl, askedEq] at answers

end Aurum.Node
