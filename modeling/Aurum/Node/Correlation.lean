import Aurum.Node.Conversation

/-!
# Transaction ids of requests and responses

What a node sends on a TCP session of its own accord are requests only.  The
responses it sends there carry the transaction ids of what it has answered, and
it sends none but in reply to a frame on that session.
-/

namespace Aurum.Node

open Aurum.Protocol
open Aurum.Transition

/-- The transaction ids of the responses in some frames. -/
def responseIds (frames : List Bytes) : List Uuid :=
  frames.flatMap fun frame => ((Kernel.dispatched frame).filter fun message =>
    message.type = .response).map Submessage.transactionId

/-- The transaction ids of the sub-messages in some frames that are answered on a
TCP session. -/
def requestIds (frames : List Bytes) : List Uuid :=
  frames.flatMap fun frame =>
    if Kernel.completes frame then
      ((Kernel.dispatched frame).filter (Answered .tcp)).map Submessage.transactionId
    else
      []

/-- A message that carries requests only. -/
def Asking (message : Bytes) : Prop :=
  ∀ sub ∈ Kernel.dispatched (message.drop 4), sub.type = .request

@[simp]
theorem responseIds_append (first second : List Bytes) :
    responseIds (first ++ second) = responseIds first ++ responseIds second :=
  List.flatMap_append

@[simp]
theorem requestIds_append (first second : List Bytes) :
    requestIds (first ++ second) = requestIds first ++ requestIds second :=
  List.flatMap_append

theorem bodies_append (first second : List Bytes) :
    bodies (first ++ second) = bodies first ++ bodies second := by
  rw [bodies, List.filter_append, List.map_append]
  rfl

theorem perm_bodies {first second : List Bytes} (perm : first.Perm second) :
    (bodies first).Perm (bodies second) :=
  (perm.filter _).map _

/-- An empty message carries nothing. -/
theorem responseIds_bodies (messages : List Bytes) :
    responseIds (bodies messages) = responseIds (messages.map fun message => message.drop 4) := by
  induction messages with
  | nil => rfl
  | cons message messages ih =>
      have first : responseIds (bodies [message]) = responseIds [message.drop 4] := by
        by_cases empty : message = []
        · subst empty
          rfl
        · rw [bodies, List.filter_cons_of_pos (by simpa using empty)]
          rfl
      calc responseIds (bodies (message :: messages))
          = responseIds (bodies [message]) ++ responseIds (bodies messages) := by
            rw [← responseIds_append, ← bodies_append, List.singleton_append]
        _ = responseIds [message.drop 4] ++
              responseIds (messages.map fun message => message.drop 4) := by rw [first, ih]
        _ = responseIds ((message :: messages).map fun message => message.drop 4) := by
            rw [← responseIds_append, List.singleton_append, List.map_cons]

theorem responseIds_of_asking {messages : List Bytes}
    (asking : ∀ message ∈ messages, Asking message) : responseIds (bodies messages) = [] := by
  rw [responseIds_bodies, responseIds, List.flatMap_eq_nil_iff]
  intro frame member
  rcases List.mem_map.mp member with ⟨message, within, rfl⟩
  rw [List.map_eq_nil_iff, List.filter_eq_nil_iff]
  intro sub carried
  rw [asking message within sub carried]
  decide

/-! ## What a node asks -/

theorem asking_of_getData {builder : BaseBuilder} {messages : List Submessage} {data : Bytes}
    (queue : builder.buffers = messages.map Submessage.bytes)
    (sizes : ∀ message ∈ messages, message.bytes.length ≤ 65535)
    (built : builder.getData true = .ok data)
    (requests : ∀ message ∈ messages, message.type = .request) : Asking data := by
  rw [Asking, dispatched_drop queue sizes built]
  exact requests

/-- A builder to which one identifier has been added. -/
theorem asking_of_named {builder : RequestBuilder} {opcode : OpCode} {id transactionId : Uuid}
    {data : Bytes}
    (queue : builder.buffers = [heading opcode.byte .request transactionId ++ id.data])
    (built : builder.getData true = .ok data) : Asking data := by
  have single : builder.buffers =
      [(⟨opcode.byte, .request, transactionId, id.data⟩ : Submessage)].map Submessage.bytes := by
    rw [queue, heading_append]
    rfl
  apply asking_of_getData single _ built
  · simp
  · simp [Submessage.bytes_length]

theorem voice_asking (env : Environment) (node : Uuid) (withdrawn : Uuid → Prop) :
    Voice env node withdrawn (OnTcp Asking) where
  opening := by
    intro state withDiscovery connectionsPerNode data _ built _
    apply asking_of_getData (state.openRequest_messages env withDiscovery connectionsPerNode)
      (state.openMessages_small env withDiscovery connectionsPerNode) built
    intro message member
    rcases List.mem_cons.mp member with rfl | member
    · rfl
    · cases withDiscovery with
      | false => cases member
      | true =>
          rw [List.mem_singleton.mp member]
  leaving := fun _ _ _ _ built _ => asking_of_named rfl built

/-- What is not a frame makes a node ask only. -/
theorem asks_of_perform {env : Environment} {state next : State} {event : Event}
    (formed : WellFormed state) (enabled : event.Enabled state)
    (notFrame : ∀ session frame, event ≠ .frame session frame)
    (notSend : ∀ target message, event ≠ .sendToNode target message)
    (step : state.perform env event = .ok next) : Utters (OnTcp Asking) state next := by
  apply (voice_asking env state.nodeId fun _ => True).perform rfl formed (fun _ _ => trivial)
    enabled step
  · exact fun _ _ _ _ built _ => asking_of_named rfl built
  · exact fun session frame isFrame => absurd isFrame (notFrame session frame)
  · exact fun target message isSend => absurd isSend (notSend target message)

/-! ## What a node answers -/

/-- The message sent in reply. -/
def replyOf : Outcome → List Bytes
  | .replied buffer => [buffer]
  | .rejected | .thrown _ => []

theorem messages_receive (env : Environment) (session ref : Ref) (frame : Bytes) (state : State) :
    (state.receive env session frame).messages ref =
      (handle env frame session state).state.messages ref ++
        if session = ref then replyOf (handle env frame session state).outcome else [] := by
  unfold State.receive
  cases outcome : (handle env frame session state).outcome with
  | replied buffer =>
      simp only [outcome, replyOf]
      by_cases isRef : session = ref
      · subst isRef
        rw [State.messages_send_self, if_pos rfl]
      · rw [State.messages_send_of_ne _ _ isRef, if_neg isRef, List.append_nil]
  | rejected => simp [outcome, replyOf]
  | thrown failure => simp [outcome, replyOf]

/-- The responses in the reply to a frame. -/
theorem responseIds_replyOf {env : Environment} {frame : Bytes} {session : Ref} {state : State}
    (created : session < state.allocated) (tcp : (state.memory session).type = .tcp)
    (fits : RepliesFit env session frame state) :
    (responseIds (bodies (replyOf (handle env frame session state).outcome))).Sublist
      (requestIds [frame]) := by
  cases outcome : (handle env frame session state).outcome with
  | replied buffer =>
      have complete : Kernel.completes frame = true := by
        by_contra incomplete
        rw [(handle_rejected_iff env frame session state).mpr (by simpa using incomplete)]
          at outcome
        cases outcome
      have whole : RepliesWhole env session frame state := by
        refine ⟨fits, ?_⟩
        intro failure thrown
        rw [outcome] at thrown
        cases thrown
      rcases exists_reply created complete whole with ⟨_, replied, replying, answering⟩
      rw [outcome] at replied
      cases replied
      rw [tcp] at replying answering
      have all : (Kernel.dispatched (buffer.drop 4)).filter (fun message =>
          message.type = .response) = Kernel.dispatched (buffer.drop 4) := by
        apply List.filter_eq_self.mpr
        intro message member
        exact decide_eq_true (replying message member)
      have exactly : responseIds (bodies (replyOf (.replied buffer))) = requestIds [frame] := by
        rw [replyOf, responseIds_bodies]
        simp only [List.map_singleton, responseIds, requestIds, List.flatMap_singleton,
          if_pos complete]
        rw [all]
        exact answering
      exact exactly ▸ List.Sublist.refl _
  | rejected => exact List.nil_sublist _
  | thrown failure => exact List.nil_sublist _

end Aurum.Node
