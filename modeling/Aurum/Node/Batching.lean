import Aurum.Node.Replies

/-!
# Batching

A frame of several sub-messages does to a node what frames of one sub-message
each do, handled in order: handlers see neither the frame nor what is queued
before them.
-/

namespace Aurum.Node

open Aurum.Protocol

variable (env : Environment) (session : Ref)

/-- The sub-responses queued for the reply to a frame. -/
def queuedReplies (frame : Bytes) (state : State) : List Bytes :=
  match (Kernel.run (handlers env session) (Kernel.dispatched frame) {} state).1 with
  | .ok builder => builder.buffers
  | .error _ => []

/-- The state after handling a frame for each of some sub-messages. -/
def handleEach : List Submessage → State → State
  | [], state => state
  | message :: messages, state =>
      handleEach messages (handle env (frameOf [message]) session state).state

/-- The sub-responses queued for the replies to those frames, in order. -/
def repliesEach : List Submessage → State → List Bytes
  | [], _ => []
  | message :: messages, state =>
      queuedReplies env session (frameOf [message]) state ++
        repliesEach messages (handle env (frameOf [message]) session state).state

variable {env session}

/-- A sub-message of a frame fits into a frame of its own. -/
theorem isFrame_single {frame : Bytes} {message : Submessage}
    (member : message ∈ Kernel.dispatched frame) :
    IsFrame (frameOf [message]) [message] [] := by
  apply isFrame_frameOf
  · simp
  · simpa using Kernel.dispatched_sizes frame message member

/-- Handling the frame of one sub-message is one handler call. -/
theorem handle_single {message : Submessage} {state next : State} {queued : Option ResponseCall}
    (isFrame : IsFrame (frameOf [message]) [message] [])
    (step : ∀ builder, Kernel.invoke (handlers env session) message builder state =
      .ok (queued.toList.foldl ResponseBuilder.call builder, next)) :
    (handle env (frameOf [message]) session state).state = next ∧
      queuedReplies env session (frameOf [message]) state =
        (queued.toList.map ResponseCall.message).map Submessage.bytes := by
  have only := (Kernel.dispatched_of_isFrame isFrame).1
  have ran : Kernel.run (handlers env session) [message] {} state =
      (.ok (queued.toList.foldl ResponseBuilder.call {}), next) := by
    rw [Kernel.run, step]
    rfl
  constructor
  · rw [handle_state, only, ran]
  · rw [queuedReplies, only, ran]
    simp only
    rw [ResponseBuilder.foldl_call_buffers]
    rfl

/-- Running sub-messages in one go is handling them one by one. -/
theorem run_eq_handleEach (messages : List Submessage)
    (singles : ∀ message ∈ messages, IsFrame (frameOf [message]) [message] [])
    (builder : ResponseBuilder) (state : State) :
    ∃ result, Kernel.run (handlers env session) messages builder state =
        (.ok result, handleEach env session messages state) ∧
      result.buffers = builder.buffers ++ repliesEach env session messages state := by
  induction messages generalizing builder state with
  | nil => exact ⟨builder, rfl, (List.append_nil _).symm⟩
  | cons message messages ih =>
      rcases invoke_queues env session message state with ⟨queued, next, _, step⟩
      rcases handle_single (singles message List.mem_cons_self) step with ⟨stateEq, repliesEq⟩
      obtain ⟨result, ran, buffersEq⟩ := ih
        (fun other member => singles other (List.mem_cons_of_mem message member))
        (queued.toList.foldl ResponseBuilder.call builder) next
      refine ⟨result, ?_, ?_⟩
      · rw [Kernel.run, step, handleEach, stateEq]
        exact ran
      · rw [buffersEq, ResponseBuilder.foldl_call_buffers, repliesEach, stateEq, repliesEq,
          List.append_assoc]

/-- What `handle` returns for an accepted frame is made of the sub-responses
queued. -/
theorem handle_outcome_eq (env : Environment) {frame : Bytes} (session : Ref) (state : State)
    (complete : Kernel.completes frame = true) :
    (handle env frame session state).outcome =
      Outcome.ofBuffers (({ buffers := queuedReplies env session frame state } :
        BaseBuilder).getData (decide ((state.memory session).type = .tcp))) := by
  rcases run_ok env session (Kernel.dispatched frame) {} state with ⟨builder, next, ran⟩
  rw [handle, Kernel.handle_eq, queuedReplies, ran, complete]
  simp only [Kernel.conclude, Kernel.finish, if_true]
  have onlyBuffers : builder.getBuffers (decide ((state.memory session).type = .tcp)) =
      ({ buffers := builder.buffers } : BaseBuilder).getData
        (decide ((state.memory session).type = .tcp)) := rfl
  rw [onlyBuffers]
  cases ({ buffers := builder.buffers } : BaseBuilder).getData
    (decide ((state.memory session).type = .tcp)) <;> rfl

/-- A frame and the frames of its sub-messages leave the same node behind, and
the one reply carries what the single replies carry, in order. -/
theorem frame_eq_handleEach (env : Environment) (frame : Bytes) (session : Ref) (state : State) :
    (∀ message ∈ Kernel.dispatched frame,
        Kernel.completes (frameOf [message]) = true ∧
          Kernel.dispatched (frameOf [message]) = [message]) ∧
      (handle env frame session state).state =
        handleEach env session (Kernel.dispatched frame) state ∧
      queuedReplies env session frame state =
        repliesEach env session (Kernel.dispatched frame) state ∧
      (Kernel.completes frame = true → (handle env frame session state).outcome =
        Outcome.ofBuffers (({ buffers := queuedReplies env session frame state } :
          BaseBuilder).getData (decide ((state.memory session).type = .tcp)))) := by
  have singles : ∀ message ∈ Kernel.dispatched frame,
      IsFrame (frameOf [message]) [message] [] := fun _ member => isFrame_single member
  obtain ⟨result, ran, buffersEq⟩ : ∃ result,
      Kernel.run (handlers env session) (Kernel.dispatched frame) {} state =
          (.ok result, handleEach env session (Kernel.dispatched frame) state) ∧
        result.buffers = [] ++ repliesEach env session (Kernel.dispatched frame) state :=
    run_eq_handleEach _ singles {} state
  refine ⟨?_, ?_, ?_, handle_outcome_eq env session state⟩
  · intro message member
    exact (Kernel.dispatched_of_isFrame (singles message member)).symm
  · rw [handle_state, ran]
  · rw [queuedReplies, ran]
    exact buffersEq

end Aurum.Node
