import Aurum.Node.Closure
import Aurum.Node.Discovery

/-!
# Totality

Every operation of a node returns: the parsers read inside their buffers, and
the one request or two that an operation builds always fit into a frame.  The
only failure that can leave `handle` is the guard of `get_data` on the replies.
-/

namespace Aurum.Node

open Aurum.Protocol
open Aurum.Container

theorem exists_bind_ok {α β : Type} {first : Result α} {next : α → Result β}
    (returns : ∃ middle, first = .ok middle)
    (continues : ∀ middle, ∃ value, next middle = .ok value) :
    ∃ value, (first >>= next) = .ok value := by
  rcases returns with ⟨middle, rfl⟩
  exact continues middle

namespace State

variable (env : Environment)

theorem disconnectSession_ok (ref : Ref) (state : State) :
    ∃ next, state.disconnectSession env ref = .ok next := by
  unfold disconnectSession
  split
  · exact ⟨_, rfl⟩
  · exact exists_bind_ok (getData_ok_of_fits (addLeave_fits _ _) true) fun data => ⟨_, rfl⟩

theorem removeSession_ok (id : Uuid) (state : State) :
    ∃ result, state.removeSession env id = .ok result := by
  unfold removeSession
  split
  · exact exists_bind_ok (disconnectSession_ok env _ _) fun next => ⟨_, rfl⟩
  · exact ⟨_, rfl⟩

theorem removeSessions_ok (ids : List Uuid) (state : State) :
    ∃ next, state.removeSessions env ids = .ok next := by
  induction ids generalizing state with
  | nil => exact ⟨state, rfl⟩
  | cons id ids ih =>
      exact exists_bind_ok (removeSession_ok env id state) fun result => ih result.2

theorem openSession_ok (withDiscovery : Bool) (connectionsPerNode : UInt16) (state : State) :
    ∃ result, state.openSession env withDiscovery connectionsPerNode = .ok result := by
  unfold openSession
  simp only
  split
  · exact exists_bind_ok (getData_ok_of_fits (openRequest_fits env _ _ _) true)
      fun buffer => ⟨_, rfl⟩
  · exact ⟨_, rfl⟩

theorem connect_ok (host : Bytes) (port : UInt16) (withDiscovery : Bool)
    (connectionsPerNode : UInt16) (state : State) :
    ∃ result, state.connect env host port withDiscovery connectionsPerNode = .ok result := by
  unfold connect
  simp only
  split
  · exact openSession_ok env _ _ _
  · exact ⟨_, rfl⟩

theorem runPosted_ok (state : State) : ∃ next, state.runPosted env = .ok next := by
  unfold runPosted
  split
  · exact ⟨_, rfl⟩
  · exact exists_bind_ok (connect_ok env _ _ _ _ _) fun result => ⟨_, rfl⟩

theorem onAccept_ok (ref : Ref) (failed : Bool) (state : State) :
    ∃ next, state.onAccept env ref failed = .ok next := by
  unfold onAccept
  split
  · exact exists_bind_ok (removeSession_ok env _ _) fun result => ⟨_, rfl⟩
  · exact exists_bind_ok (getData_ok_of_fits (addJoin_fits _ _) true) fun data => ⟨_, rfl⟩

end State

namespace Handlers

theorem visitEndpoint_ok (env : Environment) (endpoint : Endpoint) (state : State) :
    ∃ next, visitEndpoint env endpoint state = .ok next := by
  unfold visitEndpoint
  split
  · exact ⟨_, rfl⟩
  · exact exists_bind_ok (State.connect_ok env _ _ _ _ _) fun result => ⟨_, rfl⟩

theorem visitAll_ok (env : Environment) (endpoints : List Endpoint) (state : State) :
    ∃ next, visitAll env endpoints state = .ok next := by
  induction endpoints generalizing state with
  | nil => exact ⟨state, rfl⟩
  | cons endpoint endpoints ih =>
      exact exists_bind_ok (visitEndpoint_ok env endpoint state) fun next => ih next

theorem identify_ok (session : Ref) (type : MessageType) (builder : ResponseBuilder)
    (transactionId : Uuid) (payload : Bytes) (state : State) :
    ∃ result, identify session type builder transactionId payload state = .ok result := by
  unfold identify
  split
  · exact ⟨_, rfl⟩
  split
  · exact ⟨_, rfl⟩
  rename_i longEnough
  have inside : 0 + 16 ≤ payload.length := by omega
  obtain ⟨remoteNodeId, idRead, _⟩ := readUuid_of_le inside
  rw [idRead]
  simp only [bind, Except.bind]
  split
  · rename_i full
    rw [readU16_of_le (by omega), readU16_of_le (by omega)]
    simp only
    split
    · rw [readBytes_of_le (by omega)]
      simp only
      split <;> exact ⟨_, rfl⟩
    · exact ⟨_, rfl⟩
  · split <;> exact ⟨_, rfl⟩

theorem discovery_ok (env : Environment) (session : Ref) (type : MessageType)
    (builder : ResponseBuilder) (transactionId : Uuid) (payload : Bytes) (state : State) :
    ∃ result, discovery env session type builder transactionId payload state = .ok result := by
  by_cases isResponse : type = .response
  · obtain ⟨next, visited⟩ := visitAll_ok env (listed payload) state
    rw [isResponse, discovery_response_eq, visited]
    exact ⟨_, rfl⟩
  · unfold discovery
    rw [if_neg isResponse]
    split <;> exact ⟨_, rfl⟩

theorem join_ok (env : Environment) (session : Ref) (type : MessageType)
    (builder : ResponseBuilder) (transactionId : Uuid) (payload : Bytes) (state : State) :
    ∃ result, join env session type builder transactionId payload state = .ok result := by
  unfold join
  split
  · exact ⟨_, rfl⟩
  split
  · exact ⟨_, rfl⟩
  rename_i longEnough
  have inside : 0 + 16 ≤ payload.length := by omega
  obtain ⟨websocketId, idRead, _⟩ := readUuid_of_le inside
  rw [idRead]
  exact ⟨_, rfl⟩

theorem leave_ok (session : Ref) (type : MessageType) (builder : ResponseBuilder)
    (transactionId : Uuid) (payload : Bytes) (state : State) :
    ∃ result, leave session type builder transactionId payload state = .ok result := by
  unfold leave
  split
  · exact ⟨_, rfl⟩
  split
  · exact ⟨_, rfl⟩
  rename_i longEnough
  have inside : 0 + 16 ≤ payload.length := by omega
  obtain ⟨websocketId, idRead, _⟩ := readUuid_of_le inside
  rw [idRead]
  exact ⟨_, rfl⟩

end Handlers

/-- Every handler returns, whatever it is given. -/
theorem invoke_ok (env : Environment) (session : Ref) (message : Submessage)
    (builder : ResponseBuilder) (state : State) :
    ∃ result, Kernel.invoke (handlers env session) message builder state = .ok result := by
  unfold Kernel.invoke handlers
  split
  · unfold Handlers.ping
    split <;> exact ⟨_, rfl⟩
  split
  · exact Handlers.identify_ok session _ _ _ _ _
  split
  · exact Handlers.discovery_ok env session _ _ _ _ _
  split
  · exact Handlers.join_ok env session _ _ _ _ _
  split
  · exact Handlers.leave_ok session _ _ _ _ _
  split
  · unfold Handlers.whoami
    split <;> exact ⟨_, rfl⟩
  · unfold Handlers.nonImplemented
    split <;> exact ⟨_, rfl⟩

theorem run_ok (env : Environment) (session : Ref) (messages : List Submessage)
    (builder : ResponseBuilder) (state : State) :
    ∃ replies next, Kernel.run (handlers env session) messages builder state =
      (.ok replies, next) := by
  induction messages generalizing builder state with
  | nil => exact ⟨builder, state, rfl⟩
  | cons message messages ih =>
      obtain ⟨⟨replies, middle⟩, step⟩ := invoke_ok env session message builder state
      rw [Kernel.run, step]
      exact ih replies middle

/-- The state a node is left in by a frame is the one the dispatched
sub-messages leave. -/
theorem handle_state (env : Environment) (frame : Bytes) (session : Ref) (state : State) :
    (handle env frame session state).state =
      (Kernel.run (handlers env session) (Kernel.dispatched frame) {} state).2 := by
  obtain ⟨replies, next, ran⟩ := run_ok env session (Kernel.dispatched frame) {} state
  rw [handle, Kernel.handle_eq, ran]
  cases Kernel.completes frame with
  | false => rfl
  | true =>
      simp only [Kernel.conclude, Kernel.finish, if_true]
      cases replies.getBuffers (decide ((state.memory session).type = .tcp)) <;> rfl

/-- A frame is rejected exactly when the parser stops before its end. -/
theorem handle_rejected_iff (env : Environment) (frame : Bytes) (session : Ref) (state : State) :
    (handle env frame session state).outcome = .rejected ↔ Kernel.completes frame = false := by
  obtain ⟨replies, next, ran⟩ := run_ok env session (Kernel.dispatched frame) {} state
  rw [handle, Kernel.handle_eq, ran]
  cases Kernel.completes frame with
  | false => simp [Kernel.conclude, Kernel.finish]
  | true =>
      simp only [Kernel.conclude, Kernel.finish, if_true]
      cases replies.getBuffers (decide ((state.memory session).type = .tcp)) <;> simp

end Aurum.Node
