import Aurum.Node.Frames

/-!
# What a leave request removes

A leave erases whatever session is registered under the identifier it names,
without a look at its type, at how it came to be registered or at who asks.
-/

namespace Aurum.Node

open Aurum.Protocol
open Aurum.Container

/-- The session object was built by the join handler for the node that a
session belongs to. -/
def JoinedThrough (session : Ref) (state : State) (ref : Ref) : Prop :=
  (state.memory ref).type = .websocket ∧
    (state.memory ref).origin = .joined (state.memory session).nodeId

/-- The sub-message is a leave request for an identifier. -/
def Leaves (message : Submessage) (id : Uuid) : Prop :=
  message.opcode = OpCode.leave.byte ∧ message.type ≠ .response ∧
    readUuid message.payload 0 = .ok id

/-- Everything the leave requests of a frame remove was joined through the
session the frame arrived on. -/
def RemovesOwn (env : Environment) (frame : Bytes) (session : Ref) (state : State) : Prop :=
  ∀ call ∈ calls env frame session state, call.message.opcode = OpCode.leave.byte →
    ∀ entry ∈ call.before.sessions, entry ∉ call.after.sessions →
      JoinedThrough session call.before entry.elem

/-- The type of a session object never changes. -/
theorem closed_type (env : Environment) (ref : Ref) (type : SessionType) :
    Closed env fun state => ref < state.allocated ∧ (state.memory ref).type = type where
  quiet := by
    rintro state next ⟨created, typed⟩ - memoryEq allocatedEq -
    rw [memoryEq, allocatedEq]
    exact ⟨created, typed⟩
  update := by
    rintro state other change unchanged ⟨created, typed⟩
    refine ⟨created, ?_⟩
    by_cases same : ref = other
    · subst same
      rw [State.update_memory_self, ← typed]
      exact congrArg Key.type (unchanged _).1
    · rw [State.update_memory_of_ne same]
      exact typed
  allocate := by
    rintro state session - ⟨created, typed⟩
    refine ⟨Nat.lt_succ_of_lt created, ?_⟩
    rw [State.allocate_memory_of_ne session (Nat.ne_of_lt created)]
    exact typed
  addSession := by
    rintro state other - kept
    exact kept
  erase := by
    rintro state entries - kept
    exact kept

/-- A session has the same type before every call of a frame. -/
theorem calls_type {env : Environment} {state : State} {session : Ref} {type : SessionType}
    (created : session < state.allocated) (typed : (state.memory session).type = type)
    (frame : Bytes) :
    ∀ call ∈ calls env frame session state, (call.before.memory session).type = type := by
  have tagged : ∀ state : State,
      (session < state.allocated ∧ (state.memory session).type = type) →
        ∀ id, session < (state.setNodeId session id).allocated ∧
          ((state.setNodeId session id).memory session).type = type := by
    rintro state ⟨stillCreated, stillTyped⟩ id
    refine ⟨stillCreated, ?_⟩
    rw [State.setNodeId, State.update_memory_self]
    exact stillTyped
  intro call member
  exact ((closed_type env session type).aroundCalls tagged ⟨created, typed⟩ frame call member).1.2

/-- A sub-message with the opcode of a leave does nothing or erases. -/
theorem Effect.of_leave {env : Environment} {session : Ref} {message : Submessage}
    {state next : State} (opcode : message.opcode = OpCode.leave.byte)
    (effect : Effect env session message state next) :
    next = state ∨ ∃ id, Leaves message id ∧
      next = { state with sessions := state.sessions.filter fun entry => entry.key.id ≠ id } := by
  cases effect with
  | none => exact Or.inl rfl
  | left id opcode request tcp named => exact Or.inr ⟨id, ⟨opcode, request, named⟩, rfl⟩
  | identified id port host posted other tcp named =>
      rw [opcode] at other
      exact absurd other (by decide)
  | discovered next other response visited =>
      rw [opcode] at other
      exact absurd other (by decide)
  | joined id other request tcp named =>
      rw [opcode] at other
      exact absurd other (by decide)

/-- A leave request on a TCP session erases its identifier. -/
theorem invoke_leave {env : Environment} {session : Ref} {message : Submessage}
    {builder result : ResponseBuilder} {state next : State} {id : Uuid}
    (tcp : (state.memory session).type = .tcp) (leaves : Leaves message id)
    (step : Kernel.invoke (handlers env session) message builder state = .ok (result, next)) :
    next.sessions = state.sessions.filter fun entry => entry.key.id ≠ id := by
  rcases leaves with ⟨opcode, request, named⟩
  have dispatch : Kernel.invoke (handlers env session) message builder state =
      Handlers.leave session message.type builder message.transactionId message.payload
        state := by
    rw [Kernel.invoke, handlers, opcode]
    rfl
  obtain ⟨count, left⟩ := Handlers.leave_eq tcp request named
  rw [dispatch, left] at step
  cases step
  rfl

/-- A frame removes only what was joined through its session exactly when each
identifier that a leave request in it names is, as the request is handled,
either not registered or registered by such a join. -/
theorem removesOwn_iff {env : Environment} {state : State}
    (reachable : (machine env).Reachable state) {session : Ref}
    (created : session < state.allocated) (tcp : (state.memory session).type = .tcp)
    (frame : Bytes) :
    RemovesOwn env frame session state ↔
      ∀ call ∈ calls env frame session state, ∀ id, Leaves call.message id →
        ∀ entry, call.before.sessions.findById id = some entry →
          JoinedThrough session call.before entry.elem := by
  have typed : ∀ call ∈ calls env frame session state, (call.before.memory session).type = .tcp :=
    calls_type created tcp frame
  have formed : ∀ call ∈ calls env frame session state,
      WellFormed call.before ∧ WellFormed call.after :=
    (wellFormed_of_reachable reachable).calls frame session
  constructor
  · intro own call member id leaves entry found
    obtain ⟨_, _, _, invoked⟩ := Kernel.mem_calls member
    obtain ⟨registered, keyEq⟩ := mem_of_findUnique found
    refine own call member leaves.1 entry registered ?_
    rw [invoke_leave (typed call member) leaves invoked]
    simp [keyEq]
  · intro named call member opcode entry registered removed
    obtain ⟨_, _, _, invoked⟩ := Kernel.mem_calls member
    rcases (invoke_effect invoked).of_leave opcode with same | ⟨id, leaves, left⟩
    · rw [same] at removed
      exact absurd registered removed
    · rw [left] at removed
      have keyEq : entry.key.id = id := by
        by_contra differs
        exact removed (List.mem_filter.mpr ⟨registered, by simpa using differs⟩)
      apply named call member id leaves entry
      rw [← keyEq]
      exact ((formed call member).1.distinct).findUnique_of_mem registered

/-! ## A leave for a session of another peer -/

/-- A leave request for the identifier of the second session. -/
def strayLeave : Submessage :=
  ⟨OpCode.leave.byte, .request, Uuid.nil, (Uuid.filled 3).data⟩

theorem removesOwn_iff_strayLeave :
    RemovesOwn countingEnvironment (frameOf [strayLeave]) 0 twoLinks ↔
      ∀ call ∈ calls countingEnvironment (frameOf [strayLeave]) 0 twoLinks,
        ∀ id, Leaves call.message id →
          ∀ entry, call.before.sessions.findById id = some entry →
            JoinedThrough 0 call.before entry.elem :=
  removesOwn_iff twoLinks_reachable (by decide) rfl _

/-- Sent by the first peer, it removes the TCP session of the second. -/
theorem strayLeave_removes :
    (machine countingEnvironment).Reachable twoLinks ∧
      twoLinks.sessions.refs = [1, 0] ∧ (twoLinks.memory 1).type = .tcp ∧
      (handle countingEnvironment (frameOf [strayLeave]) 0
        twoLinks).state.sessions.refs = [0] := by
  refine ⟨twoLinks_reachable, rfl, rfl, ?_⟩
  rw [handle_state,
    (Kernel.dispatched_of_isFrame (isFrame_frameOf (by decide) (by decide))).1]
  decide +kernel

end Aurum.Node
