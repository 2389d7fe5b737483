import Aurum.Node.Totality
import Aurum.Transition.Machine

/-!
# Runs of a node

A node takes one event at a time: an accept, a finished handshake, a call of
one of the operations of `state`, or a frame read on some session.  The session
of a frame need not be registered any more.  `WellFormed` collects what holds
of registry and session objects in every state reached.
-/

namespace Aurum.Node

open Aurum.Protocol
open Aurum.Container
open Aurum.Transition

/-- What can happen to a node. -/
inductive Event
  | acceptTcp
  | acceptWebsocket
  | handshake (ref : Ref) (failed : Bool)
  | connect (host : Bytes) (port : UInt16) (withDiscovery : Bool) (connectionsPerNode : UInt16)
  | runPosted
  /-- A session object built by a caller of `state`. -/
  | create (session : Session)
  | addSession (ref : Ref)
  | removeSession (id : Uuid)
  | disconnect (node : Uuid)
  | disconnectAll
  | sendToNode (node : Uuid) (message : Bytes)
  | frame (ref : Ref) (bytes : Bytes)

/-- The session objects an event names exist. -/
def Event.Enabled (state : State) : Event → Prop
  | .handshake ref _ | .addSession ref | .frame ref _ => ref < state.allocated
  | .create session => session.origin = .external
  | _ => True

instance (state : State) (event : Event) : Decidable (event.Enabled state) := by
  unfold Event.Enabled
  split <;> infer_instance

namespace State

/-- A frame read on a session: handle it and send the reply, if there is one. -/
def receive (env : Environment) (ref : Ref) (bytes : Bytes) (state : State) : State :=
  let handled := handle env bytes ref state
  match handled.outcome with
  | .replied buffer => handled.state.send ref buffer
  | _ => handled.state

def perform (env : Environment) (state : State) : Event → Result State
  | .acceptTcp => .ok (state.acceptTcp env)
  | .acceptWebsocket => .ok (state.acceptWebsocket env)
  | .handshake ref failed => state.onAccept env ref failed
  | .connect host port withDiscovery connectionsPerNode => do
      let (_, state) ← state.connect env host port withDiscovery connectionsPerNode
      return state
  | .runPosted => state.runPosted env
  | .create session => .ok (state.allocate session)
  | .addSession ref => .ok (state.addSession env ref).2
  | .removeSession id => do
      let (_, state) ← state.removeSession env id
      return state
  | .disconnect node => state.disconnect env node
  | .disconnectAll => state.disconnectAll env
  | .sendToNode node message => .ok (state.sendToNode env node message)
  | .frame ref bytes => .ok (state.receive env ref bytes)

end State

/-- A node with its events. -/
def machine (env : Environment) : Machine State Event where
  start state := ∃ nodeId tcpPort, state = State.initial nodeId tcpPort
  step state event next := event.Enabled state ∧ state.perform env event = .ok next

/-- Every event a node is given is carried out. -/
theorem perform_ok (env : Environment) (state : State) (event : Event) :
    ∃ next, state.perform env event = .ok next := by
  cases event with
  | handshake ref failed => exact State.onAccept_ok env ref failed state
  | connect host port withDiscovery connectionsPerNode =>
      exact exists_bind_ok (State.connect_ok env _ _ _ _ _) fun result => ⟨_, rfl⟩
  | runPosted => exact State.runPosted_ok env state
  | removeSession id =>
      exact exists_bind_ok (State.removeSession_ok env id state) fun result => ⟨_, rfl⟩
  | disconnect node => exact State.removeSessions_ok env _ state
  | disconnectAll => exact State.removeSessions_ok env _ state
  | acceptTcp => exact ⟨_, rfl⟩
  | acceptWebsocket => exact ⟨_, rfl⟩
  | create session => exact ⟨_, rfl⟩
  | addSession ref => exact ⟨_, rfl⟩
  | sendToNode node message => exact ⟨_, rfl⟩
  | frame ref bytes => exact ⟨_, rfl⟩

/-! ## Handling frames -/

/-- The handler calls a frame causes. -/
def calls (env : Environment) (frame : Bytes) (session : Ref) (state : State) :
    List (Kernel.Call State) :=
  Kernel.calls (handlers env session) (Kernel.dispatched frame) {} state

/-- What every call of a frame keeps, handling the frame keeps. -/
theorem handle_keeps (holds : State → Prop) {env : Environment} {frame : Bytes} {session : Ref}
    {state : State}
    (kept : ∀ call ∈ calls env frame session state, holds call.before → holds call.after)
    (starts : holds state) : holds (handle env frame session state).state := by
  rw [handle_state]
  exact Kernel.run_keeps holds kept starts

/-- Receiving a frame is handling it, but for the messages sent. -/
theorem exists_receive_eq (env : Environment) (session : Ref) (frame : Bytes) (state : State) :
    ∃ sent, state.receive env session frame =
      { (handle env frame session state).state with sent := sent } := by
  unfold State.receive
  simp only
  split
  · exact ⟨_, rfl⟩
  · exact ⟨_, rfl⟩

namespace Closed

variable {env : Environment} {holds : State → Prop} (closed : Closed env holds)

include closed

theorem sendToNode {state : State} (node : Uuid) (message : Bytes) (kept : holds state) :
    holds (state.sendToNode env node message) := by
  unfold State.sendToNode
  simp only
  split
  · split <;> exact closed.quiet kept rfl rfl rfl rfl
  · exact kept

/-- A closed property is kept by a frame, unless an identify request or
response in it breaks the property by overwriting a node id. -/
theorem handle {state : State} {session : Ref} {frame : Bytes}
    (retagged : ∀ call ∈ calls env frame session state, holds call.before →
      ∀ id, Retags session call.message call.before id →
        holds (call.before.setNodeId session id))
    (kept : holds state) : holds (Node.handle env frame session state).state := by
  refine handle_keeps holds ?_ kept
  intro call member before
  obtain ⟨_, builder, result, invoked⟩ := Kernel.mem_calls member
  exact closed.effect (invoke_effect invoked) (fun id => retagged call member before id) before

/-- A closed property that no node id breaks holds around every call. -/
theorem aroundCalls {state : State} {session : Ref}
    (tagged : ∀ state : State, holds state → ∀ id, holds (state.setNodeId session id))
    (kept : holds state) (frame : Bytes) :
    ∀ call ∈ Node.calls env frame session state, holds call.before ∧ holds call.after := by
  refine Kernel.holds_along_calls holds ?_ kept
  intro call member before
  obtain ⟨_, builder, result, invoked⟩ := Kernel.mem_calls member
  exact closed.effect (invoke_effect invoked) (fun id _ => tagged _ before id) before

theorem receive {state : State} {session : Ref} {frame : Bytes}
    (retagged : ∀ call ∈ calls env frame session state, holds call.before →
      ∀ id, Retags session call.message call.before id →
        holds (call.before.setNodeId session id))
    (kept : holds state) : holds (state.receive env session frame) := by
  have handled := closed.handle retagged kept
  unfold State.receive
  simp only
  split
  · exact closed.quiet handled rfl rfl rfl rfl
  · exact handled

/-- Every event keeps a closed property, with the proviso for frames. -/
theorem perform {state next : State} {event : Event} (enabled : event.Enabled state)
    (step : state.perform env event = .ok next)
    (retagged : ∀ session frame, event = .frame session frame →
      ∀ call ∈ calls env frame session state, holds call.before →
        ∀ id, Retags session call.message call.before id →
          holds (call.before.setNodeId session id))
    (kept : holds state) : holds next := by
  cases event with
  | acceptTcp =>
      cases step
      exact closed.acceptTcp kept
  | acceptWebsocket =>
      cases step
      exact closed.acceptWebsocket kept
  | handshake ref failed => exact closed.onAccept step kept
  | connect host port withDiscovery connectionsPerNode =>
      obtain ⟨⟨connected, middle⟩, dial, result⟩ := Result.bind_eq_ok_iff.mp step
      cases result
      exact closed.connect dial kept
  | runPosted => exact closed.runPosted step kept
  | create session =>
      cases step
      refine closed.allocate session ?_ kept
      intro node joined
      have external : session.origin = .external := enabled
      rw [external] at joined
      cases joined
  | addSession ref =>
      cases step
      exact closed.addSession ref enabled kept
  | removeSession id =>
      obtain ⟨⟨removed, middle⟩, removal, result⟩ := Result.bind_eq_ok_iff.mp step
      cases result
      exact closed.removeSession removal kept
  | disconnect node => exact closed.removeSessions step kept
  | disconnectAll => exact closed.removeSessions step kept
  | sendToNode node message =>
      cases step
      exact closed.sendToNode node message kept
  | frame ref bytes =>
      cases step
      exact closed.receive (retagged ref bytes rfl) kept

end Closed

/-! ## Well-formed states -/

/-- What holds of registry and session objects in every state reached. -/
structure WellFormed (state : State) : Prop where
  /-- Registered sessions exist. -/
  allocated : ∀ entry ∈ state.sessions, entry.elem < state.allocated
  /-- No two registered sessions share an identifier. -/
  distinct : UniqueKeys Key.id state.sessions
  /-- Identifier and type of a session never change. -/
  filed : ∀ entry ∈ state.sessions, entry.key.id = (state.memory entry.elem).id ∧
    entry.key.type = (state.memory entry.elem).type
  /-- Placeholders built by the join handler are websocket sessions. -/
  placeholder : ∀ ref node, (state.memory ref).origin = .joined node →
    (state.memory ref).type = .websocket

namespace WellFormed

variable {state : State}

theorem initial (nodeId : Uuid) (tcpPort : UInt16) :
    WellFormed (State.initial nodeId tcpPort) where
  allocated := by simp [State.initial]
  distinct := List.nodup_nil
  filed := by simp [State.initial]
  placeholder := by
    intro ref node joined
    cases joined

/-- Overwriting a session without touching its identifier, type and origin. -/
theorem update (wellFormed : WellFormed state) (ref : Ref) (change : Session → Session)
    (unchanged : ∀ session, (change session).id = session.id ∧
      (change session).type = session.type ∧ (change session).origin = session.origin) :
    WellFormed (state.update ref change) := by
  have same : ∀ other,
      ((state.update ref change).memory other).id = (state.memory other).id ∧
        ((state.update ref change).memory other).type = (state.memory other).type ∧
          ((state.update ref change).memory other).origin = (state.memory other).origin := by
    intro other
    by_cases isRef : other = ref
    · subst isRef
      rw [State.update_memory_self]
      exact unchanged _
    · rw [State.update_memory_of_ne isRef]
      exact ⟨rfl, rfl, rfl⟩
  refine ⟨wellFormed.allocated, wellFormed.distinct, ?_, ?_⟩
  · intro entry member
    rw [(same entry.elem).1, (same entry.elem).2.1]
    exact wellFormed.filed entry member
  · intro other node joined
    rw [(same other).2.2] at joined
    rw [(same other).2.1]
    exact wellFormed.placeholder other node joined

theorem setNodeId (wellFormed : WellFormed state) (ref : Ref) (id : Uuid) :
    WellFormed (state.setNodeId ref id) :=
  wellFormed.update ref _ fun _ => ⟨rfl, rfl, rfl⟩

end WellFormed

/-- The registry is well formed after every primitive change. -/
theorem closed_wellFormed (env : Environment) : Closed env WellFormed where
  quiet := by
    rintro state next wellFormed - memoryEq allocatedEq sessionsEq
    constructor
    · rw [sessionsEq, allocatedEq]
      exact wellFormed.allocated
    · rw [sessionsEq]
      exact wellFormed.distinct
    · rw [sessionsEq, memoryEq]
      exact wellFormed.filed
    · rw [memoryEq]
      exact wellFormed.placeholder
  update := by
    intro state ref change unchanged wellFormed
    refine wellFormed.update ref change fun session => ?_
    obtain ⟨keyEq, originEq⟩ := unchanged session
    exact ⟨congrArg Key.id keyEq, congrArg Key.type keyEq, originEq⟩
  allocate := by
    intro state session placeholder wellFormed
    constructor
    · intro entry member
      exact Nat.lt_succ_of_lt (wellFormed.allocated entry member)
    · exact wellFormed.distinct
    · intro entry member
      have older : entry.elem ≠ state.allocated :=
        Nat.ne_of_lt (wellFormed.allocated entry member)
      rw [State.allocate_memory_of_ne session older]
      exact wellFormed.filed entry member
    · intro ref node joined
      by_cases isNew : ref = state.allocated
      · subst isNew
        rw [State.allocate_memory_self] at joined ⊢
        exact placeholder node joined
      · rw [State.allocate_memory_of_ne session isNew] at joined ⊢
        exact wellFormed.placeholder ref node joined
  addSession := by
    intro state ref exists_ wellFormed
    constructor
    · intro entry member
      rcases mem_insertUnique member with rfl | member
      · exact exists_
      · exact wellFormed.allocated entry member
    · exact wellFormed.distinct.insertUnique env.placement _
    · intro entry member
      rcases mem_insertUnique member with rfl | member
      · exact ⟨rfl, rfl⟩
      · exact wellFormed.filed entry member
    · exact wellFormed.placeholder
  erase := by
    intro state kept sublist wellFormed
    constructor
    · intro entry member
      exact wellFormed.allocated entry (sublist.subset member)
    · exact (sublist.map _).nodup wellFormed.distinct
    · intro entry member
      exact wellFormed.filed entry (sublist.subset member)
    · exact wellFormed.placeholder

theorem WellFormed.handle {env : Environment} {state : State} (wellFormed : WellFormed state)
    (frame : Bytes) (session : Ref) :
    WellFormed (Node.handle env frame session state).state :=
  (closed_wellFormed env).handle (fun _ _ before id _ => before.setNodeId session id) wellFormed

/-- The states around the calls of a frame are well formed. -/
theorem WellFormed.calls {env : Environment} {state : State} (wellFormed : WellFormed state)
    (frame : Bytes) (session : Ref) :
    ∀ call ∈ Node.calls env frame session state,
      WellFormed call.before ∧ WellFormed call.after :=
  (closed_wellFormed env).aroundCalls (fun _ before => before.setNodeId session) wellFormed frame

/-- Every state a node can be in is well formed. -/
theorem wellFormed_of_reachable {env : Environment} {state : State}
    (reachable : (machine env).Reachable state) : WellFormed state := by
  refine reachable.invariant ?_ ?_
  · rintro start ⟨nodeId, tcpPort, rfl⟩
    exact WellFormed.initial nodeId tcpPort
  · rintro before event next _ wellFormed ⟨enabled, step⟩
    exact (closed_wellFormed env).perform enabled step
      (fun session _ _ _ _ called id _ => called.setNodeId session id) wellFormed

/-! ## Two small nodes -/

/-- No connect succeeds and every random identifier is `2…2`. -/
def stillEnvironment : Environment :=
  .plain (fun _ => Uuid.filled 2) fun _ => false

/-- A node with one accepted TCP session. -/
def oneLink : State :=
  (State.initial (Uuid.filled 1) 0).acceptTcp stillEnvironment

theorem oneLink_reachable : (machine stillEnvironment).Reachable oneLink :=
  have accepted : (machine stillEnvironment).step (State.initial (Uuid.filled 1) 0) .acceptTcp
      oneLink :=
    ⟨trivial, rfl⟩
  .step (.start ⟨Uuid.filled 1, 0, rfl⟩) accepted

/-- No connect succeeds and the random identifiers are `2…2`, `3…3` and so on. -/
def countingEnvironment : Environment :=
  .plain (fun drawn => Uuid.filled (UInt8.ofNat (drawn + 2))) fun _ => false

section

variable (env : Environment) (allowed : State → Event → Prop)
  [∀ state, DecidablePred (allowed state)]

/-- The node after some events, if each was possible and allowed. -/
def run (events : List Event) : Option State :=
  events.foldlM
    (Machine.carry (fun state event => allowed state event ∧ event.Enabled state)
      fun state event => (state.perform env event).toOption)
    (State.initial (Uuid.filled 1) 0)

variable {env allowed}

theorem reachable_of_run {events : List Event} {state : State}
    (ran : run env allowed events = some state) :
    ((machine env).under allowed).Reachable state := by
  have starts : ((machine env).under allowed).Reachable (State.initial (Uuid.filled 1) 0) :=
    .start ⟨Uuid.filled 1, 0, rfl⟩
  refine starts.foldlM ?_ ran
  intro before event next carried
  obtain ⟨⟨isAllowed, enabled⟩, performed⟩ := Machine.carry_eq_some_iff.mp carried
  exact ⟨isAllowed, enabled, Result.toOption_eq_some_iff.mp performed⟩

end

/-- A node with two accepted TCP sessions. -/
def twoLinks : State :=
  ((State.initial (Uuid.filled 1) 0).acceptTcp countingEnvironment).acceptTcp countingEnvironment

theorem twoLinks_reachable : (machine countingEnvironment).Reachable twoLinks :=
  have first : (machine countingEnvironment).step (State.initial (Uuid.filled 1) 0) .acceptTcp
      ((State.initial (Uuid.filled 1) 0).acceptTcp countingEnvironment) :=
    ⟨trivial, rfl⟩
  have second : (machine countingEnvironment).step
      ((State.initial (Uuid.filled 1) 0).acceptTcp countingEnvironment) .acceptTcp twoLinks :=
    ⟨trivial, rfl⟩
  .step (.step (.start ⟨Uuid.filled 1, 0, rfl⟩) first) second

end Aurum.Node
