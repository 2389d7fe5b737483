import Aurum.Node.Effects

/-!
# What the operations do to sessions and registry

Every operation of a node is total: no read leaves its buffer and no request
it builds is refused.  On session objects and registry an operation acts only
through a few primitive changes.  A property that is closed under those is
kept by every operation, with one proviso: the identify handler overwrites the
node id of its session, which is asked for separately.
-/

namespace Aurum.Node

open Aurum.Protocol
open Aurum.Container
open Aurum.Wire.LittleEndian

/-! ## Requests a node builds -/

theorem getData_ok_of_fits {builder : BaseBuilder} (fits : builder.Fits) (withHeader : Bool) :
    ∃ data, builder.getData withHeader = .ok data := by
  by_cases queued : builder.buffers = []
  · exact ⟨[], BaseBuilder.getData_nil queued withHeader⟩
  · exact ⟨_, BaseBuilder.getData_of_fits queued fits withHeader⟩

theorem openRequest_fits (env : Environment) (withDiscovery : Bool) (connectionsPerNode : UInt16)
    (state : State) : (state.openRequest env withDiscovery connectionsPerNode).Fits := by
  cases withDiscovery <;>
    simp [BaseBuilder.Fits, State.openRequest, RequestBuilder.addIdentify,
      RequestBuilder.addDiscovery, BaseBuilder.push, State.localHost, maxRequestsPerFrame,
      maxFramePayloadSize]

theorem addJoin_fits (websocketId id : Uuid) :
    (({} : RequestBuilder).addJoin websocketId id).Fits := by
  simp [BaseBuilder.Fits, RequestBuilder.addJoin, BaseBuilder.push, maxRequestsPerFrame,
    maxFramePayloadSize]

theorem addLeave_fits (websocketId id : Uuid) :
    (({} : RequestBuilder).addLeave websocketId id).Fits := by
  simp [BaseBuilder.Fits, RequestBuilder.addLeave, BaseBuilder.push, maxRequestsPerFrame,
    maxFramePayloadSize]

namespace State

/-- Sending a message to several sessions only sends. -/
theorem foldl_send_eq (message : Bytes) (targets : List Ref) (state : State) :
    targets.foldl (fun state target => state.send target message) state =
      { state with sent := state.sent ++ targets.map fun ref => (ref, message) } := by
  induction targets generalizing state with
  | nil => simp
  | cons target targets ih =>
      rw [List.foldl_cons, ih (state.send target message)]
      simp [send]

/-- A broadcast only sends. -/
theorem broadcastToNodes_eq (message : Bytes) (state : State) :
    state.broadcastToNodes message =
      { state with
        sent := state.sent ++
          (broadcastTargets state.memory state.sessions.refs []).map fun ref => (ref, message)
        broadcast := state.broadcast ++ [message] } :=
  foldl_send_eq message _ { state with broadcast := state.broadcast ++ [message] }

end State

/-! ## Closed properties -/

/-- A property of states that is kept by every primitive change of session
objects and registry other than overwriting a node id. -/
structure Closed (env : Environment) (holds : State → Prop) : Prop where
  /-- The rest of the state is not looked at. -/
  quiet : ∀ {state next : State}, holds state → next.nodeId = state.nodeId →
    next.memory = state.memory → next.allocated = state.allocated →
    next.sessions = state.sessions → holds next
  /-- A session changes only in fields that are not indexed. -/
  update : ∀ {state : State} (ref : Ref) (change : Session → Session),
    (∀ session, (change session).key = session.key ∧
      (change session).origin = session.origin) →
    holds state → holds (state.update ref change)
  /-- A new object; placeholders are websocket sessions. -/
  allocate : ∀ {state : State} (session : Session),
    (∀ node, session.origin = .joined node → session.type = .websocket) →
    holds state → holds (state.allocate session)
  addSession : ∀ {state : State} (ref : Ref), ref < state.allocated →
    holds state → holds (state.addSession env ref).2
  /-- Some entries are erased. -/
  erase : ∀ {state : State} (kept : Registry), kept.Sublist state.sessions →
    holds state → holds { state with sessions := kept }

namespace Closed

variable {env : Environment} {holds : State → Prop} (closed : Closed env holds)

include closed

theorem draw {state : State} (kept : holds state) : holds state.draw :=
  closed.quiet kept rfl rfl rfl rfl

theorem setOpen {state : State} (ref : Ref) (isOpen : Bool) (kept : holds state) :
    holds (state.setOpen ref isOpen) :=
  closed.update ref _ (fun _ => ⟨rfl, rfl⟩) kept

theorem broadcastToNodes {state : State} (message : Bytes) (kept : holds state) :
    holds (state.broadcastToNodes message) := by
  rw [State.broadcastToNodes_eq]
  exact closed.quiet kept rfl rfl rfl rfl

theorem closeStream {state : State} (ref : Ref) (kept : holds state) :
    holds (state.closeStream ref) := by
  unfold State.closeStream
  simp only
  split
  · exact closed.setOpen ref false (closed.quiet kept rfl rfl rfl rfl)
  · exact closed.quiet kept rfl rfl rfl rfl

theorem disconnectSession {state next : State} {ref : Ref}
    (step : state.disconnectSession env ref = .ok next) (kept : holds state) : holds next := by
  have shut := closed.closeStream ref kept
  unfold State.disconnectSession at step
  split at step
  · cases step
    exact shut
  · obtain ⟨data, _, broadcast⟩ := Result.bind_eq_ok_iff.mp step
    cases broadcast
    exact closed.broadcastToNodes data (closed.draw shut)

theorem removeSession {state next : State} {id : Uuid} {removed : Bool}
    (step : state.removeSession env id = .ok (removed, next)) (kept : holds state) :
    holds next := by
  unfold State.removeSession at step
  split at step
  · obtain ⟨closing, disconnected, result⟩ := Result.bind_eq_ok_iff.mp step
    cases result
    exact closed.disconnectSession disconnected
      (closed.erase _ (eraseUnique_sublist Key.id id state.sessions) kept)
  · cases step
    exact kept

theorem removeSessions {ids : List Uuid} {state next : State}
    (step : state.removeSessions env ids = .ok next) (kept : holds state) : holds next := by
  induction ids generalizing state with
  | nil =>
      cases step
      exact kept
  | cons id ids ih =>
      obtain ⟨⟨removed, middle⟩, first, rest⟩ := Result.bind_eq_ok_iff.mp step
      exact ih rest (closed.removeSession first kept)

theorem openSession {state next : State} {withDiscovery : Bool} {connectionsPerNode : UInt16}
    {connected : Bool}
    (step : state.openSession env withDiscovery connectionsPerNode = .ok (connected, next))
    (kept : holds state) : holds next := by
  have created := closed.allocate (tcpSession (state.nextUuid env) .dialed)
    (fun node impossible => by cases impossible) (closed.draw kept)
  have added := closed.addSession state.allocated (by simp) created
  unfold State.openSession at step
  simp only at step
  split at step
  · obtain ⟨buffer, _, result⟩ := Result.bind_eq_ok_iff.mp step
    cases result
    cases withDiscovery
    · exact closed.quiet added rfl rfl rfl rfl
    · exact closed.quiet added rfl rfl rfl rfl
  · cases step
    exact added

theorem connect {state next : State} {host : Bytes} {port : UInt16} {withDiscovery : Bool}
    {connectionsPerNode : UInt16} {connected : Bool}
    (step : state.connect env host port withDiscovery connectionsPerNode = .ok (connected, next))
    (kept : holds state) : holds next := by
  unfold State.connect at step
  simp only at step
  split at step
  · exact closed.openSession step (closed.quiet kept rfl rfl rfl rfl)
  · cases step
    exact closed.quiet kept rfl rfl rfl rfl

theorem runPosted {state next : State} (step : state.runPosted env = .ok next)
    (kept : holds state) : holds next := by
  unfold State.runPosted at step
  split at step
  · cases step
    exact kept
  · obtain ⟨⟨connected, middle⟩, dial, result⟩ := Result.bind_eq_ok_iff.mp step
    cases result
    exact closed.connect dial (closed.quiet kept rfl rfl rfl rfl)

theorem acceptTcp {state : State} (kept : holds state) : holds (state.acceptTcp env) := by
  have created := closed.allocate (tcpSession (state.nextUuid env) .accepted)
    (fun node impossible => by cases impossible) (closed.draw kept)
  exact closed.addSession state.allocated (by simp) created

theorem acceptWebsocket {state : State} (kept : holds state) :
    holds (state.acceptWebsocket env) := by
  have created := closed.allocate
    { websocketSession (state.nextUuid env) .client with nodeId := state.nodeId }
    (fun node impossible => by cases impossible) (closed.draw kept)
  rw [← State.setNodeId_allocate (websocketSession (state.nextUuid env) .client)] at created
  exact closed.addSession state.allocated (Nat.lt_succ_self _) created

theorem onAccept {state next : State} {ref : Ref} {failed : Bool}
    (step : state.onAccept env ref failed = .ok next) (kept : holds state) : holds next := by
  unfold State.onAccept at step
  split at step
  · obtain ⟨⟨removed, middle⟩, removal, result⟩ := Result.bind_eq_ok_iff.mp step
    cases result
    exact closed.removeSession removal kept
  · obtain ⟨data, _, result⟩ := Result.bind_eq_ok_iff.mp step
    cases result
    exact closed.broadcastToNodes data (closed.draw (closed.setOpen ref true kept))

end Closed

/-! ## Handlers -/

/-- The identify handler overwrites the node id of its session with `id`. -/
def Retags (session : Ref) (message : Submessage) (state : State) (id : Uuid) : Prop :=
  message.opcode = OpCode.identify.byte ∧ (state.memory session).type = .tcp ∧
    readUuid message.payload 0 = .ok id

theorem State.retag_eq (ref : Ref) (id : Uuid) (port : UInt16) (host : Bytes)
    (posted : List Endpoint) (state : State) :
    state.retag ref id port host posted =
      { (state.setNodeId ref id).update ref fun session =>
          { session with port := port, host := host } with
        posted := state.posted ++ posted } := by
  simp [State.retag, State.setNodeId, State.update, Function.update_idem]

namespace Closed

variable {env : Environment} {holds : State → Prop} (closed : Closed env holds)

include closed

theorem retag {state : State} {ref : Ref} {id : Uuid} (port : UInt16) (host : Bytes)
    (posted : List Endpoint) (tagged : holds (state.setNodeId ref id)) :
    holds (state.retag ref id port host posted) := by
  have described := closed.update ref
    (fun session => { session with port := port, host := host }) (fun _ => ⟨rfl, rfl⟩) tagged
  rw [State.retag_eq]
  exact closed.quiet described rfl rfl rfl rfl

theorem visitEndpoint {endpoint : Endpoint} {state next : State}
    (step : Handlers.visitEndpoint env endpoint state = .ok next) (kept : holds state) :
    holds next := by
  unfold Handlers.visitEndpoint at step
  split at step
  · cases step
    exact kept
  · obtain ⟨⟨connected, dialed⟩, dial, result⟩ := Result.bind_eq_ok_iff.mp step
    cases result
    exact closed.connect dial kept

theorem visitAll {endpoints : List Endpoint} {state next : State}
    (step : Handlers.visitAll env endpoints state = .ok next) (kept : holds state) :
    holds next := by
  induction endpoints generalizing state with
  | nil =>
      cases step
      exact kept
  | cons endpoint endpoints ih =>
      obtain ⟨middle, visit, rest⟩ := Result.bind_eq_ok_iff.mp step
      exact ih rest (closed.visitEndpoint visit kept)

/-- One handler call. -/
theorem effect {state next : State} {session : Ref} {message : Submessage}
    (effect : Effect env session message state next)
    (retagged : ∀ id, Retags session message state id → holds (state.setNodeId session id))
    (kept : holds state) : holds next := by
  cases effect with
  | none => exact kept
  | identified id port host posted opcode tcp named =>
      exact closed.retag port host posted (retagged id ⟨opcode, tcp, named⟩)
  | discovered next opcode response visited => exact closed.visitAll visited kept
  | joined id opcode request tcp named =>
      have created := closed.allocate
        { websocketSession id (.joined (state.memory session).nodeId) with
          nodeId := (state.memory session).nodeId } (fun node _ => rfl) kept
      exact closed.addSession state.allocated (Nat.lt_succ_self _) created
  | left id opcode request tcp named => exact closed.erase _ List.filter_sublist kept

end Closed

end Aurum.Node
