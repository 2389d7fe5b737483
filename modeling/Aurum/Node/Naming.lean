import Aurum.Node.Honesty

/-!
# How session objects come by their node ids

A session object is built without a node id, as that of an accepted client with
the id of the node itself, or as a placeholder with the node id of the session
that a join has arrived on.  Afterwards only the identify messages that arrive on
a TCP session change its node id.
-/

namespace Aurum.Node

open Aurum.Protocol
open Aurum.Container

/-- How a new session object looks: a TCP session, a client, or a placeholder
with an identifier and a node id of the given kinds. -/
inductive Newcomer (named joined : Uuid → Prop) (session : Session) : Prop
  | link (tcp : session.type = .tcp) (untagged : session.nodeId = Uuid.nil)
      (origin : session.origin = .accepted ∨ session.origin = .dialed)
  | client (websocket : session.type = .websocket) (origin : session.origin = .client)
  | placeholder (node : Uuid) (websocket : session.type = .websocket)
      (origin : session.origin = .joined node) (tagged : session.nodeId = node)
      (ofNode : named node) (announced : joined session.id)

/-- Node ids have not changed, but for one TCP session, which may have got one of
the given kind. -/
structure Tags (session : Ref) (named joined : Uuid → Prop) (state next : State) : Prop
    extends Ages state next where
  kept : ∀ ref < state.allocated, (next.memory ref).nodeId = (state.memory ref).nodeId ∨
    ref = session ∧ (state.memory ref).type = .tcp ∧ named (next.memory ref).nodeId
  built : ∀ ref, state.allocated ≤ ref → ref < next.allocated → ref ≠ session →
    Newcomer named joined (next.memory ref)

namespace Tags

variable {env : Environment} {session : Ref} {named joined : Uuid → Prop}
  {state middle next : State}

theorem of_openness (openness : OnlyOpenness state next)
    (allocated : next.allocated = state.allocated) : Tags session named joined state next where
  toAges := by
    refine ⟨allocated.ge, ?_⟩
    intro ref _
    rw [openness.memory ref]
    exact ⟨rfl, rfl, rfl⟩
  kept := by
    intro ref _
    rw [openness.memory ref]
    exact Or.inl rfl
  built := by
    intro ref from_ below _
    rw [allocated] at below
    exact absurd below (Nat.not_lt.mpr from_)

/-- Changes outside session objects. -/
theorem quiet (memory : next.memory = state.memory) (allocated : next.allocated = state.allocated) :
    Tags session named joined state next where
  toAges := .of_memory memory allocated
  kept := by
    intro ref _
    rw [memory]
    exact Or.inl rfl
  built := by
    intro ref from_ below _
    rw [allocated] at below
    exact absurd below (Nat.not_lt.mpr from_)

theorem refl (state : State) : Tags session named joined state state :=
  quiet rfl rfl

/-- A session object that exists keeps its identity; what it is tagged with
decides what a later state is tagged with. -/
theorem trans (first : Tags session named joined state middle)
    (second : Tags session named joined middle next) : Tags session named joined state next where
  toAges := first.toAges.trans second.toAges
  kept := by
    intro ref created
    rcases second.kept ref (created.trans_le first.older) with unchanged | ⟨isSession, tcp, named⟩
    · rw [unchanged]
      exact first.kept ref created
    · rw [(first.same ref created).2.1] at tcp
      exact Or.inr ⟨isSession, tcp, named⟩
  built := by
    intro ref from_ below other
    by_cases early : ref < middle.allocated
    · obtain ⟨idEq, typeEq, originEq⟩ := second.same ref early
      rcases second.kept ref early with unchanged | ⟨isSession, _, _⟩
      · cases first.built ref from_ early other with
        | link tcp untagged origin =>
            exact .link (typeEq.trans tcp) (unchanged.trans untagged) (originEq ▸ origin)
        | client websocket origin =>
            exact .client (typeEq.trans websocket) (originEq.trans origin)
        | placeholder node websocket origin tagged ofNode announced =>
            exact .placeholder node (typeEq.trans websocket) (originEq.trans origin)
              (unchanged.trans tagged) ofNode (idEq ▸ announced)
      · exact absurd isSession other
    · exact second.built ref (Nat.not_lt.mp early) below other

theorem draw (state : State) : Tags session named joined state state.draw :=
  quiet rfl rfl

/-- A session object built and registered. -/
theorem install (env : Environment) {built : Session} (newcomer : Newcomer named joined built)
    (state : State) : Tags session named joined state (state.install env built) where
  toAges := .install env built state
  kept := by
    intro ref created
    rw [State.install_memory_of_lt env built created]
    exact Or.inl rfl
  built := by
    intro ref from_ below _
    have new : ref = state.allocated := Nat.le_antisymm (Nat.le_of_lt_succ below) from_
    rw [new, State.install_memory_self]
    exact newcomer

theorem of_links (links : Links env state next) : Tags session named joined state next := by
  induction links with
  | quiet memory allocated sessions disconnected => exact quiet memory allocated
  | install state id origin isLink => exact install env (.link rfl rfl isLink) state
  | trans _ _ first second => exact first.trans second

theorem acceptWebsocket (env : Environment) (state : State) :
    Tags session named joined state (state.acceptWebsocket env) := by
  rw [State.acceptWebsocket_eq]
  have client : Newcomer named joined (state.clientSession env) := .client rfl rfl
  exact (draw state).trans (install env client state.draw)

/-! ### Removal and handshakes -/

theorem removeSession {id : Uuid} {removed : Bool}
    (step : state.removeSession env id = .ok (removed, next)) :
    Tags session named joined state next := by
  rcases Removes.removeSession_cases step with rfl | ⟨entry, _, _, disconnected⟩
  · exact refl _
  · exact of_openness (.removeSession step) (Removes.disconnectSession disconnected).1

theorem removeSessions {ids : List Uuid} (step : state.removeSessions env ids = .ok next) :
    Tags session named joined state next := by
  induction ids generalizing state with
  | nil =>
      cases step
      exact refl _
  | cons id ids ih =>
      rcases Result.bind_eq_ok_iff.mp step with ⟨⟨removed, middle⟩, first, rest⟩
      exact (removeSession first).trans (ih rest)

theorem onAccept {ref : Ref} {failed : Bool} (step : state.onAccept env ref failed = .ok next) :
    Tags session named joined state next := by
  cases failed with
  | true =>
      rcases Result.bind_eq_ok_iff.mp step with ⟨⟨removed, middle⟩, removal, result⟩
      cases result
      exact removeSession removal
  | false =>
      refine of_openness (.onAccept step) ?_
      rcases Result.bind_eq_ok_iff.mp step with ⟨data, _, broadcast⟩
      cases broadcast
      rw [State.broadcastToNodes_eq]
      rfl

/-! ### Frames -/

theorem retag {id : Uuid} (tcp : (state.memory session).type = .tcp) (isNamed : named id)
    (port : UInt16) (host : Bytes) (posted : List Endpoint) :
    Tags session named joined state (state.retag session id port host posted) where
  toAges := by
    have described : Descends state (state.update session fun other =>
        { other with nodeId := id, port := port, host := host }) :=
      .update state session _ fun _ => ⟨rfl, rfl, rfl⟩
    exact .of_descends (described.trans (.of_eq rfl rfl rfl rfl))
  kept := by
    intro ref _
    by_cases isSession : ref = session
    · rw [isSession]
      refine Or.inr ⟨rfl, tcp, ?_⟩
      simpa [State.retag] using isNamed
    · exact Or.inl (by simp [State.retag, State.update_memory_of_ne isSession])
  built := fun _ from_ below _ => absurd below (Nat.not_lt.mpr from_)

/-- One handler call on a session whose messages name and announce only what is
given. -/
theorem effect {message : Submessage}
    (current : (state.memory session).type = .tcp → named (state.memory session).nodeId)
    (identifies : (state.memory session).type = .tcp → message.opcode = OpCode.identify.byte →
      ∀ id, readUuid message.payload 0 = .ok id → named id)
    (announces : (state.memory session).type = .tcp → message.opcode = OpCode.join.byte →
      message.type ≠ .response → ∀ id, readUuid message.payload 0 = .ok id → joined id)
    (effect : Effect env session message state next) : Tags session named joined state next := by
  cases effect with
  | none => exact refl _
  | identified id port host posted opcode tcp isNamed =>
      exact retag tcp (identifies tcp opcode id isNamed) port host posted
  | discovered next opcode response visited => exact of_links (.visitAll visited)
  | joined id opcode request tcp isNamed =>
      have placeholder : Newcomer named joined
          { websocketSession id (.joined (state.memory session).nodeId) with
            nodeId := (state.memory session).nodeId } :=
        .placeholder _ rfl rfl rfl (current tcp) (announces tcp opcode request id isNamed)
      exact install env placeholder state
  | left id opcode request tcp isNamed => exact quiet rfl rfl

/-- A frame on a session whose messages name and announce only what is given. -/
theorem handle (created : session < state.allocated) {frame : Bytes}
    (current : (state.memory session).type = .tcp → named (state.memory session).nodeId)
    (identifies : (state.memory session).type = .tcp → ∀ message ∈ Kernel.dispatched frame,
      message.opcode = OpCode.identify.byte →
        ∀ id, readUuid message.payload 0 = .ok id → named id)
    (announces : (state.memory session).type = .tcp → ∀ message ∈ Kernel.dispatched frame,
      message.opcode = OpCode.join.byte → message.type ≠ .response →
        ∀ id, readUuid message.payload 0 = .ok id → joined id) :
    Tags session named joined state (Node.handle env frame session state).state := by
  apply handle_keeps (Tags session named joined state) _ (refl state)
  intro call member before
  rcases Kernel.mem_calls member with ⟨within, builder, result, invoked⟩
  have typed := (before.same session created).2.1
  apply before.trans
  apply effect _ _ _ (invoke_effect invoked)
  · intro tcp
    rw [typed] at tcp
    rcases before.kept session created with unchanged | ⟨_, _, renamed⟩
    · rw [unchanged]
      exact current tcp
    · exact renamed
  · intro tcp
    exact identifies (typed ▸ tcp) call.message within
  · intro tcp
    exact announces (typed ▸ tcp) call.message within

theorem receive (created : session < state.allocated) {frame : Bytes}
    (current : (state.memory session).type = .tcp → named (state.memory session).nodeId)
    (identifies : (state.memory session).type = .tcp → ∀ message ∈ Kernel.dispatched frame,
      message.opcode = OpCode.identify.byte →
        ∀ id, readUuid message.payload 0 = .ok id → named id)
    (announces : (state.memory session).type = .tcp → ∀ message ∈ Kernel.dispatched frame,
      message.opcode = OpCode.join.byte → message.type ≠ .response →
        ∀ id, readUuid message.payload 0 = .ok id → joined id) :
    Tags session named joined state (state.receive env session frame) := by
  rcases exists_receive_eq env session frame state with ⟨sent, received⟩
  rw [received]
  exact (handle created current identifies announces).trans (quiet rfl rfl)

/-- An event that is neither a frame nor the work of a caller outside the node
names nothing and announces nothing. -/
theorem perform {event : Event} (notFrame : ∀ ref bytes, event ≠ .frame ref bytes)
    (notCreate : ∀ built, event ≠ .create built) (step : state.perform env event = .ok next) :
    Tags session named joined state next := by
  cases event with
  | acceptTcp =>
      cases step
      exact of_links (.acceptTcp env state)
  | acceptWebsocket =>
      cases step
      exact acceptWebsocket env state
  | handshake ref failed => exact onAccept step
  | connect host port withDiscovery connectionsPerNode =>
      rcases Result.bind_eq_ok_iff.mp step with ⟨⟨connected, middle⟩, dial, result⟩
      cases result
      exact of_links (.connect dial)
  | runPosted => exact of_links (.runPosted step)
  | create built => exact absurd rfl (notCreate built)
  | addSession ref =>
      cases step
      exact quiet rfl rfl
  | removeSession id =>
      rcases Result.bind_eq_ok_iff.mp step with ⟨⟨removed, middle⟩, removal, result⟩
      cases result
      exact removeSession removal
  | disconnect node => exact removeSessions step
  | disconnectAll => exact removeSessions step
  | sendToNode node message =>
      cases step
      exact of_links (.sendToNode env node message state)
  | frame ref bytes => exact absurd rfl (notFrame ref bytes)

end Tags

end Aurum.Node
