import Aurum.Node.Dialing
import Aurum.Node.DiscoveryCodec

/-!
# Frames from websocket clients

Identify, join and leave check the type of the session; the discovery handler
does not, so a discovery response from a websocket client makes the node dial.
Everything else such a client can send leaves the node alone.
-/

namespace Aurum.Node

open Aurum.Protocol
open Aurum.Container

/-- The part of a node that makes up the cluster is the same. -/
structure Uninfluenced (state next : State) : Prop where
  sessions : next.sessions = state.sessions
  roundRobin : next.roundRobin = state.roundRobin
  described : ∀ ref < state.allocated,
    (next.memory ref).nodeId = (state.memory ref).nodeId ∧
      (next.memory ref).port = (state.memory ref).port ∧
      (next.memory ref).host = (state.memory ref).host
  dialed : next.dialed = state.dialed
  posted : next.posted = state.posted

theorem Uninfluenced.refl (state : State) : Uninfluenced state state where
  sessions := rfl
  roundRobin := rfl
  described := fun _ _ => ⟨rfl, rfl, rfl⟩
  dialed := rfl
  posted := rfl

/-- A sub-message that lists no endpoint the node would have to dial. -/
def Harmless (state : State) (message : Submessage) : Prop :=
  message.opcode = OpCode.discovery.byte → message.type = .response →
    ∀ endpoint ∈ Handlers.listed message.payload, Handlers.alreadyConnected endpoint state

/-- On a websocket session a handler call does nothing or visits endpoints. -/
theorem Effect.of_websocket {env : Environment} {session : Ref} {message : Submessage}
    {state next : State} (websocket : (state.memory session).type = .websocket)
    (effect : Effect env session message state next) :
    next = state ∨
      message.opcode = OpCode.discovery.byte ∧ message.type = .response ∧
        Handlers.visitAll env (Handlers.listed message.payload) state = .ok next := by
  cases effect with
  | none => exact Or.inl rfl
  | discovered next opcode response visited => exact Or.inr ⟨opcode, response, visited⟩
  | identified id port host posted opcode tcp named =>
      rw [websocket] at tcp
      cases tcp
  | joined id opcode request tcp named =>
      rw [websocket] at tcp
      cases tcp
  | left id opcode request tcp named =>
      rw [websocket] at tcp
      cases tcp

/-- A harmless sub-message from a websocket client does nothing. -/
theorem Effect.of_harmless {env : Environment} {session : Ref} {message : Submessage}
    {state next : State} (websocket : (state.memory session).type = .websocket)
    (harmless : Harmless state message) (effect : Effect env session message state next) :
    next = state := by
  rcases effect.of_websocket websocket with same | ⟨opcode, response, visited⟩
  · exact same
  · rw [Handlers.visitAll_of_connected (harmless opcode response)] at visited
    cases visited
    rfl

theorem run_dialed (env : Environment) (session : Ref) (messages : List Submessage)
    (builder : ResponseBuilder) (state : State) :
    state.dialed <+: (Kernel.run (handlers env session) messages builder state).2.dialed := by
  refine Kernel.run_keeps (fun next : State => state.dialed <+: next.dialed) ?_ List.prefix_rfl
  intro call member before
  obtain ⟨_, _, _, invoked⟩ := Kernel.mem_calls member
  exact before.trans (invoke_effect invoked).dialed

/-- A harmful sub-message makes the node dial. -/
theorem invoke_harmful {env : Environment} {session : Ref} {message : Submessage}
    {builder result : ResponseBuilder} {state next : State}
    (harmful : ¬Harmless state message)
    (step : Kernel.invoke (handlers env session) message builder state = .ok (result, next)) :
    state.dialed.length < next.dialed.length := by
  simp only [Harmless, not_forall] at harmful
  rcases harmful with ⟨opcode, response, endpoint, listed, unconnected⟩
  have discovery : Kernel.invoke (handlers env session) message builder state =
      Handlers.discovery env session .response builder message.transactionId message.payload
        state := by
    rw [Kernel.invoke, handlers, opcode, response]
    rfl
  rw [discovery, Handlers.discovery_response_eq] at step
  obtain ⟨visited, visit, equal⟩ := Result.map_eq_ok_iff.mp step
  cases equal
  exact Handlers.visitAll_dials (fun connected => unconnected (connected endpoint listed)) visit

/-- A run of sub-messages from a websocket client leaves the node as it is, or
one of them makes it dial. -/
theorem run_of_websocket {env : Environment} {session : Ref} {state : State}
    (websocket : (state.memory session).type = .websocket) (messages : List Submessage)
    (builder : ResponseBuilder) :
    (∀ message ∈ messages, Harmless state message) ∧
        (Kernel.run (handlers env session) messages builder state).2 = state ∨
      (¬∀ message ∈ messages, Harmless state message) ∧
        state.dialed.length <
          (Kernel.run (handlers env session) messages builder state).2.dialed.length := by
  induction messages generalizing builder with
  | nil => exact Or.inl ⟨by simp, rfl⟩
  | cons message messages ih =>
      obtain ⟨⟨replies, next⟩, step⟩ := invoke_ok env session message builder state
      rw [Kernel.run, step]
      simp only
      by_cases harmless : Harmless state message
      · have same := (invoke_effect step).of_harmless websocket harmless
        subst same
        rw [List.forall_mem_cons]
        simpa [harmless] using ih replies
      · right
        refine ⟨fun all => harmless (all message List.mem_cons_self), ?_⟩
        have dials := invoke_harmful harmless step
        have later := (run_dialed env session messages replies next).length_le
        omega

/-- A frame from a websocket client has no influence on the cluster exactly
when every endpoint listed in its discovery responses is already connected. -/
theorem websocket_uninfluenced_iff (env : Environment) {state : State} {session : Ref}
    (websocket : (state.memory session).type = .websocket) (frame : Bytes) :
    Uninfluenced state (handle env frame session state).state ↔
      ∀ message ∈ Kernel.dispatched frame, Harmless state message := by
  rw [handle_state]
  rcases run_of_websocket websocket (Kernel.dispatched frame) {} with
    ⟨harmless, same⟩ | ⟨harmful, dials⟩
  · rw [same]
    exact ⟨fun _ => harmless, fun _ => Uninfluenced.refl state⟩
  · refine ⟨fun uninfluenced => ?_, fun harmless => absurd harmless harmful⟩
    rw [uninfluenced.dialed] at dials
    exact absurd dials (Nat.lt_irrefl _)

/-! ## A client that makes a node dial -/

/-- A node with one websocket client. -/
def oneClient : State :=
  (State.initial (Uuid.filled 1) 0).acceptWebsocket
    stillEnvironment

theorem oneClient_reachable :
    (machine stillEnvironment).Reachable oneClient :=
  have accepted : (machine stillEnvironment).step
      (State.initial (Uuid.filled 1) 0) .acceptWebsocket oneClient :=
    ⟨trivial, rfl⟩
  .step (.start ⟨Uuid.filled 1, 0, rfl⟩) accepted

/-- A client joins, withdraws and identifies a session, asks who it is, asks for
nodes and lists the endpoint that every client has. -/
def clientMessages : List Submessage :=
  [⟨OpCode.join.byte, .request, Uuid.nil, (Uuid.filled 9).data⟩,
    ⟨OpCode.leave.byte, .request, Uuid.nil, (Uuid.filled 2).data⟩,
    ⟨OpCode.identify.byte, .request, Uuid.nil,
      Handlers.identifyPayload (Uuid.filled 7) 3 7000 State.localHost⟩,
    ⟨OpCode.whoami.byte, .request, Uuid.nil, []⟩,
    ⟨OpCode.discovery.byte, .request, Uuid.nil, []⟩,
    ⟨OpCode.discovery.byte, .response, Uuid.nil, discoveryPayload [⟨[], 0⟩]⟩]

theorem websocket_uninfluenced_iff_clientMessages :
    Kernel.dispatched (frameOf clientMessages) = clientMessages ∧
      Uninfluenced oneClient
        (handle stillEnvironment (frameOf clientMessages) 0 oneClient).state := by
  have dispatched : Kernel.dispatched (frameOf clientMessages) = clientMessages :=
    (Kernel.dispatched_of_isFrame (isFrame_frameOf (by decide) (by decide))).1
  refine ⟨dispatched, ?_⟩
  have harmless : ∀ message ∈ clientMessages, Harmless oneClient message := by
    unfold Harmless
    decide +kernel
  apply (websocket_uninfluenced_iff stillEnvironment rfl (frameOf clientMessages)).mpr
  rw [dispatched]
  exact harmless

/-- A discovery response that lists one endpoint. -/
def dialRequest : Submessage :=
  ⟨OpCode.discovery.byte, .response, Uuid.nil, discoveryPayload [⟨State.localHost, 7000⟩]⟩

/-- The websocket client has the node dial an endpoint of its choice. -/
theorem websocket_dials :
    (machine stillEnvironment).Reachable oneClient ∧
      (oneClient.memory 0).type = .websocket ∧ oneClient.sessions.refs = [0] ∧
      oneClient.dialed = [] ∧
      (handle stillEnvironment (frameOf [dialRequest]) 0
        oneClient).state.dialed = [⟨State.localHost, 7000⟩] := by
  refine ⟨oneClient_reachable, rfl, rfl, rfl, ?_⟩
  rw [handle_state,
    (Kernel.dispatched_of_isFrame (isFrame_frameOf (by decide) (by decide))).1]
  decide +kernel

end Aurum.Node
