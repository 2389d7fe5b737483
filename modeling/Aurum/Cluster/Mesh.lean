import Aurum.Cluster.Network
import Aurum.Node.Naming

/-!
# A mesh of nodes

Any number of nodes with TCP sessions linked in pairs.  A connection that a node
has dialed may be accepted by any node, itself included, or end at a stranger,
and strangers may connect.  Links may lose, repeat and reorder messages.
Strangers and websocket clients send whatever they like.
-/

namespace Aurum.Cluster

open Aurum.Protocol
open Aurum.Container
open Aurum.Node
open Aurum.Transition

universe u

/-- What is at the other end of a session. -/
inductive Far (ι : Type u)
  /-- Nothing so far: the session waits for its connection to be accepted, or is
  none of a connection. -/
  | nobody
  /-- A program that is no node of the mesh. -/
  | stranger
  | session (node : ι) (ref : Ref)
  deriving DecidableEq

structure Mesh (ι : Type u) where
  nodes : ι → State
  far : ι × Ref → Far ι

namespace Mesh

inductive Event (ι : Type u)
  /-- Something happens at a node other than that a message of a node arrives. -/
  | act (node : ι) (event : Node.Event)
  /-- The connection that a session has dialed is accepted by a node. -/
  | accept (node : ι) (ref : Ref) (other : ι)
  /-- The connection that a session has dialed ends at a stranger. -/
  | stray (node : ι) (ref : Ref)
  /-- The connection of a stranger is accepted. -/
  | welcome (node : ι)
  /-- A message that a node has sent arrives. -/
  | deliver (node : ι) (position : Nat)

variable {ι : Type u}

/-- No node has done anything yet. -/
structure Fresh (mesh : Mesh ι) : Prop where
  nodes : ∀ node, ∃ nodeId tcpPort, mesh.nodes node = State.initial nodeId tcpPort
  far : ∀ place, mesh.far place = .nobody

/-- What a message sent is at the other end of the link. -/
def incoming (mesh : Mesh ι) (node : ι) (position : Nat) : Option (Frame ι) :=
  (mesh.nodes node).sent[position]?.bind fun sent =>
    match mesh.far (node, sent.1) with
    | .session other far => some ⟨other, far, sent.2.drop 4⟩
    | _ => none

theorem exists_sent {mesh : Mesh ι} {node : ι} {position : Nat} {frame : Frame ι}
    (arrives : mesh.incoming node position = some frame) :
    ∃ sent other far, (mesh.nodes node).sent[position]? = some sent ∧
      mesh.far (node, sent.1) = .session other far ∧ frame = ⟨other, far, sent.2.drop 4⟩ := by
  rcases Option.bind_eq_some_iff.mp arrives with ⟨sent, within, rest⟩
  split at rest
  · rename_i other far linked
    cases rest
    exact ⟨sent, other, far, within, linked, rfl⟩
  · cases rest

theorem incoming_eq {mesh : Mesh ι} {node other : ι} {position : Nat} {sent : Ref × Bytes}
    {far : Ref} (within : (mesh.nodes node).sent[position]? = some sent)
    (linked : mesh.far (node, sent.1) = .session other far) :
    mesh.incoming node position = some ⟨other, far, sent.2.drop 4⟩ := by
  rw [incoming, within, Option.bind_some, linked]

/-- What the mesh leaves to a node: handshakes of its clients, frames of clients
and strangers, connects and disconnects.  Callers build no sessions of their own,
and `send_to_node`, which has no caller in the program and could say anything in
the name of the node, is not called. -/
def Local (mesh : Mesh ι) (node : ι) : Node.Event → Prop
  | .handshake ref _ =>
      ref < (mesh.nodes node).allocated ∧ ((mesh.nodes node).memory ref).origin = .client
  | .frame ref _ => ref < (mesh.nodes node).allocated ∧
      (((mesh.nodes node).memory ref).type = .websocket ∨ mesh.far (node, ref) = .stranger)
  | .acceptTcp | .create _ | .addSession _ | .sendToNode _ _ => False
  | _ => True

theorem Local.enabled {mesh : Mesh ι} {node : ι} {event : Node.Event}
    (isLocal : mesh.Local node event) : event.Enabled (mesh.nodes node) := by
  cases event with
  | handshake ref failed => exact isLocal.1
  | frame ref bytes => exact isLocal.1
  | create session => exact isLocal.elim
  | addSession ref => exact isLocal.elim
  | _ => trivial

/-- The session has dialed a connection that nobody has accepted yet. -/
def Dialing (mesh : Mesh ι) (node : ι) (ref : Ref) : Prop :=
  ref < (mesh.nodes node).allocated ∧ ((mesh.nodes node).memory ref).origin = .dialed ∧
    mesh.far (node, ref) = .nobody

def Possible (mesh : Mesh ι) : Event ι → Prop
  | .act node event => mesh.Local node event
  | .accept node ref _ => mesh.Dialing node ref
  | .stray node ref => mesh.Dialing node ref
  | .welcome _ => True
  -- Writing an empty message writes nothing.
  | .deliver node position =>
      ((mesh.nodes node).sent[position]?).any fun sent => sent.2 ≠ []

/-- The replies to the frames of nodes and strangers are no longer than the 16
bits of a length can say. -/
def RepliesFit (env : ι → Environment) (mesh : Mesh ι) : Event ι → Prop
  | .act node (.frame ref bytes) => ((mesh.nodes node).memory ref).type = .tcp →
      Node.RepliesFit (env node) ref bytes (mesh.nodes node)
  | .deliver node position => ∀ frame ∈ mesh.incoming node position,
      Node.RepliesFit (env frame.node) frame.session frame.bytes (mesh.nodes frame.node)
  | _ => True

theorem RepliesFit.deliver {env : ι → Environment} {mesh : Mesh ι} {node : ι} {position : Nat}
    {frame : Frame ι} (fits : mesh.RepliesFit env (.deliver node position))
    (arrives : mesh.incoming node position = some frame) :
    Node.RepliesFit (env frame.node) frame.session frame.bytes (mesh.nodes frame.node) :=
  fits frame arrives

/-- Strangers send no other messages than those they may. -/
def StrangersSay (may : Submessage → Prop) (mesh : Mesh ι) : Event ι → Prop
  | .act node (.frame ref bytes) => ((mesh.nodes node).memory ref).type = .tcp →
      ∀ message ∈ Kernel.dispatched bytes, may message
  | _ => True

/-- No stranger announces clients. -/
def StrangersSilent (mesh : Mesh ι) (event : Event ι) : Prop :=
  mesh.StrangersSay
    (fun message => message.opcode = OpCode.join.byte → message.type = .response) event

variable [DecidableEq ι]

def setNode (node : ι) (next : State) (mesh : Mesh ι) : Mesh ι :=
  { mesh with nodes := Function.update mesh.nodes node next }

def setFar (place : ι × Ref) (far : Far ι) (mesh : Mesh ι) : Mesh ι :=
  { mesh with far := Function.update mesh.far place far }

instance (mesh : Mesh ι) (node : ι) : DecidablePred (mesh.Local node)
  | .handshake _ _ => inferInstanceAs (Decidable (_ ∧ _))
  | .frame _ _ => inferInstanceAs (Decidable (_ ∧ (_ ∨ _)))
  | .acceptTcp | .create _ | .addSession _ | .sendToNode _ _ => instDecidableFalse
  | .acceptWebsocket | .connect _ _ _ _ | .runPosted | .removeSession _ | .disconnect _
  | .disconnectAll => instDecidableTrue

instance (mesh : Mesh ι) (node : ι) (ref : Ref) : Decidable (mesh.Dialing node ref) :=
  inferInstanceAs (Decidable (_ ∧ _ ∧ _))

instance (mesh : Mesh ι) : DecidablePred mesh.Possible := fun event => by
  unfold Possible
  split <;> infer_instance

/-- One event; `none` when it cannot happen. -/
def perform (env : ι → Environment) (mesh : Mesh ι) : Event ι → Option (Mesh ι)
  | .act node event =>
      ((mesh.nodes node).perform (env node) event).toOption.map fun next =>
        mesh.setNode node next
  | .accept node ref other =>
      let far := (mesh.nodes other).allocated
      some (((mesh.setNode other ((mesh.nodes other).acceptTcp (env other))).setFar (node, ref)
        (.session other far)).setFar (other, far) (.session node ref))
  | .stray node ref => some (mesh.setFar (node, ref) .stranger)
  | .welcome node =>
      some ((mesh.setNode node ((mesh.nodes node).acceptTcp (env node))).setFar
        (node, (mesh.nodes node).allocated) .stranger)
  | .deliver node position =>
      (mesh.incoming node position).map fun frame =>
        mesh.setNode frame.node
          ((mesh.nodes frame.node).receive (env frame.node) frame.session frame.bytes)

/-- The mesh with the steps of its nodes and links. -/
def machine (env : ι → Environment) : Machine (Mesh ι) (Event ι) where
  start := Fresh
  step mesh event next := Machine.carry Possible (perform env) mesh event = some next

instance (env : ι → Environment) (mesh : Mesh ι) : DecidablePred (mesh.RepliesFit env) :=
  fun event => by
    unfold RepliesFit
    split <;> infer_instance

instance (may : Submessage → Prop) [DecidablePred may] (mesh : Mesh ι) :
    DecidablePred (mesh.StrangersSay may) := fun event => by
  unfold StrangersSay
  split <;> infer_instance

instance (mesh : Mesh ι) : DecidablePred mesh.StrangersSilent :=
  fun event => inferInstanceAs (Decidable (mesh.StrangersSay _ event))

/-! ## What a step can do -/

/-- The step of one event. -/
inductive Step (env : ι → Environment) (mesh : Mesh ι) : Event ι → Mesh ι → Prop
  | act (node : ι) (event : Node.Event) (next : State) (isLocal : mesh.Local node event)
      (performed : (mesh.nodes node).perform (env node) event = .ok next) :
      Step env mesh (.act node event) (mesh.setNode node next)
  | accept (node : ι) (ref : Ref) (other : ι) (dialing : mesh.Dialing node ref) :
      Step env mesh (.accept node ref other)
        (((mesh.setNode other ((mesh.nodes other).acceptTcp (env other))).setFar (node, ref)
          (.session other (mesh.nodes other).allocated)).setFar
            (other, (mesh.nodes other).allocated) (.session node ref))
  | stray (node : ι) (ref : Ref) (dialing : mesh.Dialing node ref) :
      Step env mesh (.stray node ref) (mesh.setFar (node, ref) .stranger)
  | welcome (node : ι) :
      Step env mesh (.welcome node)
        ((mesh.setNode node ((mesh.nodes node).acceptTcp (env node))).setFar
          (node, (mesh.nodes node).allocated) .stranger)
  | deliver (node : ι) (position : Nat) (sent : Ref × Bytes) (other : ι) (far : Ref)
      (within : (mesh.nodes node).sent[position]? = some sent)
      (linked : mesh.far (node, sent.1) = .session other far) :
      Step env mesh (.deliver node position)
        (mesh.setNode other ((mesh.nodes other).receive (env other) far (sent.2.drop 4)))

theorem step_of_perform {env : ι → Environment} {mesh next : Mesh ι} {event : Event ι}
    (performed : Machine.carry Possible (perform env) mesh event = some next) :
    Step env mesh event next := by
  rcases Machine.carry_eq_some_iff.mp performed with ⟨possible, result⟩
  cases event with
  | act node event =>
      rcases Option.map_eq_some_iff.mp result with ⟨after, acted, rfl⟩
      exact .act node event after possible (Result.toOption_eq_some_iff.mp acted)
  | accept node ref other =>
      cases result
      exact .accept node ref other possible
  | stray node ref =>
      cases result
      exact .stray node ref possible
  | welcome node =>
      cases result
      exact .welcome node
  | deliver node position =>
      rcases Option.map_eq_some_iff.mp result with ⟨frame, arrives, rfl⟩
      rcases exists_sent arrives with ⟨sent, other, far, within, linked, rfl⟩
      exact .deliver node position sent other far within linked

end Mesh

end Aurum.Cluster
