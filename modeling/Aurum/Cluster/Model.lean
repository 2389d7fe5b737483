import Aurum.Cluster.Frames

/-!
# Two nodes and the links between them

Node B accepts websocket clients and broadcasts their joins and leaves; node A
handles what reaches it.  The links between them are up during the whole run,
and more of them can come up at any moment.  A link delivers in order, and each
node handles the frames of one link one after the other; nothing orders two
links.

What a node does with a client is cut into the steps that other threads can
come between: `on_accept` and `remove_session` change the session and its
registration, `broadcast_to_nodes` chooses its targets under the lock, and sends
to them when the lock is released.
-/

namespace Aurum.Cluster

open Aurum.Protocol
open Aurum.Container
open Aurum.Node
open Aurum.Replication
open Aurum.Transition

/-- How far B is with a websocket client. -/
inductive Phase
  | absent
  /-- Accepted by the listener; the handshake is running. -/
  | connecting
  /-- The handshake is completed, and the join is to be broadcast. -/
  | joining
  | joinChosen (message : Bytes) (targets : List Ref)
  | joined
  /-- No longer registered, and the leave is to be broadcast. -/
  | leaving
  | leaveChosen (message : Bytes) (targets : List Ref)
  | gone

/-- No step of B's with the client is under way. -/
def Phase.Settled : Phase → Prop
  | .absent | .connecting | .joined | .gone => True
  | .joining | .joinChosen _ _ | .leaving | .leaveChosen _ _ => False

instance (phase : Phase) : Decidable phase.Settled :=
  match phase with
  | .absent | .connecting | .joined | .gone => .isTrue trivial
  | .joining | .joinChosen _ _ | .leaving | .leaveChosen _ _ => .isFalse id

/-- The two nodes and what is on the way between them. -/
structure Pair where
  a : State
  b : State
  /-- The session of A at the other end of a session of B. -/
  far : Ref → Option Ref
  /-- The frames sent on a session of B and not yet read at its other end. -/
  wire : Ref → List Bytes
  /-- The frame that A has read on a link and is to handle. -/
  handling : Ref → Option Bytes
  /-- The frames sent at the other end and not yet handled by B. -/
  back : Ref → List Bytes
  phase : Uuid → Phase
  /-- The session object of a client. -/
  object : Uuid → Ref

inductive Event
  /-- A further link comes up, identified at both ends. -/
  | linkUp
  | connects
  | handshake (id : Uuid) (failed : Bool)
  | chooseJoin (id : Uuid)
  | sendJoin (id : Uuid)
  | disconnects (id : Uuid)
  | chooseLeave (id : Uuid)
  | sendLeave (id : Uuid)
  /-- A reads the next frame of a link. -/
  | read (near : Ref)
  /-- A handles the frame it has read on a link. -/
  | handleFrame (near : Ref)
  /-- B reads and handles the next reply of A on a link. -/
  | readReply (near : Ref)

/-- No session object carries the identifier. -/
def Fresh (id : Uuid) (state : State) : Prop :=
  ∀ ref < state.allocated, (state.memory ref).id ≠ id

instance (id : Uuid) (state : State) : Decidable (Fresh id state) :=
  inferInstanceAs (Decidable (∀ ref < state.allocated, (state.memory ref).id ≠ id))

/-- What a node has put on the wire of one of its sessions between two states:
writing an empty message writes nothing. -/
def carried (before after : State) (ref : Ref) : List Bytes :=
  ((after.sent.drop before.sent.length).filter fun sent => sent.1 = ref ∧ sent.2 ≠ []).map
    Prod.snd

/-- A TCP session is registered, and the identify exchange gives it the node id
of the peer. -/
def openLink (env : Environment) (peer : Uuid) (state : State) : State :=
  (state.acceptTcp env).setNodeId state.allocated peer

/-- Every link, of which there is one at least, ends at both nodes in a TCP
session that carries the node id of the peer, and B takes no other session for
a link to A. -/
structure Linked (a b : State) (far : Ref → Option Ref) : Prop where
  formedA : WellFormed a
  formedB : WellFormed b
  some : ∃ near, (far near).isSome
  nearEnd : ∀ near, (far near).isSome → (∃ entry ∈ b.sessions, entry.elem = near) ∧
    (b.memory near).type = .tcp ∧ (b.memory near).nodeId = a.nodeId
  farEnd : ∀ near other, far near = Option.some other → other < a.allocated ∧
    (a.memory other).type = .tcp ∧ (a.memory other).nodeId = b.nodeId
  only : ∀ entry ∈ b.sessions, (b.memory entry.elem).type = .tcp →
    (b.memory entry.elem).nodeId = a.nodeId → (far entry.elem).isSome

namespace Pair

/-- B has taken a step. -/
def setB (next : State) (pair : Pair) : Pair :=
  { pair with
    b := next
    wire := fun near => pair.wire near ++ carried pair.b next near }

def setPhase (id : Uuid) (phase : Phase) (pair : Pair) : Pair :=
  { pair with phase := Function.update pair.phase id phase }

def linkUp (envA envB : Environment) (pair : Pair) : Pair :=
  { pair with
    a := openLink envA pair.b.nodeId pair.a
    b := openLink envB pair.a.nodeId pair.b
    far := Function.update pair.far pair.b.allocated (some pair.a.allocated)
    wire := Function.update pair.wire pair.b.allocated []
    handling := Function.update pair.handling pair.b.allocated none
    back := Function.update pair.back pair.b.allocated [] }

/-- The accept callback of the websocket listener. -/
def connects (envB : Environment) (pair : Pair) : Pair :=
  let id := pair.b.nextUuid envB
  { (pair.setB (pair.b.acceptWebsocket envB)).setPhase id .connecting with
    object := Function.update pair.object id pair.b.allocated }

/-- `remove_session` up to the point where the leave is broadcast. -/
def unregister (id : Uuid) (pair : Pair) : Pair :=
  match pair.b.sessions.findById id with
  | some entry =>
      (pair.setB (State.closeStream entry.elem
        { pair.b with sessions := pair.b.sessions.eraseById id })).setPhase id .leaving
  | none => pair.setPhase id .gone

/-- `broadcast_to_nodes` up to the point where the targets are chosen. -/
def choose (request : RequestBuilder) (id : Uuid) (chosen : Bytes → List Ref → Phase)
    (pair : Pair) : Option Pair :=
  match request.getData true with
  | .error _ => none
  | .ok message =>
      let targets := State.broadcastTargets pair.b.memory pair.b.sessions.refs []
      some ((pair.setB pair.b.draw).setPhase id (chosen message targets))

/-- The rest of `broadcast_to_nodes`. -/
def sendAll (message : Bytes) (targets : List Ref) (pair : Pair) : Pair :=
  pair.setB (targets.foldl (fun state target => state.send target message)
    { pair.b with broadcast := pair.b.broadcast ++ [message] })

/-- One step; `none` when the event cannot happen. -/
def perform (envA envB : Environment) (pair : Pair) : Event → Option Pair
  | .linkUp =>
      if Fresh (pair.a.nextUuid envA) pair.a ∧ Fresh (pair.a.nextUuid envA) pair.b ∧
          Fresh (pair.b.nextUuid envB) pair.b then
        some (pair.linkUp envA envB)
      else
        none
  | .connects =>
      if Fresh (pair.b.nextUuid envB) pair.a ∧ Fresh (pair.b.nextUuid envB) pair.b then
        some (pair.connects envB)
      else
        none
  | .handshake id failed =>
      match pair.phase id with
      | .connecting =>
          if failed then
            some (pair.unregister id)
          else
            some ((pair.setB (pair.b.setOpen (pair.object id) true)).setPhase id .joining)
      | _ => none
  | .chooseJoin id =>
      match pair.phase id with
      | .joining =>
          pair.choose (({} : RequestBuilder).addJoin id (pair.b.nextUuid envB)) id .joinChosen
      | _ => none
  | .sendJoin id =>
      match pair.phase id with
      | .joinChosen message targets => some ((pair.sendAll message targets).setPhase id .joined)
      | _ => none
  | .disconnects id =>
      match pair.phase id with
      | .joined => some (pair.unregister id)
      | _ => none
  | .chooseLeave id =>
      match pair.phase id with
      | .leaving =>
          pair.choose (({} : RequestBuilder).addLeave id (pair.b.nextUuid envB)) id .leaveChosen
      | _ => none
  | .sendLeave id =>
      match pair.phase id with
      | .leaveChosen message targets => some ((pair.sendAll message targets).setPhase id .gone)
      | _ => none
  | .read near =>
      match pair.far near, pair.handling near, pair.wire near with
      | some _, none, frame :: rest =>
          some { pair with
            wire := Function.update pair.wire near rest
            handling := Function.update pair.handling near (some frame) }
      | _, _, _ => none
  | .handleFrame near =>
      match pair.far near, pair.handling near with
      | some far, some frame =>
          let next := pair.a.receive envA far (frame.drop 4)
          some { pair with
            a := next
            handling := Function.update pair.handling near none
            back := Function.update pair.back near
              (pair.back near ++ carried pair.a next far) }
      | _, _ => none
  | .readReply near =>
      match pair.far near, pair.back near with
      | some _, frame :: rest =>
          some { pair.setB (pair.b.receive envB near (frame.drop 4)) with
            back := Function.update pair.back near rest }
      | _, _ => none

/-- The frames of a link that A has not handled. -/
def pending (pair : Pair) (near : Ref) : List Bytes :=
  (pair.handling near).toList ++ pair.wire near

/-- The nodes are linked, and nothing is known yet of any websocket client of
B. -/
structure Identified (pair : Pair) : Prop where
  linked : Linked pair.a pair.b pair.far
  noneHeld : ∀ id, ¬pair.a.Holds pair.b.nodeId id
  noClient : ∀ entry ∈ pair.b.sessions, (pair.b.memory entry.elem).origin ≠ .client
  idle : ∀ near, pair.wire near = [] ∧ pair.handling near = none ∧ pair.back near = []
  absent : ∀ id, pair.phase id = .absent

/-- No frame of a link is in flight and no step of a node is under way. -/
structure Quiescent (pair : Pair) : Prop where
  empty : ∀ near, (pair.far near).isSome → pair.pending near = [] ∧ pair.back near = []
  settled : ∀ id, (pair.phase id).Settled

/-- B has a websocket session registered that it accepted itself and whose
handshake, which opens the stream, is completed. -/
def Serves (pair : Pair) (id : Uuid) : Prop :=
  ∃ entry ∈ pair.b.sessions, (pair.b.memory entry.elem).origin = .client ∧
    (pair.b.memory entry.elem).isOpen = true ∧ (pair.b.memory entry.elem).id = id

instance (pair : Pair) (id : Uuid) : Decidable (pair.Serves id) :=
  inferInstanceAs (Decidable (∃ entry ∈ pair.b.sessions, _ ∧ _ ∧ _))

/-- A does not handle the leave of a client while the join of that client is
still on its way on another link. -/
def InOrder (pair : Pair) : Event → Prop
  | .handleFrame near => ∀ frame id, pair.handling near = some frame →
      opOf frame = some (.leave id) → ∀ other, other ≠ near → (pair.far other).isSome →
        ∀ waiting ∈ pair.pending other, opOf waiting ≠ some (.join id)
  | _ => True

/-- The two nodes with the steps they and the links can take. -/
def machine (envA envB : Environment) : Machine Pair Event where
  start := Identified
  step pair event next := pair.perform envA envB event = some next

/-! ## The operations that the steps make up -/

@[simp]
theorem setPhase_self (id : Uuid) (phase : Phase) (pair : Pair) :
    (pair.setPhase id phase).phase id = phase := by
  simp [setPhase]

/-- The targets `broadcast_to_nodes` would choose. -/
def targets (pair : Pair) : List Ref :=
  State.broadcastTargets pair.b.memory pair.b.sessions.refs []

theorem choose_eq {request : RequestBuilder} {message : Bytes}
    (built : request.getData true = .ok message) (id : Uuid)
    (chosen : Bytes → List Ref → Phase) (pair : Pair) :
    pair.choose request id chosen =
      some ((pair.setB pair.b.draw).setPhase id (chosen message pair.targets)) := by
  rw [choose, built]
  rfl

/-- Choosing targets and sending to them is `broadcast_to_nodes`. -/
theorem sendAll_targets_b (message : Bytes) (id : Uuid) (phase : Phase) (pair : Pair) :
    (((pair.setB pair.b.draw).setPhase id phase).sendAll message pair.targets).b =
      pair.b.draw.broadcastToNodes message :=
  rfl

/-- The three steps of a completed handshake are `on_accept`. -/
theorem onAccept_steps (envA envB : Environment) {pair : Pair} {id : Uuid}
    (connecting : pair.phase id = .connecting)
    (named : (pair.b.memory (pair.object id)).id = id) :
    ∃ first second third, pair.perform envA envB (.handshake id false) = some first ∧
      first.perform envA envB (.chooseJoin id) = some second ∧
        second.perform envA envB (.sendJoin id) = some third ∧
          pair.b.onAccept envB (pair.object id) false = .ok third.b := by
  obtain ⟨message, built⟩ := getData_ok_of_fits
    (addJoin_fits id (pair.b.nextUuid envB)) true
  let first := (pair.setB (pair.b.setOpen (pair.object id) true)).setPhase id .joining
  let second := (first.setB first.b.draw).setPhase id (.joinChosen message first.targets)
  refine ⟨first, second, (second.sendAll message first.targets).setPhase id .joined, ?_, ?_, ?_,
    ?_⟩
  · simp [perform, connecting, first]
  · have joining : first.phase id = .joining := setPhase_self id .joining _
    simp only [perform, joining]
    exact choose_eq built id .joinChosen first
  · have chosen : second.phase id = .joinChosen message first.targets := setPhase_self id _ _
    simp only [perform, chosen]
  · have stillNamed : ((pair.b.setOpen (pair.object id) true).memory (pair.object id)).id = id := by
      rw [State.setOpen, State.update_memory_self]
      exact named
    rw [State.onAccept, if_neg (by decide)]
    simp only [stillNamed]
    change (({} : RequestBuilder).addJoin id (pair.b.nextUuid envB)).getData true >>= _ = _
    rw [built]
    rfl

/-- The three steps of a client that disconnects are `remove_session`. -/
theorem removeSession_steps (envA envB : Environment) {pair : Pair} {id : Uuid} {entry : Entry}
    (joined : pair.phase id = .joined) (registered : pair.b.sessions.findById id = some entry)
    (websocket : (pair.b.memory entry.elem).type = .websocket)
    (named : (pair.b.memory entry.elem).id = id) :
    ∃ first second third, pair.perform envA envB (.disconnects id) = some first ∧
      first.perform envA envB (.chooseLeave id) = some second ∧
        second.perform envA envB (.sendLeave id) = some third ∧
          pair.b.removeSession envB id = .ok (true, third.b) := by
  let erased : State := { pair.b with sessions := pair.b.sessions.eraseById id }
  let first := (pair.setB (erased.closeStream entry.elem)).setPhase id .leaving
  obtain ⟨message, built⟩ := getData_ok_of_fits
    (addLeave_fits id (first.b.nextUuid envB)) true
  let second := (first.setB first.b.draw).setPhase id (.leaveChosen message first.targets)
  refine ⟨first, second, (second.sendAll message first.targets).setPhase id .gone, ?_, ?_, ?_,
    ?_⟩
  · simp only [perform, joined, unregister, registered]
    rfl
  · have leaving : first.phase id = .leaving := setPhase_self id .leaving _
    simp only [perform, leaving]
    exact choose_eq built id .leaveChosen first
  · have chosen : second.phase id = .leaveChosen message first.targets := setPhase_self id _ _
    simp only [perform, chosen]
  · have stillNamed : ((erased.closeStream entry.elem).memory entry.elem).id = id :=
      (State.closeStream_id entry.elem erased entry.elem).trans named
    have stillWebsocket : (erased.memory entry.elem).type = .websocket := websocket
    rw [State.removeSession, registered]
    simp only
    change State.disconnectSession envB entry.elem erased >>= _ = _
    rw [State.disconnectSession, stillWebsocket]
    simp only [stillNamed]
    change (({} : RequestBuilder).addLeave id (first.b.nextUuid envB)).getData true >>= _ >>= _ = _
    rw [built]
    rfl

end Pair

end Aurum.Cluster
