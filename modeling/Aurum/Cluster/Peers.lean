import Aurum.Cluster.Model
import Aurum.Node.Outgoing

/-!
# Two nodes that get linked

Node A calls `connect` towards node B and asks for a number of connections; B
dials back for all but the first.  Every dial makes a connection that the other
node accepts some time later, and a link delivers in order.  Apart from that the
dials, accepts and frames of the links happen in any order.
-/

namespace Aurum.Cluster

open Aurum.Protocol
open Aurum.Node
open Aurum.Transition

inductive Side
  | a
  | b
  deriving DecidableEq

def Side.other : Side → Side
  | .a => .b
  | .b => .a

@[simp]
theorem Side.other_other (side : Side) : side.other.other = side := by
  cases side <;> rfl

theorem Side.other_ne (side : Side) : side.other ≠ side := by
  cases side <;> exact Side.noConfusion

theorem Side.eq_or_eq_other (side dialer : Side) : side = dialer ∨ side = dialer.other := by
  cases side <;> cases dialer <;> simp [Side.other]

/-- A connection between the two nodes. -/
structure Link where
  /-- The node that dialed. -/
  dialer : Side
  /-- Its session. -/
  near : Ref
  /-- The session of the other node, once the connection is accepted. -/
  far : Option Ref
  /-- The frames sent at the near end and not yet read. -/
  forth : List Bytes
  /-- The frames sent at the far end and not yet read. -/
  back : List Bytes

/-- The session of a node at its end of a link. -/
def Link.endAt (side : Side) (link : Link) : Option Ref :=
  if link.dialer = side then some link.near else link.far

@[simp]
theorem Link.endAt_dialer (link : Link) : link.endAt link.dialer = some link.near :=
  if_pos rfl

@[simp]
theorem Link.endAt_other (link : Link) : link.endAt link.dialer.other = link.far :=
  if_neg (Side.other_ne link.dialer).symm

/-- The link with its connection accepted. -/
def Link.accept (far : Ref) (link : Link) : Link :=
  { link with far := some far }

/-- The link with a frame read at the far end, and replied to. -/
def Link.readForth (rest replies : List Bytes) (link : Link) : Link :=
  { link with
    forth := rest
    back := link.back ++ replies }

/-- The link with a frame read at the near end, and replied to. -/
def Link.readBack (rest replies : List Bytes) (link : Link) : Link :=
  { link with
    forth := link.forth ++ replies
    back := rest }

@[simp]
theorem Link.endAt_accept_dialer (far : Ref) (link : Link) :
    (link.accept far).endAt link.dialer = some link.near :=
  if_pos rfl

@[simp]
theorem Link.endAt_accept_other (far : Ref) (link : Link) :
    (link.accept far).endAt link.dialer.other = some far :=
  if_neg (Side.other_ne link.dialer).symm

/-- What surrounds the two nodes. -/
structure Surroundings where
  env : Side → Environment
  /-- The node whose listener takes the connections to an endpoint. -/
  listener : Endpoint → Option Side
  /-- No listener is bound to port 0. -/
  unbound : ∀ host, listener ⟨host, 0⟩ = none

/-- A dial of one node succeeds and reaches the other one. -/
def Surroundings.Reaches (around : Surroundings) (side : Side) (endpoint : Endpoint)
    (state : State) : Prop :=
  around.listener endpoint = some side.other ∧
    (around.env side).connects state.dialed.length = true ∧
    Fresh (state.nextUuid (around.env side)) state

instance (around : Surroundings) (side : Side) (endpoint : Endpoint) (state : State) :
    Decidable (around.Reaches side endpoint state) :=
  inferInstanceAs (Decidable (_ ∧ _ ∧ _))

structure Peers where
  node : Side → State
  links : List Link

namespace Peers

inductive Event
  /-- A node runs one of the connects it has posted. -/
  | dial (side : Side) (position : Nat)
  /-- The connection of a link is accepted. -/
  | accept (index : Nat)
  /-- The far end of a link reads and handles the next frame. -/
  | readForth (index : Nat)
  /-- The near end of a link reads and handles the next frame. -/
  | readBack (index : Nat)

/-- The link of a dial that has left the given node behind. -/
def dialed (side : Side) (before after : State) : Link :=
  ⟨side, before.allocated, none, carried before after before.allocated, []⟩

/-- One step; `none` when the event cannot happen. -/
def perform (around : Surroundings) (peers : Peers) : Event → Option Peers
  | .dial side position =>
      match (peers.node side).posted[position]? with
      | none => none
      | some endpoint =>
          if around.Reaches side endpoint (peers.node side) then
            let rest := (peers.node side).posted.eraseIdx position
            match State.runPosted (around.env side)
                { peers.node side with posted := endpoint :: rest } with
            | .error _ => none
            | .ok next =>
                some
                  { node := Function.update peers.node side next
                    links := peers.links ++ [dialed side (peers.node side) next] }
          else
            none
  | .accept index =>
      match peers.links[index]? with
      | none => none
      | some link =>
          let side := link.dialer.other
          if link.far = none ∧
              Fresh ((peers.node side).nextUuid (around.env side)) (peers.node side) then
            some
              { node := Function.update peers.node side
                  ((peers.node side).acceptTcp (around.env side))
                links := peers.links.set index (link.accept (peers.node side).allocated) }
          else
            none
  | .readForth index =>
      match peers.links[index]? with
      | none => none
      | some link =>
          match link.far, link.forth with
          | some far, frame :: rest =>
              let side := link.dialer.other
              let next := (peers.node side).receive (around.env side) far (frame.drop 4)
              some
                { node := Function.update peers.node side next
                  links := peers.links.set index
                    (link.readForth rest (carried (peers.node side) next far)) }
          | _, _ => none
  | .readBack index =>
      match peers.links[index]? with
      | none => none
      | some link =>
          match link.back with
          | frame :: rest =>
              let side := link.dialer
              let next := (peers.node side).receive (around.env side) link.near (frame.drop 4)
              some
                { node := Function.update peers.node side next
                  links := peers.links.set index
                    (link.readBack rest (carried (peers.node side) next link.near)) }
          | [] => none

/-- Both nodes run, no TCP session of one carries the node id of the other, and
no connect is posted. -/
structure Strangers (around : Surroundings) (node : Side → State) : Prop where
  reachable : ∀ side, (Node.machine (around.env side)).Reachable (node side)
  distinct : (node .a).nodeId ≠ (node .b).nodeId
  apart : ∀ side, ∀ entry ∈ (node side).sessions, ((node side).memory entry.elem).type = .tcp →
    ((node side).memory entry.elem).nodeId ≠ (node side.other).nodeId
  idle : ∀ side, (node side).posted = []

/-- A has called `connect` towards B. -/
def Called (around : Surroundings) (node : Side → State) (target : Endpoint)
    (connectionsPerNode : UInt16) (peers : Peers) : Prop :=
  around.Reaches .a target (node .a) ∧ ∃ connected next,
    (node .a).connect (around.env .a) target.host target.port false connectionsPerNode =
      .ok (connected, next) ∧
    peers = ⟨Function.update node .a next, [dialed .a (node .a) next]⟩

/-- The two nodes after the call, with the steps they and their links can take. -/
def machine (around : Surroundings) (node : Side → State) (target : Endpoint)
    (connectionsPerNode : UInt16) : Machine Peers Event where
  start := Called around node target connectionsPerNode
  step peers event next := peers.perform around event = some next

/-- Nothing is in flight: all connections are accepted, all frames read and all
connects run. -/
structure Quiet (peers : Peers) : Prop where
  read : ∀ link ∈ peers.links, link.far.isSome ∧ link.forth = [] ∧ link.back = []
  run : ∀ side, (peers.node side).posted = []

/-- The TCP sessions of a node that carry the node id of the other. -/
def sessionsWith (peers : Peers) (side : Side) : List Ref :=
  ((peers.node side).sessions.filter fun entry =>
    ((peers.node side).memory entry.elem).type = .tcp ∧
      ((peers.node side).memory entry.elem).nodeId = (peers.node side.other).nodeId).map
    Aurum.Container.Filed.elem

/-- The sessions of a node at its ends of the links. -/
def ends (peers : Peers) (side : Side) : List Ref :=
  peers.links.filterMap (Link.endAt side)

instance (peers : Peers) : Decidable peers.Quiet :=
  decidable_of_iff ((∀ link ∈ peers.links, link.far.isSome ∧ link.forth = [] ∧ link.back = []) ∧
      (peers.node .a).posted = [] ∧ (peers.node .b).posted = [])
    ⟨fun ⟨read, a, b⟩ => ⟨read, fun side => match side with | .a => a | .b => b⟩,
      fun quiet => ⟨quiet.read, quiet.run .a, quiet.run .b⟩⟩

/-! ## Runs -/

section Run

variable (around : Surroundings) (node : Side → State) (target : Endpoint)
  (connectionsPerNode : UInt16)

/-- The call of `connect`. -/
def call : Option Peers :=
  if around.Reaches .a target (node .a) then
    match (node .a).connect (around.env .a) target.host target.port false connectionsPerNode with
    | .error _ => none
    | .ok (_, next) => some ⟨Function.update node .a next, [dialed .a (node .a) next]⟩
  else
    none

/-- The call and some events behind it, if each is possible. -/
def run (events : List Event) : Option Peers :=
  (call around node target connectionsPerNode).bind fun peers =>
    events.foldlM (perform around) peers

variable {around node target connectionsPerNode}

theorem called_of_call {peers : Peers}
    (calls : call around node target connectionsPerNode = some peers) :
    Called around node target connectionsPerNode peers := by
  unfold call at calls
  split at calls
  · rename_i reaches
    split at calls
    · cases calls
    · rename_i connected next connect
      cases calls
      exact ⟨reaches, connected, next, connect, rfl⟩
  · cases calls

theorem reachable_of_run {events : List Event} {peers : Peers}
    (ran : run around node target connectionsPerNode events = some peers) :
    (machine around node target connectionsPerNode).Reachable peers := by
  rcases Option.bind_eq_some_iff.mp ran with ⟨start, calls, rest⟩
  have starts : (machine around node target connectionsPerNode).Reachable start :=
    .start (called_of_call calls)
  exact starts.foldlM (fun _ _ _ performed => performed) rest

end Run

end Peers

end Aurum.Cluster
