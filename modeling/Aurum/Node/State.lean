import Aurum.Node.Session
import Aurum.Protocol.FrameBuilder
import Mathlib.Logic.Function.Basic

/-!
# The state of a node

`state` with the operations on its session registry, and the callbacks of
listeners and websocket sessions that act on it.  Calls whose effect lies
outside the node (outbound connects, posted tasks, queued messages, closed
sessions) are recorded in order.

Random identifiers, the outcome of outbound connects and the orders in which
hashed indices enumerate their entries come from an `Environment`.
-/

namespace Aurum.Node

open Aurum.Protocol
open Aurum.Container

structure Environment where
  /-- The identifiers `random_generator()()` returns, in order. -/
  uuid : Nat → Uuid
  /-- Whether the address of an outbound attempt resolves and connects. -/
  connects : Nat → Bool
  /-- Where the session container places a new entry. -/
  placement : Placement Ref Key
  /-- The order in which an `equal_range` enumerates its sessions. -/
  order : List Ref → List Ref
  order_perm : ∀ refs, (order refs).Perm refs

/-- New entries go first and an `equal_range` is in iteration order. -/
def Environment.plain (uuid : Nat → Uuid) (connects : Nat → Bool) : Environment where
  uuid := uuid
  connects := connects
  placement := ⟨fun entries entry => entry :: entries, fun _ _ => List.Perm.refl _⟩
  order := id
  order_perm := fun _ => List.Perm.refl _

structure State where
  nodeId : Uuid
  /-- `configuration::tcp_port_`. -/
  tcpPort : UInt16
  /-- The session objects, of which the first `allocated` exist. -/
  memory : Ref → Session
  allocated : Nat
  sessions : Registry
  roundRobin : Uuid → UInt64
  /-- How many random identifiers have been drawn. -/
  drawn : Nat
  /-- The calls of `connect`. -/
  dialed : List Endpoint
  /-- The calls of `connect` posted to the executor and not yet run. -/
  posted : List Endpoint
  /-- The messages passed to `session::send`. -/
  sent : List (Ref × Bytes)
  /-- The messages passed to `broadcast_to_nodes`. -/
  broadcast : List Bytes
  /-- The calls of `session::disconnect`. -/
  disconnected : List Ref

namespace State

/-- A node that has just bound its listeners. -/
def initial (nodeId : Uuid) (tcpPort : UInt16) : State :=
  { nodeId := nodeId, tcpPort := tcpPort, memory := fun _ => tcpSession Uuid.nil .external,
    allocated := 0, sessions := [], roundRobin := fun _ => 0, drawn := 0, dialed := [],
    posted := [], sent := [], broadcast := [], disconnected := [] }

/-- What the next call of `random_generator()()` returns. -/
def nextUuid (env : Environment) (state : State) : Uuid :=
  env.uuid state.drawn

/-- The state after a call of `random_generator()()`. -/
def draw (state : State) : State :=
  { state with drawn := state.drawn + 1 }

/-- `make_shared` of a session object, under the reference `state.allocated`. -/
def allocate (session : Session) (state : State) : State :=
  { state with
    memory := Function.update state.memory state.allocated session
    allocated := state.allocated + 1 }

/-- Overwrite a session object. -/
def update (ref : Ref) (change : Session → Session) (state : State) : State :=
  { state with memory := Function.update state.memory ref (change (state.memory ref)) }

/-- `set_node_id`. -/
def setNodeId (ref : Ref) (nodeId : Uuid) (state : State) : State :=
  state.update ref fun session => { session with nodeId := nodeId }

/-- `set_port`. -/
def setPort (ref : Ref) (port : UInt16) (state : State) : State :=
  state.update ref fun session => { session with port := port }

/-- `set_host`. -/
def setHost (ref : Ref) (host : Bytes) (state : State) : State :=
  state.update ref fun session => { session with host := host }

/-- Mark the stream of a session open or closed. -/
def setOpen (ref : Ref) (isOpen : Bool) (state : State) : State :=
  state.update ref fun session => { session with isOpen := isOpen }

/-- `session::send`: queue a message on a session. -/
def send (ref : Ref) (message : Bytes) (state : State) : State :=
  { state with sent := state.sent ++ [(ref, message)] }

/-- `boost::asio::post` of a later `connect`. -/
def post (endpoint : Endpoint) (state : State) : State :=
  { state with posted := state.posted ++ [endpoint] }

/-- `add_session`: the entry is filed under the session's current key. -/
def addSession (env : Environment) (ref : Ref) (state : State) : Bool × State :=
  let entry : Entry := ⟨ref, (state.memory ref).key⟩
  let (inserted, sessions) := insertUnique Key.id env.placement state.sessions entry
  (inserted, { state with sessions := sessions })

/-! ## Messages to peers -/

/-- The sessions `broadcast_to_nodes` selects: the first TCP session of every
node id not visited before. -/
def broadcastTargets (memory : Ref → Session) : List Ref → List Uuid → List Ref
  | [], _ => []
  | ref :: refs, visited =>
      if (memory ref).type ≠ .tcp then
        broadcastTargets memory refs visited
      else if (memory ref).nodeId ∈ visited then
        broadcastTargets memory refs visited
      else
        ref :: broadcastTargets memory refs (visited ++ [(memory ref).nodeId])

/-- `broadcast_to_nodes`. -/
def broadcastToNodes (message : Bytes) (state : State) : State :=
  (broadcastTargets state.memory state.sessions.refs []).foldl
    (fun state target => state.send target message)
    { state with broadcast := state.broadcast ++ [message] }

/-- `send_to_node`. -/
def sendToNode (env : Environment) (node : Uuid) (message : Bytes) (state : State) : State :=
  let range := env.order (state.sessions.byNodeAndType node .tcp)
  if range.length > 0 then
    let index := state.roundRobin node
    let state := { state with roundRobin := Function.update state.roundRobin node (index + 1) }
    match range[index.toNat % range.length]? with
    | some target => state.send target message
    | none => state
  else
    state

/-! ## Removal -/

/-- Close the stream of a session when it is open. -/
def closeStream (ref : Ref) (state : State) : State :=
  let state := { state with disconnected := state.disconnected ++ [ref] }
  if (state.memory ref).isOpen then state.setOpen ref false else state

/-- `tcp_session::disconnect` and `websocket_session::disconnect`. -/
def disconnectSession (env : Environment) (ref : Ref) (state : State) : Result State :=
  match (state.memory ref).type with
  | .tcp => .ok (state.closeStream ref)
  | .websocket => do
      let state := state.closeStream ref
      let request := ({} : RequestBuilder).addLeave (state.memory ref).id (state.nextUuid env)
      let data ← request.getData true
      return state.draw.broadcastToNodes data

/-- `remove_session`. -/
def removeSession (env : Environment) (id : Uuid) (state : State) : Result (Bool × State) :=
  match state.sessions.findById id with
  | some entry => do
      let state ← disconnectSession env entry.elem
        { state with sessions := state.sessions.eraseById id }
      return (true, state)
  | none => .ok (false, state)

/-- The loop of `disconnect` and `disconnect_all` over the collected ids. -/
def removeSessions (env : Environment) : List Uuid → State → Result State
  | [], state => .ok state
  | id :: ids, state => do
      let (_, state) ← removeSession env id state
      removeSessions env ids state

/-- `disconnect`: every session the node-id index finds. -/
def disconnect (env : Environment) (node : Uuid) (state : State) : Result State :=
  let range := env.order (state.sessions.byNodeId node)
  removeSessions env (range.map fun ref => (state.memory ref).id) state

/-- `disconnect_all`. -/
def disconnectAll (env : Environment) (state : State) : Result State :=
  removeSessions env (state.sessions.refs.map fun ref => (state.memory ref).id) state

/-! ## Connections -/

/-- `"127.0.0.1"`. -/
def localHost : Bytes :=
  [49, 50, 55, 46, 48, 46, 48, 46, 49]

/-- The request `connect` opens a link with. -/
def openRequest (env : Environment) (withDiscovery : Bool) (connectionsPerNode : UInt16)
    (state : State) : RequestBuilder :=
  let request := ({} : RequestBuilder).addIdentify state.nodeId connectionsPerNode
    (state.nextUuid env) state.tcpPort localHost
  if withDiscovery then request.addDiscovery (state.draw.nextUuid env) else request

/-- What `connect` does with a socket that has connected. -/
def openSession (env : Environment) (withDiscovery : Bool) (connectionsPerNode : UInt16)
    (state : State) : Result (Bool × State) :=
  let session := state.allocated
  let (inserted, state) :=
    (state.draw.allocate (tcpSession (state.nextUuid env) .dialed)).addSession env session
  if inserted then do
    let buffer ← (openRequest env withDiscovery connectionsPerNode state).getData true
    let state := if withDiscovery then state.draw.draw else state.draw
    return (true, state.send session buffer)
  else
    .ok (false, state)

/-- `connect`. -/
def connect (env : Environment) (host : Bytes) (port : UInt16) (withDiscovery : Bool)
    (connectionsPerNode : UInt16) (state : State) : Result (Bool × State) :=
  let attempt := state.dialed.length
  let state := { state with dialed := state.dialed ++ [⟨host, port⟩] }
  if env.connects attempt then
    openSession env withDiscovery connectionsPerNode state
  else
    .ok (false, state)

/-- Run the oldest posted `connect`. -/
def runPosted (env : Environment) (state : State) : Result State :=
  match state.posted with
  | [] => .ok state
  | endpoint :: posted => do
      let (_, state) ← connect env endpoint.host endpoint.port false 0
        { state with posted := posted }
      return state

/-- The accept callback of `tcp_listener`. -/
def acceptTcp (env : Environment) (state : State) : State :=
  let session := state.allocated
  let state := state.draw.allocate (tcpSession (state.nextUuid env) .accepted)
  (state.addSession env session).2

/-- The accept callback of `websocket_listener`. -/
def acceptWebsocket (env : Environment) (state : State) : State :=
  let session := state.allocated
  let state := state.draw.allocate (websocketSession (state.nextUuid env) .client)
  let state := state.setNodeId session state.nodeId
  (state.addSession env session).2

/-- `websocket_session::on_accept`. -/
def onAccept (env : Environment) (ref : Ref) (failed : Bool) (state : State) : Result State :=
  if failed then do
    let (_, state) ← removeSession env (state.memory ref).id state
    return state
  else
    let state := state.setOpen ref true
    let request := ({} : RequestBuilder).addJoin (state.memory ref).id (state.nextUuid env)
    do
      let data ← request.getData true
      return state.draw.broadcastToNodes data

/-! ## Session objects -/

@[simp]
theorem update_memory_self (ref : Ref) (change : Session → Session) (state : State) :
    (state.update ref change).memory ref = change (state.memory ref) := by
  simp [update]

theorem update_memory_of_ne {ref other : Ref} (differs : other ≠ ref)
    (change : Session → Session) (state : State) :
    (state.update ref change).memory other = state.memory other := by
  simp [update, differs]

@[simp]
theorem allocate_memory_self (session : Session) (state : State) :
    (state.allocate session).memory state.allocated = session := by
  simp [allocate]

theorem allocate_memory_of_ne {other : Ref} (session : Session) {state : State}
    (differs : other ≠ state.allocated) :
    (state.allocate session).memory other = state.memory other := by
  simp [allocate, differs]

@[simp]
theorem allocate_allocated (session : Session) (state : State) :
    (state.allocate session).allocated = state.allocated + 1 :=
  rfl

@[simp]
theorem draw_allocated (state : State) : state.draw.allocated = state.allocated :=
  rfl

end State

end Aurum.Node
