import Aurum.Node.Sections
import Aurum.Transition.LockOrder

/-!
# The operations with their locks

What a thread does when it carries out an operation of the node, with the locks
it takes: `sessions_mutex_` around the registry, `round_robin_mutex_` around
the round-robin table, and the mutex of whatever frame builder it has at hand.
Builders are local to the thread that made them, so their mutexes are named
after it.
-/

namespace Aurum.Node

open Aurum.Protocol
open Aurum.Transition
open Aurum.Wire

inductive Lock (ι : Type)
  /-- `sessions_mutex_`. -/
  | sessions
  /-- `round_robin_mutex_`. -/
  | roundRobin
  /-- `shared_buffers_mutex_` of a builder of the given thread. -/
  | buffers (owner : ι)
  deriving DecidableEq

/-- What a thread does on the node, ending with a value or an exception. -/
abbrev Job (ι α : Type) := ExceptT Failure (Program (Lock ι) State) α

namespace Job

variable {ι α β : Type}

/-- What a job does when nothing else runs. -/
def alone (job : Job ι α) (state : State) : Result α × State :=
  Program.run (ExceptT.run job) state

/-- A step on the node outside of any lock of its own. -/
def change (step : State → State) : Job ι Unit :=
  ExceptT.lift (.change step)

def read (look : State → α) : Job ι α :=
  ExceptT.lift (.read look)

def modify (step : State → α × State) : Job ι α :=
  ExceptT.lift (.modify step)

/-- A scope with a lock; an exception leaves it too. -/
def locked (lock : Lock ι) (mode : Mode) (body : Job ι α) : Job ι α :=
  ExceptT.mk (.locked lock mode (ExceptT.run body))

/-- What the standard library throws. -/
def ofResult (result : Result α) : Job ι α :=
  ExceptT.mk (.done result)

/-! ## Messages and builders -/

section Operations

variable (env : Environment) (owner : ι)

/-- `random_generator()()`. -/
def draw : Job ι Uuid :=
  modify fun state => (state.nextUuid env, state.draw)

/-- An `add_*` call, which locks the buffers to append. -/
def add (builder : β) : Job ι β :=
  locked (.buffers owner) .exclusive (pure builder)

/-- `get_data` and `get_buffers`. -/
def getData (builder : BaseBuilder) (withHeader : Bool) : Job ι Bytes :=
  locked (.buffers owner) .shared (ofResult (builder.getData withHeader))

/-- `session::send` posts to the strand of the session. -/
def send (ref : Ref) (message : Bytes) : Job ι Unit :=
  change (State.send ref message)

/-- `state::broadcast_to_nodes`. -/
def broadcastToNodes (message : Bytes) : Job ι Unit := do
  let targets ← locked .sessions .shared
    (read fun state => State.broadcastTargets state.memory state.sessions.refs [])
  change fun state => targets.foldl (fun state target => state.send target message)
    { state with broadcast := state.broadcast ++ [message] }

/-- `state::send_to_node`. -/
def sendToNode (node : Uuid) (message : Bytes) : Job ι Unit := do
  let target ← locked .sessions .shared do
    let range ← read fun state => env.order (state.sessions.byNodeAndType node .tcp)
    if range.length > 0 then
      let index ← locked .roundRobin .exclusive
        (modify fun state => (state.roundRobin node, { state with
          roundRobin := Function.update state.roundRobin node (state.roundRobin node + 1) }))
      return range[index.toNat % range.length]?
    else
      return none
  match target with
  | some target => send target message
  | none => return ()

/-! ## Registration -/

/-- `state::add_session`. -/
def addSession (ref : Ref) : Job ι Bool :=
  locked .sessions .exclusive (modify (State.addSession env ref))

/-- `tcp_session::disconnect` and `websocket_session::disconnect`. -/
def disconnectSession (ref : Ref) : Job ι Unit := do
  match ← read fun state => (state.memory ref).type with
  | .tcp => change (State.closeStream ref)
  | .websocket =>
      change (State.closeStream ref)
      let id ← read fun state => (state.memory ref).id
      let request ← add owner (({} : RequestBuilder).addLeave id (← draw env))
      let data ← getData owner request.toBaseBuilder true
      broadcastToNodes data

/-- `state::remove_session`. -/
def removeSession (id : Uuid) : Job ι Bool := do
  match ← locked .sessions .exclusive (modify (State.takeOut id)) with
  | some ref =>
      disconnectSession env owner ref
      return true
  | none => return false

/-- The loop of `disconnect` and `disconnect_all`. -/
def removeSessions : List Uuid → Job ι Unit
  | [] => return ()
  | id :: ids => do
      let _ ← removeSession env owner id
      removeSessions ids

/-- `state::disconnect`. -/
def disconnect (node : Uuid) : Job ι Unit := do
  let ids ← locked .sessions .exclusive (read (State.idsUnder env node))
  removeSessions env owner ids

/-- `state::disconnect_all`. -/
def disconnectAll : Job ι Unit := do
  let ids ← locked .sessions .exclusive (read State.allIds)
  removeSessions env owner ids

/-! ## Connections -/

/-- What `connect` does with a socket that has connected. -/
def openSession (withDiscovery : Bool) (connectionsPerNode : UInt16) : Job ι Bool := do
  let id ← draw env
  let session ← modify fun state => (state.allocated, state.allocate (tcpSession id .dialed))
  if ← addSession env session then
    let nodeId ← read State.nodeId
    let tcpPort ← read State.tcpPort
    let request ← add owner (({} : RequestBuilder).addIdentify nodeId connectionsPerNode
      (← draw env) tcpPort State.localHost)
    let request ← if withDiscovery then add owner (request.addDiscovery (← draw env))
      else pure request
    let buffer ← getData owner request.toBaseBuilder true
    send session buffer
    return true
  else
    return false

/-- `state::connect`. -/
def connect (host : Bytes) (port : UInt16) (withDiscovery : Bool) (connectionsPerNode : UInt16) :
    Job ι Bool := do
  let attempt ← modify fun state =>
    (state.dialed.length, { state with dialed := state.dialed ++ [⟨host, port⟩] })
  if env.connects attempt then
    openSession env owner withDiscovery connectionsPerNode
  else
    return false

/-- Run the oldest posted `connect`. -/
def runPosted : Job ι Unit := do
  match ← modify fun state => (state.posted.head?, { state with posted := state.posted.tail }) with
  | none => return ()
  | some endpoint =>
      let _ ← connect env owner endpoint.host endpoint.port false 0

/-- The accept callback of `tcp_listener`. -/
def acceptTcp : Job ι Unit := do
  let id ← draw env
  let session ← modify fun state => (state.allocated, state.allocate (tcpSession id .accepted))
  let _ ← addSession env session

/-- The accept callback of `websocket_listener`. -/
def acceptWebsocket : Job ι Unit := do
  let id ← draw env
  let session ← modify fun state =>
    (state.allocated, state.allocate (websocketSession id .client))
  change fun state => state.setNodeId session state.nodeId
  let _ ← addSession env session

/-- `websocket_session::on_accept`. -/
def onAccept (ref : Ref) (failed : Bool) : Job ι Unit := do
  if failed then
    let id ← read fun state => (state.memory ref).id
    let _ ← removeSession env owner id
  else
    change (State.setOpen ref true)
    let id ← read fun state => (state.memory ref).id
    let request ← add owner (({} : RequestBuilder).addJoin id (← draw env))
    let data ← getData owner request.toBaseBuilder true
    broadcastToNodes data

/-! ## Handlers -/

variable (session : Ref)

def ping (type : MessageType) (builder : ResponseBuilder) (transactionId : Uuid) :
    Job ι ResponseBuilder :=
  if type = .response then
    return builder
  else
    add owner (builder.addPing transactionId ExitCode.success.byte)

def nonImplemented (type : MessageType) (builder : ResponseBuilder) (transactionId : Uuid) :
    Job ι ResponseBuilder :=
  if type = .response then
    return builder
  else
    add owner (builder.addNonImplemented OpCode.opNonImplemented.byte transactionId)

def whoami (type : MessageType) (builder : ResponseBuilder) (transactionId : Uuid) :
    Job ι ResponseBuilder :=
  if type = .response then
    return builder
  else do
    let own ← read fun state => state.memory session
    let nodeId ← read State.nodeId
    add owner (builder.addWhoami transactionId own.id nodeId own.type)

def identify (type : MessageType) (builder : ResponseBuilder) (transactionId : Uuid)
    (payload : Bytes) : Job ι ResponseBuilder := do
  if (← read fun state => (state.memory session).type) = .websocket then
    return builder
  else if payload.length < 16 then
    return builder
  else
    let remoteNodeId ← ofResult (readUuid payload 0)
    change (State.setNodeId session remoteNodeId)
    if type = .request ∧ 20 ≤ payload.length then
      let connectionsPerNode ← ofResult (readU16 payload 16)
      let remotePort ← ofResult (readU16 payload 18)
      change (State.setPort session remotePort)
      if 20 < payload.length then
        let remoteHost ← ofResult (readBytes payload 20 (payload.length - 20))
        change (State.setHost session remoteHost)
        let builder ← add owner (builder.addIdentify transactionId (← read State.nodeId))
        if 1 < connectionsPerNode.toNat ∧ remoteHost ≠ [] ∧ remotePort ≠ 0 then
          change (Handlers.postDials ⟨remoteHost, remotePort⟩ (connectionsPerNode.toNat - 1))
          return builder
        else
          return builder
      else
        add owner (builder.addIdentify transactionId (← read State.nodeId))
    else if type = .request ∧ 16 ≤ payload.length then
      add owner (builder.addIdentify transactionId (← read State.nodeId))
    else
      return builder

/-- One round of the loop of the discovery response. -/
def visitEndpoint (endpoint : Endpoint) : Job ι Unit := do
  if ← locked .sessions .shared (read fun state => Handlers.alreadyConnected endpoint state) then
    return ()
  else
    let _ ← connect env owner endpoint.host endpoint.port false 0

def visitEndpoints (payload : Bytes) : Nat → Nat → Job ι Unit
  | 0, _ => return ()
  | remaining + 1, offset => do
      match ← ofResult (Handlers.readEndpoint payload offset) with
      | none => return ()
      | some (endpoint, offset) =>
          visitEndpoint env owner endpoint
          visitEndpoints payload remaining offset

/-- The lock of the request branch is held while the response is queued. -/
def discovery (type : MessageType) (builder : ResponseBuilder) (transactionId : Uuid)
    (payload : Bytes) : Job ι ResponseBuilder :=
  if type = .request then
    locked .sessions .shared do
      let nodes ← read fun state => Handlers.knownEndpoints session state
      add owner (builder.addDiscovery transactionId nodes)
  else if type = .response then
    if payload.length < 4 then
      return builder
    else do
      let nodesCount ← ofResult (readU32 payload 0)
      visitEndpoints env owner payload nodesCount.toNat 4
      return builder
  else
    return builder

def join (type : MessageType) (builder : ResponseBuilder) (transactionId : Uuid)
    (payload : Bytes) : Job ι ResponseBuilder := do
  if ← read fun state => decide (Ignored state session type payload) then
    return builder
  else
    let websocketId ← ofResult (readUuid payload 0)
    let newSession ← modify fun state =>
      (state.allocated, state.buildPlaceholder session websocketId)
    let _ ← addSession env newSession
    let count ← locked .sessions .shared (read (State.countFound websocketId))
    add owner (builder.addJoin transactionId count)

def leave (type : MessageType) (builder : ResponseBuilder) (transactionId : Uuid)
    (payload : Bytes) : Job ι ResponseBuilder := do
  if ← read fun state => decide (Ignored state session type payload) then
    return builder
  else
    let websocketId ← ofResult (readUuid payload 0)
    let removedCount ← locked .sessions .exclusive (modify (State.takeOutAll websocketId))
    add owner (builder.addLeave transactionId removedCount)

/-- The handler that an opcode selects. -/
def handler (message : Submessage) (builder : ResponseBuilder) : Job ι ResponseBuilder :=
  if message.opcode = OpCode.ping.byte then
    ping owner message.type builder message.transactionId
  else if message.opcode = OpCode.identify.byte then
    identify owner session message.type builder message.transactionId message.payload
  else if message.opcode = OpCode.discovery.byte then
    discovery env owner session message.type builder message.transactionId message.payload
  else if message.opcode = OpCode.join.byte then
    join env owner session message.type builder message.transactionId message.payload
  else if message.opcode = OpCode.leave.byte then
    leave owner session message.type builder message.transactionId message.payload
  else if message.opcode = OpCode.whoami.byte then
    whoami owner session message.type builder message.transactionId
  else
    nonImplemented owner message.type builder message.transactionId

/-! ## Frames -/

/-- The dispatch loop; `none` is its early `return nullptr`. -/
def dispatch (frame : Bytes) :
    List UInt16 → Nat → ResponseBuilder → Job ι (Option ResponseBuilder)
  | [], _, builder => return some builder
  | requestLength :: lengths, offset, builder =>
      if frame.length - 2 - offset < requestLength.toNat then
        return none
      else if requestLength.toNat < 18 then
        return none
      else do
        let message ← ofResult (Kernel.readSubmessage frame offset requestLength.toNat)
        let builder ← handler env owner session message builder
        dispatch frame lengths (offset + requestLength.toNat) builder

/-- `session_kernel::handle`; `none` is `nullptr`. -/
def handle (frame : Bytes) : Job ι (Option Bytes) :=
  if frame.length < 2 then
    return none
  else do
    let expectedCrc ← ofResult (readU16 frame (frame.length - 2))
    if Crc.ccitt (frame.take (frame.length - 2)) ≠ expectedCrc then
      return none
    else if frame.length - 2 < 2 then
      return none
    else
      let numberOfRequests ← ofResult (readU16 frame 0)
      if frame.length - 2 - 2 < numberOfRequests.toNat * 2 then
        return none
      else
        let (lengths, offset) ← ofResult (Kernel.readLengths frame numberOfRequests.toNat 2)
        -- `reserve` locks the buffers as an `add_*` call does.
        let builder ← add owner {}
        match ← dispatch env owner session frame lengths offset builder with
        | none => return none
        | some builder =>
            let type ← read fun state => (state.memory session).type
            let buffer ← getData owner builder.toBaseBuilder (decide (type = .tcp))
            return some buffer

/-- A frame read on a session: handle it and send the reply, if there is one. -/
def receive (frame : Bytes) : Job ι Unit := do
  match ← handle env owner session frame with
  | none => return ()
  | some buffer => send session buffer

end Operations

end Job

/-- What a thread does for an event of the node. -/
def Event.job {ι : Type} (env : Environment) (owner : ι) : Event → Job ι Unit
  | .acceptTcp => Job.acceptTcp env
  | .acceptWebsocket => Job.acceptWebsocket env
  | .handshake ref failed => Job.onAccept env owner ref failed
  | .connect host port withDiscovery connectionsPerNode => do
      let _ ← Job.connect env owner host port withDiscovery connectionsPerNode
  | .runPosted => Job.runPosted env owner
  | .create session => Job.change (State.allocate session)
  | .addSession ref => do
      let _ ← Job.addSession env ref
  | .removeSession id => do
      let _ ← Job.removeSession env owner id
  | .disconnect node => Job.disconnect env owner node
  | .disconnectAll => Job.disconnectAll env owner
  | .sendToNode node message => Job.sendToNode env node message
  | .frame ref bytes => Job.receive env owner ref bytes

/-- A thread that carries out events one after another. -/
def work {ι : Type} (env : Environment) (owner : ι) : List Event → Program (Lock ι) State Unit
  | [] => .done ()
  | event :: events => (ExceptT.run (event.job env owner)).bind fun _ => work env owner events

end Aurum.Node
