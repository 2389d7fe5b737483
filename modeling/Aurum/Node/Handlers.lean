import Aurum.Node.State
import Aurum.Protocol.Dispatch

/-!
# Operation handlers

The handlers bound in the constructor of `state`, each written over the
payload it is given, the session it arrived on and the node, and the instance
of the session kernel that dispatches to them.
-/

namespace Aurum.Node

open Aurum.Protocol
open Aurum.Container

namespace Handlers

def ping : Handler State :=
  fun type builder transactionId _ state =>
    if type = .response then
      .ok (builder, state)
    else
      .ok (builder.addPing transactionId ExitCode.success.byte, state)

def nonImplemented : Handler State :=
  fun type builder transactionId _ state =>
    if type = .response then
      .ok (builder, state)
    else
      .ok (builder.addNonImplemented OpCode.opNonImplemented.byte transactionId, state)

def whoami (session : Ref) : Handler State :=
  fun type builder transactionId _ state =>
    if type = .response then
      .ok (builder, state)
    else
      .ok (builder.addWhoami transactionId (state.memory session).id state.nodeId
        (state.memory session).type, state)

/-- Post `count` connects to one endpoint. -/
def postDials (endpoint : Endpoint) : Nat → State → State
  | 0, state => state
  | count + 1, state => postDials endpoint count (state.post endpoint)

def identify (session : Ref) : Handler State :=
  fun type builder transactionId payload state =>
    if (state.memory session).type = .websocket then
      .ok (builder, state)
    else if payload.length < 16 then
      .ok (builder, state)
    else do
      let remoteNodeId ← readUuid payload 0
      let state := state.setNodeId session remoteNodeId
      if type = .request ∧ 20 ≤ payload.length then
        let connectionsPerNode ← readU16 payload 16
        let remotePort ← readU16 payload 18
        let state := state.setPort session remotePort
        if 20 < payload.length then
          let remoteHost ← readBytes payload 20 (payload.length - 20)
          let state := state.setHost session remoteHost
          let builder := builder.addIdentify transactionId state.nodeId
          if 1 < connectionsPerNode.toNat ∧ remoteHost ≠ [] ∧ remotePort ≠ 0 then
            return (builder,
              postDials ⟨remoteHost, remotePort⟩ (connectionsPerNode.toNat - 1) state)
          else
            return (builder, state)
        else
          -- The host stays the empty string, for which nothing is posted.
          return (builder.addIdentify transactionId state.nodeId, state)
      else if type = .request ∧ 16 ≤ payload.length then
        return (builder.addIdentify transactionId state.nodeId, state)
      else
        return (builder, state)

/-- The endpoints a discovery request is answered with. -/
def knownEndpoints (session : Ref) (state : State) : List Endpoint :=
  (state.sessions.refs.filter fun target =>
      (state.memory target).nodeId ≠ (state.memory session).nodeId ∧
        (state.memory target).nodeId ≠ state.nodeId).map
    fun target => ⟨(state.memory target).host, (state.memory target).port⟩

/-- Whether a registered session carries the given host and port. -/
def alreadyConnected (endpoint : Endpoint) (state : State) : Bool :=
  state.sessions.refs.any fun target =>
    (state.memory target).host = endpoint.host ∧ (state.memory target).port = endpoint.port

/-- One entry of a discovery response and the cursor behind it; `none` is a
`break` of the loop. -/
def readEndpoint (payload : Bytes) (offset : Nat) : Result (Option (Endpoint × Nat)) :=
  if offset + 4 > payload.length then
    .ok none
  else do
    let port ← readU16 payload offset
    let hostSize ← readU16 payload (offset + 2)
    if offset + 4 + hostSize.toNat > payload.length then
      return none
    else
      let host ← readBytes payload (offset + 4) hostSize.toNat
      return some (⟨host, port⟩, offset + 4 + hostSize.toNat)

/-- What the loop does with an endpoint: dial it unless it is connected. -/
def visitEndpoint (env : Environment) (endpoint : Endpoint) (state : State) : Result State :=
  if alreadyConnected endpoint state then
    .ok state
  else do
    let (_, state) ← state.connect env endpoint.host endpoint.port false 0
    return state

/-- The loop of the response branch, for the announced number of endpoints. -/
def visitEndpoints (env : Environment) (payload : Bytes) :
    Nat → Nat → State → Result State
  | 0, _, state => .ok state
  | remaining + 1, offset, state => do
      match ← readEndpoint payload offset with
      | none => return state
      | some (endpoint, offset) =>
          let state ← visitEndpoint env endpoint state
          visitEndpoints env payload remaining offset state

def discovery (env : Environment) (session : Ref) : Handler State :=
  fun type builder transactionId payload state =>
    if type = .request then
      .ok (builder.addDiscovery transactionId (knownEndpoints session state), state)
    else if type = .response then
      if payload.length < 4 then
        .ok (builder, state)
      else do
        let nodesCount ← readU32 payload 0
        let state ← visitEndpoints env payload nodesCount.toNat 4 state
        return (builder, state)
    else
      .ok (builder, state)

def join (env : Environment) (session : Ref) : Handler State :=
  fun type builder transactionId payload state =>
    if (state.memory session).type = .websocket ∨ type = .response then
      .ok (builder, state)
    else if payload.length < 16 then
      .ok (builder, state)
    else do
      let websocketId ← readUuid payload 0
      let node := (state.memory session).nodeId
      let newSession := state.allocated
      let state := state.allocate (websocketSession websocketId (.joined node))
      let state := state.setNodeId newSession node
      let state := (state.addSession env newSession).2
      -- `count` of the unique index.
      let count := if (state.sessions.findById websocketId).isSome then 1 else 0
      return (builder.addJoin transactionId count, state)

/-- The erase-and-find-again loop of the leave handler, for at most `fuel`
rounds; also counts the erased entries. -/
def eraseFound (id : Uuid) : Nat → Registry → UInt64 → Registry × UInt64
  | 0, sessions, removed => (sessions, removed)
  | fuel + 1, sessions, removed =>
      match sessions.findById id with
      | none => (sessions, removed)
      | some _ => eraseFound id fuel (sessions.eraseById id) (removed + 1)

def leave (session : Ref) : Handler State :=
  fun type builder transactionId payload state =>
    if (state.memory session).type = .websocket ∨ type = .response then
      .ok (builder, state)
    else if payload.length < 16 then
      .ok (builder, state)
    else do
      let websocketId ← readUuid payload 0
      -- Every round shrinks the container, so its size bounds the rounds.
      let (sessions, removedCount) :=
        eraseFound websocketId (state.sessions.length + 1) state.sessions 0
      return (builder.addLeave transactionId removedCount, { state with sessions := sessions })

end Handlers

/-- `get_handlers()`: the fallback everywhere, overwritten at six opcodes. -/
def handlers (env : Environment) (session : Ref) : HandlerTable State :=
  fun opcode =>
    if opcode = OpCode.ping.byte then Handlers.ping
    else if opcode = OpCode.identify.byte then Handlers.identify session
    else if opcode = OpCode.discovery.byte then Handlers.discovery env session
    else if opcode = OpCode.join.byte then Handlers.join env session
    else if opcode = OpCode.leave.byte then Handlers.leave session
    else if opcode = OpCode.whoami.byte then Handlers.whoami session
    else Handlers.nonImplemented

/-- `session_kernel::handle` of this node: replies on TCP carry the length
header. -/
def handle (env : Environment) (frame : Bytes) (session : Ref) (state : State) :
    Handled State :=
  Kernel.handle (handlers env session) (decide ((state.memory session).type = .tcp)) frame state

end Aurum.Node
