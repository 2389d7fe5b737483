import Aurum.Protocol.Core
import Aurum.Container.Filed

/-!
# Sessions and their registry

The data of `session`, `tcp_session` and `websocket_session` that the node
reads and writes, and `session_container_t`.  Session objects are shared, so
the registry holds references into the node's memory; two objects may carry
the same identifier while at most one of them is registered under it.
-/

namespace Aurum.Node

open Aurum.Protocol
open Aurum.Container

/-- A `shared_ptr` to a session object. -/
abbrev Ref := Nat

/-- How a session object came to be.  No function of the program reads this;
it is recorded for statements about where registered sessions come from. -/
inductive Origin
  /-- Built by a caller outside the modelled code. -/
  | external
  /-- Accepted by the TCP listener. -/
  | accepted
  /-- Opened by `state::connect`. -/
  | dialed
  /-- Accepted by the websocket listener. -/
  | client
  /-- Built by the join handler for a session of the given node. -/
  | joined (node : Uuid)
  deriving DecidableEq

structure Session where
  id : Uuid
  type : SessionType
  nodeId : Uuid
  port : UInt16
  host : Bytes
  /-- `socket_.is_open()` or `ws_.is_open()`. -/
  isOpen : Bool
  origin : Origin
  deriving DecidableEq

/-- The constructor of `tcp_session`, given its random identifier. -/
def tcpSession (id : Uuid) (origin : Origin) : Session :=
  { id := id, type := .tcp, nodeId := Uuid.nil, port := 0, host := [], isOpen := true,
    origin := origin }

/-- The constructor of `websocket_session`; the stream opens with the
handshake. -/
def websocketSession (id : Uuid) (origin : Origin) : Session :=
  { id := id, type := .websocket, nodeId := Uuid.nil, port := 0, host := [], isOpen := false,
    origin := origin }

/-- The fields the four indices of `session_container_t` are keyed on. -/
structure Key where
  id : Uuid
  nodeId : Uuid
  type : SessionType
  deriving DecidableEq

/-- The current key of a session. -/
def Session.key (session : Session) : Key :=
  ⟨session.id, session.nodeId, session.type⟩

abbrev Entry := Filed Ref Key

/-- `session_container_t`, in iteration order. -/
abbrev Registry := List Entry

namespace Registry

/-- `get<by_id>().find`. -/
def findById (registry : Registry) (id : Uuid) : Option Entry :=
  findUnique Key.id id registry

/-- `get<by_id>().erase` of the entry found under an identifier. -/
def eraseById (registry : Registry) (id : Uuid) : Registry :=
  eraseUnique Key.id id registry

/-- `get<by_node_id>().equal_range`. -/
def byNodeId (registry : Registry) (node : Uuid) : List Ref :=
  lookup (fun key => key.nodeId = node) registry

/-- `get<by_node_and_type>().equal_range`. -/
def byNodeAndType (registry : Registry) (node : Uuid) (type : SessionType) : List Ref :=
  lookup (fun key => key.nodeId = node ∧ key.type = type) registry

/-- The sessions registered, in iteration order. -/
def refs (registry : Registry) : List Ref :=
  registry.map Filed.elem

end Registry

end Aurum.Node
