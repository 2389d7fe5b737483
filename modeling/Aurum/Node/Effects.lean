import Aurum.Node.Discovery

/-!
# What a handler call can do

`Effect` lists everything a single handler call can do to a node, with the
conditions under which it does it.  Later modules argue by cases on it and do
not open the handlers again.
-/

namespace Aurum.Node

open Aurum.Protocol
open Aurum.Container
open Aurum.Wire.LittleEndian

/-- Overwrite node id, port and host of a session and post connects. -/
def State.retag (ref : Ref) (id : Uuid) (port : UInt16) (host : Bytes) (posted : List Endpoint)
    (state : State) : State :=
  { state.update ref fun session => { session with nodeId := id, port := port, host := host } with
    posted := state.posted ++ posted }

/-- The effect of handling a sub-message on a session. -/
inductive Effect (env : Environment) (session : Ref) (message : Submessage) (state : State) :
    State → Prop
  | none : Effect env session message state state
  /-- The session is given a node id, and possibly a port and a host. -/
  | identified (id : Uuid) (port : UInt16) (host : Bytes) (posted : List Endpoint)
      (opcode : message.opcode = OpCode.identify.byte)
      (tcp : (state.memory session).type = .tcp)
      (named : readUuid message.payload 0 = .ok id) :
      Effect env session message state (state.retag session id port host posted)
  /-- The listed endpoints are visited. -/
  | discovered (next : State)
      (opcode : message.opcode = OpCode.discovery.byte)
      (response : message.type = .response)
      (visited : Handlers.visitAll env (Handlers.listed message.payload) state = .ok next) :
      Effect env session message state next
  /-- A placeholder with the node id of the session is registered. -/
  | joined (id : Uuid)
      (opcode : message.opcode = OpCode.join.byte)
      (request : message.type ≠ .response)
      (tcp : (state.memory session).type = .tcp)
      (named : readUuid message.payload 0 = .ok id) :
      Effect env session message state
        ((state.allocate { websocketSession id (.joined (state.memory session).nodeId) with
            nodeId := (state.memory session).nodeId }).addSession env state.allocated).2
  /-- Whatever is registered under an identifier is erased. -/
  | left (id : Uuid)
      (opcode : message.opcode = OpCode.leave.byte)
      (request : message.type ≠ .response)
      (tcp : (state.memory session).type = .tcp)
      (named : readUuid message.payload 0 = .ok id) :
      Effect env session message state
        { state with sessions := state.sessions.filter fun entry => entry.key.id ≠ id }

namespace State

/-- Setting the node id of an object just allocated allocates it with that
node id. -/
theorem setNodeId_allocate (session : Session) (node : Uuid) (state : State) :
    (state.allocate session).setNodeId state.allocated node =
      state.allocate { session with nodeId := node } := by
  simp [setNodeId, update, allocate, Function.update_idem]

theorem setNodeId_eq_retag (ref : Ref) (id : Uuid) (state : State) :
    state.setNodeId ref id =
      state.retag ref id (state.memory ref).port (state.memory ref).host [] := by
  simp [setNodeId, retag, update]

theorem setPort_retag (ref : Ref) (id : Uuid) (port other : UInt16) (host : Bytes)
    (state : State) :
    (state.retag ref id port host []).setPort ref other = state.retag ref id other host [] := by
  simp [setPort, retag, update, Function.update_idem]

theorem setHost_retag (ref : Ref) (id : Uuid) (port : UInt16) (host other : Bytes)
    (state : State) :
    (state.retag ref id port host []).setHost ref other = state.retag ref id port other [] := by
  simp [setHost, retag, update, Function.update_idem]

end State

namespace Handlers

theorem postDials_retag (endpoint : Endpoint) (count : Nat) (ref : Ref) (id : Uuid)
    (port : UInt16) (host : Bytes) (posted : List Endpoint) (state : State) :
    postDials endpoint count (state.retag ref id port host posted) =
      state.retag ref id port host (posted ++ List.replicate count endpoint) := by
  induction count generalizing posted with
  | zero => simp [postDials]
  | succ count ih =>
      have post : (state.retag ref id port host posted).post endpoint =
          state.retag ref id port host (posted ++ [endpoint]) := by
        simp [State.post, State.retag]
      rw [postDials, post, ih, List.append_assoc, List.replicate_succ, List.singleton_append]

/-- The erase loop leaves what is filed under other identifiers. -/
theorem eraseFound_fst (id : Uuid) {fuel : Nat} {sessions : Registry} (removed : UInt64)
    (enough : sessions.length < fuel) :
    (eraseFound id fuel sessions removed).1 =
      sessions.filter fun entry => entry.key.id ≠ id := by
  induction fuel generalizing sessions removed with
  | zero => omega
  | succ fuel ih =>
      rw [eraseFound]
      cases found : sessions.findById id with
      | none =>
          have others := (findUnique_eq_none_iff Key.id id sessions).mp found
          apply Eq.symm
          apply List.filter_eq_self.mpr
          intro entry member
          simpa using others entry member
      | some entry =>
          have shorter := eraseUnique_length_of_found found
          simp only
          rw [ih (removed + 1) (by rw [Registry.eraseById]; omega)]
          exact filter_eraseUnique Key.id id sessions

variable {env : Environment} {session : Ref} {message : Submessage} {state next : State}
  {builder result : ResponseBuilder} {transactionId : Uuid}

theorem identify_effect (opcode : message.opcode = OpCode.identify.byte)
    (step : identify session message.type builder transactionId message.payload state =
      .ok (result, next)) : Effect env session message state next := by
  unfold identify at step
  split at step
  · cases step
    exact .none
  rename_i notWebsocket
  have tcp := SessionType.eq_tcp notWebsocket
  split at step
  · cases step
    exact .none
  obtain ⟨id, named, step⟩ := Result.bind_eq_ok_iff.mp step
  split at step
  · obtain ⟨connectionsPerNode, _, step⟩ := Result.bind_eq_ok_iff.mp step
    obtain ⟨port, _, step⟩ := Result.bind_eq_ok_iff.mp step
    rw [State.setNodeId_eq_retag, State.setPort_retag] at step
    split at step
    · obtain ⟨host, _, step⟩ := Result.bind_eq_ok_iff.mp step
      rw [State.setHost_retag] at step
      simp only [postDials_retag] at step
      split at step
      · cases step
        exact .identified id port host _ opcode tcp named
      · cases step
        exact .identified id port host [] opcode tcp named
    · cases step
      exact .identified id port _ [] opcode tcp named
  · rw [State.setNodeId_eq_retag] at step
    split at step
    · cases step
      exact .identified id _ _ [] opcode tcp named
    · cases step
      exact .identified id _ _ [] opcode tcp named

theorem discovery_effect (opcode : message.opcode = OpCode.discovery.byte)
    (step : discovery env session message.type builder transactionId message.payload state =
      .ok (result, next)) : Effect env session message state next := by
  by_cases response : message.type = .response
  · rw [response, discovery_response_eq] at step
    obtain ⟨visited, visit, equal⟩ := Result.map_eq_ok_iff.mp step
    cases equal
    exact .discovered next opcode response visit
  · unfold discovery at step
    rw [if_neg response] at step
    split at step <;> cases step <;> exact .none

theorem join_effect (opcode : message.opcode = OpCode.join.byte)
    (step : join env session message.type builder transactionId message.payload state =
      .ok (result, next)) : Effect env session message state next := by
  unfold join at step
  split at step
  · cases step
    exact .none
  rename_i request
  split at step
  · cases step
    exact .none
  obtain ⟨id, named, step⟩ := Result.bind_eq_ok_iff.mp step
  simp only [State.setNodeId_allocate] at step
  cases step
  exact .joined id opcode (fun response => request (Or.inr response))
    (SessionType.eq_tcp fun websocket => request (Or.inl websocket)) named

theorem leave_effect (opcode : message.opcode = OpCode.leave.byte)
    (step : leave session message.type builder transactionId message.payload state =
      .ok (result, next)) : Effect env session message state next := by
  unfold leave at step
  split at step
  · cases step
    exact .none
  rename_i request
  split at step
  · cases step
    exact .none
  obtain ⟨id, named, step⟩ := Result.bind_eq_ok_iff.mp step
  simp only at step
  cases step
  rw [eraseFound_fst id 0 (Nat.lt_succ_self _)]
  exact .left id opcode (fun response => request (Or.inr response))
    (SessionType.eq_tcp fun websocket => request (Or.inl websocket)) named

/-! ### Calls that certainly act -/

/-- A leave request on a TCP session erases what is registered under the
identifier. -/
theorem leave_eq {type : MessageType} {payload : Bytes} {id : Uuid}
    (tcp : (state.memory session).type = .tcp) (request : type ≠ .response)
    (named : readUuid payload 0 = .ok id) :
    ∃ count, ∀ builder, leave session type builder transactionId payload state =
      .ok (builder.addLeave transactionId count, { state with
        sessions := state.sessions.filter fun entry => entry.key.id ≠ id }) := by
  have longEnough := le_of_readUuid named
  have acts : ¬((state.memory session).type = .websocket ∨ type = .response) := by
    simp [tcp, request]
  simp only [leave, if_neg acts, if_neg (show ¬payload.length < 16 by omega), named, bind,
    Except.bind, pure, Except.pure, eraseFound_fst id 0 (Nat.lt_succ_self state.sessions.length)]
  exact ⟨_, fun builder => rfl⟩

/-- A join request on a TCP session registers a placeholder. -/
theorem join_eq {type : MessageType} {payload : Bytes} {id : Uuid}
    (tcp : (state.memory session).type = .tcp) (request : type ≠ .response)
    (named : readUuid payload 0 = .ok id) :
    ∃ count, ∀ builder, join env session type builder transactionId payload state =
      .ok (builder.addJoin transactionId count,
        ((state.allocate { websocketSession id (.joined (state.memory session).nodeId) with
          nodeId := (state.memory session).nodeId }).addSession env state.allocated).2) := by
  have longEnough := le_of_readUuid named
  have acts : ¬((state.memory session).type = .websocket ∨ type = .response) := by
    simp [tcp, request]
  simp only [join, if_neg acts, if_neg (show ¬payload.length < 16 by omega), named, bind,
    Except.bind, pure, Except.pure, State.setNodeId_allocate]
  exact ⟨_, fun builder => rfl⟩

/-- The payload of an identify request that names a host or a port. -/
def identifyPayload (nodeId : Uuid) (connectionsPerNode port : UInt16) (host : Bytes) : Bytes :=
  nodeId.data ++ (le16 connectionsPerNode ++ (le16 port ++ host))

theorem identifyPayload_length (nodeId : Uuid) (connectionsPerNode port : UInt16) (host : Bytes) :
    (identifyPayload nodeId connectionsPerNode port host).length = 20 + host.length := by
  simp only [identifyPayload, List.length_append, Uuid.size, le16_length]
  omega

/-- What the identify handler reads out of such a payload. -/
theorem read_identifyPayload (nodeId : Uuid) (connectionsPerNode port : UInt16) (host : Bytes) :
    readUuid (identifyPayload nodeId connectionsPerNode port host) 0 = .ok nodeId ∧
      readU16 (identifyPayload nodeId connectionsPerNode port host) 16 = .ok connectionsPerNode ∧
      readU16 (identifyPayload nodeId connectionsPerNode port host) 18 = .ok port ∧
      readBytes (identifyPayload nodeId connectionsPerNode port host) 20 host.length =
        .ok host := by
  have portRead : readU16 ((nodeId.data ++ le16 connectionsPerNode) ++ (le16 port ++ host)) 18 =
      .ok port := readU16_append _ _ _ (by simp)
  have hostRead : readBytes ((nodeId.data ++ le16 connectionsPerNode ++ le16 port) ++
      (host ++ [])) 20 host.length = .ok host := readBytes_append _ _ _ (by simp) rfl
  simp only [List.append_nil, List.append_assoc] at portRead hostRead
  exact ⟨readUuid_append [] _ nodeId rfl, readU16_append nodeId.data _ connectionsPerNode
    nodeId.size.symm, portRead, hostRead⟩

/-- An identify request with a host is answered, describes its session and
posts the connects it asks for. -/
theorem identify_request_eq (nodeId : Uuid) (connectionsPerNode port : UInt16) {host : Bytes}
    (hosted : host ≠ []) (tcp : (state.memory session).type = .tcp) :
    identify session .request builder transactionId
        (identifyPayload nodeId connectionsPerNode port host) state =
      .ok (builder.addIdentify transactionId state.nodeId,
        state.retag session nodeId port host
          (if 1 < connectionsPerNode.toNat ∧ port ≠ 0 then
            List.replicate (connectionsPerNode.toNat - 1) ⟨host, port⟩ else [])) := by
  have notWebsocket : (state.memory session).type ≠ .websocket := by
    simp [tcp]
  have positive := List.length_pos_of_ne_nil hosted
  obtain ⟨named, counted, ported, addressed⟩ :=
    read_identifyPayload nodeId connectionsPerNode port host
  have full : 20 ≤ 20 + host.length := Nat.le_add_right _ _
  have more : 20 < 20 + host.length := by omega
  rw [identify, if_neg notWebsocket, identifyPayload_length, if_neg (by omega), named]
  simp only [bind, Except.bind, true_and, if_pos full, counted, ported, if_pos more,
    Nat.add_sub_cancel_left, addressed, State.setNodeId_eq_retag, State.setPort_retag,
    State.setHost_retag, postDials_retag, List.nil_append]
  by_cases posts : 1 < connectionsPerNode.toNat ∧ port ≠ 0
  · have asked : 1 < connectionsPerNode.toNat ∧ host ≠ [] ∧ port ≠ 0 :=
      ⟨posts.1, hosted, posts.2⟩
    simp only [if_pos posts, if_pos asked]
    rfl
  · have unasked : ¬(1 < connectionsPerNode.toNat ∧ host ≠ [] ∧ port ≠ 0) :=
      fun asked => posts ⟨asked.1, asked.2.2⟩
    simp only [if_neg posts, if_neg unasked]
    rfl

/-- An identify response gives its session the node id it names. -/
theorem identify_response_eq {payload : Bytes} {id : Uuid}
    (tcp : (state.memory session).type = .tcp) (named : readUuid payload 0 = .ok id) :
    identify session .response builder transactionId payload state =
      .ok (builder, state.setNodeId session id) := by
  have longEnough := le_of_readUuid named
  have notWebsocket : (state.memory session).type ≠ .websocket := by
    simp [tcp]
  have notRequest : ∀ size, ¬(MessageType.response = .request ∧ size ≤ payload.length) := by
    intro size impossible
    exact absurd impossible.1 (by decide)
  rw [identify, if_neg notWebsocket, if_neg (by omega), named]
  simp only [bind, Except.bind, if_neg (notRequest 20), if_neg (notRequest 16), pure,
    Except.pure]

end Handlers

/-- Every handler call has one of the effects. -/
theorem invoke_effect {env : Environment} {session : Ref} {message : Submessage}
    {builder result : ResponseBuilder} {state next : State}
    (step : Kernel.invoke (handlers env session) message builder state = .ok (result, next)) :
    Effect env session message state next := by
  unfold Kernel.invoke handlers at step
  split at step
  · unfold Handlers.ping at step
    split at step <;> cases step <;> exact .none
  split at step
  · rename_i opcode
    exact Handlers.identify_effect opcode step
  split at step
  · rename_i opcode
    exact Handlers.discovery_effect opcode step
  split at step
  · rename_i opcode
    exact Handlers.join_effect opcode step
  split at step
  · rename_i opcode
    exact Handlers.leave_effect opcode step
  split at step
  · unfold Handlers.whoami at step
    split at step <;> cases step <;> exact .none
  · unfold Handlers.nonImplemented at step
    split at step <;> cases step <;> exact .none

end Aurum.Node
