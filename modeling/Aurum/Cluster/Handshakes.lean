import Aurum.Cluster.Peers
import Aurum.Cluster.Steps

/-!
# The handshake of a link

A link goes through four stages.  It is dialed, and the request of the near end
is under way; it is accepted; the far end has read the request, knows its peer
and has answered; and the near end has read the answer.
-/

namespace Aurum.Cluster

open Aurum.Protocol
open Aurum.Container
open Aurum.Node

/-- The identify request of a node, as `connect` sends it. -/
def identifyRequest (nodeId : Uuid) (connectionsPerNode port : UInt16) (transactionId : Uuid) :
    Submessage :=
  ⟨OpCode.identify.byte, .request, transactionId,
    Handlers.identifyPayload nodeId connectionsPerNode port State.localHost⟩

/-- The identify response of a node. -/
def identifyResponse (nodeId transactionId : Uuid) : Submessage :=
  ⟨OpCode.identify.byte, .response, transactionId, nodeId.data⟩

theorem identifyRequest_small (nodeId : Uuid) (connectionsPerNode port : UInt16)
    (transactionId : Uuid) :
    (identifyRequest nodeId connectionsPerNode port transactionId).bytes.length ≤ 65535 := by
  rw [Submessage.bytes_length, identifyRequest, Handlers.identifyPayload_length]
  exact (by decide : 18 + (20 + State.localHost.length) ≤ 65535)

theorem identifyResponse_small (nodeId transactionId : Uuid) :
    (identifyResponse nodeId transactionId).bytes.length ≤ 65535 := by
  rw [Submessage.bytes_length, identifyResponse, nodeId.size]
  exact (by decide : 18 + 16 ≤ 65535)

/-! ## What the nodes do -/

section Nodes

variable {session : Ref} {state next : State}

/-- A node reads an identify request: it describes the session, posts the
connects asked for, and answers. -/
theorem receive_identifyRequest (env : Environment) (tcp : (state.memory session).type = .tcp)
    (nodeId : Uuid) (connectionsPerNode port : UInt16) (transactionId : Uuid) :
    ∃ reply, reply ≠ [] ∧ reply.drop 4 = frameOf [identifyResponse state.nodeId transactionId] ∧
      state.receive env session
          (frameOf [identifyRequest nodeId connectionsPerNode port transactionId]) =
        (state.retag session nodeId port State.localHost
          (if 1 < connectionsPerNode.toNat ∧ port ≠ 0 then
            List.replicate (connectionsPerNode.toNat - 1) ⟨State.localHost, port⟩
          else [])).send session reply := by
  have isFrame := isFrame_one
    (identifyRequest_small nodeId connectionsPerNode port transactionId)
  rcases Kernel.dispatched_of_isFrame isFrame with ⟨only, complete⟩
  have step : Kernel.invoke (handlers env session)
      (identifyRequest nodeId connectionsPerNode port transactionId) {} state =
        .ok (({} : ResponseBuilder).addIdentify transactionId state.nodeId, _) :=
    Handlers.identify_request_eq nodeId connectionsPerNode port (by decide) tcp
  have queue : (({} : ResponseBuilder).addIdentify transactionId state.nodeId).buffers =
      [(identifyResponse state.nodeId transactionId).bytes] :=
    ResponseBuilder.call_message {} (.identify transactionId state.nodeId)
  have small := identifyResponse_small state.nodeId transactionId
  rcases getData_ok_of_fits (fits_one queue small) true with ⟨reply, serialized⟩
  rcases getData_drop _ queue small serialized with ⟨nonempty, behind⟩
  refine ⟨reply, nonempty, behind, ?_⟩
  rw [receive_single_eq only step, if_pos complete, tcp]
  simp only [decide_true, serialized]

/-- A node reads an identify response: it learns the node id of its peer. -/
theorem receive_identifyResponse (env : Environment)
    (tcp : (state.memory session).type = .tcp) (nodeId transactionId : Uuid) :
    state.receive env session (frameOf [identifyResponse nodeId transactionId]) =
      (state.setNodeId session nodeId).send session [] := by
  have isFrame := isFrame_one (identifyResponse_small nodeId transactionId)
  rcases Kernel.dispatched_of_isFrame isFrame with ⟨only, complete⟩
  have named : readUuid nodeId.data 0 = .ok nodeId := by
    simpa using readUuid_append [] [] nodeId rfl
  have step : Kernel.invoke (handlers env session) (identifyResponse nodeId transactionId) {}
      state = .ok ({}, state.setNodeId session nodeId) :=
    Handlers.identify_response_eq tcp named
  rw [receive_single_eq only step, if_pos complete]
  rfl

/-- A node dials its peer: a session is registered, and the identify request
sent on it. -/
theorem connect_of_reaches {around : Surroundings} {side : Side} {target : Endpoint}
    {connectionsPerNode : UInt16} {connected : Bool} (wellFormed : WellFormed state)
    (reaches : around.Reaches side target state)
    (step : state.connect (around.env side) target.host target.port false connectionsPerNode =
      .ok (connected, next)) :
    ∃ data transactionId, data ≠ [] ∧ data.drop 4 =
        frameOf [identifyRequest state.nodeId connectionsPerNode state.tcpPort transactionId] ∧
      next = (({ state with dialed := state.dialed ++ [target] } : State).draw.install
        (around.env side) (tcpSession (state.nextUuid (around.env side)) .dialed)).draw.send
          state.allocated data := by
  rw [State.connect] at step
  simp only [if_pos reaches.2.1] at step
  rcases State.openSession_cases step with
    ⟨⟨entry, member, taken⟩, _⟩ | ⟨data, nonempty, behind, rfl⟩
  · exact absurd taken (wellFormed.free_of_fresh reaches.2.2 entry member)
  · exact ⟨data, _, nonempty, behind, rfl⟩

end Nodes

/-! ## What stays -/

/-- A node has gone on: its sessions are what they were, but that some may have
been given the node id of the peer. -/
structure Keeps (peer : Uuid) (before after : State) : Prop where
  nodeId : after.nodeId = before.nodeId
  tcpPort : after.tcpPort = before.tcpPort
  grows : before.allocated ≤ after.allocated
  typed : ∀ ref < before.allocated, (after.memory ref).type = (before.memory ref).type
  tagged : ∀ ref < before.allocated, (after.memory ref).nodeId = (before.memory ref).nodeId ∨
    (after.memory ref).nodeId = peer
  registered : ∀ entry ∈ before.sessions, entry ∈ after.sessions

section Retag

variable {ref : Ref} {id : Uuid} {port : UInt16} {host : Bytes} {posted : List Endpoint}
  {state : State}

theorem retag_memory_self : (state.retag ref id port host posted).memory ref =
    { state.memory ref with nodeId := id, port := port, host := host } :=
  State.update_memory_self ref
    (fun session => { session with nodeId := id, port := port, host := host }) state

theorem retag_memory_of_ne {other : Ref} (differs : other ≠ ref) :
    (state.retag ref id port host posted).memory other = state.memory other :=
  State.update_memory_of_ne differs
    (fun session => { session with nodeId := id, port := port, host := host }) state

end Retag

/-- A registered TCP session. -/
def Up (state : State) (ref : Ref) : Prop :=
  (∃ entry ∈ state.sessions, entry.elem = ref) ∧ (state.memory ref).type = .tcp

theorem Up.allocated {state : State} {ref : Ref} (formed : WellFormed state)
    (up : Up state ref) : ref < state.allocated := by
  rcases up with ⟨⟨entry, member, rfl⟩, _⟩
  exact formed.allocated entry member

namespace Keeps

variable {peer : Uuid} {before middle after : State}

theorem quiet (nodeId : after.nodeId = before.nodeId) (tcpPort : after.tcpPort = before.tcpPort)
    (memory : after.memory = before.memory) (allocated : after.allocated = before.allocated)
    (sessions : after.sessions = before.sessions) : Keeps peer before after where
  nodeId := nodeId
  tcpPort := tcpPort
  grows := allocated.ge
  typed := by
    intro ref _
    rw [memory]
  tagged := by
    intro ref _
    rw [memory]
    exact Or.inl rfl
  registered := by
    intro entry member
    rw [sessions]
    exact member

theorem refl (state : State) : Keeps peer state state :=
  quiet rfl rfl rfl rfl rfl

theorem trans (first : Keeps peer before middle) (second : Keeps peer middle after) :
    Keeps peer before after where
  nodeId := second.nodeId.trans first.nodeId
  tcpPort := second.tcpPort.trans first.tcpPort
  grows := first.grows.trans second.grows
  typed := by
    intro ref older
    rw [second.typed ref (older.trans_le first.grows)]
    exact first.typed ref older
  tagged := by
    intro ref older
    rcases second.tagged ref (older.trans_le first.grows) with same | tagged
    · rw [same]
      exact first.tagged ref older
    · exact Or.inr tagged
  registered := fun entry member => second.registered entry (first.registered entry member)

/-- A session is registered under an identifier that is not taken. -/
theorem install {env : Environment} {session : Session} {state : State}
    (free : ∀ entry ∈ state.sessions, entry.key.id ≠ session.id) :
    Keeps peer state (state.install env session) where
  nodeId := rfl
  tcpPort := rfl
  grows := Nat.le_succ _
  typed := by
    intro ref older
    rw [State.install_memory_of_lt env session older]
  tagged := by
    intro ref older
    rw [State.install_memory_of_lt env session older]
    exact Or.inl rfl
  registered := by
    intro entry member
    exact (State.mem_install_iff env free entry).mpr (Or.inr member)

theorem retag (ref : Ref) (port : UInt16) (host : Bytes) (posted : List Endpoint)
    (state : State) : Keeps peer state (state.retag ref peer port host posted) where
  nodeId := rfl
  tcpPort := rfl
  grows := Nat.le_refl _
  typed := by
    intro other _
    by_cases same : other = ref
    · subst same
      rw [retag_memory_self]
    · rw [retag_memory_of_ne same]
  tagged := by
    intro other _
    by_cases same : other = ref
    · subst same
      rw [retag_memory_self]
      exact Or.inr rfl
    · rw [retag_memory_of_ne same]
      exact Or.inl rfl
  registered := fun _ member => member

theorem up (keeps : Keeps peer before after) (formed : WellFormed before) {ref : Ref}
    (up : Up before ref) : Up after ref := by
  have older := up.allocated formed
  rcases up with ⟨⟨entry, member, isRef⟩, tcp⟩
  refine ⟨⟨entry, keeps.registered entry member, isRef⟩, ?_⟩
  rw [keeps.typed ref older]
  exact tcp

theorem stillTagged (keeps : Keeps peer before after) (formed : WellFormed before) {ref : Ref}
    (up : Up before ref) (tagged : (before.memory ref).nodeId = peer) :
    (after.memory ref).nodeId = peer := by
  rcases keeps.tagged ref (up.allocated formed) with same | retagged
  · rw [same]
    exact tagged
  · exact retagged

end Keeps

/-! ## Stages -/

/-- The message asks the reader to identify itself, on behalf of a node. -/
def Asks (state : State) (connectionsPerNode : UInt16) (request : Bytes) : Prop :=
  ∃ transactionId, request.drop 4 =
    frameOf [identifyRequest state.nodeId connectionsPerNode state.tcpPort transactionId]

/-- The message tells the reader the node id of a node. -/
def Tells (state : State) (response : Bytes) : Prop :=
  ∃ transactionId, response.drop 4 = frameOf [identifyResponse state.nodeId transactionId]

/-- How far the handshake of a link is. -/
inductive Stage (node : Side → State) (connectionsPerNode : UInt16) (link : Link) : Prop
  | dialed (request : Bytes) (near : Up (node link.dialer) link.near) (waits : link.far = none)
      (forth : link.forth = [request]) (back : link.back = [])
      (asks : Asks (node link.dialer) connectionsPerNode request)
  | accepted (far : Ref) (request : Bytes) (near : Up (node link.dialer) link.near)
      (linked : link.far = some far) (farUp : Up (node link.dialer.other) far)
      (forth : link.forth = [request]) (back : link.back = [])
      (asks : Asks (node link.dialer) connectionsPerNode request)
  | answered (far : Ref) (response : Bytes) (near : Up (node link.dialer) link.near)
      (linked : link.far = some far) (farUp : Up (node link.dialer.other) far)
      (forth : link.forth = []) (back : link.back = [response])
      (farKnows : ((node link.dialer.other).memory far).nodeId = (node link.dialer).nodeId)
      (tells : Tells (node link.dialer.other) response)
  | identified (far : Ref) (near : Up (node link.dialer) link.near)
      (linked : link.far = some far) (farUp : Up (node link.dialer.other) far)
      (forth : link.forth = []) (back : link.back = [])
      (farKnows : ((node link.dialer.other).memory far).nodeId = (node link.dialer).nodeId)
      (nearKnows : ((node link.dialer).memory link.near).nodeId =
        (node link.dialer.other).nodeId)

namespace Stage

variable {node next : Side → State} {connectionsPerNode : UInt16} {link : Link}

/-- The stage of a link is not changed by what else the nodes do. -/
theorem keep (formed : ∀ side, WellFormed (node side))
    (keeps : ∀ side, Keeps (node side.other).nodeId (node side) (next side))
    (stage : Stage node connectionsPerNode link) : Stage next connectionsPerNode link := by
  have ups : ∀ {side ref}, Up (node side) ref → Up (next side) ref := fun {side _} up =>
    (keeps side).up (formed side) up
  have knows : ∀ {side ref}, Up (node side) ref →
      ((node side).memory ref).nodeId = (node side.other).nodeId →
        ((next side).memory ref).nodeId = (next side.other).nodeId := by
    intro side ref up tagged
    rw [(keeps side.other).nodeId]
    exact (keeps side).stillTagged (formed side) up tagged
  have asking : ∀ {side request}, Asks (node side) connectionsPerNode request →
      Asks (next side) connectionsPerNode request := by
    intro side request asks
    rw [Asks, (keeps side).nodeId, (keeps side).tcpPort]
    exact asks
  have telling : ∀ {side response}, Tells (node side) response → Tells (next side) response := by
    intro side response tells
    rw [Tells, (keeps side).nodeId]
    exact tells
  cases stage with
  | dialed request near waits forth back asks =>
      exact .dialed request (ups near) waits forth back (asking asks)
  | accepted far request near linked farUp forth back asks =>
      exact .accepted far request (ups near) linked (ups farUp) forth back (asking asks)
  | answered far response near linked farUp forth back farKnows tells =>
      refine .answered far response (ups near) linked (ups farUp) forth back ?_ (telling tells)
      have known := knows farUp
      rw [Side.other_other] at known
      exact known farKnows
  | identified far near linked farUp forth back farKnows nearKnows =>
      refine .identified far (ups near) linked (ups farUp) forth back ?_ (knows near nearKnows)
      have known := knows farUp
      rw [Side.other_other] at known
      exact known farKnows

theorem near_up (stage : Stage node connectionsPerNode link) :
    Up (node link.dialer) link.near := by
  cases stage <;> assumption

theorem far_up (stage : Stage node connectionsPerNode link) {far : Ref}
    (linked : link.far = some far) : Up (node link.dialer.other) far := by
  cases stage with
  | dialed request near waits forth back asks =>
      rw [waits] at linked
      cases linked
  | accepted other request near same farUp forth back asks =>
      rw [linked] at same
      cases same
      exact farUp
  | answered other response near same farUp forth back farKnows tells =>
      rw [linked] at same
      cases same
      exact farUp
  | identified other near same farUp forth back farKnows nearKnows =>
      rw [linked] at same
      cases same
      exact farUp

/-- The ends of a link are registered TCP sessions. -/
theorem end_up (stage : Stage node connectionsPerNode link) {side : Side} {ref : Ref}
    (isEnd : link.endAt side = some ref) : Up (node side) ref := by
  rcases Side.eq_or_eq_other side link.dialer with rfl | rfl
  · rw [Link.endAt_dialer] at isEnd
    cases isEnd
    exact stage.near_up
  · rw [Link.endAt_other] at isEnd
    exact stage.far_up isEnd

/-- A connection that is not accepted is dialed. -/
theorem of_waiting (stage : Stage node connectionsPerNode link) (waits : link.far = none) :
    ∃ request, link.forth = [request] ∧ link.back = [] ∧
      Asks (node link.dialer) connectionsPerNode request := by
  cases stage with
  | dialed request near _ forth back asks => exact ⟨request, forth, back, asks⟩
  | accepted far request near linked farUp forth back asks =>
      rw [waits] at linked
      cases linked
  | answered far response near linked farUp forth back farKnows tells =>
      rw [waits] at linked
      cases linked
  | identified far near linked farUp forth back farKnows nearKnows =>
      rw [waits] at linked
      cases linked

/-- What is read at the far end is the request. -/
theorem of_request (stage : Stage node connectionsPerNode link) {far : Ref} {frame : Bytes}
    {rest : List Bytes} (linked : link.far = some far) (forth : link.forth = frame :: rest) :
    rest = [] ∧ link.back = [] ∧ Asks (node link.dialer) connectionsPerNode frame := by
  cases stage with
  | dialed request near waits only back asks =>
      rw [waits] at linked
      cases linked
  | accepted other request near same farUp only back asks =>
      rw [forth] at only
      cases only
      exact ⟨rfl, back, asks⟩
  | answered other response near same farUp none back farKnows tells =>
      rw [forth] at none
      cases none
  | identified other near same farUp none back farKnows nearKnows =>
      rw [forth] at none
      cases none

/-- What is read at the near end is the answer. -/
theorem of_response (stage : Stage node connectionsPerNode link) {frame : Bytes}
    {rest : List Bytes} (back : link.back = frame :: rest) :
    ∃ far, rest = [] ∧ link.forth = [] ∧ link.far = some far ∧
      ((node link.dialer.other).memory far).nodeId = (node link.dialer).nodeId ∧
        Tells (node link.dialer.other) frame := by
  cases stage with
  | dialed request near waits forth none asks =>
      rw [back] at none
      cases none
  | accepted far request near linked farUp forth none asks =>
      rw [back] at none
      cases none
  | answered far response near linked farUp forth only farKnows tells =>
      rw [back] at only
      cases only
      exact ⟨far, rfl, forth, linked, farKnows, tells⟩
  | identified far near linked farUp forth none farKnows nearKnows =>
      rw [back] at none
      cases none

/-- Once nothing of it is in flight, both ends of a link know their peers. -/
theorem of_quiet (stage : Stage node connectionsPerNode link) (forth : link.forth = [])
    (back : link.back = []) :
    ∃ far, link.far = some far ∧
      ((node link.dialer.other).memory far).nodeId = (node link.dialer).nodeId ∧
        ((node link.dialer).memory link.near).nodeId = (node link.dialer.other).nodeId := by
  cases stage with
  | dialed request near waits only none asks =>
      rw [forth] at only
      cases only
  | accepted far request near linked farUp only none asks =>
      rw [forth] at only
      cases only
  | answered far response near linked farUp none only farKnows tells =>
      rw [back] at only
      cases only
  | identified far near linked farUp none noneBack farKnows nearKnows =>
      exact ⟨far, linked, farKnows, nearKnows⟩

/-! ### From stage to stage -/

theorem accept (stage : Stage node connectionsPerNode link) (waits : link.far = none) {far : Ref}
    (farUp : Up (node link.dialer.other) far) :
    Stage node connectionsPerNode (link.accept far) := by
  rcases stage.of_waiting waits with ⟨request, forth, back, asks⟩
  exact .accepted far request stage.near_up rfl farUp forth back asks

theorem answer (stage : Stage node connectionsPerNode link) {far : Ref} {response : Bytes}
    (linked : link.far = some far)
    (farKnows : ((node link.dialer.other).memory far).nodeId = (node link.dialer).nodeId)
    (tells : Tells (node link.dialer.other) response) :
    Stage node connectionsPerNode { link with forth := [], back := [response] } :=
  .answered far response stage.near_up linked (stage.far_up linked) rfl rfl farKnows tells

theorem identify (stage : Stage node connectionsPerNode link) {far : Ref}
    (linked : link.far = some far)
    (farKnows : ((node link.dialer.other).memory far).nodeId = (node link.dialer).nodeId)
    (nearKnows : ((node link.dialer).memory link.near).nodeId = (node link.dialer.other).nodeId) :
    Stage node connectionsPerNode { link with forth := [], back := [] } :=
  .identified far stage.near_up linked (stage.far_up linked) rfl rfl farKnows nearKnows

end Stage

end Aurum.Cluster
