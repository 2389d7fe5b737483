import Aurum.Node.Frames

/-!
# The indexes of the session registry

The registry is coherent when every entry is filed under the current key of
its session.  Every operation keeps it coherent but one: the identify handler
overwrites the node id of a session that is already filed.
-/

namespace Aurum.Node

open Aurum.Protocol
open Aurum.Container

/-! ## Removal -/

namespace State

variable {env : Environment}

theorem closeStream_frame (ref : Ref) (state : State) :
    (state.closeStream ref).sessions = state.sessions ∧
      ∀ other, ((state.closeStream ref).memory other).key = (state.memory other).key := by
  unfold closeStream
  simp only
  split
  · refine ⟨rfl, fun other => ?_⟩
    by_cases same : other = ref
    · subst same
      rw [setOpen, update_memory_self]
      rfl
    · rw [setOpen, update_memory_of_ne same]
  · exact ⟨rfl, fun other => rfl⟩

/-- Closing a session changes neither registry nor keys. -/
theorem disconnectSession_frame {ref : Ref} {state next : State}
    (step : state.disconnectSession env ref = .ok next) :
    next.sessions = state.sessions ∧
      ∀ other, (next.memory other).key = (state.memory other).key := by
  have shut := state.closeStream_frame ref
  unfold disconnectSession at step
  split at step
  · cases step
    exact shut
  · obtain ⟨data, _, broadcast⟩ := Result.bind_eq_ok_iff.mp step
    cases broadcast
    rw [broadcastToNodes_eq]
    exact shut

theorem removeSession_frame {id : Uuid} {state next : State} {removed : Bool}
    (step : state.removeSession env id = .ok (removed, next)) :
    next.sessions = state.sessions.eraseById id ∧
      ∀ other, (next.memory other).key = (state.memory other).key := by
  unfold removeSession at step
  split at step
  · obtain ⟨closing, disconnected, result⟩ := Result.bind_eq_ok_iff.mp step
    cases result
    exact disconnectSession_frame disconnected
  · rename_i missing
    cases step
    refine ⟨?_, fun other => rfl⟩
    rw [Registry.eraseById, eraseUnique, List.eraseP_of_forall_not]
    intro entry member
    simpa using (findUnique_eq_none_iff Key.id id state.sessions).mp missing entry member

/-- No entry under a removed identifier is left, and none is new. -/
theorem removeSessions_frame {ids : List Uuid} {state next : State}
    (distinct : UniqueKeys Key.id state.sessions)
    (step : state.removeSessions env ids = .ok next) :
    (∀ entry ∈ next.sessions, entry ∈ state.sessions ∧ entry.key.id ∉ ids) ∧
      ∀ other, (next.memory other).key = (state.memory other).key := by
  induction ids generalizing state with
  | nil =>
      cases step
      simp
  | cons id ids ih =>
      obtain ⟨⟨removed, middle⟩, first, rest⟩ := Result.bind_eq_ok_iff.mp step
      obtain ⟨erased, sameKeys⟩ := removeSession_frame first
      have stillDistinct : UniqueKeys Key.id middle.sessions := by
        rw [erased]
        exact distinct.eraseUnique id
      obtain ⟨remaining, laterKeys⟩ := ih stillDistinct rest
      constructor
      · intro entry member
        obtain ⟨inMiddle, notLater⟩ := remaining entry member
        rw [erased] at inMiddle
        obtain ⟨before, differs⟩ := (distinct.mem_eraseUnique_iff id entry).mp inMiddle
        refine ⟨before, ?_⟩
        rw [List.mem_cons, not_or]
        exact ⟨differs, notLater⟩
      · exact fun other => (laterKeys other).trans (sameKeys other)

end State

/-! ## Coherent registries -/

/-- Every registered session is filed under its current key. -/
structure Indexed (state : State) : Prop where
  wellFormed : WellFormed state
  coherent : Coherent (fun ref => (state.memory ref).key) state.sessions

namespace Indexed

variable {env : Environment} {state : State} (indexed : Indexed state)

include indexed

theorem mem_byNodeId_iff (node : Uuid) (ref : Ref) :
    ref ∈ state.sessions.byNodeId node ↔
      ref ∈ state.sessions.refs ∧ (state.memory ref).nodeId = node := by
  have found := indexed.coherent.mem_lookup_iff (fun key => key.nodeId = node) ref
  rw [decide_eq_true_eq] at found
  exact found

theorem mem_byNodeAndType_iff (node : Uuid) (type : SessionType) (ref : Ref) :
    ref ∈ state.sessions.byNodeAndType node type ↔
      ref ∈ state.sessions.refs ∧ (state.memory ref).nodeId = node ∧
        (state.memory ref).type = type := by
  have found := indexed.coherent.mem_lookup_iff
    (fun key => key.nodeId = node ∧ key.type = type) ref
  rw [decide_eq_true_eq] at found
  exact found

/-- `disconnect` removes every registered session of the node. -/
theorem disconnect {node : Uuid} {next : State} (step : state.disconnect env node = .ok next)
    {ref : Ref} (ofNode : (state.memory ref).nodeId = node) : ref ∉ next.sessions.refs := by
  obtain ⟨remaining, _⟩ := State.removeSessions_frame indexed.wellFormed.distinct step
  intro still
  obtain ⟨entry, member, rfl⟩ := List.mem_map.mp still
  obtain ⟨before, notRemoved⟩ := remaining entry member
  apply notRemoved
  rw [(indexed.wellFormed.filed entry before).1]
  have found : entry.elem ∈ state.sessions.byNodeId node :=
    (indexed.mem_byNodeId_iff node entry.elem).mpr
      ⟨List.mem_map.mpr ⟨entry, before, rfl⟩, ofNode⟩
  exact List.mem_map.mpr ⟨entry.elem, (env.order_perm _).mem_iff.mpr found, rfl⟩

/-- `send_to_node` sends when the node has a registered TCP session. -/
theorem sendToNode {node : Uuid} {ref : Ref} (registered : ref ∈ state.sessions.refs)
    (ofNode : (state.memory ref).nodeId = node) (tcp : (state.memory ref).type = .tcp)
    (message : Bytes) :
    ∃ target ∈ state.sessions.refs, (state.memory target).nodeId = node ∧
      (state.memory target).type = .tcp ∧
        (state.sendToNode env node message).sent = state.sent ++ [(target, message)] := by
  have found : ref ∈ env.order (state.sessions.byNodeAndType node .tcp) :=
    (env.order_perm _).mem_iff.mpr
      ((indexed.mem_byNodeAndType_iff node .tcp ref).mpr ⟨registered, ofNode, tcp⟩)
  have positive := List.length_pos_of_mem found
  have inRange := Nat.mod_lt (state.roundRobin node).toNat positive
  have chosen : (env.order (state.sessions.byNodeAndType node .tcp))[(state.roundRobin
      node).toNat % (env.order (state.sessions.byNodeAndType node .tcp)).length] ∈
        state.sessions.byNodeAndType node .tcp :=
    (env.order_perm _).mem_iff.mp (List.getElem_mem inRange)
  obtain ⟨isRegistered, isOfNode, isTcp⟩ := (indexed.mem_byNodeAndType_iff node .tcp _).mp chosen
  refine ⟨_, isRegistered, isOfNode, isTcp, ?_⟩
  rw [State.sendToNode, if_pos positive]
  simp only [List.getElem?_eq_getElem inRange]
  rfl

end Indexed

theorem closed_indexed (env : Environment) : Closed env Indexed where
  quiet := by
    rintro state next indexed nodeIdEq memoryEq allocatedEq sessionsEq
    refine ⟨(closed_wellFormed env).quiet indexed.wellFormed nodeIdEq memoryEq allocatedEq
      sessionsEq, ?_⟩
    rw [memoryEq, sessionsEq]
    exact indexed.coherent
  update := by
    intro state ref change unchanged indexed
    refine ⟨(closed_wellFormed env).update ref change unchanged indexed.wellFormed, ?_⟩
    refine indexed.coherent.congr fun entry _ => ?_
    by_cases same : entry.elem = ref
    · rw [same, State.update_memory_self]
      exact (unchanged _).1
    · rw [State.update_memory_of_ne same]
  allocate := by
    intro state session placeholder indexed
    refine ⟨(closed_wellFormed env).allocate session placeholder indexed.wellFormed, ?_⟩
    refine indexed.coherent.congr fun entry member => ?_
    rw [State.allocate_memory_of_ne session
      (Nat.ne_of_lt (indexed.wellFormed.allocated entry member))]
  addSession := by
    intro state ref created indexed
    exact ⟨(closed_wellFormed env).addSession ref created indexed.wellFormed,
      indexed.coherent.insertUnique env.placement rfl⟩
  erase := by
    intro state kept sublist indexed
    exact ⟨(closed_wellFormed env).erase kept sublist indexed.wellFormed,
      indexed.coherent.sublist sublist⟩

/-- Overwriting a node id is harmless when it does not change it or when the
session is not registered. -/
theorem Indexed.setNodeId {state : State} (indexed : Indexed state) {session : Ref} {id : Uuid}
    (harmless : session ∈ state.sessions.refs → id = (state.memory session).nodeId) :
    Indexed (state.setNodeId session id) := by
  refine ⟨indexed.wellFormed.setNodeId session id, ?_⟩
  refine indexed.coherent.congr fun entry member => ?_
  by_cases same : entry.elem = session
  · have unchanged := harmless (List.mem_map.mpr ⟨entry, member, same⟩)
    rw [same, State.setNodeId, State.update_memory_self, unchanged]
  · rw [State.setNodeId, State.update_memory_of_ne same]

/-! ## Runs -/

/-- Every identify handled on a registered TCP session names the node id that
the session already has. -/
def KeepsNodeIds (env : Environment) (state : State) (event : Event) : Prop :=
  ∀ session frame, event = .frame session frame →
    ∀ call ∈ calls env frame session state, ∀ id, Retags session call.message call.before id →
      session ∈ call.before.sessions.refs → id = (call.before.memory session).nodeId

/-- The node-id indexes find exactly the registered sessions of a node. -/
structure IndexesAgree (state : State) : Prop where
  byNodeId : ∀ node ref, ref ∈ state.sessions.byNodeId node ↔
    ref ∈ state.sessions.refs ∧ (state.memory ref).nodeId = node
  byNodeAndType : ∀ node ref, ref ∈ state.sessions.byNodeAndType node .tcp ↔
    ref ∈ state.sessions.refs ∧ (state.memory ref).nodeId = node ∧
      (state.memory ref).type = .tcp

theorem indexed_of_reachable {env : Environment} {state : State}
    (reachable : ((machine env).under (KeepsNodeIds env)).Reachable state) : Indexed state := by
  refine reachable.invariant ?_ ?_
  · rintro start ⟨nodeId, tcpPort, rfl⟩
    exact ⟨WellFormed.initial nodeId tcpPort, fun entry member => by cases member⟩
  · rintro before event next _ indexed ⟨keeps, enabled, step⟩
    refine (closed_indexed env).perform enabled step ?_ indexed
    intro session frame isFrame call member called id retags
    exact called.setNodeId (keeps session frame isFrame call member id retags)

/-- In every run in which no identify changes the node id of a registered
session, the indexes agree with the sessions in every state reached; `disconnect`
removes every session of a node and `send_to_node` finds one. -/
theorem indexesAgree_of_reachable {env : Environment} {state : State}
    (reachable : ((machine env).under (KeepsNodeIds env)).Reachable state) :
    IndexesAgree state ∧
      (∀ node next, state.disconnect env node = .ok next →
        ∀ ref ∈ state.sessions.refs, (state.memory ref).nodeId = node →
          ref ∉ next.sessions.refs) ∧
      ∀ node message, (∃ ref ∈ state.sessions.refs, (state.memory ref).nodeId = node ∧
          (state.memory ref).type = .tcp) →
        ∃ target ∈ state.sessions.refs, (state.memory target).nodeId = node ∧
          (state.memory target).type = .tcp ∧
            (state.sendToNode env node message).sent = state.sent ++ [(target, message)] := by
  have indexed := indexed_of_reachable reachable
  refine ⟨⟨indexed.mem_byNodeId_iff, fun node => indexed.mem_byNodeAndType_iff node .tcp⟩,
    ?_, ?_⟩
  · intro node next step ref _ ofNode
    exact indexed.disconnect step ofNode
  · rintro node message ⟨ref, registered, ofNode, tcp⟩
    exact indexed.sendToNode registered ofNode tcp message

/-- A session of node `7…7`, made by a caller of `add_session`. -/
def knownSession : Session :=
  { tcpSession (Uuid.filled 3) .external with nodeId := Uuid.filled 7 }

/-- It is registered, and so is a websocket client. -/
def knownLink : State :=
  (((State.initial (Uuid.filled 1) 0).allocate knownSession).addSession stillEnvironment
    0).2.acceptWebsocket stillEnvironment

theorem knownLink_reachable :
    ((machine stillEnvironment).under (KeepsNodeIds stillEnvironment)).Reachable knownLink := by
  have built : ((machine stillEnvironment).under (KeepsNodeIds stillEnvironment)).step
      (State.initial (Uuid.filled 1) 0) (.create knownSession)
      ((State.initial (Uuid.filled 1) 0).allocate knownSession) :=
    ⟨by rintro session frame ⟨⟩, rfl, rfl⟩
  have added : ((machine stillEnvironment).under (KeepsNodeIds stillEnvironment)).step
      ((State.initial (Uuid.filled 1) 0).allocate knownSession) (.addSession 0)
      (((State.initial (Uuid.filled 1) 0).allocate knownSession).addSession stillEnvironment
        0).2 :=
    ⟨by rintro session frame ⟨⟩, (by decide : 0 < 1), rfl⟩
  have accepted : ((machine stillEnvironment).under (KeepsNodeIds stillEnvironment)).step
      (((State.initial (Uuid.filled 1) 0).allocate knownSession).addSession stillEnvironment
        0).2 .acceptWebsocket knownLink :=
    ⟨by rintro session frame ⟨⟩, trivial, rfl⟩
  exact .step (.step (.step (.start ⟨Uuid.filled 1, 0, rfl⟩) built) added) accepted

/-- Its peer names node `7…7` once more. -/
def knownAgain : State :=
  knownLink.receive stillEnvironment 0 (frameOf [strayIdentify])

theorem keepsNodeIds_knownLink :
    KeepsNodeIds stillEnvironment knownLink (.frame 0 (frameOf [strayIdentify])) := by
  rintro session frame ⟨⟩ call member id ⟨_, _, named⟩ _
  rw [calls, (Kernel.dispatched_of_isFrame (isFrame_frameOf (by decide) (by decide))).1]
    at member
  obtain ⟨result, next, only⟩ : ∃ result next, Kernel.calls (handlers stillEnvironment 0)
      [strayIdentify] {} knownLink = [⟨strayIdentify, result, next⟩] ∧ result = knownLink :=
    ⟨_, _, rfl, rfl⟩
  rw [only.1, only.2, List.mem_singleton] at member
  subst member
  have read : readUuid strayIdentify.payload 0 = .ok (Uuid.filled 7) := rfl
  rw [read] at named
  cases named
  rfl

/-- Both sessions are found under their node ids, and a message to node `7…7` is
sent. -/
theorem indexesAgree_knownAgain :
    knownAgain.sessions.refs = [1, 0] ∧ knownAgain.sessions.byNodeId (Uuid.filled 7) = [0] ∧
      IndexesAgree knownAgain ∧
      (∀ next, knownAgain.disconnect stillEnvironment (Uuid.filled 7) = .ok next →
        0 ∉ next.sessions.refs) ∧
      ∃ target ∈ knownAgain.sessions.refs, (knownAgain.memory target).nodeId = Uuid.filled 7 ∧
        (knownAgain.memory target).type = .tcp ∧
          (knownAgain.sendToNode stillEnvironment (Uuid.filled 7) [5]).sent =
            knownAgain.sent ++ [(target, [5])] := by
  have received : ((machine stillEnvironment).under (KeepsNodeIds stillEnvironment)).step
      knownLink (.frame 0 (frameOf [strayIdentify])) knownAgain :=
    ⟨keepsNodeIds_knownLink, (by decide : 0 < 2), rfl⟩
  have facts : knownAgain.sessions.refs = [1, 0] ∧
      knownAgain.sessions.byNodeId (Uuid.filled 7) = [0] ∧
      (knownAgain.memory 0).nodeId = Uuid.filled 7 ∧ (knownAgain.memory 0).type = .tcp := by
    decide +kernel
  obtain ⟨refs, found, ofNode, tcp⟩ := facts
  have registered : 0 ∈ knownAgain.sessions.refs := by simp [refs]
  obtain ⟨agree, disconnects, sends⟩ :=
    indexesAgree_of_reachable (.step knownLink_reachable received)
  exact ⟨refs, found, agree,
    fun next step => disconnects (Uuid.filled 7) next step 0 registered ofNode,
    sends (Uuid.filled 7) [5] ⟨0, registered, ofNode, tcp⟩⟩

/-- The node after its only session has been identified. -/
def identifiedLink : State :=
  oneLink.receive stillEnvironment 0 (frameOf [strayIdentify])

/-- Once a session has been identified, the index does not find it under its
node id, and neither `disconnect` nor `send_to_node` reaches it. -/
theorem identified_session_not_found :
    (machine stillEnvironment).Reachable identifiedLink ∧
      identifiedLink.sessions.refs = [0] ∧
      (identifiedLink.memory 0).nodeId = Uuid.filled 7 ∧
      identifiedLink.sessions.byNodeId (Uuid.filled 7) = [] ∧
      identifiedLink.sessions.byNodeAndType (Uuid.filled 7) .tcp = [] := by
  have received : (machine stillEnvironment).step oneLink
      (.frame 0 (frameOf [strayIdentify])) identifiedLink :=
    ⟨(by decide : 0 < oneLink.allocated), rfl⟩
  refine ⟨.step oneLink_reachable received, ?_⟩
  decide +kernel

end Aurum.Node
