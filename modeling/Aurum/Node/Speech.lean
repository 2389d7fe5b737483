import Aurum.Node.Batching
import Aurum.Node.Broadcast
import Aurum.Node.Closing
import Aurum.Node.Descent
import Aurum.Node.Transport

/-!
# What a node tells its peers

Whatever a node sends on a TCP session, its own builders have serialized, but
for the messages that a caller of `send_to_node` provides.  Each such message is
framed by its length.  The node names itself in it, and announces the websocket
clients it has accepted; what other nodes have told it, it does not pass on.
-/

namespace Aurum.Node

open Aurum.Protocol
open Aurum.Container
open Aurum.Transition

/-! ## Messages sent -/

/-- No session object has been lost or become another. -/
structure Ages (state next : State) : Prop where
  older : state.allocated ≤ next.allocated
  same : SameIdentity state next

theorem Ages.of_memory {state next : State} (memory : next.memory = state.memory)
    (allocated : next.allocated = state.allocated) : Ages state next where
  older := allocated.ge
  same := by
    intro ref _
    rw [memory]
    exact ⟨rfl, rfl, rfl⟩

theorem Ages.trans {state middle next : State} (first : Ages state middle)
    (second : Ages middle next) : Ages state next where
  older := first.older.trans second.older
  same := by
    intro ref created
    rcases first.same ref created with ⟨firstId, firstType, firstOrigin⟩
    obtain ⟨secondId, secondType, secondOrigin⟩ :=
      second.same ref (created.trans_le first.older)
    exact ⟨secondId.trans firstId, secondType.trans firstType, secondOrigin.trans firstOrigin⟩

theorem Ages.of_descends {state next : State} (descends : Descends state next) :
    Ages state next :=
  ⟨descends.older, descends.same⟩

theorem Ages.allocate (session : Session) (state : State) :
    Ages state (state.allocate session) where
  older := Nat.le_succ _
  same := by
    intro ref created
    rw [State.allocate_memory_of_ne session (Nat.ne_of_lt created)]
    exact ⟨rfl, rfl, rfl⟩

theorem Ages.install (env : Environment) (session : Session) (state : State) :
    Ages state (state.install env session) :=
  ⟨(allocate session state).older, (allocate session state).same⟩

/-- Messages have been sent, on each type of session only such that `tells`
allows. -/
structure Utters (tells : SessionType → Bytes → Prop) (state next : State) : Prop
    extends Ages state next where
  nodeId : next.nodeId = state.nodeId
  said : ∃ said, next.sent = state.sent ++ said ∧ ∀ sent ∈ said,
    sent.1 < next.allocated ∧ tells (next.memory sent.1).type sent.2

namespace Utters

variable {tells : SessionType → Bytes → Prop} {state middle next : State}

theorem silent (ages : Ages state next) (nodeId : next.nodeId = state.nodeId)
    (sent : next.sent = state.sent) : Utters tells state next where
  toAges := ages
  nodeId := nodeId
  said := ⟨[], by rw [sent, List.append_nil], fun _ member => absurd member List.not_mem_nil⟩

theorem of_descends (descends : Descends state next) (nodeId : next.nodeId = state.nodeId)
    (sent : next.sent = state.sent) : Utters tells state next :=
  silent (.of_descends descends) nodeId sent

/-- Changes outside node id, session objects and messages. -/
theorem quiet (nodeId : next.nodeId = state.nodeId) (memory : next.memory = state.memory)
    (allocated : next.allocated = state.allocated) (sent : next.sent = state.sent) :
    Utters tells state next :=
  silent (.of_memory memory allocated) nodeId sent

theorem refl (state : State) : Utters tells state state :=
  quiet rfl rfl rfl rfl

theorem draw (state : State) : Utters tells state state.draw :=
  quiet rfl rfl rfl rfl

theorem trans (first : Utters tells state middle) (second : Utters tells middle next) :
    Utters tells state next where
  toAges := first.toAges.trans second.toAges
  nodeId := second.nodeId.trans first.nodeId
  said := by
    rcases first.said with ⟨early, earlySent, earlySaid⟩
    rcases second.said with ⟨late, lateSent, lateSaid⟩
    refine ⟨early ++ late, by rw [lateSent, earlySent, List.append_assoc], ?_⟩
    intro sent member
    rcases List.mem_append.mp member with member | member
    · rcases earlySaid sent member with ⟨created, told⟩
      rw [(second.same sent.1 created).2.1]
      exact ⟨created.trans_le second.older, told⟩
    · exact lateSaid sent member

theorem send {ref : Ref} {message : Bytes} (created : ref < state.allocated)
    (told : tells (state.memory ref).type message) :
    Utters tells state (state.send ref message) where
  toAges := .of_memory rfl rfl
  nodeId := rfl
  said := by
    refine ⟨[(ref, message)], rfl, ?_⟩
    intro sent member
    rw [List.mem_singleton.mp member]
    exact ⟨created, told⟩

theorem broadcastToNodes (formed : WellFormed state) {message : Bytes}
    (told : tells .tcp message) : Utters tells state (state.broadcastToNodes message) := by
  rw [State.broadcastToNodes_eq]
  refine ⟨.of_memory rfl rfl, rfl, _, rfl, ?_⟩
  intro sent member
  rcases List.mem_map.mp member with ⟨ref, target, rfl⟩
  have tcp : (state.memory ref).type = .tcp := by
    simpa using List.of_mem_filter
      (List.mem_of_find?_eq_some (State.mem_broadcastTargets_iff.mp target).2)
  rcases List.mem_map.mp (State.mem_of_mem_broadcastTargets target) with ⟨entry, registered, rfl⟩
  refine ⟨formed.allocated entry registered, ?_⟩
  simp only [tcp]
  exact told

/-- `send_to_node` sends on a TCP session. -/
theorem sendToNode (env : Environment) (formed : WellFormed state) {node : Uuid}
    {message : Bytes} (told : tells .tcp message) :
    Utters tells state (state.sendToNode env node message) := by
  unfold State.sendToNode
  simp only
  split
  · have turned : Utters tells state { state with
        roundRobin := Function.update state.roundRobin node (state.roundRobin node + 1) } :=
      .quiet rfl rfl rfl rfl
    split
    · rename_i ref found
      have member : ref ∈ state.sessions.byNodeAndType node .tcp :=
        (env.order_perm _).mem_iff.mp (List.mem_of_getElem? found)
      rcases (mem_lookup_iff _ _ _).mp member with ⟨entry, registered, keyed, rfl⟩
      have tcp : (state.memory entry.elem).type = .tcp := by
        rw [← (formed.filed entry registered).2]
        simpa using (of_decide_eq_true keyed).2
      apply turned.trans (.send (formed.allocated entry registered) _)
      exact tcp ▸ told
    · exact turned
  · exact .refl _

/-- A session object built and registered. -/
theorem install (env : Environment) (session : Session) (state : State) :
    Utters tells state (state.install env session) :=
  silent (.install env session state) rfl rfl

theorem acceptTcp (env : Environment) (state : State) :
    Utters tells state (state.acceptTcp env) :=
  (draw state).trans (install env _ state.draw)

theorem acceptWebsocket (env : Environment) (state : State) :
    Utters tells state (state.acceptWebsocket env) := by
  rw [State.acceptWebsocket_eq]
  exact (draw state).trans (install env _ state.draw)

theorem closeStream (ref : Ref) (state : State) : Utters tells state (state.closeStream ref) := by
  have recorded : Utters tells state
      { state with disconnected := state.disconnected ++ [ref] } := quiet rfl rfl rfl rfl
  unfold State.closeStream
  simp only
  split
  · exact recorded.trans (of_descends (.update _ ref (fun session =>
      { session with isOpen := false }) fun _ => ⟨rfl, rfl, rfl⟩) rfl rfl)
  · exact recorded

end Utters

/-- The requests that a node builds on its own account; it withdraws sessions
with the given identifiers. -/
structure Voice (env : Environment) (node : Uuid) (withdrawn : Uuid → Prop)
    (tells : SessionType → Bytes → Prop) : Prop where
  opening : ∀ (state : State) (withDiscovery : Bool) (connectionsPerNode : UInt16) (data : Bytes),
    state.nodeId = node →
      (state.openRequest env withDiscovery connectionsPerNode).getData true = .ok data →
        tells .tcp data
  leaving : ∀ (id transactionId : Uuid) (data : Bytes), withdrawn id →
    (({} : RequestBuilder).addLeave id transactionId).getData true = .ok data → tells .tcp data

/-- The identifiers of the websocket sessions. -/
def State.Lists (state : State) (id : Uuid) : Prop :=
  ∃ ref < state.allocated, (state.memory ref).type = .websocket ∧ (state.memory ref).id = id

theorem State.Lists.of_ages {state next : State} {id : Uuid} (listed : next.Lists id)
    (allocated : next.allocated = state.allocated) (ages : Ages state next) : state.Lists id := by
  rcases listed with ⟨ref, created, websocket, named⟩
  rw [allocated] at created
  obtain ⟨idEq, typeEq, _⟩ := ages.same ref created
  exact ⟨ref, created, typeEq.symm.trans websocket, idEq.symm.trans named⟩

namespace Voice

variable {env : Environment} {node : Uuid} {withdrawn : Uuid → Prop}
  {tells : SessionType → Bytes → Prop} {state next : State}
  (voice : Voice env node withdrawn tells)

include voice

/-! ### Connections -/

theorem openSession (own : state.nodeId = node) {withDiscovery : Bool}
    {connectionsPerNode : UInt16} {connected : Bool}
    (step : state.openSession env withDiscovery connectionsPerNode = .ok (connected, next)) :
    Utters tells state next := by
  have drawn : Utters tells state state.draw := .draw state
  have installed := drawn.trans
    (.install env (tcpSession (state.nextUuid env) .dialed) state.draw)
  unfold State.openSession at step
  simp only at step
  split at step
  · rcases Result.bind_eq_ok_iff.mp step with ⟨data, built, result⟩
    cases result
    let opened := state.draw.install env (tcpSession (state.nextUuid env) .dialed)
    have told : tells .tcp data :=
      voice.opening opened withDiscovery connectionsPerNode data own built
    have created : state.allocated < opened.allocated := Nat.lt_succ_self _
    have drawnAgain :
        Utters tells state (if withDiscovery then opened.draw.draw else opened.draw) := by
      cases withDiscovery
      · exact installed.trans (.draw opened)
      · exact (installed.trans (.draw opened)).trans (.draw opened.draw)
    have tcp : (opened.memory state.allocated).type = .tcp :=
      congrArg Session.type (State.install_memory_self env _ state.draw)
    apply drawnAgain.trans (.send _ _)
    · cases withDiscovery
      · exact created
      · exact created
    · cases withDiscovery
      · exact tcp ▸ told
      · exact tcp ▸ told
  · cases step
    exact installed

theorem connect (own : state.nodeId = node) {host : Bytes} {port : UInt16} {withDiscovery : Bool}
    {connectionsPerNode : UInt16} {connected : Bool}
    (step : state.connect env host port withDiscovery connectionsPerNode = .ok (connected, next)) :
    Utters tells state next := by
  have counted : Utters tells state { state with dialed := state.dialed ++ [⟨host, port⟩] } :=
    .quiet rfl rfl rfl rfl
  unfold State.connect at step
  simp only at step
  split at step
  · exact counted.trans (voice.openSession own step)
  · cases step
    exact counted

theorem runPosted (own : state.nodeId = node) (step : state.runPosted env = .ok next) :
    Utters tells state next := by
  unfold State.runPosted at step
  split at step
  · cases step
    exact .refl _
  · rename_i endpoint posted _
    rcases Result.bind_eq_ok_iff.mp step with ⟨⟨connected, dialed⟩, dial, result⟩
    cases result
    have taken : Utters tells state { state with posted := posted } := .quiet rfl rfl rfl rfl
    exact taken.trans (voice.connect own dial)

theorem visitAll (own : state.nodeId = node) {endpoints : List Endpoint}
    (step : Handlers.visitAll env endpoints state = .ok next) : Utters tells state next := by
  induction endpoints generalizing state with
  | nil =>
      cases step
      exact .refl _
  | cons endpoint endpoints ih =>
      rcases Result.bind_eq_ok_iff.mp step with ⟨middle, visit, rest⟩
      have first : Utters tells state middle := by
        unfold Handlers.visitEndpoint at visit
        split at visit
        · cases visit
          exact .refl _
        · rcases Result.bind_eq_ok_iff.mp visit with ⟨⟨connected, dialed⟩, dial, result⟩
          cases result
          exact voice.connect own dial
      exact first.trans (ih (first.nodeId.trans own) rest)

/-! ### Removal -/

theorem disconnectSession (formed : WellFormed state) (lists : ∀ id, state.Lists id → withdrawn id)
    {ref : Ref} (created : ref < state.allocated)
    (step : state.disconnectSession env ref = .ok next) : Utters tells state next := by
  have shut : Utters tells state (state.closeStream ref) := .closeStream ref state
  unfold State.disconnectSession at step
  split at step
  · cases step
    exact shut
  · rename_i websocket
    rcases Result.bind_eq_ok_iff.mp step with ⟨data, built, broadcast⟩
    cases broadcast
    rw [State.closeStream_id] at built
    have stillFormed := (closed_wellFormed env).draw
      ((closed_wellFormed env).closeStream ref formed)
    exact (shut.trans (.draw _)).trans (.broadcastToNodes stillFormed
      (voice.leaving _ _ data (lists _ ⟨ref, created, websocket, rfl⟩) built))

theorem removeSession (formed : WellFormed state) (lists : ∀ id, state.Lists id → withdrawn id)
    {id : Uuid} {removed : Bool} (step : state.removeSession env id = .ok (removed, next)) :
    Utters tells state next ∧ next.allocated = state.allocated := by
  rcases Removes.removeSession_cases step with rfl | ⟨entry, member, _, disconnected⟩
  · exact ⟨.refl _, rfl⟩
  · have erased : Utters tells state { state with sessions := state.sessions.eraseById id } :=
      .quiet rfl rfl rfl rfl
    refine ⟨erased.trans (voice.disconnectSession ?_ lists ?_ disconnected),
      (Removes.disconnectSession disconnected).1⟩
    · exact (closed_wellFormed env).erase _ (eraseUnique_sublist Key.id id state.sessions) formed
    · exact formed.allocated entry member

theorem removeSessions (formed : WellFormed state) (lists : ∀ id, state.Lists id → withdrawn id)
    {ids : List Uuid} (step : state.removeSessions env ids = .ok next) :
    Utters tells state next := by
  induction ids generalizing state with
  | nil =>
      cases step
      exact .refl _
  | cons id ids ih =>
      rcases Result.bind_eq_ok_iff.mp step with ⟨⟨removed, middle⟩, first, rest⟩
      obtain ⟨uttered, allocated⟩ := voice.removeSession formed lists first
      have stillFormed := (closed_wellFormed env).removeSession first formed
      have stillLists : ∀ id, middle.Lists id → withdrawn id :=
        fun id listed => lists id (listed.of_ages allocated uttered.toAges)
      exact uttered.trans (ih stillFormed stillLists rest)

theorem onAccept (formed : WellFormed state) (lists : ∀ id, state.Lists id → withdrawn id)
    {ref : Ref} {failed : Bool}
    (joining : failed = false → ∀ transactionId data,
      (({} : RequestBuilder).addJoin (state.memory ref).id transactionId).getData true =
        .ok data → tells .tcp data)
    (step : state.onAccept env ref failed = .ok next) : Utters tells state next := by
  unfold State.onAccept at step
  split at step
  · rcases Result.bind_eq_ok_iff.mp step with ⟨⟨removed, middle⟩, removal, result⟩
    cases result
    exact (voice.removeSession formed lists removal).1
  · rename_i succeeded
    rcases Result.bind_eq_ok_iff.mp step with ⟨data, built, broadcast⟩
    cases broadcast
    have opened : Utters tells state (state.setOpen ref true).draw :=
      .of_descends ((Descends.update state ref (fun session => { session with isOpen := true })
        fun _ => ⟨rfl, rfl, rfl⟩).trans (.of_eq rfl rfl rfl rfl)) rfl rfl
    have sameId : ((state.setOpen ref true).memory ref).id = (state.memory ref).id := by
      rw [State.setOpen, State.update_memory_self]
    rw [sameId] at built
    have stillFormed := (closed_wellFormed env).draw
      ((closed_wellFormed env).setOpen ref true formed)
    exact opened.trans (.broadcastToNodes stillFormed
      (joining (by simpa using succeeded) _ data built))

/-! ### Frames -/

theorem effect (own : state.nodeId = node) {session : Ref} {message : Submessage}
    (effect : Effect env session message state next) : Utters tells state next := by
  have descends := Descends.effect effect
  cases effect with
  | discovered next opcode response visited => exact voice.visitAll own visited
  | _ => exact .of_descends descends rfl rfl

theorem handle (own : state.nodeId = node) (frame : Bytes) (session : Ref) :
    Utters tells state (Node.handle env frame session state).state := by
  apply handle_keeps (Utters tells state) _ (.refl state)
  intro call member before
  rcases Kernel.mem_calls member with ⟨_, builder, result, invoked⟩
  exact before.trans (voice.effect (before.nodeId.trans own) (invoke_effect invoked))

theorem receive (own : state.nodeId = node) {session : Ref} {frame : Bytes}
    (created : session < state.allocated)
    (replying : ∀ buffer, (Node.handle env frame session state).outcome = .replied buffer →
      tells (state.memory session).type buffer) :
    Utters tells state (state.receive env session frame) := by
  have handled := voice.handle own frame session
  unfold State.receive
  simp only
  split
  · rename_i buffer replied
    apply handled.trans (.send (created.trans_le handled.older) _)
    rw [(handled.same session created).2.1]
    exact replying buffer replied
  · exact handled

/-! ### Events -/

/-- The messages of an event are the node's own requests, joins of sessions
whose handshake is done, replies, and what a caller asks to send. -/
theorem perform (own : state.nodeId = node) (formed : WellFormed state)
    (lists : ∀ id, state.Lists id → withdrawn id) {event : Event}
    (enabled : event.Enabled state) (step : state.perform env event = .ok next)
    (joining : ∀ ref, event = .handshake ref false → ∀ transactionId data,
      (({} : RequestBuilder).addJoin (state.memory ref).id transactionId).getData true =
        .ok data → tells .tcp data)
    (replying : ∀ session frame, event = .frame session frame → ∀ buffer,
      (Node.handle env frame session state).outcome = .replied buffer →
        tells (state.memory session).type buffer)
    (sending : ∀ target message, event = .sendToNode target message → tells .tcp message) :
    Utters tells state next := by
  cases event with
  | acceptTcp =>
      cases step
      exact .acceptTcp env state
  | acceptWebsocket =>
      cases step
      exact .acceptWebsocket env state
  | handshake ref failed =>
      apply voice.onAccept formed lists _ step
      rintro rfl
      exact joining ref rfl
  | connect host port withDiscovery connectionsPerNode =>
      rcases Result.bind_eq_ok_iff.mp step with ⟨⟨connected, middle⟩, dial, result⟩
      cases result
      exact voice.connect own dial
  | runPosted => exact voice.runPosted own step
  | create session =>
      cases step
      exact .silent (.allocate session state) rfl rfl
  | addSession ref =>
      cases step
      exact .quiet rfl rfl rfl rfl
  | removeSession id =>
      rcases Result.bind_eq_ok_iff.mp step with ⟨⟨removed, middle⟩, removal, result⟩
      cases result
      exact (voice.removeSession formed lists removal).1
  | disconnect node => exact voice.removeSessions formed lists step
  | disconnectAll => exact voice.removeSessions formed lists step
  | sendToNode target message =>
      cases step
      exact .sendToNode env formed (sending target message rfl)
  | frame ref bytes =>
      cases step
      exact voice.receive own enabled (replying ref bytes rfl)

end Voice

/-- Messages are sent on sessions that exist, whatever happens. -/
theorem utters_of_perform {env : Environment} {state next : State} {event : Event}
    (formed : WellFormed state) (enabled : event.Enabled state)
    (step : state.perform env event = .ok next) : Utters (fun _ _ => True) state next := by
  have voice : Voice env state.nodeId (fun _ => True) fun _ _ => True :=
    ⟨fun _ _ _ _ _ _ => trivial, fun _ _ _ _ _ => trivial⟩
  exact voice.perform rfl formed (fun _ _ => trivial) enabled step
    (fun _ _ _ _ _ => trivial) (fun _ _ _ _ _ => trivial) fun _ _ _ => trivial

/-- No event loses a session object or makes it another. -/
theorem ages_of_perform {env : Environment} {state next : State} {event : Event}
    (formed : WellFormed state) (enabled : event.Enabled state)
    (step : state.perform env event = .ok next) : Ages state next :=
  (utters_of_perform formed enabled step).toAges

/-- Whatever has been sent is allowed. -/
def Said (tells : SessionType → Bytes → Prop) (state : State) : Prop :=
  ∀ sent ∈ state.sent, sent.1 < state.allocated ∧ tells (state.memory sent.1).type sent.2

theorem Said.utter {tells : SessionType → Bytes → Prop} {state next : State}
    (said : Said tells state) (utters : Utters tells state next) : Said tells next := by
  rcases utters.said with ⟨late, sentEq, lateSaid⟩
  intro sent member
  rw [sentEq] at member
  rcases List.mem_append.mp member with member | member
  · rcases said sent member with ⟨created, told⟩
    rw [(utters.same sent.1 created).2.1]
    exact ⟨created.trans_le utters.older, told⟩
  · exact lateSaid sent member

theorem Said.weaken {tells allows : SessionType → Bytes → Prop} {state : State}
    (said : Said tells state)
    (weaker : ∀ type message, tells type message → allows type message) : Said allows state :=
  fun sent member => ⟨(said sent member).1, weaker _ _ (said sent member).2⟩

/-- Messages of TCP sessions are such that `tells` allows; nothing is asked of
others. -/
def OnTcp (tells : Bytes → Prop) (type : SessionType) (message : Bytes) : Prop :=
  type = .tcp → tells message

/-! ## Framing -/

/-- What `get_data` returns with the length header is framed. -/
theorem framed_of_getData {builder : BaseBuilder} {data : Bytes}
    (built : builder.getData true = .ok data) : Framed data := by
  by_cases queued : builder.buffers = []
  · rw [BaseBuilder.getData_nil queued] at built
    cases built
    exact Or.inl rfl
  · obtain ⟨body, _, headed⟩ := BaseBuilder.getData_headed queued built
    exact Or.inr ⟨body, headed⟩

theorem voice_framed (env : Environment) (node : Uuid) (withdrawn : Uuid → Prop) :
    Voice env node withdrawn (OnTcp Framed) where
  opening := fun _ _ _ _ _ built _ => framed_of_getData built
  leaving := fun _ _ _ _ built _ => framed_of_getData built

/-- A reply on a TCP session has been serialized with the length header. -/
theorem exists_replied {env : Environment} {frame : Bytes} {session : Ref} {state : State}
    {buffer : Bytes} (tcp : (state.memory session).type = .tcp)
    (replied : (handle env frame session state).outcome = .replied buffer) :
    ({ buffers := queuedReplies env session frame state } : BaseBuilder).getData true =
      .ok buffer := by
  have complete : Kernel.completes frame = true := by
    by_contra incomplete
    rw [(handle_rejected_iff env frame session state).mpr (by simpa using incomplete)] at replied
    cases replied
  rw [handle_outcome_eq env session state complete, tcp, decide_eq_true rfl] at replied
  cases serialized : ({ buffers := queuedReplies env session frame state } :
      BaseBuilder).getData true with
  | error failure =>
      rw [serialized] at replied
      cases replied
  | ok data =>
      rw [serialized] at replied
      cases replied
      rfl

/-- A caller of `send_to_node` provides framed messages. -/
def Event.SendsFramed (event : Event) : Prop :=
  ∀ target message, event = .sendToNode target message → Framed message

theorem said_framed_of_reachable {env : Environment} {state : State}
    (reachable : ((machine env).under fun _ event => event.SendsFramed).Reachable state) :
    Said (OnTcp Framed) state := by
  refine reachable.invariant ?_ ?_
  · rintro start ⟨nodeId, tcpPort, rfl⟩ sent member
    cases member
  · rintro before event next run said ⟨sends, enabled, step⟩
    apply said.utter
    apply (voice_framed env before.nodeId fun _ => True).perform rfl
      (wellFormed_of_reachable run.of_under) (fun _ _ => trivial) enabled step
    · exact fun _ _ _ _ built _ => framed_of_getData built
    · intro session frame _ buffer replied tcp
      exact framed_of_getData (exists_replied tcp replied)
    · exact fun target message isSend _ => sends target message isSend

/-- The messages sent on a session, in order. -/
def State.messages (ref : Ref) (state : State) : List Bytes :=
  (state.sent.filter fun sent => sent.1 = ref).map Prod.snd

/-- The messages of one session among those sent meanwhile. -/
theorem Utters.messages {tells : SessionType → Bytes → Prop} {state next : State}
    (utters : Utters tells state next) (ref : Ref) :
    ∃ late, next.messages ref = state.messages ref ++ late ∧
      ∀ message ∈ late, tells (next.memory ref).type message := by
  rcases utters.said with ⟨said, sentEq, told⟩
  refine ⟨(said.filter fun sent => sent.1 = ref).map Prod.snd, ?_, ?_⟩
  · rw [State.messages, sentEq, List.filter_append, List.map_append]
    rfl
  · intro message member
    rcases List.mem_map.mp member with ⟨sent, kept, rfl⟩
    rcases List.mem_filter.mp kept with ⟨within, isRef⟩
    have sameRef : sent.1 = ref := by simpa using isRef
    rw [← sameRef]
    exact (told sent within).2

/-- However a node has come into a state, the messages it has ever sent on a TCP
session make up a stream that the read loop at the other end takes apart again:
it hands exactly their bodies to its kernel, in order, and ends up in front of
the next header. -/
theorem messages_read_back {env : Environment} {state : State}
    (reachable : ((machine env).under fun _ event => event.SendsFramed).Reachable state)
    {ref : Ref} (tcp : (state.memory ref).type = .tcp) {σ : Type}
    (kernel : Bytes → σ → Option Bytes × σ) (closed : Bool) (initial : σ) :
    ((⟨.header, (state.messages ref).flatten, [], [], initial⟩ : Receiver σ).run kernel closed
        (2 * (bodies (state.messages ref)).length)) =
      ⟨.header, [], bodies (state.messages ref),
        (Receiver.feed kernel (bodies (state.messages ref)) [] initial).1,
        (Receiver.feed kernel (bodies (state.messages ref)) [] initial).2⟩ := by
  have framed : ∀ message ∈ state.messages ref, Framed message := by
    intro message member
    rcases List.mem_map.mp member with ⟨sent, kept, rfl⟩
    rcases List.mem_filter.mp kept with ⟨within, isRef⟩
    have sameRef : sent.1 = ref := by simpa using isRef
    rw [← sameRef] at tcp
    exact (said_framed_of_reachable reachable sent within).2 tcp
  have headed : List.Forall₂ Headed
      ((state.messages ref).filter fun message => message ≠ []) (bodies (state.messages ref)) := by
    rw [bodies, List.forall₂_map_right_iff]
    apply List.forall₂_same.mpr
    intro message member
    obtain ⟨within, nonempty⟩ := List.mem_filter.mp member
    exact (framed message within).headed (by simpa using nonempty)
  have read := Receiver.run_headed_all kernel closed headed [] [] initial 0
  rw [List.flatten_filter_ne_nil] at read
  exact read

/-- On its one link a node answers a ping, announces a client, passes on what a
caller of `send_to_node` has framed, and answers another ping. -/
def speaking : List Event :=
  [.acceptTcp, .acceptWebsocket, .frame 0 (frameOf [untypedPing]), .handshake 1 false,
    .sendToNode Uuid.nil [3, 0, 0, 0, 7, 8, 9], .frame 0 (frameOf [untypedPing])]

theorem messages_read_back_speaking :
    ∃ state ∈ run countingEnvironment (fun _ _ => True) speaking,
      (state.messages 0).length = 4 ∧
      ((⟨.header, (state.messages 0).flatten, [], [], 0⟩ : Receiver Nat).run Transport.echo false
          (2 * (bodies (state.messages 0)).length)) =
        ⟨.header, [], bodies (state.messages 0),
          (Receiver.feed Transport.echo (bodies (state.messages 0)) [] 0).1,
          (Receiver.feed Transport.echo (bodies (state.messages 0)) [] 0).2⟩ := by
  have ran : ∃ state ∈ run countingEnvironment (fun _ _ => True) speaking,
      (state.memory 0).type = .tcp ∧ (state.messages 0).length = 4 := by
    decide +kernel
  rcases ran with ⟨state, ran, tcp, four⟩
  have proper : ∀ event ∈ speaking, event.SendsFramed := by
    rintro event member target message rfl
    have sent : message = [3, 0, 0, 0, 7, 8, 9] := by
      simp only [speaking, List.mem_cons, reduceCtorEq, Event.sendToNode.injEq, List.not_mem_nil,
        false_or, or_false] at member
      exact member.2
    rw [sent]
    exact Or.inr ⟨[7, 8, 9], 3, rfl, rfl⟩
  have steps : ∀ state event next, Machine.carry (fun state event => True ∧ event.Enabled state)
      (fun state event => (State.perform countingEnvironment state event).toOption) state event =
        some next → (machine countingEnvironment).step state event next := by
    intro state event next carried
    rcases Machine.carry_eq_some_iff.mp carried with ⟨⟨_, enabled⟩, performed⟩
    exact ⟨enabled, Result.toOption_eq_some_iff.mp performed⟩
  have reachable := Machine.Reachable.foldlM_under steps proper
    (.start ⟨Uuid.filled 1, 0, rfl⟩) ran
  exact ⟨state, ran, four, messages_read_back reachable tcp Transport.echo false 0⟩

end Aurum.Node
